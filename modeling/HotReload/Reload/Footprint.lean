/-!
# Footprints

How long builds keep a reload waiting, and which scratch directories they leave on the disk. A build
has its scratch directory until it ends, even if nobody waits for it any more, so a directory can
outlive the reload that it belongs to; one that is kept stays for good. All times are in milliseconds.
Footprints are put side by side or in a row: side by side the longest wait counts, and in a row the
waits add up.
-/

namespace HotReload

/-- The wait for some builds and the scratch directories that they have. -/
@[ext]
structure Footprint where
  /-- The time from the start of the first build until none is waited for. -/
  elapsed : Nat
  /-- For each scratch directory the time from the start of the first build until it goes, if it
  does. -/
  ends : List (Option Nat)
  deriving DecidableEq, Repr

namespace Footprint

/-- The footprint of nothing. -/
def empty : Footprint where
  elapsed := 0
  ends := []

instance : EmptyCollection Footprint := ⟨empty⟩

/-- The footprint of a build that takes `duration` and is waited for at most `limit`. -/
def ofBuild (duration limit : Nat) (keeps : Bool) : Footprint where
  elapsed := min duration limit
  ends := [if keeps then none else some duration]

/-- The footprint of builds that start at the same moment. -/
def beside (a b : Footprint) : Footprint where
  elapsed := max a.elapsed b.elapsed
  ends := a.ends ++ b.ends

/-- The footprint of some builds that start at the same moment. -/
def together (footprints : List Footprint) : Footprint :=
  footprints.foldl beside ∅

/-- The footprint of builds of which the later ones start when none of the others is waited for. -/
def andThen (a b : Footprint) : Footprint where
  elapsed := a.elapsed + b.elapsed
  ends := a.ends ++ b.ends.map (·.map (a.elapsed + ·))

/-- The number of scratch directories that are there when no build is waited for. -/
def remaining (a : Footprint) : Nat :=
  a.ends.countP fun
    | none => true
    | some time => a.elapsed < time

theorem elapsed_empty : (∅ : Footprint).elapsed = 0 := rfl

theorem ends_empty : (∅ : Footprint).ends = [] := rfl

@[simp]
theorem empty_andThen (a : Footprint) : andThen ∅ a = a := by
  ext1 <;> simp [andThen, elapsed_empty, ends_empty]

@[simp]
theorem andThen_empty (a : Footprint) : a.andThen ∅ = a := by
  ext1 <;> simp [andThen, elapsed_empty, ends_empty]

theorem andThen_assoc (a b c : Footprint) :
    (a.andThen b).andThen c = a.andThen (b.andThen c) := by
  ext1
  · simp [andThen, Nat.add_assoc]
  · simp [andThen, Function.comp_def, Nat.add_assoc]

/-- Only a directory that is kept outlives a build within its limit. -/
theorem remaining_ofBuild {duration limit : Nat} (h : duration ≤ limit) (keeps : Bool) :
    (ofBuild duration limit keeps).remaining = keeps.toNat := by
  cases keeps <;> simp [ofBuild, remaining, Nat.min_eq_left h]

end Footprint

end HotReload
