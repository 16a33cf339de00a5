/-!
# Versions

A version has three numbers, pre-release identifiers and build identifiers, as in `1.2.0-rc.1+7`.
Versions are totally ordered: by their numbers, then a pre-release before the release it leads to,
then by build identifiers. The order is lawful: versions that compare equal are equal.
-/

namespace HotReload

/-- Whether an identifier of a version may hold `c`. -/
def isIdentifierChar (c : Char) : Bool :=
  c.isAlphanum || c == '-'

/-- One identifier of a pre-release or of build metadata: a non-empty text of letters, digits and
hyphens. -/
@[ext]
structure Identifier where
  text : String
  legal : text ≠ "" ∧ text.toList.all isIdentifierChar = true
  deriving DecidableEq

namespace Identifier

/-- Whether the identifier is a number. -/
def isNumeric (i : Identifier) : Bool :=
  i.text.toList.all Char.isDigit

/-- The number that a numeric identifier writes; zero for the others. -/
def value (i : Identifier) : Nat :=
  if i.isNumeric then Nat.ofDigitChars 10 i.text.toList 0 else 0

/-- The length of a numeric identifier; zero for the others. -/
def width (i : Identifier) : Nat :=
  if i.isNumeric then i.text.toList.length else 0

/-- Numbers come before other identifiers and are ordered by value, then by length, as they may have
leading zeros; other identifiers are ordered as texts. -/
instance : Ord Identifier where
  compare :=
    compareLex (compareOn fun i => !i.isNumeric)
      (compareLex (compareOn value) (compareLex (compareOn width) (compareOn text)))

instance : Std.TransOrd Identifier :=
  inferInstanceAs (Std.TransCmp (compareLex _ (compareLex _ (compareLex _ _))))

instance : Std.LawfulEqOrd Identifier where
  eq_of_compare {i j} h := by
    have : compare i.text j.text = .eq :=
      (Ordering.then_eq_eq.1 (Ordering.then_eq_eq.1 (Ordering.then_eq_eq.1 h).2).2).2
    exact Identifier.ext (Std.LawfulEqCmp.compare_eq_iff_eq.1 this)

end Identifier

/-- A version. The numbers are 64-bit words. -/
@[ext]
structure Version where
  major : UInt64
  minor : UInt64
  patch : UInt64
  /-- The pre-release identifiers; none for a release. -/
  preRelease : List Identifier
  /-- The identifiers of the build metadata. -/
  build : List Identifier
  deriving DecidableEq

namespace Version

/-- By the numbers, then pre-releases before the release, then by build identifiers. -/
instance : Ord Version where
  compare :=
    compareLex (compareOn major)
      (compareLex (compareOn minor)
        (compareLex (compareOn patch)
          (compareLex (compareOn fun v => v.preRelease.isEmpty)
            (compareLex (compareOn preRelease) (compareOn build)))))

instance : Std.TransOrd Version :=
  inferInstanceAs (Std.TransCmp
    (compareLex _ (compareLex _ (compareLex _ (compareLex _ (compareLex _ _))))))

instance : Std.LawfulEqOrd Version where
  eq_of_compare {v w} h := by
    obtain ⟨h₁, h⟩ := Ordering.then_eq_eq.1 h
    obtain ⟨h₂, h⟩ := Ordering.then_eq_eq.1 h
    obtain ⟨h₃, h⟩ := Ordering.then_eq_eq.1 h
    obtain ⟨_, h⟩ := Ordering.then_eq_eq.1 h
    obtain ⟨h₄, h₅⟩ := Ordering.then_eq_eq.1 h
    exact Version.ext (Std.LawfulEqCmp.compare_eq_iff_eq.1 h₁)
      (Std.LawfulEqCmp.compare_eq_iff_eq.1 h₂) (Std.LawfulEqCmp.compare_eq_iff_eq.1 h₃)
      (Std.LawfulEqCmp.compare_eq_iff_eq.1 h₄) (Std.LawfulEqCmp.compare_eq_iff_eq.1 h₅)

def dotted (identifiers : List Identifier) : String :=
  ".".intercalate (identifiers.map Identifier.text)

protected def toString (v : Version) : String :=
  v.major.toNat.repr ++ "." ++ v.minor.toNat.repr ++ "." ++ v.patch.toNat.repr ++
    (if v.preRelease.isEmpty then "" else "-" ++ dotted v.preRelease) ++
    (if v.build.isEmpty then "" else "+" ++ dotted v.build)

instance : ToString Version := ⟨Version.toString⟩

end Version

end HotReload
