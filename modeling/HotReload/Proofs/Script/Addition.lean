import HotReload.Proofs.Script.Rules

/-!
# Sums

What evaluating `l + r` comes to once both sides have values (`adds_values`). Integers that fit 64 bits
with sign are added, and the sum fails if it does not fit. Anything else is written down one after the
other. Integers beyond that range count as anything else, also where the sum would fit
(`invoke_adding`).
-/

namespace HotReload

/-- An integer fits 64 bits with sign. -/
def IsInt64 (n : Int) : Prop :=
  -0x8000000000000000 ≤ n ∧ n < 0x8000000000000000

instance (n : Int) : Decidable (IsInt64 n) :=
  inferInstanceAs (Decidable (_ ∧ _))

/-- A value is an integer that fits 64 bits with sign. -/
def Value.IsInt64 (v : Value) : Prop :=
  ∃ n, v = .int n ∧ HotReload.IsInt64 n

theorem Value.toInt64?_eq_some_iff {v : Value} {n : Int} :
    v.toInt64? = some n ↔ v = .int n ∧ HotReload.IsInt64 n := by
  cases v with
  | int m =>
    rw [toInt64?, Option.ite_none_right_eq_some, Option.some.injEq, Value.int.injEq]
    constructor
    · rintro ⟨hm, rfl⟩
      exact ⟨rfl, hm⟩
    · rintro ⟨rfl, hm⟩
      exact ⟨hm, rfl⟩
  | null | bool b | real x | text s | array items | object fields => simp [toInt64?]

section Values

variable {symbol : String} {l r : Value} {a b : Int}

theorem addValues_int (ha : IsInt64 a) (hb : IsInt64 b) :
    addValues symbol (.int a) (.int b) =
      if IsInt64 (a + b) then .ok (.int (a + b))
      else .error (.failed symbol ("integer overflow in " ++ toString a ++ " + " ++ toString b)) := by
  have hleft : (Value.int a).toInt64? = some a := Value.toInt64?_eq_some_iff.mpr ⟨rfl, ha⟩
  have hright : (Value.int b).toInt64? = some b := Value.toInt64?_eq_some_iff.mpr ⟨rfl, hb⟩
  rw [addValues, hleft, hright]
  rfl

theorem addValues_other (h : ¬(l.IsInt64 ∧ r.IsInt64)) :
    addValues symbol l r = .ok (.text (l.display ++ r.display)) := by
  unfold addValues
  split
  next a b hleft hright =>
    have hl : l.IsInt64 := ⟨a, Value.toInt64?_eq_some_iff.mp hleft⟩
    have hr : r.IsInt64 := ⟨b, Value.toInt64?_eq_some_iff.mp hright⟩
    exact absurd ⟨hl, hr⟩ h
  next => rfl

/-- What the sum of two values is, reported under a symbol if it fails. -/
structure Adds (symbol : String) (l r : Value) (result : Except CallError Value) : Prop where
  /-- Integers that fit 64 bits with sign have their sum if it fits, too. -/
  sum : ∀ a b, l = .int a → r = .int b → IsInt64 a → IsInt64 b → IsInt64 (a + b) →
    result = .ok (.int (a + b))
  /-- Otherwise their sum fails. -/
  overflow : ∀ a b, l = .int a → r = .int b → IsInt64 a → IsInt64 b → ¬IsInt64 (a + b) →
    result = .error (.failed symbol ("integer overflow in " ++ toString a ++ " + " ++ toString b))
  /-- A text results if and only if one side is no such integer. -/
  text_iff : (∃ s, result = .ok (.text s)) ↔ ¬(l.IsInt64 ∧ r.IsInt64)
  /-- The text shows the left side and then the right one. -/
  text_eq : ∀ s, result = .ok (.text s) → s = l.display ++ r.display

theorem adds_addValues (symbol : String) (l r : Value) : Adds symbol l r (addValues symbol l r) := by
  have htext : ∀ s, addValues symbol l r = .ok (.text s) → ¬(l.IsInt64 ∧ r.IsInt64) := by
    rintro s h ⟨⟨a, rfl, ha⟩, b, rfl, hb⟩
    rw [addValues_int ha hb] at h
    split at h
    next => cases h
    next => cases h
  constructor
  case sum =>
    rintro a b rfl rfl ha hb hsum
    rw [addValues_int ha hb, if_pos hsum]
  case overflow =>
    rintro a b rfl rfl ha hb hsum
    rw [addValues_int ha hb, if_neg hsum]
  case text_iff =>
    constructor
    · rintro ⟨s, h⟩
      exact htext s h
    · intro h
      exact ⟨_, addValues_other h⟩
  case text_eq =>
    intro s h
    rw [addValues_other (htext s h)] at h
    cases h
    rfl

end Values

section Evaluations

variable {env : Environment} {args : List Value} {symbol : String} {left right : Expr}
  {l r : Value} {depth : Depth}

/-- A sum is evaluated after its two sides, which are evaluated one level deeper. -/
theorem resultAt_add (h : depth < maxDepth) :
    (evaluate env args symbol (.add left right)).resultAt depth =
      ((evaluate env args symbol left).resultAt (depth + 1)).bind fun l =>
        ((evaluate env args symbol right).resultAt (depth + 1)).bind fun r =>
          addValues symbol l r := by
  obtain ⟨fuel, hfuel⟩ : ∃ fuel, fuelAt depth = fuel + 1 :=
    Nat.exists_eq_add_one.mpr (fuelAt_pos h)
  have hinside : fuelAt (depth + 1) = fuel := by
    rw [fuelAt] at hfuel ⊢
    omega
  rw [resultAt_evaluate_eq, resultAt_evaluate_eq, resultAt_evaluate_eq, hfuel, hinside,
    resultAt_evaluateWithin_of_lt h, resultAt_insideOf_add]

/-- The sum of two expressions that have values, wherever these come from, is that of the values. -/
theorem adds_values (hdepth : depth < maxDepth)
    (hleft : (evaluate env args symbol left).resultAt (depth + 1) = .ok l)
    (hright : (evaluate env args symbol right).resultAt (depth + 1) = .ok r) :
    Adds symbol l r ((evaluate env args symbol (.add left right)).resultAt depth) := by
  rw [resultAt_add hdepth, hleft, hright]
  exact adds_addValues symbol l r

/-- The greatest integer that fits is too great to add one to it, as deep as sums can be evaluated. -/
theorem adds_values_greatest :
    let sum := evaluate .detached [.int 0x7fffffffffffffff] "m.sum" (.add (.arg 1) (.int 1))
    Adds "m.sum" (.int 0x7fffffffffffffff) (.int 1) (sum.resultAt 254) ∧
      sum.resultAt 254 = .error (.failed "m.sum" ("integer overflow in " ++
        toString (0x7fffffffffffffff : Int) ++ " + " ++ toString (1 : Int))) := by
  intro sum
  have hdepth : 254 < maxDepth := by decide
  have hleft : (evaluate .detached [.int 0x7fffffffffffffff] "m.sum" (.arg 1)).resultAt 255 =
      .ok (.int 0x7fffffffffffffff) := rfl
  have hright : (evaluate .detached [.int 0x7fffffffffffffff] "m.sum" (.int 1)).resultAt 255 =
      .ok (.int 1) := rfl
  have hadds := adds_values hdepth hleft hright
  exact ⟨hadds, hadds.overflow _ _ rfl rfl (by decide) (by decide) (by decide)⟩

/-- A module that defines `m.sum` as `$1 + $2`. -/
def adding : Environment where
  boundary := .ofCore .anonymous ∅
  own := .ofSymbols [⟨"m.sum", .function (.script "m.sum" (.add (.arg 1) (.arg 2))), by decide⟩]

/-- An integer that fits 64 bits only without sign is not added, though the sum would fit with sign. -/
theorem invoke_adding :
    adding.invoke "m.sum" [.int 0x8000000000000000, .int (-1)] =
        .ok (.text "9223372036854775808-1") ∧
      IsInt64 (0x8000000000000000 + -1) := by
  refine ⟨?_, by decide⟩
  rfl

end Evaluations

end HotReload
