import Mathlib.Data.List.Sort

/-!
# Sorting by a key

A list that is sorted by a key ascends if no key occurs twice, and an ascending list is known by what
stands in it.
-/

namespace HotReload

variable {α κ : Type*} [Ord κ] [Std.TransOrd κ] {l l' : List α}

theorem pairwise_mergeSort_isLE (key : α → κ) (l : List α) :
    (l.mergeSort fun a b => (compare (key a) (key b)).isLE).Pairwise fun a b =>
      (compare (key a) (key b)).isLE = true := by
  refine List.pairwise_mergeSort (fun a b c => Std.TransCmp.isLE_trans) (fun a b => ?_) l
  cases hab : compare (key a) (key b) with
  | lt => rfl
  | eq => rfl
  | gt =>
    have hba : compare (key b) (key a) = .lt := Std.OrientedCmp.gt_iff_lt.mp hab
    rw [hba]
    rfl

omit [Std.TransOrd κ] in
/-- A sorted list ascends, if no key occurs twice. -/
theorem ascending_of_pairwise_isLE [Std.LawfulEqOrd κ] (key : α → κ)
    (hsorted : l.Pairwise fun a b => (compare (key a) (key b)).isLE = true)
    (hnodup : (l.map key).Nodup) : l.Pairwise fun a b => compare (key a) (key b) = .lt := by
  refine (hsorted.and (List.pairwise_map.mp hnodup)).imp fun {a b} hab => ?_
  cases hcompare : compare (key a) (key b) with
  | lt => rfl
  | eq => exact absurd (Std.LawfulEqCmp.eq_of_compare hcompare) hab.2
  | gt =>
    rw [hcompare] at hab
    cases hab.1

/-- Two ascending lists with the same members are equal. -/
theorem eq_of_ascending (key : α → κ) (h : l.Pairwise fun a b => compare (key a) (key b) = .lt)
    (h' : l'.Pairwise fun a b => compare (key a) (key b) = .lt) (hmem : ∀ a, a ∈ l ↔ a ∈ l') :
    l = l' := by
  have hirrefl : ∀ a : α, compare (key a) (key a) ≠ .lt := by
    intro a
    have heq : compare (key a) (key a) = .eq := Std.ReflCmp.compare_self
    rw [heq]
    decide
  have : Std.Irrefl fun a b : α => compare (key a) (key b) = .lt := ⟨hirrefl⟩
  have : Std.Antisymm fun a b : α => compare (key a) (key b) = .lt := by
    constructor
    intro a b hab hba
    exact absurd (Std.TransCmp.lt_trans hab hba) (hirrefl a)
  exact List.Pairwise.eq_of_mem_iff h h' hmem

end HotReload
