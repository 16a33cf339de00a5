import HotReload.Dependency.Graph
import HotReload.Proofs.Sorting
import Mathlib.Data.List.Dedup

/-!
# Modules in ascending order

Lists of modules that ascend are determined by their members (`Ascending.eq_of_mem_iff`). A list that is
put in order ascends if no module occurs twice in it, and where repetitions make no difference to what
goes over it, the result depends on the members only (`foldl_inOrder_congr`).
-/

namespace HotReload.DependencyGraph

variable {g : DependencyGraph} {a b : ModuleId} {ids : List ModuleId}

def Ascending (ids : List ModuleId) : Prop :=
  ids.Pairwise fun a b => compare a b = .lt

theorem ascending_modules (g : DependencyGraph) : Ascending g.modules := by
  refine List.pairwise_map.mpr ?_
  exact g.edges.sorted

theorem mem_inOrder : a ∈ inOrder ids ↔ a ∈ ids :=
  List.mem_mergeSort

theorem compare_self_ne_lt (a : ModuleId) : compare a a ≠ .lt := by
  simp [Std.ReflCmp.compare_self]

theorem Ascending.nodup (h : Ascending ids) : ids.Nodup := by
  refine h.imp fun {a b} hlt heq => ?_
  rw [heq] at hlt
  exact compare_self_ne_lt b hlt

/-- Two ascending lists with the same members are equal. -/
theorem Ascending.eq_of_mem_iff {ids₁ ids₂ : List ModuleId} (h₁ : Ascending ids₁)
    (h₂ : Ascending ids₂) (hmem : ∀ a, a ∈ ids₁ ↔ a ∈ ids₂) : ids₁ = ids₂ :=
  eq_of_ascending id h₁ h₂ hmem

theorem pairwise_inOrder (ids : List ModuleId) :
    (inOrder ids).Pairwise fun a b => (compare a b).isLE = true :=
  pairwise_mergeSort_isLE id ids

/-- Sorted modules ascend, if none occurs twice. -/
theorem ascending_of_sorted (hsorted : ids.Pairwise fun a b => (compare a b).isLE = true)
    (hnodup : ids.Nodup) : Ascending ids :=
  ascending_of_pairwise_isLE id hsorted ((List.map_id ids).symm ▸ hnodup)

theorem ascending_inOrder (hnodup : ids.Nodup) : Ascending (inOrder ids) :=
  ascending_of_sorted (pairwise_inOrder ids) ((List.mergeSort_perm ids _).nodup_iff.mpr hnodup)

/-- A pass over sorted modules goes over each of them once, if going over one again changes nothing. -/
theorem foldl_dedup {σ : Type*} {f : σ → ModuleId → σ} (hagain : ∀ s a, f (f s a) a = f s a)
    (hsorted : ids.Pairwise fun a b => (compare a b).isLE = true) (s : σ) :
    ids.dedup.foldl f s = ids.foldl f s := by
  induction ids generalizing s with
  | nil => rfl
  | cons a rest ih =>
    obtain ⟨hle, hrest⟩ := List.pairwise_cons.mp hsorted
    by_cases ha : a ∈ rest
    · -- Nothing in the rest is smaller, so the same module comes next.
      rw [List.dedup_cons_of_mem ha, ih hrest]
      cases rest with
      | nil => cases ha
      | cons b rest =>
        have hba : (compare b a).isLE = true := by
          rcases List.mem_cons.mp ha with rfl | ha
          · simp [Std.ReflCmp.compare_self]
          · exact (List.pairwise_cons.mp hrest).1 a ha
        have hab : a = b := Std.LawfulEqCmp.eq_of_compare
          (Std.OrientedCmp.isLE_antisymm (hle b List.mem_cons_self) hba)
        rw [← hab, List.foldl_cons, List.foldl_cons, List.foldl_cons, hagain]
    · rw [List.dedup_cons_of_notMem ha, List.foldl_cons, List.foldl_cons, ih hrest]

/-- A pass over modules in order comes to the same for all lists with the same members, if going over
a module again changes nothing. -/
theorem foldl_inOrder_congr {σ : Type*} {f : σ → ModuleId → σ} (hagain : ∀ s a, f (f s a) a = f s a)
    {ids₁ ids₂ : List ModuleId} (hmem : ∀ a, a ∈ ids₁ ↔ a ∈ ids₂) (s : σ) :
    (inOrder ids₁).foldl f s = (inOrder ids₂).foldl f s := by
  have hascending : ∀ ids, Ascending (inOrder ids).dedup := fun ids =>
    ascending_of_sorted ((pairwise_inOrder ids).sublist (List.dedup_sublist _)) (List.nodup_dedup _)
  have hsame : (inOrder ids₁).dedup = (inOrder ids₂).dedup := by
    refine (hascending ids₁).eq_of_mem_iff (hascending ids₂) fun a => ?_
    rw [List.mem_dedup, List.mem_dedup, mem_inOrder, mem_inOrder, hmem]
  rw [← foldl_dedup hagain (pairwise_inOrder ids₁), hsame, foldl_dedup hagain (pairwise_inOrder ids₂)]

end HotReload.DependencyGraph
