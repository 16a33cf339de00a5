import HotReload.Dependency.Cycles
import HotReload.Proofs.Dependency.Reachability

/-!
# The cycles of components

Modules that lie on a common loop form a component, and every component has one cycle, which depends on
nothing but the component (`cycle?_eq_of_mem_members`).
-/

namespace HotReload.DependencyGraph

variable {g : DependencyGraph} {a b id : ModuleId} {ids : List ModuleId}

/-! ## Components -/

theorem ascending_component (g : DependencyGraph) (a : ModuleId) : Ascending (g.component a) :=
  (g.ascending_transitiveDependents [a]).sublist List.filter_sublist

theorem component_eq_nil_iff : g.component a = [] ↔ ¬g.DependsOn a a := by
  constructor
  · intro hnil hloop
    have hself : a ∈ g.component a := mem_component_iff.mpr ⟨hloop, hloop⟩
    rw [hnil] at hself
    cases hself
  · intro hloop
    refine List.eq_nil_iff_forall_not_mem.mpr fun b hb => hloop ?_
    obtain ⟨hab, hba⟩ := mem_component_iff.mp hb
    exact hab.trans hba

theorem component_eq_of_mem (h : b ∈ g.component a) : g.component b = g.component a := by
  obtain ⟨hab, hba⟩ := mem_component_iff.mp h
  apply (g.ascending_component b).eq_of_mem_iff (g.ascending_component a)
  intro c
  rw [mem_component_iff, mem_component_iff]
  constructor
  · rintro ⟨hbc, hcb⟩
    exact ⟨hab.trans hbc, hcb.trans hba⟩
  · rintro ⟨hac, hca⟩
    exact ⟨hba.trans hac, hca.trans hab⟩

/-! ## The cycle of a component -/

/-- The cycle of the component of a module, if the module lies on a loop. -/
def cycle? (g : DependencyGraph) (id : ModuleId) : Option Cycle :=
  match g.component id with
  | [] => none
  | start :: rest => some (g.cycleOf start (start :: rest))

theorem cycle?_isSome_iff : (g.cycle? id).isSome ↔ g.DependsOn id id := by
  rw [← not_iff_not, ← component_eq_nil_iff, cycle?]
  cases g.component id with
  | nil => simp
  | cons start rest => simp

theorem members_of_cycle? {c : Cycle} (h : g.cycle? id = some c) : c.members = g.component id := by
  unfold cycle? at h
  split at h
  next => cases h
  next start rest hcomponent =>
    cases h
    exact hcomponent.symm

theorem mem_members_of_cycle? {c : Cycle} (h : g.cycle? id = some c) : id ∈ c.members := by
  have hloop : g.DependsOn id id := cycle?_isSome_iff.mp (by simp [h])
  rw [members_of_cycle? h]
  exact mem_component_iff.mpr ⟨hloop, hloop⟩

theorem cycle?_eq_of_mem_members {c : Cycle} (h : g.cycle? a = some c) (hb : b ∈ c.members) :
    g.cycle? b = some c := by
  rw [members_of_cycle? h] at hb
  rw [← h, cycle?, cycle?, component_eq_of_mem hb]

end HotReload.DependencyGraph
