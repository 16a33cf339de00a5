import HotReload.Proofs.Dependency.Loops
import HotReload.Proofs.Dependency.Search

/-!
# The cycles of a graph

A component that the search finds is a cycle just if a module of it depends on itself, directly or not
(`cycleIn?_eq`). So the cycles of a graph are those of its modules (`mem_cycles_iff`), and each shows a
shortest loop through its smallest member (`shortest_of_cycle?`).
-/

namespace HotReload.DependencyGraph

open Relation

variable {g : DependencyGraph} {a b id : ModuleId} {c : Cycle} {component : List ModuleId}

/-! ## Components that are cycles -/

theorem dependsOn_or_eq (h : ReflTransGen g.Edge a b) : a = b ∨ g.DependsOn a b :=
  (reflTransGen_iff_eq_or_transGen.mp h).imp_left Eq.symm

/-- A module that depends on itself is connected with the modules on its loops. -/
theorem mem_component_iff_connected (hloop : g.DependsOn a a) :
    b ∈ g.component a ↔ g.Connected a b := by
  rw [mem_component_iff]
  constructor
  · rintro ⟨hab, hba⟩
    exact ⟨hab.to_reflTransGen, hba.to_reflTransGen⟩
  · rintro ⟨hab, hba⟩
    exact ⟨hloop.trans_left hab, hloop.trans_right hba⟩

/-- A component has a loop if it has several modules, or one that depends on itself directly. -/
theorem looped_iff (h : ∀ b, b ∈ component ↔ g.Connected a b) (hnodup : component.Nodup)
    {start : ModuleId} {rest : List ModuleId} (hsorted : inOrder component = start :: rest) :
    (rest ≠ [] ∨ start ∈ g.dependencies start) ↔ g.DependsOn a a := by
  have hmem : ∀ b, b ∈ start :: rest ↔ g.Connected a b := by
    intro b
    rw [← hsorted, mem_inOrder, h]
  constructor
  · intro hlooped
    -- Of two different connected modules each depends on the other.
    have hself : g.DependsOn start start := by
      rcases hlooped with hrest | hedge
      · obtain ⟨b, hb⟩ := List.exists_mem_of_ne_nil rest hrest
        have hdistinct : start ≠ b := by
          have hsortedNodup : (inOrder component).Nodup := (List.mergeSort_perm _ _).nodup_iff.mpr hnodup
          rw [hsorted] at hsortedNodup
          exact fun heq => (List.nodup_cons.mp hsortedNodup).1 (heq ▸ hb)
        have hstart := (hmem start).mp List.mem_cons_self
        have hconnected := hstart.symm.trans ((hmem b).mp (List.mem_cons_of_mem _ hb))
        have hforth := (dependsOn_or_eq hconnected.1).resolve_left hdistinct
        exact hforth.trans_left hconnected.2
      · exact .single hedge
    obtain ⟨hab, hba⟩ := (hmem start).mp List.mem_cons_self
    exact (hself.trans_right hab).trans_left hba
  · intro hloop
    by_contra hnone
    obtain ⟨hrest, hedge⟩ := not_or.mp hnone
    rw [not_not.mp hrest] at hmem
    have ha : a = start := List.mem_singleton.mp ((hmem a).mpr ⟨.refl, .refl⟩)
    obtain ⟨b, hab, hba⟩ := TransGen.head'_iff.mp hloop
    have hb : b = start := List.mem_singleton.mp ((hmem b).mpr ⟨.single hab, hba⟩)
    rw [ha, hb] at hab
    exact hedge hab

/-- The cycle that a component is, is the one of each of its modules. -/
theorem cycleIn?_eq (h : ∀ b, b ∈ component ↔ g.Connected a b) (hnodup : component.Nodup) :
    g.cycleIn? component = g.cycle? a := by
  unfold cycleIn? cycle?
  by_cases hloop : g.DependsOn a a
  · have hsame : inOrder component = g.component a := by
      refine (ascending_inOrder hnodup).eq_of_mem_iff (g.ascending_component a) fun b => ?_
      rw [mem_inOrder, h, mem_component_iff_connected hloop]
    cases hsorted : inOrder component with
    | nil => rw [← hsame, hsorted]
    | cons start rest =>
      rw [← hsame, hsorted]
      exact if_pos ((looped_iff h hnodup hsorted).mpr hloop)
  · rw [component_eq_nil_iff.mpr hloop]
    cases hsorted : inOrder component with
    | nil => rfl
    | cons start rest => exact if_neg fun hlooped => hloop ((looped_iff h hnodup hsorted).mp hlooped)

theorem members_of_cycleIn? (h : g.cycleIn? component = some c) : c.members = inOrder component := by
  unfold cycleIn? at h
  split at h
  next => cases h
  next start rest hsorted =>
    split at h
    next =>
      cases h
      exact hsorted.symm
    next => cases h

theorem mem_members_of_cycleIn? (h : g.cycleIn? component = some c) :
    a ∈ c.members ↔ a ∈ component := by
  rw [members_of_cycleIn? h, mem_inOrder]

/-! ## All cycles -/

/-- The cycles of a graph are those of its modules. -/
theorem mem_cycles_iff : c ∈ g.cycles ↔ ∃ id, g.cycle? id = some c := by
  have hfound := g.componentsOf_components
  rw [cycles, List.mem_filterMap]
  constructor
  · rintro ⟨component, hcomponent, hcycle⟩
    obtain ⟨hne, hnodup⟩ := hfound.nodup component hcomponent
    obtain ⟨id, hid⟩ := List.exists_mem_of_ne_nil component hne
    refine ⟨id, ?_⟩
    rw [← cycleIn?_eq (hfound.connected component hcomponent id hid) hnodup, hcycle]
  · rintro ⟨id, hcycle⟩
    have hloop : g.DependsOn id id := cycle?_isSome_iff.mp (by rw [hcycle]; rfl)
    obtain ⟨component, hcomponent, hid⟩ := hfound.covers id hloop.mem_modules
    refine ⟨component, hcomponent, ?_⟩
    rw [cycleIn?_eq (hfound.connected component hcomponent id hid) (hfound.nodup component hcomponent).2,
      hcycle]

theorem cycle?_eq_some_iff : g.cycle? id = some c ↔ c ∈ g.cycles ∧ id ∈ c.members := by
  constructor
  · intro h
    exact ⟨mem_cycles_iff.mpr ⟨id, h⟩, mem_members_of_cycle? h⟩
  · rintro ⟨hc, hid⟩
    obtain ⟨id', h⟩ := mem_cycles_iff.mp hc
    exact cycle?_eq_of_mem_members h hid

/-- No two cycles have the same members. -/
theorem nodup_members_cycles (g : DependencyGraph) : (g.cycles.map Cycle.members).Nodup := by
  have hfound := g.componentsOf_components
  refine List.pairwise_map.mpr (List.pairwise_filterMap.mpr ?_)
  refine hfound.disjoint.imp_of_mem fun {component component'} hmem _ hdisjoint => ?_
  intro c hc c' hc' heq
  obtain ⟨a, ha⟩ := List.exists_mem_of_ne_nil component (hfound.nodup component hmem).1
  refine hdisjoint ha ?_
  rwa [← mem_members_of_cycleIn? hc', ← heq, mem_members_of_cycleIn? hc]

/-! ## The loop that is shown -/

/-- The loop that is shown for a cycle starts at the smallest member, and no loop through it is
shorter. -/
theorem shortest_of_cycle? (h : g.cycle? id = some c) :
    ∃ start, c.members.head? = some start ∧ g.IsShortestLoop start c.path ∧ c.path.Nodup ∧
      ∀ a ∈ c.path, a ∈ c.members := by
  unfold cycle? at h
  split at h
  next => cases h
  next start rest hcomponent =>
    cases h
    have hstart : start ∈ g.component id := by
      rw [hcomponent]
      exact List.mem_cons_self
    have hmembers : ∀ a, a ∈ start :: rest ↔ g.DependsOn start a ∧ g.DependsOn a start := by
      intro a
      rw [← hcomponent, ← component_eq_of_mem hstart, mem_component_iff]
    obtain ⟨loop, hloop, hshortest, hloopNodup, hinside⟩ :=
      exists_shortestLoop? hmembers List.mem_cons_self
    have hpath : (g.cycleOf start (start :: rest)).path = loop := by
      rw [cycleOf, hloop, Option.getD_some]
    rw [hpath]
    exact ⟨start, rfl, hshortest, hloopNodup, hinside⟩

end HotReload.DependencyGraph
