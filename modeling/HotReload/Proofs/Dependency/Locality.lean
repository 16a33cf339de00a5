import HotReload.Proofs.Dependency.Tiers

/-!
# Resolution is local

Resolving goes over a whole graph, but what it makes of a module depends only on the modules that
dependencies lead to: graphs that agree there reject the module for the same reason or not at all
(`AgreeWithin.rejected_eq`), down to the loop that is shown for a cycle.
-/

namespace HotReload.DependencyGraph

open Relation

/-- Two graphs agree in a region that no dependency leads out of: they have the same modules there, with
the same dependencies. In what order and how often these are declared is left open. -/
structure AgreeWithin (region : ModuleId → Prop) (g₁ g₂ : DependencyGraph) : Prop where
  modules : ∀ a, region a → (a ∈ g₁.modules ↔ a ∈ g₂.modules)
  edges : ∀ a b, region a → (g₁.Edge a b ↔ g₂.Edge a b)
  closed : ∀ a b, region a → g₁.Edge a b → region b

namespace LoopSearch

theorem find_find (members : List ModuleId) (current : ModuleId) (s : LoopSearch) (a : ModuleId) :
    find members current (find members current s a) a = find members current s a := by
  by_cases hnew : a ∈ members ∧ !s.cameFrom.contains a
  · have hfound : (s.cameFrom.insert a current).contains a = true :=
      SortedMap.contains_insert.mpr (.inl rfl)
    rw [find, find, if_pos hnew, if_neg]
    simp [hfound]
  · rw [find, find, if_neg hnew, if_neg hnew]

/-- A search takes no notice of a dependency that it has just come upon. -/
theorem findUntil_findUntil (start : ModuleId) (members : List ModuleId) (current : ModuleId)
    (s : LoopSearch × Bool) (a : ModuleId) :
    findUntil start members current (findUntil start members current s a) a =
      findUntil start members current s a := by
  obtain ⟨s, closed⟩ := s
  cases closed with
  | true => rfl
  | false =>
    by_cases ha : a = start
    · simp [findUntil, ha]
    · simp [findUntil, ha, find_find]

end LoopSearch

namespace AgreeWithin

variable {region : ModuleId → Prop} {g₁ g₂ : DependencyGraph} {a b id start : ModuleId}

/-! ## Paths -/

theorem symm (h : AgreeWithin region g₁ g₂) : AgreeWithin region g₂ g₁ := by
  constructor
  · intro a ha
    exact (h.modules a ha).symm
  · intro a b ha
    exact (h.edges a b ha).symm
  · intro a b ha hab
    exact h.closed a b ha ((h.edges a b ha).mpr hab)

/-- A path from the region stays there and is a path of both graphs. -/
theorem dependsOn (h : AgreeWithin region g₁ g₂) (ha : region a) (hab : g₁.DependsOn a b) :
    region b ∧ g₂.DependsOn a b := by
  induction hab with
  | single hstep => exact ⟨h.closed a _ ha hstep, .single ((h.edges _ _ ha).mp hstep)⟩
  | tail _ hstep ih =>
    exact ⟨h.closed _ _ ih.1 hstep, ih.2.tail ((h.edges _ _ ih.1).mp hstep)⟩

theorem dependsOn_iff (h : AgreeWithin region g₁ g₂) (ha : region a) :
    g₁.DependsOn a b ↔ g₂.DependsOn a b := by
  constructor
  · intro hab
    exact (h.dependsOn ha hab).2
  · intro hab
    exact (h.symm.dependsOn ha hab).2

/-! ## Cycles -/

theorem region_of_mem_component (h : AgreeWithin region g₁ g₂) (ha : region a)
    (hb : b ∈ g₁.component a) : region b :=
  (h.dependsOn ha (mem_component_iff.mp hb).1).1

theorem component_eq (h : AgreeWithin region g₁ g₂) (ha : region a) :
    g₁.component a = g₂.component a := by
  apply (g₁.ascending_component a).eq_of_mem_iff (g₂.ascending_component a)
  intro b
  rw [mem_component_iff, mem_component_iff]
  constructor
  · rintro ⟨hab, hba⟩
    obtain ⟨hb, hab⟩ := h.dependsOn ha hab
    exact ⟨hab, (h.dependsOn_iff hb).mp hba⟩
  · rintro ⟨hab, hba⟩
    obtain ⟨hb, hab⟩ := h.symm.dependsOn ha hab
    exact ⟨hab, (h.dependsOn_iff hb).mpr hba⟩

/-- Following a module of the region adds modules of the region to the queue. -/
theorem region_of_mem_queue (h : AgreeWithin region g₁ g₂) (members : List ModuleId) {s : LoopSearch}
    (hqueue : ∀ b ∈ s.queue, region b) (ha : region a) :
    ∀ b ∈ ((g₁.sortedDependencies a).foldl (LoopSearch.find members a) s).queue, region b := by
  obtain ⟨new, hfinds⟩ := exists_finds members a (g₁.sortedDependencies a) s
  intro b hb
  rw [hfinds.queue] at hb
  rcases List.mem_append.mp hb with hb | hb
  · exact hqueue b hb
  · exact h.closed a b ha (mem_inOrder.mp (hfinds.found b hb).2.1)

/-- A search that stays in the region is the same in both graphs. -/
theorem shortestLoop?_eq (h : AgreeWithin region g₁ g₂) (start : ModuleId) (members : List ModuleId)
    (steps : Nat) {s : LoopSearch} (hqueue : ∀ b ∈ s.queue, region b) :
    g₁.shortestLoop? start members steps s = g₂.shortestLoop? start members steps s := by
  induction steps generalizing s with
  | zero => rfl
  | succ steps ih =>
    rw [shortestLoop?, shortestLoop?]
    cases hs : s.queue with
    | nil => rfl
    | cons current queue =>
      rw [hs] at hqueue
      obtain ⟨hcurrent, hrest⟩ := List.forall_mem_cons.mp hqueue
      have hstep := foldl_inOrder_congr (LoopSearch.findUntil_findUntil start members current)
        (fun b => h.edges current b hcurrent) ({ s with queue }, false)
      dsimp only
      rw [sortedDependencies, sortedDependencies, ← hstep]
      by_cases hclosed : start ∈ inOrder (g₁.dependencies current)
      · obtain ⟨before, hbefore⟩ := exists_foldl_findUntil hclosed { s with queue }
        rw [hbefore]
      · rw [foldl_findUntil_of_notMem hclosed]
        exact ih (h.region_of_mem_queue members (s := { s with queue }) hrest hcurrent)

theorem cycleOf_eq (h : AgreeWithin region g₁ g₂) (hstart : region start)
    (members : List ModuleId) : g₁.cycleOf start members = g₂.cycleOf start members := by
  have hqueue : ∀ b ∈ (LoopSearch.ofStart start).queue, region b := by
    intro b hb
    cases List.mem_singleton.mp hb
    exact hstart
  rw [cycleOf, cycleOf, h.shortestLoop?_eq start members members.length hqueue]

theorem cycle?_eq (h : AgreeWithin region g₁ g₂) (hid : region id) : g₁.cycle? id = g₂.cycle? id := by
  have hregion : ∀ b ∈ g₁.component id, region b := fun b hb => h.region_of_mem_component hid hb
  rw [cycle?, cycle?, ← h.component_eq hid]
  cases hcomponent : g₁.component id with
  | nil => rfl
  | cons start rest =>
    rw [hcomponent] at hregion
    exact congrArg some (h.cycleOf_eq (hregion start List.mem_cons_self) _)

/-! ## Rejections -/

theorem fault?_eq (h : AgreeWithin region g₁ g₂) (hid : region id) : g₁.fault? id = g₂.fault? id := by
  have hmissing : (g₁.sortedDependencies id).find? (fun d => !g₁.contains d) =
      (g₂.sortedDependencies id).find? fun d => !g₂.contains d := by
    refine find?_inOrder_congr (fun d => h.edges id d hid) fun d hd => ?_
    rw [Bool.not_inj_iff, Bool.eq_iff_iff, contains_iff, contains_iff]
    exact h.modules d (h.closed id d hid hd)
  rw [fault?, fault?, h.cycle?_eq hid, hmissing]

theorem blame_eq (h : AgreeWithin region g₁ g₂) (rounds : Nat) (hid : region id) :
    g₁.blame rounds id = g₂.blame rounds id := by
  induction rounds generalizing id with
  | zero => exact h.fault?_eq hid
  | succ rounds ih =>
    have hinherited : g₁.inherited? (g₁.blame rounds) id = g₂.inherited? (g₂.blame rounds) id := by
      refine congrArg _ (find?_inOrder_congr (fun d => h.edges id d hid) fun d hd => ?_)
      rw [ih (h.closed id d hid hd)]
    rw [blame, blame, ih hid, hinherited]

theorem rejected_eq (h : AgreeWithin region g₁ g₂) (hid : region id) :
    g₁.resolve.rejected.find? id = g₂.resolve.rejected.find? id := by
  obtain ⟨enough₁, hrounds₁⟩ := g₁.exists_rounds
  obtain ⟨enough₂, hrounds₂⟩ := g₂.exists_rounds
  rw [hrounds₁ (max enough₁ enough₂) (le_max_left _ _),
    hrounds₂ (max enough₁ enough₂) (le_max_right _ _)]
  exact h.blame_eq _ hid

theorem mem_accepted_iff (h : AgreeWithin region g₁ g₂) (hid : region id) :
    id ∈ g₁.accepted ↔ id ∈ g₂.accepted := by
  rw [mem_accepted_iff_not_rejected, mem_accepted_iff_not_rejected, h.modules id hid,
    h.rejected_eq hid]

end AgreeWithin

end HotReload.DependencyGraph
