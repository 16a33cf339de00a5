import HotReload.Proofs.Dependency.Tiers
import HotReload.Reload.Plan

/-!
# What a plan consists of

A plan keeps the published archives that are not removed and overrides them with the submitted
ones (`archives_find?`). Its affected modules are the submitted ones and all that depend on a
submitted or removed module (`mem_affected_iff`); so a module that is not affected is planned as
it is published, and so is everything that it depends on (`Idle.edge`).
-/

namespace HotReload

open Relation

/-- Whether every module of a snapshot is published under its own id. -/
def Snapshot.Keyed (s : Snapshot) : Prop :=
  ∀ id m, s.find? id = some m → m.id = id

namespace ChangeSet

variable {c : ChangeSet} {id : ModuleId} {a : Archive}

/-- Of the archives that are submitted for a module the last one counts, unless the module is
removed. -/
theorem incoming_find? (c : ChangeSet) (id : ModuleId) :
    c.incoming.find? id =
      if id ∈ c.removes then none else ((c.adds ++ c.updates).filter (·.id = id)).getLast? := by
  have hlast : ∀ archives : List Archive, (archives.map fun a => (a.id, a)).reverse.lookup id =
      (archives.filter (·.id = id)).getLast? := by
    intro archives
    rw [← List.head?_reverse, ← List.filter_reverse, ← List.map_reverse, List.head?_filter]
    induction archives.reverse with
    | nil => rfl
    | cons a rest ih =>
      by_cases ha : a.id = id
      · simp [ha]
      · simp [ha, List.lookup_cons, beq_eq_false_iff_ne.mpr (Ne.symm ha), ih]
  rw [incoming, SortedMap.find?_filter_key, SortedMap.ofList, SortedMap.find?_foldl_insert,
    SortedMap.find?_empty, Option.or_none, hlast]
  by_cases hid : id ∈ c.removes
  · simp [hid]
  · simp [hid]

/-- What a change-set submits for a module is one of its archives, and one of that module. -/
theorem mem_of_incoming_find? (h : c.incoming.find? id = some a) :
    a.id = id ∧ a ∈ c.adds ++ c.updates ∧ id ∉ c.removes := by
  rw [incoming_find?, Option.ite_none_left_eq_some] at h
  obtain ⟨hmem, hid⟩ := List.mem_filter.mp (List.mem_of_getLast? h.2)
  exact ⟨of_decide_eq_true hid, hmem, h.1⟩

end ChangeSet

namespace DependencyGraph

theorem edges_ofSpecs (specs : List ModuleSpec) :
    (ofSpecs specs).edges =
      (specs.map fun spec => (spec.id, spec.dependencies)).foldl
        (fun m e => m.insert e.1 e.2) ∅ := by
  have key : ∀ (specs : List ModuleSpec) (g : DependencyGraph),
      (specs.foldl (fun g spec => g.insert spec.id spec.dependencies) g).edges =
        (specs.map fun spec => (spec.id, spec.dependencies)).foldl
          (fun m e => m.insert e.1 e.2) g.edges := by
    intro specs
    induction specs with
    | nil => exact fun g => rfl
    | cons spec specs ih => exact fun g => ih (g.insert spec.id spec.dependencies)
  exact key specs ∅

end DependencyGraph

namespace Plan

/-- The graph of the archives' declared dependencies. -/
def graph (p : Plan) : DependencyGraph :=
  .ofSpecs (p.archives.values.map (·.spec))

variable {s : Snapshot} {c : ChangeSet} {id d : ModuleId} {a : Archive}

theorem incoming_make (s : Snapshot) (c : ChangeSet) : (make s c).incoming = c.incoming := rfl

theorem mem_removed_iff :
    id ∈ (make s c).removed ↔ (∃ m, s.find? id = some m) ∧ id ∈ c.removes := by
  have hkeys : id ∈ s.modules.keys ↔ ∃ m, s.find? id = some m := by
    rw [SortedMap.mem_keys_iff, Option.isSome_iff_exists]
    rfl
  simp [make, hkeys]

/-- The archives of a plan: what is submitted, and otherwise what is published and not removed. -/
theorem archives_find? (s : Snapshot) (c : ChangeSet) (id : ModuleId) :
    (make s c).archives.find? id =
      (c.incoming.find? id).or
        (if id ∈ c.removes then none else (s.find? id).map (·.archive)) := by
  have hkept : (((s.modules.filter fun id _ => !c.removes.contains id).mapValues
      fun _ m => m.archive).find? id) =
        if id ∈ c.removes then none else (s.find? id).map (·.archive) := by
    rw [SortedMap.find?_mapValues, SortedMap.find?_filter_key]
    by_cases hid : id ∈ c.removes
    · simp [hid]
    · simp [hid, Snapshot.find?]
  simp only [make]
  rw [SortedMap.find?_foldl_insert, SortedMap.lookup_reverse_entries, hkept]

theorem id_of_archives_find? (hs : s.Keyed) (h : (make s c).archives.find? id = some a) :
    a.id = id := by
  rw [archives_find?] at h
  rcases Option.or_eq_some_iff.mp h with hin | ⟨-, hkept⟩
  · exact (ChangeSet.mem_of_incoming_find? hin).1
  · split at hkept
    next => exact absurd hkept (by simp)
    next =>
      obtain ⟨m, hm, rfl⟩ := Option.map_eq_some_iff.mp hkept
      exact hs id m hm

/-- No archive is planned for a removed module. -/
theorem notMem_removed_of_planned (h : (make s c).archives.find? id = some a) :
    id ∉ (make s c).removed := by
  intro hremoved
  have hid := (mem_removed_iff.mp hremoved).2
  rw [archives_find?, ChangeSet.incoming_find?] at h
  simp [hid] at h

theorem graph_edges_find? (hs : s.Keyed) (id : ModuleId) :
    (make s c).graph.edges.find? id =
      ((make s c).archives.find? id).map (·.spec.dependencies) := by
  have hentries : (((make s c).archives.values.map (·.spec)).map fun spec =>
      (spec.id, spec.dependencies)) =
        ((make s c).archives.mapValues fun _ a => a.spec.dependencies).entries := by
    simp only [SortedMap.values, SortedMap.mapValues, List.map_map]
    refine List.map_congr_left fun e he => ?_
    have hfind := (SortedMap.mem_entries_iff _ e.1 e.2).mp he
    exact Prod.ext (id_of_archives_find? hs hfind) rfl
  rw [graph, DependencyGraph.edges_ofSpecs, hentries, SortedMap.find?_foldl_insert,
    SortedMap.lookup_reverse_entries, SortedMap.find?_mapValues, SortedMap.find?_empty,
    Option.or_none]

theorem mem_graph_iff (hs : s.Keyed) :
    id ∈ (make s c).graph.modules ↔ ∃ a, (make s c).archives.find? id = some a := by
  rw [DependencyGraph.mem_modules_iff, graph_edges_find? hs]
  simp

theorem edge_iff (hs : s.Keyed) (h : (make s c).archives.find? id = some a) :
    (make s c).graph.Edge id d ↔ d ∈ a.spec.dependencies := by
  rw [DependencyGraph.Edge, DependencyGraph.dependencies, graph_edges_find? hs, h]
  rfl

/-! ## Affected modules -/

/-- What the affected modules are affected by: a submitted or removed module. -/
def Changes (p : Plan) (id : ModuleId) : Prop :=
  (∃ a, p.incoming.find? id = some a) ∨ id ∈ p.removed

theorem mem_affected_iff :
    id ∈ (make s c).affected ↔
      (∃ a, (make s c).archives.find? id = some a) ∧
        ((∃ a, (make s c).incoming.find? id = some a) ∨
          ∃ root, (make s c).Changes root ∧ (make s c).graph.DependsOn id root) := by
  have hroots : (make s c).affected =
      (make s c).archives.keys.filter fun id =>
        (make s c).incoming.contains id ||
          ((make s c).graph.transitiveDependents
            ((make s c).incoming.keys ++ (make s c).removed)).contains id := rfl
  rw [hroots, List.mem_filter, SortedMap.mem_keys_iff, Option.isSome_iff_exists, Bool.or_eq_true,
    SortedMap.contains_iff, List.contains_iff_mem, DependencyGraph.mem_transitiveDependents_iff]
  simp only [List.mem_append, SortedMap.mem_keys_iff, Option.isSome_iff_exists, Changes]

/-- A change reaches every planned module that depends on it directly. -/
theorem mem_affected_of_edge (hs : s.Keyed) (hedge : (make s c).graph.Edge id d)
    (hd : d ∈ (make s c).affected ∨ (make s c).Changes d) : id ∈ (make s c).affected := by
  have hid := (mem_graph_iff hs).mp hedge.mem_modules
  refine mem_affected_iff.mpr ⟨hid, .inr ?_⟩
  rcases hd with hd | hd
  · rcases (mem_affected_iff.mp hd).2 with hin | ⟨root, hroot, hdep⟩
    · exact ⟨d, .inl hin, .single hedge⟩
    · exact ⟨root, hroot, .head hedge hdep⟩
  · exact ⟨d, hd, .single hedge⟩

/-- A module that is planned as it is published. -/
structure Idle (p : Plan) (s : Snapshot) (id : ModuleId) (m : CompiledModule) : Prop where
  notMem : id ∉ p.affected
  published : s.find? id = some m
  planned : p.archives.find? id = some m.archive

/-- What is neither affected nor removed stays as it is. -/
theorem idle_of_published {m : CompiledModule} (hm : s.find? id = some m)
    (haffected : id ∉ (make s c).affected) (hremoved : id ∉ (make s c).removed) :
    (make s c).Idle s id m := by
  have hkept : id ∉ c.removes := fun hid => hremoved (mem_removed_iff.mpr ⟨⟨m, hm⟩, hid⟩)
  refine ⟨haffected, hm, ?_⟩
  cases hin : c.incoming.find? id with
  | none => simp [archives_find?, hin, hkept, hm]
  | some a =>
    have hplanned : ∃ a, (make s c).archives.find? id = some a :=
      ⟨a, by simp [archives_find?, hin]⟩
    exact absurd (mem_affected_iff.mpr ⟨hplanned, .inl ⟨a, hin⟩⟩) haffected

theorem exists_idle_of_planned (h : (make s c).archives.find? id = some a)
    (haffected : id ∉ (make s c).affected) :
    ∃ m, (make s c).Idle s id m ∧ m.archive = a := by
  have hin : c.incoming.find? id = none := by
    by_contra hsome
    have hincoming := Option.ne_none_iff_exists'.mp hsome
    exact haffected (mem_affected_iff.mpr ⟨⟨a, h⟩, .inl hincoming⟩)
  have hfind := h
  rw [archives_find?, hin, Option.none_or] at hfind
  split at hfind
  next => exact absurd hfind (by simp)
  next =>
    obtain ⟨m, hm, rfl⟩ := Option.map_eq_some_iff.mp hfind
    exact ⟨m, ⟨haffected, hm, h⟩, rfl⟩

/-- What an idle module depends on is neither affected nor changed. -/
theorem Idle.edge {m : CompiledModule} (hs : s.Keyed) (h : (make s c).Idle s id m)
    (hd : d ∈ m.spec.dependencies) : d ∉ (make s c).affected ∧ ¬(make s c).Changes d := by
  have hedge : (make s c).graph.Edge id d := (edge_iff hs h.planned).mpr hd
  exact ⟨fun hd => h.notMem (mem_affected_of_edge hs hedge (.inl hd)),
    fun hd => h.notMem (mem_affected_of_edge hs hedge (.inr hd))⟩

/-- What is neither planned nor changed is not published. -/
theorem unpublished_of_not_planned (h : (make s c).archives.find? id = none)
    (hchanges : ¬(make s c).Changes id) : s.find? id = none := by
  rw [archives_find?, Option.or_eq_none_iff] at h
  by_contra hsome
  obtain ⟨m, hm⟩ := Option.ne_none_iff_exists'.mp hsome
  by_cases hid : id ∈ c.removes
  · exact hchanges (.inr (mem_removed_iff.mpr ⟨⟨m, hm⟩, hid⟩))
  · have hkept := h.2
    rw [if_neg hid, hm] at hkept
    cases hkept

end Plan

end HotReload
