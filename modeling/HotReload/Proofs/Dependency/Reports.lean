import HotReload.Proofs.Dependency.Rejection

/-!
# Cycle reports

The cycles that are reported of a graph are its components with loops (`reportsCycles`): one report for
each, a shortest loop in each report, the report itself as the reason for rejecting each member, and
all reports listed by a resolution in the order of their smallest members.
-/

namespace HotReload

/-- Whether the smallest member of a cycle comes before the one of another cycle. -/
def Cycle.Before (c d : Cycle) : Prop :=
  ∃ a b, c.members.head? = some a ∧ d.members.head? = some b ∧ compare a b = .lt

namespace DependencyGraph

variable {g : DependencyGraph} {a b id : ModuleId} {ids : List ModuleId} {c d : Cycle}

/-- The modules that are connected with some module of a graph. -/
def IsComponent (g : DependencyGraph) (ids : List ModuleId) : Prop :=
  ∃ a ∈ g.modules, ∀ b, b ∈ ids ↔ g.Connected a b

/-- Several modules, or one that depends on itself directly. -/
def IsLooped (g : DependencyGraph) (ids : List ModuleId) : Prop :=
  1 < ids.length ∨ ∃ a ∈ ids, g.Edge a a

/-- Some cycles are reported of a graph, and what it resolves to says the same. -/
structure ReportsCycles (g : DependencyGraph) (found : List Cycle) (r : Resolution) : Prop where
  /-- The members of the reports are the components that have a loop, in ascending order. -/
  exact : ∀ members, (∃ c ∈ found, c.members = members) ↔
    Ascending members ∧ g.IsComponent members ∧ g.IsLooped members
  /-- No component is reported twice. -/
  once : (found.map Cycle.members).Nodup
  /-- The loop that is shown leads through the component, from its smallest member on. -/
  shortest : ∀ c ∈ found, ∃ start, c.members.head? = some start ∧ g.IsShortestLoop start c.path
  path_nodup : ∀ c ∈ found, c.path.Nodup
  path_subset : ∀ c ∈ found, ∀ a ∈ c.path, a ∈ c.members
  rejected : ∀ c ∈ found, ∀ a ∈ c.members, r.rejected.find? a = some (.cycle c)
  /-- The resolution lists each report once. -/
  listed : r.cycles.Perm found
  ordered : r.cycles.Pairwise Cycle.Before

/-! ## Reports and components -/

theorem isLooped_iff (h : ∀ b, b ∈ ids ↔ g.Connected a b) (hascending : Ascending ids) :
    g.IsLooped ids ↔ g.DependsOn a a := by
  have hsorted : inOrder ids = ids :=
    (ascending_inOrder hascending.nodup).eq_of_mem_iff hascending fun b => mem_inOrder
  cases ids with
  | nil => exact absurd ((h a).mpr ⟨.refl, .refl⟩) List.not_mem_nil
  | cons start rest =>
    rw [← looped_iff h hascending.nodup hsorted, IsLooped]
    cases rest with
    | nil => simp [Edge]
    | cons b rest => simp

/-- The members of the cycles of a graph are its components that have a loop. -/
theorem exact_cycles {members : List ModuleId} : (∃ c ∈ g.cycles, c.members = members) ↔
    Ascending members ∧ g.IsComponent members ∧ g.IsLooped members := by
  constructor
  · rintro ⟨c, hc, rfl⟩
    obtain ⟨id, hcycle⟩ := mem_cycles_iff.mp hc
    have hloop : g.DependsOn id id := cycle?_isSome_iff.mp (by rw [hcycle]; rfl)
    have hconnected : ∀ b, b ∈ g.component id ↔ g.Connected id b := fun b =>
      mem_component_iff_connected hloop
    rw [members_of_cycle? hcycle]
    exact ⟨g.ascending_component id, ⟨id, hloop.mem_modules, hconnected⟩,
      (isLooped_iff hconnected (g.ascending_component id)).mpr hloop⟩
  · rintro ⟨hascending, ⟨a, ha, hconnected⟩, hlooped⟩
    have hloop := (isLooped_iff hconnected hascending).mp hlooped
    obtain ⟨c, hc⟩ := Option.isSome_iff_exists.mp (cycle?_isSome_iff.mpr hloop)
    refine ⟨c, mem_cycles_iff.mpr ⟨a, hc⟩, ?_⟩
    rw [members_of_cycle? hc]
    refine (g.ascending_component a).eq_of_mem_iff hascending fun b => ?_
    rw [mem_component_iff_connected hloop, hconnected]

/-! ## Reports and rejections -/

theorem blame_eq_cycle_iff {rounds : Nat} :
    g.blame rounds id = some (.cycle c) ↔ g.cycle? id = some c := by
  induction rounds with
  | zero =>
    rw [blame, fault?]
    cases hcycle : g.cycle? id with
    | some c' => simp
    | none => simp
  | succ rounds ih =>
    rw [blame, Option.or_eq_some_iff, ih]
    simp [inherited?]

/-- A module is rejected for a cycle if and only if it is the cycle of its component. -/
theorem find?_rejected_eq_cycle_iff :
    g.resolve.rejected.find? id = some (.cycle c) ↔ g.cycle? id = some c := by
  obtain ⟨enough, hrounds⟩ := g.exists_rounds
  rw [hrounds enough le_rfl, blame_eq_cycle_iff]

/-! ## Reports in order -/

/-- The cycle of a module is one and the same only for the members of its component. -/
theorem cycle?_eq_iff_mem (h : g.cycle? a = some c) : g.cycle? b = some c ↔ b ∈ c.members :=
  ⟨mem_members_of_cycle?, cycle?_eq_of_mem_members h⟩

/-- Whether some modules include the components of all of them. -/
def Closed (g : DependencyGraph) (ids : List ModuleId) : Prop :=
  ∀ a ∈ ids, ∀ b ∈ g.component a, b ∈ ids

section FirstComers

variable {first : ModuleId} {rest : List ModuleId}

theorem Closed.tail (h : g.Closed (first :: rest)) (hfirst : g.cycle? first = none) :
    g.Closed rest := by
  intro a ha b hb
  refine (List.mem_cons.mp (h a (List.mem_cons_of_mem _ ha) b hb)).resolve_left ?_
  rintro rfl
  obtain ⟨hab, hba⟩ := mem_component_iff.mp hb
  have hsome := cycle?_isSome_iff.mpr (hba.trans hab)
  rw [hfirst] at hsome
  cases hsome

/-- What remains of closed modules when the members of the first cycle are left out. -/
theorem Closed.others (h : g.Closed (first :: rest)) (hfirst : g.cycle? first = some c) :
    g.Closed (rest.filter fun a => a ∉ c.members) := by
  intro a ha b hb
  obtain ⟨ha, hnot⟩ := List.mem_filter.mp ha
  have hother : b ∉ c.members := by
    intro hmem
    rw [← cycle?_eq_iff_mem hfirst, cycle?, component_eq_of_mem hb] at hmem
    exact of_decide_eq_true hnot ((cycle?_eq_iff_mem hfirst).mp hmem)
  refine List.mem_filter.mpr ⟨?_, decide_eq_true hother⟩
  refine (List.mem_cons.mp (h a (List.mem_cons_of_mem _ ha) b hb)).resolve_left ?_
  rintro rfl
  exact hother (mem_members_of_cycle? hfirst)

/-- The first of closed modules in ascending order is the smallest member of its cycle. -/
theorem head?_members (hascending : Ascending (first :: rest)) (h : g.Closed (first :: rest))
    (hfirst : g.cycle? first = some c) : c.members.head? = some first := by
  have hmem := mem_members_of_cycle? hfirst
  have hsorted := g.ascending_component first
  rw [members_of_cycle? hfirst] at hmem ⊢
  cases hcomponent : g.component first with
  | nil =>
    rw [hcomponent] at hmem
    cases hmem
  | cons start others =>
    rw [List.head?_cons]
    by_contra hne
    have hne : first ≠ start := fun heq => hne (congrArg some heq.symm)
    rw [hcomponent] at hmem hsorted
    have hlt : compare start first = .lt :=
      List.rel_of_pairwise_cons hsorted (List.mem_of_ne_of_mem hne hmem)
    have hstart : start ∈ first :: rest := by
      apply h first List.mem_cons_self
      rw [hcomponent]
      exact List.mem_cons_self
    have hgt : compare first start = .lt :=
      List.rel_of_pairwise_cons hascending (List.mem_of_ne_of_mem hne.symm hstart)
    exact compare_self_ne_lt first (Std.TransCmp.lt_trans hgt hlt)

theorem filter_filterMap_cycle? (hfirst : g.cycle? first = some c) (ids : List ModuleId) :
    (ids.filterMap g.cycle?).filter (fun d => !d == c) =
      (ids.filter fun a => a ∉ c.members).filterMap g.cycle? := by
  rw [List.filter_filterMap, List.filterMap_filter]
  refine List.filterMap_congr fun a _ => ?_
  cases hcycle : g.cycle? a with
  | none => rw [Option.filter_none, ite_self]
  | some d =>
    by_cases hd : d = c
    · have hmem : a ∈ c.members := mem_members_of_cycle? (hd ▸ hcycle)
      simp [hd, hmem]
    · have hnot : a ∉ c.members := by
        intro hmem
        rw [(cycle?_eq_iff_mem hfirst).mpr hmem] at hcycle
        exact hd (Option.some.inj hcycle).symm
      simp [hd, hnot]

/-- The first cycle comes before those of the modules that are not members of it. -/
theorem before_of_mem_others (hascending : Ascending (first :: rest)) (h : g.Closed (first :: rest))
    (hfirst : g.cycle? first = some c) (ha : a ∈ rest.filter fun a => a ∉ c.members)
    (hcycle : g.cycle? a = some d) : c.Before d := by
  cases hmembers : d.members with
  | nil =>
    have hmem := mem_members_of_cycle? hcycle
    rw [hmembers] at hmem
    cases hmem
  | cons b others =>
    have hb : b ∈ g.component a := by
      rw [← members_of_cycle? hcycle, hmembers]
      exact List.mem_cons_self
    have hlater : b ∈ rest := (List.mem_filter.mp (h.others hfirst a ha b hb)).1
    refine ⟨first, b, head?_members hascending h hfirst, ?_, List.rel_of_pairwise_cons hascending hlater⟩
    rw [hmembers, List.head?_cons]

/-- The cycles of modules in ascending order, each where it comes first, are in the order of their
smallest members. -/
theorem pairwise_before (hascending : Ascending ids) (hclosed : g.Closed ids) :
    (ids.filterMap g.cycle?).eraseDups.Pairwise Cycle.Before := by
  induction hlength : ids.length using Nat.strongRecOn generalizing ids with
  | ind length ih =>
    cases ids with
    | nil => exact .nil
    | cons first rest =>
      subst hlength
      have hrest : Ascending rest := hascending.of_cons
      cases hfirst : g.cycle? first with
      | none =>
        rw [List.filterMap_cons_none hfirst]
        exact ih rest.length (Nat.lt_succ_self _) hrest (hclosed.tail hfirst) rfl
      | some c =>
        -- The other occurrences of the first cycle are those at its other members.
        rw [List.filterMap_cons_some hfirst, List.eraseDups_cons, filter_filterMap_cycle? hfirst,
          List.pairwise_cons]
        constructor
        · intro d hd
          obtain ⟨a, ha, hcycle⟩ := List.mem_filterMap.mp (List.mem_eraseDups.mp hd)
          exact before_of_mem_others hascending hclosed hfirst ha hcycle
        · refine ih _ ?_ (hrest.filter _) (hclosed.others hfirst) rfl
          exact Nat.lt_succ_of_le (List.length_filter_le _ _)

end FirstComers

/-- A resolution lists the cycles of the rejected modules, each where it comes first. -/
theorem cycles_resolve (g : DependencyGraph) :
    g.resolve.cycles = (g.resolve.rejected.keys.filterMap g.cycle?).eraseDups := by
  rw [Resolution.cycles, SortedMap.values, SortedMap.keys, List.filterMap_map, List.filterMap_map]
  congr 1
  refine List.filterMap_congr fun e he => ?_
  have hfind := (SortedMap.mem_entries_iff _ e.1 e.2).mp he
  cases hcycle : g.cycle? e.1 with
  | some c =>
    rw [find?_rejected_eq_cycle_iff.mpr hcycle] at hfind
    simp [← Option.some.inj hfind, hcycle]
  | none =>
    have hother : ∀ c, e.2 ≠ .cycle c := by
      intro c hc
      rw [hc] at hfind
      rw [find?_rejected_eq_cycle_iff.mp hfind] at hcycle
      cases hcycle
    rw [Function.comp_apply, Function.comp_apply, hcycle]
    split
    next c hc => exact absurd hc (hother c)
    next => rfl

/-- The cycles of a graph are reported as they should be, by the search and by the resolution. -/
theorem reportsCycles (g : DependencyGraph) : g.ReportsCycles g.cycles g.resolve := by
  have hkeys : ∀ id, g.DependsOn id id → id ∈ g.resolve.rejected.keys := by
    intro id hloop
    obtain ⟨c, hc⟩ := Option.isSome_iff_exists.mp (cycle?_isSome_iff.mpr hloop)
    rw [SortedMap.mem_keys_iff, find?_rejected_eq_cycle_iff.mpr hc]
    rfl
  have hcycle : ∀ c ∈ g.cycles, ∃ id, g.cycle? id = some c := fun c => mem_cycles_iff.mp
  constructor
  case exact => exact fun members => exact_cycles
  case once => exact g.nodup_members_cycles
  case shortest =>
    intro c hc
    obtain ⟨id, hid⟩ := hcycle c hc
    obtain ⟨start, hstart, hshortest, -⟩ := shortest_of_cycle? hid
    exact ⟨start, hstart, hshortest⟩
  case path_nodup =>
    intro c hc
    obtain ⟨id, hid⟩ := hcycle c hc
    obtain ⟨start, -, -, hnodup, -⟩ := shortest_of_cycle? hid
    exact hnodup
  case path_subset =>
    intro c hc
    obtain ⟨id, hid⟩ := hcycle c hc
    obtain ⟨start, -, -, -, hsubset⟩ := shortest_of_cycle? hid
    exact hsubset
  case rejected =>
    intro c hc a ha
    exact find?_rejected_eq_cycle_iff.mpr (cycle?_eq_some_iff.mpr ⟨hc, ha⟩)
  case listed =>
    rw [cycles_resolve]
    refine (List.perm_ext_iff_of_nodup (nodup_eraseDups _) g.nodup_members_cycles.of_map).mpr fun c => ?_
    rw [List.mem_eraseDups, List.mem_filterMap, mem_cycles_iff]
    constructor
    · rintro ⟨id, -, hid⟩
      exact ⟨id, hid⟩
    · rintro ⟨id, hid⟩
      exact ⟨id, hkeys id (cycle?_isSome_iff.mp (by rw [hid]; rfl)), hid⟩
  case ordered =>
    rw [cycles_resolve]
    refine pairwise_before (List.pairwise_map.mpr g.resolve.rejected.sorted) fun a _ b hb => ?_
    obtain ⟨hab, hba⟩ := mem_component_iff.mp hb
    exact hkeys b (hba.trans hab)

end DependencyGraph

end HotReload
