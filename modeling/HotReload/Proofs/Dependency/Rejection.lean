import HotReload.Dependency.Resolution
import HotReload.Proofs.Dependency.Cycles

/-!
# Rejected modules

A faulty module is rejected on its own account, and blame passes from there to the modules that
depend on it, by one more dependency in every round. When a round finds no module to reject, further
rounds change nothing, so the rejected modules with their reasons are what any sufficient number of
rounds gives (`exists_rounds`). They are the modules from which dependencies lead to a faulty one
(`rejected_isSome_iff`), and each is rejected for the first reason that applies (`rejects_exactly`):
it lies on a loop, it lacks a dependency, or a dependency of it is rejected.
-/

namespace HotReload.DependencyGraph

open Relation

variable {g : DependencyGraph} {id d : ModuleId} {ids : List ModuleId}

/-! ## Smallest modules -/

/-- The smallest module with a property. -/
structure Smallest (p : ModuleId → Prop) (id : ModuleId) : Prop where
  holds : p id
  le : ∀ d, p d → (compare id d).isLE = true

theorem Smallest.unique {p : ModuleId → Prop} (h₁ : Smallest p id) (h₂ : Smallest p d) : id = d := by
  have hle : (compare id d).isLE = true := h₁.le d h₂.holds
  have hge : (compare d id).isLE = true := h₂.le id h₁.holds
  exact Std.LawfulEqCmp.eq_of_compare (Std.OrientedCmp.isLE_antisymm hle hge)

theorem smallest_of_find?_inOrder {p : ModuleId → Bool} (h : (inOrder ids).find? p = some id) :
    Smallest (fun d => d ∈ ids ∧ p d = true) id := by
  obtain ⟨hp, before, after, hsplit, hbefore⟩ := List.find?_eq_some_iff_append.mp h
  have hsorted := pairwise_inOrder ids
  rw [hsplit, List.pairwise_append, List.pairwise_cons] at hsorted
  refine ⟨⟨mem_inOrder.mp (List.mem_of_find?_eq_some h), hp⟩, ?_⟩
  rintro d ⟨hd, hpd⟩
  rw [← mem_inOrder, hsplit, List.mem_append, List.mem_cons] at hd
  rcases hd with hd | rfl | hd
  · have hnot := hbefore d hd
    rw [hpd] at hnot
    cases hnot
  · simp [Std.ReflCmp.compare_self]
  · exact hsorted.2.1.1 d hd

/-- A search through modules in order finds the smallest one. -/
theorem find?_inOrder_eq_some_iff {p : ModuleId → Bool} :
    (inOrder ids).find? p = some id ↔ Smallest (fun d => d ∈ ids ∧ p d = true) id := by
  constructor
  · intro h
    exact smallest_of_find?_inOrder h
  · intro h
    have hsome : ((inOrder ids).find? p).isSome :=
      List.find?_isSome.mpr ⟨id, mem_inOrder.mpr h.holds.1, h.holds.2⟩
    obtain ⟨d, hd⟩ := Option.isSome_iff_exists.mp hsome
    rw [hd, (smallest_of_find?_inOrder hd).unique h]

/-- Searches through modules in order agree if they look for the same among the same modules. -/
theorem find?_inOrder_congr {ids₁ ids₂ : List ModuleId} {p q : ModuleId → Bool}
    (hmem : ∀ d, d ∈ ids₁ ↔ d ∈ ids₂) (hpq : ∀ d ∈ ids₁, p d = q d) :
    (inOrder ids₁).find? p = (inOrder ids₂).find? q := by
  have hsame : (fun d => d ∈ ids₁ ∧ p d = true) = fun d => d ∈ ids₂ ∧ q d = true := by
    funext d
    rw [eq_iff_iff, ← hmem]
    exact and_congr_right fun hd => by rw [hpq d hd]
  ext id
  rw [find?_inOrder_eq_some_iff, find?_inOrder_eq_some_iff, hsame]

/-! ## Faults of a module's own -/

/-- Whether a module lies on a loop or lacks a dependency. -/
def Faulty (g : DependencyGraph) (id : ModuleId) : Prop :=
  g.DependsOn id id ∨ ∃ d, g.Edge id d ∧ d ∉ g.modules

theorem Faulty.mem_modules (h : g.Faulty id) : id ∈ g.modules := by
  rcases h with hloop | ⟨d, hd, -⟩
  · exact hloop.mem_modules
  · exact hd.mem_modules

/-- Why a module is rejected whatever becomes of its dependencies: its cycle, or else its smallest
missing dependency. -/
def fault? (g : DependencyGraph) (id : ModuleId) : Option ReloadError :=
  match g.cycle? id with
  | some c => some (.cycle c)
  | none =>
    ((g.sortedDependencies id).find? fun d => !g.contains d).map fun missing =>
      .unresolved id missing

theorem contains_eq_false_iff : (!g.contains d) = true ↔ d ∉ g.modules := by
  rw [Bool.not_eq_true', ← Bool.not_eq_true, contains_iff]

theorem fault?_isSome_iff : (g.fault? id).isSome ↔ g.Faulty id := by
  unfold fault?
  cases hcycle : g.cycle? id with
  | some c => exact iff_of_true rfl (.inl (cycle?_isSome_iff.mp (by rw [hcycle]; rfl)))
  | none =>
    have hloop : ¬g.DependsOn id id := by
      rw [← cycle?_isSome_iff, hcycle]
      exact Bool.false_ne_true
    simp only [Option.isSome_map, List.find?_isSome, sortedDependencies, mem_inOrder,
      contains_eq_false_iff]
    exact ⟨.inr, fun h => h.resolve_left hloop⟩

theorem find?_unresolved (g : DependencyGraph) (id : ModuleId) :
    g.unresolved.find? id =
      ((g.sortedDependencies id).find? fun d => !g.contains d).map (.unresolved id) := by
  have hfound : ∀ e, (id, e) ∈ (g.edges.entries.filterMap fun e =>
      ((inOrder e.2).find? fun d => !g.contains d).map fun missing =>
        (e.1, ReloadError.unresolved e.1 missing)) ↔
      ((g.sortedDependencies id).find? fun d => !g.contains d).map (.unresolved id) = some e := by
    intro e
    rw [List.mem_filterMap, Option.map_eq_some_iff]
    constructor
    · rintro ⟨edges, hedges, hmissing⟩
      obtain ⟨d, hd, hpair⟩ := Option.map_eq_some_iff.mp hmissing
      cases hpair
      rw [sortedDependencies, dependencies_of_find? ((SortedMap.mem_entries_iff ..).mp hedges)]
      exact ⟨d, hd, rfl⟩
    · rintro ⟨d, hd, rfl⟩
      have hedge : g.Edge id d := mem_inOrder.mp (List.mem_of_find?_eq_some hd)
      exact ⟨_, mem_entries_of_mem_modules hedge.mem_modules, Option.map_eq_some_iff.mpr ⟨d, hd, rfl⟩⟩
  rw [unresolved, SortedMap.ofList, SortedMap.find?_foldl_insert_eq _ hfound, SortedMap.find?_empty,
    Option.or_none]

/-- The faults that a resolution starts from are those that the modules have of their own. -/
theorem find?_faults (g : DependencyGraph) (id : ModuleId) : g.faults.find? id = g.fault? id := by
  have hmember : ∀ e, (id, e) ∈ (g.cycles.flatMap fun c => c.members.map fun id =>
      (id, ReloadError.cycle c)) ↔ (g.cycle? id).map .cycle = some e := by
    intro e
    rw [List.mem_flatMap, Option.map_eq_some_iff]
    refine exists_congr fun c => ?_
    rw [List.mem_map, cycle?_eq_some_iff, and_assoc]
    refine and_congr_right fun _ => ?_
    constructor
    · rintro ⟨a, ha, hpair⟩
      cases hpair
      exact ⟨ha, rfl⟩
    · rintro ⟨hid, rfl⟩
      exact ⟨id, hid, rfl⟩
  rw [faults, SortedMap.find?_foldl_insert_eq _ hmember, find?_unresolved, fault?]
  cases g.cycle? id <;> rfl

/-! ## Rounds of blame -/

/-- Why a module is rejected for the smallest of its dependencies that are blamed. -/
def inherited? (g : DependencyGraph) (blamed : ModuleId → Option ReloadError) (id : ModuleId) :
    Option ReloadError :=
  ((g.sortedDependencies id).find? fun d => (blamed d).isSome).map fun dependency =>
    .dependencyFailed id dependency

/-- Why a module is rejected after some rounds. -/
def blame (g : DependencyGraph) : (rounds : Nat) → ModuleId → Option ReloadError
  | 0, id => g.fault? id
  | rounds + 1, id => (g.blame rounds id).or (g.inherited? (g.blame rounds) id)

section Blame

variable {rounds : Nat}

theorem inherited?_isSome_iff {blamed : ModuleId → Option ReloadError} :
    (g.inherited? blamed id).isSome ↔ ∃ d, g.Edge id d ∧ (blamed d).isSome := by
  simp [inherited?, List.find?_isSome, sortedDependencies, mem_inOrder, Edge]

theorem blame_of_faulty (rounds : Nat) (h : g.Faulty id) : (g.blame rounds id).isSome := by
  induction rounds with
  | zero => exact fault?_isSome_iff.mpr h
  | succ rounds ih => rw [blame, Option.isSome_or, ih, Bool.true_or]

theorem exists_path_of_blame (h : (g.blame rounds id).isSome) :
    ∃ y, ReflTransGen g.Edge id y ∧ g.Faulty y := by
  induction rounds generalizing id with
  | zero => exact ⟨id, .refl, fault?_isSome_iff.mp h⟩
  | succ rounds ih =>
    rw [blame, Option.isSome_or, Bool.or_eq_true] at h
    rcases h with h | h
    · exact ih h
    · obtain ⟨d, hd, hblamed⟩ := inherited?_isSome_iff.mp h
      obtain ⟨y, hpath, hy⟩ := ih hblamed
      exact ⟨y, .head hd hpath, hy⟩

end Blame

/-! ## What the rounds of a resolution reject -/

section Rounds

variable {rounds : Nat} {rejected : SortedMap ModuleId ReloadError}

/-- A round finds the modules that have not been blamed before and now inherit blame. -/
theorem mem_found_iff (h : ∀ id, rejected.find? id = g.blame rounds id) {e : ReloadError} :
    (id, e) ∈ g.inheritedFaults rejected ↔
      g.blame rounds id = none ∧ g.inherited? (g.blame rounds) id = some e := by
  have hblamed : rejected.contains = fun d => (g.blame rounds d).isSome := by
    funext d
    rw [SortedMap.contains, h]
  have hfault : ∀ edges ∈ g.edges.entries, inheritedFault? rejected edges =
      if (g.blame rounds edges.1).isSome then none
      else (g.inherited? (g.blame rounds) edges.1).map (edges.1, ·) := by
    intro edges hedges
    have hdeps := dependencies_of_find? ((SortedMap.mem_entries_iff ..).mp hedges)
    rw [inheritedFault?, hblamed, inherited?, sortedDependencies, hdeps, Option.map_map]
    rfl
  rw [inheritedFaults, List.mem_filterMap]
  constructor
  · rintro ⟨edges, hedges, hfound⟩
    rw [hfault edges hedges] at hfound
    split at hfound
    next => cases hfound
    next hnone =>
      obtain ⟨error, hinherited, hpair⟩ := Option.map_eq_some_iff.mp hfound
      cases hpair
      exact ⟨Option.not_isSome_iff_eq_none.mp hnone, hinherited⟩
  · rintro ⟨hnone, hinherited⟩
    have hedge : ∃ d, g.Edge id d ∧ (g.blame rounds d).isSome := by
      rw [← inherited?_isSome_iff, hinherited]
      rfl
    obtain ⟨d, hd, -⟩ := hedge
    have hentry := mem_entries_of_mem_modules hd.mem_modules
    refine ⟨_, hentry, ?_⟩
    rw [hfault _ hentry, hnone, hinherited]
    rfl

/-- A round passes blame on as the modules inherit it. -/
theorem find?_round (h : ∀ id, rejected.find? id = g.blame rounds id) (id : ModuleId) :
    ((g.inheritedFaults rejected).foldl (fun m e => m.insert e.1 e.2) rejected).find? id =
      g.blame (rounds + 1) id := by
  rw [blame]
  cases hblame : g.blame rounds id with
  | none =>
    have hfound : ∀ e, (id, e) ∈ g.inheritedFaults rejected ↔
        g.inherited? (g.blame rounds) id = some e := fun e =>
      (mem_found_iff h).trans (and_iff_right hblame)
    rw [SortedMap.find?_foldl_insert_eq rejected hfound, h, hblame, Option.or_none, Option.none_or]
  | some error =>
    have hfound : ∀ e, (id, e) ∈ g.inheritedFaults rejected ↔ none = some e := by
      intro e
      rw [mem_found_iff h, hblame]
      simp
    rw [SortedMap.find?_foldl_insert_eq rejected hfound, h, hblame]
    rfl

/-- A round that rejects no module is followed by rounds that change nothing. -/
theorem blame_eq_of_le (hstable : ∀ id, g.blame (rounds + 1) id = g.blame rounds id) {more : Nat}
    (h : rounds ≤ more) : g.blame more = g.blame rounds := by
  induction more, h using Nat.le_induction with
  | base => rfl
  | succ more _ ih =>
    funext id
    rw [blame, ih, ← blame, hstable]

/-- The rounds go on as long as they change anything. -/
theorem exists_rounds_spread (h : ∀ id, rejected.find? id = g.blame rounds id) :
    ∃ enough, ∀ rounds ≥ enough, ∀ id, (g.spread rejected).find? id = g.blame rounds id := by
  fun_induction spread g rejected generalizing rounds with
  | case1 rejected hnone =>
    have hstable : ∀ id, g.blame (rounds + 1) id = g.blame rounds id := by
      intro id
      rw [← find?_round h, hnone, ← h]
      rfl
    refine ⟨rounds, fun more hmore id => ?_⟩
    rw [blame_eq_of_le hstable hmore, h]
  | case2 rejected hsome ih => exact ih (find?_round h)

end Rounds

/-- The rejected modules are those that a sufficient number of rounds blames. -/
theorem exists_rounds (g : DependencyGraph) :
    ∃ enough, ∀ rounds ≥ enough, ∀ id, g.resolve.rejected.find? id = g.blame rounds id := by
  have hstart : ∀ id, g.faults.find? id = g.blame 0 id := g.find?_faults
  exact exists_rounds_spread hstart

/-! ## The rejected modules of a graph -/

theorem rejected_of_edge (hd : g.Edge id d) (h : (g.resolve.rejected.find? d).isSome) :
    (g.resolve.rejected.find? id).isSome := by
  obtain ⟨enough, hrounds⟩ := g.exists_rounds
  rw [hrounds enough le_rfl] at h
  rw [hrounds (enough + 1) (Nat.le_succ enough), blame, Option.isSome_or, Bool.or_eq_true]
  exact .inr (inherited?_isSome_iff.mpr ⟨d, hd, h⟩)

theorem rejected_of_faulty (h : g.Faulty id) : (g.resolve.rejected.find? id).isSome := by
  obtain ⟨enough, hrounds⟩ := g.exists_rounds
  rw [hrounds enough le_rfl]
  exact blame_of_faulty enough h

/-- A module is rejected if it leads to a faulty one. -/
theorem rejected_isSome_iff :
    (g.resolve.rejected.find? id).isSome ↔ ∃ y, ReflTransGen g.Edge id y ∧ g.Faulty y := by
  constructor
  · intro h
    obtain ⟨enough, hrounds⟩ := g.exists_rounds
    rw [hrounds enough le_rfl] at h
    exact exists_path_of_blame h
  · rintro ⟨y, hpath, hy⟩
    induction hpath using ReflTransGen.head_induction_on with
    | refl => exact rejected_of_faulty hy
    | head hstep _ ih => exact rejected_of_edge hstep ih

/-! ## Reasons for rejection -/

/-- Whether an error is the first reason that applies to a module. -/
inductive Reason (g : DependencyGraph) (id : ModuleId) : ReloadError → Prop
  | cycle {c : Cycle} (loop : g.DependsOn id id) (member : id ∈ c.members) : Reason g id (.cycle c)
  | unresolved {d : ModuleId} (noLoop : ¬g.DependsOn id id)
      (missing : Smallest (fun d => g.Edge id d ∧ d ∉ g.modules) d) : Reason g id (.unresolved id d)
  | dependencyFailed {d : ModuleId} (noLoop : ¬g.DependsOn id id)
      (present : ∀ d, g.Edge id d → d ∈ g.modules) (edge : g.Edge id d)
      (rejected : (g.resolve.rejected.find? d).isSome) : Reason g id (.dependencyFailed id d)

theorem reason_of_fault? {e : ReloadError} (h : g.fault? id = some e) : g.Reason id e := by
  unfold fault? at h
  cases hcycle : g.cycle? id with
  | some c =>
    rw [hcycle] at h
    cases h
    have hloop : g.DependsOn id id := cycle?_isSome_iff.mp (by rw [hcycle]; rfl)
    exact .cycle hloop (mem_members_of_cycle? hcycle)
  | none =>
    rw [hcycle] at h
    have hloop : ¬g.DependsOn id id := by
      rw [← cycle?_isSome_iff, hcycle]
      exact Bool.false_ne_true
    obtain ⟨d, hfind, rfl⟩ := Option.map_eq_some_iff.mp h
    have hsmallest := find?_inOrder_eq_some_iff.mp hfind
    simp only [contains_eq_false_iff] at hsmallest
    exact .unresolved hloop hsmallest

theorem reason_of_rejected {e : ReloadError} (h : g.resolve.rejected.find? id = some e) :
    g.Reason id e := by
  obtain ⟨enough, hrounds⟩ := g.exists_rounds
  rw [hrounds enough le_rfl] at h
  have hrejected : ∀ rounds d, (g.blame rounds d).isSome → (g.resolve.rejected.find? d).isSome := by
    intro rounds d hd
    exact rejected_isSome_iff.mpr (exists_path_of_blame hd)
  clear hrounds
  -- The first round that blames the module gives the reason, and later ones keep it.
  induction enough with
  | zero => exact reason_of_fault? h
  | succ rounds ih =>
    rcases Option.or_eq_some_iff.mp h with h | ⟨hnone, h⟩
    · exact ih h
    · obtain ⟨d, hfind, rfl⟩ := Option.map_eq_some_iff.mp h
      obtain ⟨⟨hd, hblamed⟩, -⟩ := find?_inOrder_eq_some_iff.mp hfind
      have hfault : ¬g.Faulty id := by
        intro hfaulty
        have hsome := blame_of_faulty rounds hfaulty
        rw [hnone] at hsome
        cases hsome
      refine .dependencyFailed (fun hloop => hfault (.inl hloop)) ?_ hd (hrejected rounds d hblamed)
      intro d hd
      by_contra hmissing
      exact hfault (.inr ⟨d, hd, hmissing⟩)

theorem exists_rejected_of_faulty (h : g.Faulty id) :
    ∃ e, g.resolve.rejected.find? id = some e :=
  Option.isSome_iff_exists.mp (rejected_of_faulty h)

theorem rejected_cycle_iff :
    (∃ c, g.resolve.rejected.find? id = some (.cycle c)) ↔ g.DependsOn id id := by
  constructor
  · rintro ⟨c, hc⟩
    cases reason_of_rejected hc with
    | cycle loop member => exact loop
  · intro hloop
    obtain ⟨e, he⟩ := exists_rejected_of_faulty (.inl hloop)
    cases reason_of_rejected he with
    | cycle loop member => exact ⟨_, he⟩
    | unresolved noLoop missing => exact absurd hloop noLoop
    | dependencyFailed noLoop present edge rejected => exact absurd hloop noLoop

theorem rejected_unresolved_iff {m : ModuleId} :
    g.resolve.rejected.find? id = some (.unresolved m d) ↔
      ¬g.DependsOn id id ∧ m = id ∧ Smallest (fun d => g.Edge id d ∧ d ∉ g.modules) d := by
  constructor
  · intro h
    cases reason_of_rejected h with
    | unresolved noLoop missing => exact ⟨noLoop, rfl, missing⟩
  · rintro ⟨hloop, rfl, hsmallest⟩
    obtain ⟨e, he⟩ := exists_rejected_of_faulty (.inr ⟨d, hsmallest.holds⟩)
    cases reason_of_rejected he with
    | cycle loop member => exact absurd loop hloop
    | unresolved noLoop missing => rw [he, missing.unique hsmallest]
    | dependencyFailed noLoop present edge rejected =>
      exact absurd (present d hsmallest.holds.1) hsmallest.holds.2

theorem rejected_dependencyFailed_iff :
    (∃ m d, g.resolve.rejected.find? id = some (.dependencyFailed m d)) ↔
      (∃ e, g.resolve.rejected.find? id = some e) ∧ ¬g.DependsOn id id ∧
        ∀ d, g.Edge id d → d ∈ g.modules := by
  constructor
  · rintro ⟨m, d, h⟩
    cases reason_of_rejected h with
    | dependencyFailed noLoop present edge rejected => exact ⟨⟨_, h⟩, noLoop, present⟩
  · rintro ⟨⟨e, he⟩, hloop, hpresent⟩
    cases reason_of_rejected he with
    | cycle loop member => exact absurd loop hloop
    | unresolved noLoop missing => exact absurd (hpresent _ missing.holds.1) missing.holds.2
    | dependencyFailed noLoop present edge rejected => exact ⟨_, _, he⟩

/-- Resolving rejects a module if dependencies lead from it, in any number of steps, to a module that
lies on a loop or lacks a dependency. A module on a loop is rejected for a cycle; any other module
that lacks a dependency, for the smallest that it lacks; and any other one for a dependency of its
own that is rejected too. -/
theorem rejects_exactly (g : DependencyGraph) (id : ModuleId) :
    ((∃ e, g.resolve.rejected.find? id = some e) ↔
        ∃ y, ReflTransGen g.Edge id y ∧ (g.DependsOn y y ∨ ∃ d, g.Edge y d ∧ d ∉ g.modules)) ∧
      ((∃ c, g.resolve.rejected.find? id = some (.cycle c)) ↔ g.DependsOn id id) ∧
      (∀ m d, g.resolve.rejected.find? id = some (.unresolved m d) ↔
        ¬g.DependsOn id id ∧ m = id ∧ Smallest (fun d => g.Edge id d ∧ d ∉ g.modules) d) ∧
      ((∃ m d, g.resolve.rejected.find? id = some (.dependencyFailed m d)) ↔
        (∃ e, g.resolve.rejected.find? id = some e) ∧ ¬g.DependsOn id id ∧
          ∀ d, g.Edge id d → d ∈ g.modules) ∧
      ∀ m d, g.resolve.rejected.find? id = some (.dependencyFailed m d) →
        m = id ∧ g.Edge id d ∧ ∃ e, g.resolve.rejected.find? d = some e := by
  refine ⟨?_, rejected_cycle_iff, ?_, rejected_dependencyFailed_iff, ?_⟩
  · exact Option.isSome_iff_exists.symm.trans rejected_isSome_iff
  · intro m d
    exact rejected_unresolved_iff
  · intro m d h
    cases reason_of_rejected h with
    | dependencyFailed noLoop present edge rejected =>
      exact ⟨rfl, edge, Option.isSome_iff_exists.mp rejected⟩

end HotReload.DependencyGraph
