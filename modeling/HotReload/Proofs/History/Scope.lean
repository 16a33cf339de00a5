import HotReload.Proofs.Dependency.Order
import HotReload.Proofs.History.Publication
import HotReload.Proofs.Reload.Fault

/-!
# What a report is about

A change concerns the modules that an archive is submitted for and those that depend on a module which
is submitted or removed, where dependencies are those declared after the change. A report is about
exactly these modules and the removed ones, and about each of them it agrees with what resolving the
change alone says (`covers_of_not_cancelled`). Planning, building and reporting keep to one set of
modules, the affected ones, and this set is compared here with what the change itself says.
-/

namespace HotReload

open Relation

/-! ## What a change concerns -/

/-- The archive that a change-set submits for a module: the last one, unless the module is removed. -/
def ChangeSet.submitted? (c : ChangeSet) (id : ModuleId) : Option Archive :=
  if id ∈ c.removes then none else ((c.adds ++ c.updates).filter (·.id = id)).getLast?

namespace Snapshot

/-- A published module is removed. -/
def Loses (s : Snapshot) (c : ChangeSet) (id : ModuleId) : Prop :=
  id ∈ c.removes ∧ ∃ m, s.find? id = some m

/-- The archive of a module after a change: the submitted one, and otherwise the published one unless
it is removed. -/
def archiveAfter? (s : Snapshot) (c : ChangeSet) (id : ModuleId) : Option Archive :=
  (c.submitted? id).or (if id ∈ c.removes then none else (s.find? id).map (·.archive))

/-- Whether a module declares a dependency after a change. -/
def DeclaresAfter (s : Snapshot) (c : ChangeSet) (id d : ModuleId) : Prop :=
  ∃ a, s.archiveAfter? c id = some a ∧ d ∈ a.spec.dependencies

def DependsAfter (s : Snapshot) (c : ChangeSet) : ModuleId → ModuleId → Prop :=
  TransGen (s.DeclaresAfter c)

/-- An archive is submitted for a module, or it depends on a submitted or removed module. -/
def Concerned (s : Snapshot) (c : ChangeSet) (id : ModuleId) : Prop :=
  (∃ a, c.submitted? id = some a) ∨
    ∃ root, ((∃ a, c.submitted? root = some a) ∨ s.Loses c root) ∧ s.DependsAfter c id root

end Snapshot

/-- A report is about what a change concerns, as it resolves without building anything. -/
structure ReloadReport.Covers (report : ReloadReport) (s : Snapshot) (c : ChangeSet)
    (dry : Resolution) : Prop where
  /-- A module has one outcome at most. -/
  once : report.outcomes.keys.Nodup
  mem_outcomes : ∀ id, id ∈ report.outcomes.keys ↔ s.Concerned c id ∨ s.Loses c id
  /-- Resolving accepts what it does not reject. -/
  mem_dry : ∀ id, id ∈ dry.order ↔
    (∃ a, s.archiveAfter? c id = some a) ∧ dry.rejected.find? id = none
  order_nodup : report.order.Nodup
  mem_order : ∀ id, id ∈ report.order ↔ s.Concerned c id ∧ id ∈ dry.order
  /-- Nothing depends on what follows it. -/
  pairwise_order : report.order.Pairwise fun a b => ¬s.DependsAfter c a b
  rejected : ∀ id e, s.Concerned c id → dry.rejected.find? id = some e →
    ∃ retained, report.outcomes.find? id = some (.failed e retained)
  accepted : ∀ id ∈ dry.order, ∀ e retained,
    report.outcomes.find? id = some (.failed e retained) →
      (∀ cycle, e ≠ .cycle cycle) ∧ ∀ m missing, e ≠ .unresolved m missing

/-! ## Plans -/

namespace Plan

variable {s : Snapshot} {c : ChangeSet} {id d : ModuleId}

theorem incoming_eq_submitted (s : Snapshot) (c : ChangeSet) (id : ModuleId) :
    (make s c).incoming.find? id = c.submitted? id := by
  rw [incoming_make, ChangeSet.incoming_find?, ChangeSet.submitted?]

theorem archives_eq_archiveAfter (s : Snapshot) (c : ChangeSet) (id : ModuleId) :
    (make s c).archives.find? id = s.archiveAfter? c id := by
  rw [archives_find?, ← incoming_make s c, incoming_eq_submitted, Snapshot.archiveAfter?]

theorem mem_removed_iff_loses : id ∈ (make s c).removed ↔ s.Loses c id := by
  rw [mem_removed_iff]
  exact and_comm

theorem edge_iff_declaresAfter (hs : s.Keyed) :
    (make s c).graph.Edge id d ↔ s.DeclaresAfter c id d := by
  constructor
  · intro hedge
    obtain ⟨a, ha⟩ := (mem_graph_iff hs).mp hedge.mem_modules
    exact ⟨a, (archives_eq_archiveAfter s c id).symm.trans ha, (edge_iff hs ha).mp hedge⟩
  · rintro ⟨a, ha, hd⟩
    exact (edge_iff hs ((archives_eq_archiveAfter s c id).trans ha)).mpr hd

theorem dependsOn_eq_dependsAfter (hs : s.Keyed) :
    (make s c).graph.DependsOn = s.DependsAfter c := by
  have hedges : (make s c).graph.Edge = s.DeclaresAfter c := by
    funext a b
    exact propext (edge_iff_declaresAfter hs)
  rw [DependencyGraph.DependsOn, hedges, Snapshot.DependsAfter]

theorem changes_iff_submitted_or_loses :
    (make s c).Changes id ↔ (∃ a, c.submitted? id = some a) ∨ s.Loses c id := by
  rw [Changes, incoming_eq_submitted, mem_removed_iff_loses]

/-- The affected modules are those that the change concerns. -/
theorem mem_affected_iff_concerned (hs : s.Keyed) :
    id ∈ (make s c).affected ↔ s.Concerned c id := by
  rw [mem_affected_iff, incoming_eq_submitted, archives_eq_archiveAfter]
  simp only [changes_iff_submitted_or_loses, dependsOn_eq_dependsAfter hs]
  constructor
  · rintro ⟨-, hconcerned⟩
    exact hconcerned
  · intro hconcerned
    refine ⟨?_, hconcerned⟩
    rcases hconcerned with ⟨a, ha⟩ | ⟨root, -, hpath⟩
    · exact ⟨a, Option.or_eq_some_iff.mpr (.inl ha)⟩
    · obtain ⟨d, ⟨a, ha, -⟩, -⟩ := TransGen.head'_iff.mp hpath
      exact ⟨a, ha⟩

theorem mem_order_iff : id ∈ (make s c).order ↔
    id ∈ (make s c).affected ∧ id ∈ (make s c).resolution.order := by
  rw [order, List.mem_filter, List.contains_iff_mem, and_comm]

end Plan

/-! ## Reports -/

section Request

variable {l : Loader} {state : LoaderState} {c : ChangeSet} {p : Progress} {run : Loader.Run}
  {id : ModuleId}

/-- There is an outcome for every affected and every removed module. -/
theorem Finished.mem_outcomes_iff (h : Finished l state c p run) :
    id ∈ run.report.outcomes.keys ↔
      id ∈ (state.plan c).affected ∨ id ∈ (state.plan c).removed := by
  obtain ⟨st, hfate, houtcome, -, -⟩ := h.exists_fate id
  rw [SortedMap.mem_keys_iff, houtcome]
  cases hfate with
  | removed found removed => exact iff_of_true rfl (.inr removed)
  | published affected accepted planned verdict => exact iff_of_true rfl (.inl affected)
  | failed affected reason => exact iff_of_true rfl (.inl affected)
  | kept notAffected notRemoved =>
    refine iff_of_false (Bool.false_ne_true) ?_
    rintro (haffected | hremoved)
    · exact notAffected haffected
    · exact notRemoved hremoved

theorem Finished.order_eq (h : Finished l state c p run) :
    run.report.order = (state.plan c).order := by
  rw [h.eq]
  rfl

/-- An accepted module fails neither for a cycle nor for a dependency that is not loaded. -/
theorem Finished.resolved_of_accepted (h : Finished l state c p run)
    (haccepted : id ∈ (state.plan c).graph.accepted) {e : ReloadError} {retained : Option Nat}
    (hfailed : run.report.outcomes.find? id = some (.failed e retained)) :
    (∀ cycle, e ≠ .cycle cycle) ∧ ∀ m missing, e ≠ .unresolved m missing := by
  rcases h.rejected_or_fault hfailed with hrejected | ⟨-, a, -, hfault⟩
  · have hnone := DependencyGraph.rejected_eq_none_of_mem_accepted haccepted
    cases hrejected.symm.trans hnone
  · constructor
    · rintro cycle rfl
      cases hfault
    · rintro m missing rfl
      cases hfault

/-- In every reachable state, the report of a request that is not cancelled is about exactly the
modules that the change-set concerns and those it removes. The modules to build are those that
resolving accepts, each after its dependencies; what it rejects fails with the error that it gives;
and no module that it accepts fails for a reason that resolving looks for. -/
theorem covers_of_not_cancelled (h : History) (r : Request)
    (hrun : (r.run h.state).report.cancelled = false) :
    (r.run h.state).report.Covers h.state.snapshot r.changes
      (Loader.resolveChanges h.state r.changes) := by
  obtain ⟨p, hfinished⟩ := Request.finished_of_not_cancelled hrun
  have hs := h.keyed_state
  have hconcerned : ∀ id, id ∈ (h.state.plan r.changes).affected ↔
      h.state.snapshot.Concerned r.changes id := fun id => Plan.mem_affected_iff_concerned hs
  have haccepted : ∀ id, id ∈ (Loader.resolveChanges h.state r.changes).order ↔
      id ∈ (h.state.plan r.changes).graph.accepted := fun id => DependencyGraph.mem_order_iff
  have horder : (r.run h.state).report.order.Sublist
      (Loader.resolveChanges h.state r.changes).order := by
    rw [hfinished.order_eq]
    exact List.filter_sublist
  constructor
  · exact SortedMap.keys_nodup _
  · intro id
    rw [hfinished.mem_outcomes_iff, hconcerned, Plan.mem_removed_iff_loses]
  · intro id
    rw [haccepted, DependencyGraph.mem_accepted_iff_not_rejected, Plan.mem_graph_iff hs,
      Plan.archives_eq_archiveAfter]
    rfl
  · exact (DependencyGraph.order_nodup _).sublist horder
  · intro id
    rw [hfinished.order_eq, Plan.mem_order_iff, hconcerned]
    rfl
  · rw [← Plan.dependsOn_eq_dependsAfter hs]
    exact (DependencyGraph.pairwise_order _).sublist horder
  · intro id e hid he
    exact ⟨_, hfinished.outcome_of_rejected ((hconcerned id).mpr hid) he⟩
  · intro id hid e retained hfailed
    exact hfinished.resolved_of_accepted ((haccepted id).mp hid) hfailed

end Request

/-- The report on the update of a library covers what the update concerns. -/
theorem covers_update :
    (Sample.update.run (History.empty.serve Sample.load).state).report.cancelled = false ∧
      (Sample.update.run (History.empty.serve Sample.load).state).report.Covers
        (History.empty.serve Sample.load).state.snapshot Sample.update.changes
        (Loader.resolveChanges (History.empty.serve Sample.load).state Sample.update.changes) := by
  have hrun : (Sample.update.run
      (History.empty.serve Sample.load).state).report.cancelled = false := by cbv
  exact ⟨hrun, covers_of_not_cancelled _ _ hrun⟩

end HotReload
