import HotReload.Proofs.History.Publication
import HotReload.Proofs.Reload.Turn

/-!
# Which of several archives counts

A change-set is made by calls that add archives, update archives and remove modules, in any order. It
keeps what is added apart from what is updated, so that of the order of the calls only the order within
each kind is left. Of several archives for one module the last update counts, and the last addition
only if there is no update (`incoming_ofCalls`). This is the archive that was submitted last, unless the
module was updated first and added afterwards (`lastSubmitted?_eq`, `uses_not_last`).
-/

namespace HotReload

namespace ChangeSet

/-- A call that contributes to a change-set. -/
inductive Call where
  | add (archive : Archive)
  | update (archive : Archive)
  | remove (id : ModuleId)

namespace Call

def apply (c : ChangeSet) : Call → ChangeSet
  | add archive => c.add archive
  | update archive => c.update archive
  | remove id => c.remove id

def added? : Call → Option Archive
  | add archive => some archive
  | _ => none

def updated? : Call → Option Archive
  | update archive => some archive
  | _ => none

def removed? : Call → Option ModuleId
  | remove id => some id
  | _ => none

/-- The archive that a call adds or updates. -/
def submitted? (call : Call) : Option Archive :=
  call.added?.or call.updated?

end Call

/-- The change-set that calls make, one after the other. -/
def ofCalls (calls : List Call) : ChangeSet :=
  calls.foldl Call.apply ∅

/-- The last archive of a module that one of the calls has in the given way. -/
def last? (has : Call → Option Archive) (calls : List Call) (id : ModuleId) : Option Archive :=
  ((calls.filterMap has).filter (·.id = id)).getLast?

def lastAdded? : List Call → ModuleId → Option Archive :=
  last? Call.added?

def lastUpdated? : List Call → ModuleId → Option Archive :=
  last? Call.updated?

def lastSubmitted? : List Call → ModuleId → Option Archive :=
  last? Call.submitted?

/-- The last archive submitted for a module is added, and the module was updated before. -/
def AddedAfterUpdate (calls : List Call) (id : ModuleId) : Prop :=
  ∃ before a after, calls = before ++ .add a :: after ∧ a.id = id ∧
    (lastUpdated? before id).isSome ∧ lastSubmitted? after id = none

section Calls

variable {calls : List Call} {call : Call} {id : ModuleId}

/-- The lists of a change-set hold what the calls of each kind have, in the order of the calls. -/
theorem foldl_apply (calls : List Call) (c : ChangeSet) :
    calls.foldl Call.apply c = {
      adds := c.adds ++ calls.filterMap Call.added?
      updates := c.updates ++ calls.filterMap Call.updated?
      removes := c.removes ++ calls.filterMap Call.removed? } := by
  induction calls generalizing c with
  | nil => simp
  | cons call calls ih =>
    rw [List.foldl_cons, ih]
    cases call with
    | add archive => simp [List.filterMap_cons, Call.apply, ChangeSet.add, Call.added?,
        Call.updated?, Call.removed?]
    | update archive => simp [List.filterMap_cons, Call.apply, ChangeSet.update, Call.added?,
        Call.updated?, Call.removed?]
    | remove id => simp [List.filterMap_cons, Call.apply, ChangeSet.remove, Call.added?,
        Call.updated?, Call.removed?]

theorem ofCalls_eq (calls : List Call) :
    ofCalls calls = {
      adds := calls.filterMap Call.added?
      updates := calls.filterMap Call.updated?
      removes := calls.filterMap Call.removed? } :=
  foldl_apply calls ∅

theorem mem_removed_iff : id ∈ calls.filterMap Call.removed? ↔ .remove id ∈ calls := by
  rw [List.mem_filterMap]
  constructor
  · rintro ⟨call, hcall, hid⟩
    cases call with
    | remove i =>
      cases hid
      exact hcall
    | add archive => cases hid
    | update archive => cases hid
  · intro hcall
    exact ⟨_, hcall, rfl⟩

/-- The archive that counts for a module: the last update, and otherwise the last addition. -/
theorem incoming_ofCalls (calls : List Call) (id : ModuleId) :
    (ofCalls calls).incoming.find? id =
      if id ∈ calls.filterMap Call.removed? then none
      else (lastUpdated? calls id).or (lastAdded? calls id) := by
  rw [incoming_find?, ofCalls_eq, List.filter_append, List.getLast?_append]
  rfl

theorem last?_concat (has : Call → Option Archive) (calls : List Call) (call : Call)
    (id : ModuleId) :
    last? has (calls ++ [call]) id = ((has call).filter (·.id = id)).or (last? has calls id) := by
  rw [last?, List.filterMap_append, List.filter_append, List.getLast?_append, last?]
  congr 1
  cases hcall : has call with
  | none => simp [hcall]
  | some a =>
    by_cases ha : a.id = id
    · simp [hcall, ha, Option.filter_some]
    · simp [hcall, ha, Option.filter_some]

theorem AddedAfterUpdate.concat (h : AddedAfterUpdate calls id)
    (hcall : call.submitted?.filter (·.id = id) = none) : AddedAfterUpdate (calls ++ [call]) id := by
  obtain ⟨before, a, after, rfl, ha, hbefore, hafter⟩ := h
  refine ⟨before, a, after ++ [call], by simp, ha, hbefore, ?_⟩
  rw [lastSubmitted?, last?_concat, hcall]
  exact hafter

/-- The archive that counts is the one submitted last, unless an addition comes after an update. -/
theorem lastSubmitted?_eq (h : ¬AddedAfterUpdate calls id) :
    lastSubmitted? calls id = (lastUpdated? calls id).or (lastAdded? calls id) := by
  -- From the last call backwards: the first one that submits an archive of the module decides.
  induction calls using List.reverseRecOn with
  | nil => rfl
  | append_singleton calls call ih =>
    have hrest : call.submitted?.filter (·.id = id) = none →
        lastSubmitted? calls id = (lastUpdated? calls id).or (lastAdded? calls id) :=
      fun hcall => ih fun hadded => h (hadded.concat hcall)
    simp only [lastSubmitted?, lastUpdated?, lastAdded?, last?_concat] at hrest ⊢
    cases call with
    | remove i => exact hrest rfl
    | update a =>
      by_cases ha : a.id = id
      · simp [Call.submitted?, Call.added?, Call.updated?, Option.filter_some, ha]
      · simpa [Call.submitted?, Call.added?, Call.updated?, Option.filter_some, ha] using hrest
    | add a =>
      by_cases ha : a.id = id
      · have hnone : last? Call.updated? calls id = none := by
          by_contra hsome
          exact h ⟨calls, a, [], rfl, ha, Option.isSome_iff_ne_none.mpr hsome, rfl⟩
        simp [Call.submitted?, Call.added?, Call.updated?, Option.filter_some, ha, hnone]
      · simpa [Call.submitted?, Call.added?, Call.updated?, Option.filter_some, ha] using hrest

end Calls

end ChangeSet

/-! ## What a request works with -/

namespace Request

/-- A request works with an archive for a module: it resolves its dependencies, builds it when the turn
of the module comes, and publishes it if it publishes the module. -/
structure Uses (r : Request) (state : LoaderState) (id : ModuleId) (a : Archive) : Prop where
  resolved : Loader.resolveChanges state r.changes = (state.plan r.changes).graph.resolve ∧
    (state.plan r.changes).graph.edges.find? id = some a.spec.dependencies
  built : ∀ b q, r.loader.Turn state r.changes r.stop id b q → b = a
  published : ∀ revision previous,
    (r.run state).report.outcomes.find? id = some (.published revision previous) →
      ∃ m, (r.run state).state.snapshot.find? id = some m ∧ m.archive = a

/-- A request works with no archive for a module. -/
structure Drops (r : Request) (state : LoaderState) (id : ModuleId) : Prop where
  resolved : Loader.resolveChanges state r.changes = (state.plan r.changes).graph.resolve ∧
    id ∉ (state.plan r.changes).graph.modules
  built : ∀ b q, ¬r.loader.Turn state r.changes r.stop id b q
  published : ∀ revision previous,
    (r.run state).report.outcomes.find? id ≠ some (.published revision previous)

/-- What a request makes of the archives that the calls of its change-set submit. -/
structure Heeds (r : Request) (state : LoaderState) (calls : List ChangeSet.Call) : Prop where
  removed : ∀ id, .remove id ∈ calls → r.Drops state id
  /-- The last submission wins, unless it is an addition after an update. -/
  last : ∀ id a, .remove id ∉ calls → ¬ChangeSet.AddedAfterUpdate calls id →
    ChangeSet.lastSubmitted? calls id = some a → r.Uses state id a
  /-- Otherwise the last update wins. -/
  updated : ∀ id a, .remove id ∉ calls → ChangeSet.AddedAfterUpdate calls id →
    ChangeSet.lastUpdated? calls id = some a → r.Uses state id a

variable {r : Request} {h : History} {id : ModuleId} {a : Archive}

/-- A published module was built from the archive that was planned for it. -/
theorem archive_of_published {revision : Nat} {previous : Option Nat}
    (hpublished : (r.run h.state).report.outcomes.find? id = some (.published revision previous)) :
    ∃ m, (r.run h.state).state.snapshot.find? id = some m ∧
      (h.state.plan r.changes).archives.find? id = some m.archive := by
  obtain ⟨p, hfinished⟩ := finished_of_published hpublished
  obtain ⟨st, hfate, houtcome, hentry, -⟩ := hfinished.exists_fate id
  rw [houtcome] at hpublished
  cases hfate with
  | removed found removed => cases hpublished
  | published affected accepted planned verdict => exact ⟨_, hentry, planned⟩
  | failed affected reason => cases hpublished
  | kept notAffected notRemoved => cases hpublished

theorem uses_of_planned (ha : (h.state.plan r.changes).archives.find? id = some a) :
    r.Uses h.state id a := by
  constructor
  · refine ⟨rfl, ?_⟩
    rw [Plan.graph_edges_find? h.keyed_state, ha]
    rfl
  · intro b q hturn
    cases hturn with
    | intro tiers built cut planned => exact Option.some.inj (planned.symm.trans ha)
  · intro revision previous hpublished
    obtain ⟨m, hm, hplanned⟩ := archive_of_published hpublished
    exact ⟨m, hm, Option.some.inj (hplanned.symm.trans ha)⟩

theorem drops_of_not_planned (ha : (h.state.plan r.changes).archives.find? id = none) :
    r.Drops h.state id := by
  constructor
  · refine ⟨rfl, ?_⟩
    rw [Plan.mem_graph_iff h.keyed_state, ha]
    rintro ⟨b, hb⟩
    cases hb
  · intro b q hturn
    cases hturn with
    | intro tiers built cut planned => cases planned.symm.trans ha
  · intro revision previous hpublished
    obtain ⟨m, -, hplanned⟩ := archive_of_published hpublished
    cases hplanned.symm.trans ha

end Request

section Calls

variable {calls : List ChangeSet.Call} {state : LoaderState} {id : ModuleId} {a : Archive}

/-- Nothing is planned for a module that a call removes. -/
theorem planned_of_removed (hid : .remove id ∈ calls) :
    (state.plan (.ofCalls calls)).archives.find? id = none := by
  have hremoves : id ∈ (ChangeSet.ofCalls calls).removes := by
    rw [ChangeSet.ofCalls_eq]
    exact ChangeSet.mem_removed_iff.mpr hid
  have hincoming : (ChangeSet.ofCalls calls).incoming.find? id = none := by
    rw [ChangeSet.incoming_find?, if_pos hremoves]
  rw [Plan.archives_find?, hincoming, if_pos hremoves]
  rfl

/-- What is planned for a module that calls submit but do not remove is the archive that counts. -/
theorem planned_of_submitted (hid : .remove id ∉ calls)
    (ha : (ChangeSet.lastUpdated? calls id).or (ChangeSet.lastAdded? calls id) = some a) :
    (state.plan (.ofCalls calls)).archives.find? id = some a := by
  have hnot : id ∉ calls.filterMap ChangeSet.Call.removed? := fun hmem =>
    hid (ChangeSet.mem_removed_iff.mp hmem)
  rw [Plan.archives_find?, ChangeSet.incoming_ofCalls, if_neg hnot, ha]
  rfl

end Calls

/-- In every reachable state and for every sequence of calls, no archive is used for a module that a
call removes. For every other module the archive submitted last is used, unless it is added after the
module was updated; then the last update is used. -/
theorem heeds_ofCalls (h : History) (l : Loader) (calls : List ChangeSet.Call)
    (stop : Interruption) :
    ({ loader := l, changes := .ofCalls calls, stop } : Request).Heeds h.state calls := by
  constructor
  · intro id hid
    exact Request.drops_of_not_planned (planned_of_removed hid)
  · intro id a hid hlast ha
    rw [ChangeSet.lastSubmitted?_eq hlast] at ha
    exact Request.uses_of_planned (planned_of_submitted hid ha)
  · intro id a hid _ ha
    refine Request.uses_of_planned (planned_of_submitted hid ?_)
    rw [ha]
    rfl

namespace Sample

/-- The library is updated and then added. -/
def updateThenAdd : List ChangeSet.Call :=
  [.update (libraryArchive "let x=1"), .add (libraryArchive "let x=2")]

end Sample

/-- The last submission need not win: of an update and a later addition the update is used. -/
theorem uses_not_last :
    .remove Sample.library ∉ Sample.updateThenAdd ∧
      ChangeSet.lastSubmitted? Sample.updateThenAdd Sample.library =
        some (Sample.libraryArchive "let x=2") ∧
      ¬(Sample.request (.ofCalls Sample.updateThenAdd)).Uses .initial Sample.library
        (Sample.libraryArchive "let x=2") := by
  have hpublished : ((Sample.request (.ofCalls Sample.updateThenAdd)).run
      .initial).report.outcomes.find? Sample.library = some (.published 1 none) := by cbv
  have hsource : (((Sample.request (.ofCalls Sample.updateThenAdd)).run
      .initial).state.snapshot.find? Sample.library).bind (·.archive.find? "m.rls") =
        some "let x=1".toUTF8 := by cbv
  refine ⟨by simp [Sample.updateThenAdd], by rfl, ?_⟩
  intro huses
  obtain ⟨m, hm, harchive⟩ := huses.published 1 none hpublished
  rw [hm, Option.bind_some, harchive] at hsource
  have hother : (Sample.libraryArchive "let x=2").find? "m.rls" = some "let x=2".toUTF8 := by cbv
  have hsame : "let x=2".toUTF8 = "let x=1".toUTF8 := Option.some.inj (hother.symm.trans hsource)
  revert hsame
  decide

end HotReload
