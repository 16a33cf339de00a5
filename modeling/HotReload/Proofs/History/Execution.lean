import HotReload.Executor
import HotReload.Proofs.History.Links

/-!
# Counting executions

A session is what happens around one executor: requests are served, and code is run against the modules
that are published then. The counts of a module are the number of its runs and of those that failed
(`Session.stats_find?`). Within one call, code runs once for every place of the list at which a published
module stands, and a module has one result, that of its last run. So the counts agree with the results
where no module is listed twice (`Session.tallies_runFrom`), and not where one is
(`not_countsOnce_repeated`).
-/

namespace HotReload

/-- What is counted of a run of code against a module. -/
structure Attempt where
  id : ModuleId
  revision : Nat
  failed : Bool

/-- A run of code against a module. -/
structure ModuleRun (ε α : Type) where
  id : ModuleId
  module : CompiledModule
  result : Except ε α

def ModuleRun.attempt {ε α : Type} (r : ModuleRun ε α) : Attempt where
  id := r.id
  revision := r.module.revision
  failed := !r.result.toBool

/-- Counts with further attempts at a module. -/
def ExecutionStats.add (s : ExecutionStats) (attempts : List Attempt) : ExecutionStats where
  executions := s.executions + attempts.length
  failures := s.failures + attempts.countP Attempt.failed
  lastRevision := (attempts.getLast?.map Attempt.revision).getD s.lastRevision

theorem ExecutionStats.add_append (s : ExecutionStats) (attempts later : List Attempt) :
    s.add (attempts ++ later) = (s.add attempts).add later := by
  have hlast : ((attempts ++ later).getLast?.map Attempt.revision).getD s.lastRevision =
      (later.getLast?.map Attempt.revision).getD
        ((attempts.getLast?.map Attempt.revision).getD s.lastRevision) := by
    rw [List.getLast?_append]
    cases later.getLast? with
    | none => rfl
    | some t => rfl
  rw [add, add, add, List.length_append, List.countP_append, hlast, Nat.add_assoc, Nat.add_assoc]

/-- To count a run is to add an attempt. -/
theorem ExecutionStats.count_eq_add {ε α : Type} (s : ExecutionStats) (r : ModuleRun ε α) :
    s.count r.module r.result = s.add [r.attempt] := by
  obtain ⟨id, module, result⟩ := r
  cases result with
  | ok a => rfl
  | error e => rfl

/-- The counts of a module after further attempts at it; before the first one it has none. -/
def tallied (old : Option ExecutionStats) (attempts : List Attempt) : Option ExecutionStats :=
  if attempts.isEmpty then old else some ((old.getD .none).add attempts)

theorem getD_tallied (old : Option ExecutionStats) (attempts : List Attempt) :
    (tallied old attempts).getD .none = (old.getD .none).add attempts := by
  unfold tallied
  split
  next h =>
    rw [List.isEmpty_iff.mp h]
    rfl
  next => rfl

theorem tallied_append (old : Option ExecutionStats) (attempts later : List Attempt) :
    tallied old (attempts ++ later) = tallied (tallied old attempts) later := by
  cases later with
  | nil => rw [List.append_nil, tallied.eq_def _ [], List.isEmpty_nil, if_pos rfl]
  | cons t later =>
    rw [tallied, tallied, getD_tallied, ← ExecutionStats.add_append]
    simp

/-- The attempts at one module. -/
def attemptsAt (id : ModuleId) (attempts : List Attempt) : List Attempt :=
  attempts.filter fun t => t.id = id

namespace Executor

section Calls

variable {σ ε α : Type} {snapshot : Snapshot} {ids : List ModuleId} {id : ModuleId}
  {code : CompiledModule → StateM σ (Except ε α)}

/-- The published modules of a list, each as often as the list has it. -/
def published (snapshot : Snapshot) (ids : List ModuleId) : List (ModuleId × CompiledModule) :=
  ids.filterMap fun id => (snapshot.find? id).map (id, ·)

/-- Runs code against modules, one after the other. -/
def runAll (code : CompiledModule → StateM σ (Except ε α)) (modules : List (ModuleId × CompiledModule)) :
    StateM σ (List (ModuleRun ε α)) :=
  modules.mapM fun (id, module) => return { id, module, result := ← code module }

/-- Enters a run. -/
def enter (e : Execution ε α) (r : ModuleRun ε α) : Execution ε α where
  results := e.results.insert r.id r.result
  stats := e.stats.insert r.id (((e.stats.find? r.id).getD .none).count r.module r.result)

/-- An executor runs code against the published modules of the list and enters the runs in turn. -/
theorem foldlM_runOne (ids : List ModuleId) (e : Execution ε α) :
    ids.foldlM (runOne snapshot code) e =
      (fun ran => ran.foldl enter e) <$> runAll code (published snapshot ids) := by
  induction ids generalizing e with
  | nil => rfl
  | cons id ids ih =>
    rw [List.foldlM_cons, published, List.filterMap_cons]
    cases hfind : snapshot.find? id with
    | none =>
      simp only [runOne, hfind, pure_bind, Option.map_none]
      exact ih e
    | some m =>
      simp only [runOne, hfind, runAll, List.mapM_cons, Option.map_some, bind_assoc, map_bind,
        pure_bind, map_pure]
      congr 1
      funext result
      rw [ih]
      rfl

/-- The result of a module is that of its last run. -/
theorem results_foldl_enter (ran : List (ModuleRun ε α)) (e : Execution ε α) (id : ModuleId) :
    (ran.foldl enter e).results.find? id =
      ((ran.filter fun r => r.id = id).getLast?.map ModuleRun.result).or (e.results.find? id) := by
  induction ran using List.reverseRecOn with
  | nil => rfl
  | append_singleton ran r ih =>
    rw [List.foldl_append, List.foldl_cons, List.foldl_nil, enter, SortedMap.find?_insert, ih,
      List.filter_append]
    by_cases hr : r.id = id
    · simp [hr]
    · simp [hr, Ne.symm hr]

/-- Every run of a module adds to its counts. -/
theorem stats_foldl_enter (ran : List (ModuleRun ε α)) (e : Execution ε α) (id : ModuleId) :
    (ran.foldl enter e).stats.find? id =
      tallied (e.stats.find? id) (attemptsAt id (ran.map ModuleRun.attempt)) := by
  induction ran using List.reverseRecOn with
  | nil => rfl
  | append_singleton ran r ih =>
    rw [List.foldl_append, List.foldl_cons, List.foldl_nil, enter, SortedMap.find?_insert,
      List.map_append, attemptsAt, List.filter_append, tallied_append, ← attemptsAt, ← ih,
      List.map_singleton]
    by_cases hr : r.attempt.id = id
    · have hsome : [r.attempt].filter (fun t => decide (t.id = id)) = [r.attempt] := by simpa using hr
      subst hr
      rw [hsome]
      exact (if_pos rfl).trans (congrArg some (ExecutionStats.count_eq_add _ r))
    · have hnone : [r.attempt].filter (fun t => decide (t.id = id)) = [] := by simpa using hr
      rw [hnone]
      exact if_neg (Ne.symm hr)

/-- Code is run against all the modules, in their order. -/
theorem map_runAll (modules : List (ModuleId × CompiledModule)) (s : σ) :
    ((runAll code modules).run s).1.map (fun r => (r.id, r.module)) = modules := by
  induction modules generalizing s with
  | nil => rfl
  | cons m modules ih =>
    rw [runAll, List.mapM_cons]
    exact congrArg (m :: ·) (ih _)

/-- The module of a run is the one that is published. -/
theorem mem_published_iff {m : CompiledModule} :
    (id, m) ∈ published snapshot ids ↔ id ∈ ids ∧ snapshot.find? id = some m := by
  rw [published, List.mem_filterMap]
  constructor
  · rintro ⟨id', hid, heq⟩
    obtain ⟨m', hm, heq⟩ := Option.map_eq_some_iff.mp heq
    cases heq
    exact ⟨hid, hm⟩
  · rintro ⟨hid, hm⟩
    exact ⟨id, hid, Option.map_eq_some_iff.mpr ⟨m, hm, rfl⟩⟩

/-- A published module is run as often as the list has it. -/
theorem countP_published {m : CompiledModule} (hm : snapshot.find? id = some m) :
    (published snapshot ids).countP (fun e => e.1 = id) = ids.count id := by
  induction ids with
  | nil => rfl
  | cons other ids ih =>
    rw [published, List.filterMap_cons, List.count_cons]
    rw [published] at ih
    cases hfind : snapshot.find? other with
    | none =>
      have hne : other ≠ id := by
        rintro rfl
        rw [hm] at hfind
        cases hfind
      simp [ih, hne]
    | some m' => simp [List.countP_cons, ih]

/-- Every entry of a call counts as one run of its module. -/
def CountsOnce (before : Executor) (snapshot : Snapshot) (call : Execution ε α) : Prop :=
  ∀ id result, call.results.find? id = some result → ∃ m, snapshot.find? id = some m ∧
    call.stats.find? id = some {
      executions := ((before.find? id).getD .none).executions + 1
      failures := ((before.find? id).getD .none).failures + if result.toBool then 0 else 1
      lastRevision := m.revision }

/-- What a call makes of the runs of its code. -/
structure Tallies (before : Executor) (snapshot : Snapshot) (ids : List ModuleId)
    (ran : List (ModuleRun ε α)) (call : Execution ε α) : Prop where
  /-- Code runs once for each place of the list at which a published module stands. -/
  modules_eq : ran.map (fun r => (r.id, r.module)) = published snapshot ids
  /-- The entry of a module is the result of its last run. -/
  entry_eq : ∀ id, call.results.find? id =
    (ran.filter fun r => r.id = id).getLast?.map ModuleRun.result
  /-- Without an entry nothing is counted. -/
  unchanged : ∀ id, call.results.find? id = none → call.stats.find? id = before.find? id
  /-- With an entry all runs of the module are counted. -/
  counted : ∀ id result, call.results.find? id = some result → ∃ m, snapshot.find? id = some m ∧
    call.stats.find? id = some {
      executions := ((before.find? id).getD .none).executions + ids.count id
      failures := ((before.find? id).getD .none).failures +
        (ran.filter fun r => r.id = id).countP fun r => !r.result.toBool
      lastRevision := m.revision }
  /-- So there is one run for each entry if no module is listed twice. -/
  once : ids.Nodup → CountsOnce before snapshot call

theorem attemptsAt_map (ran : List (ModuleRun ε α)) (id : ModuleId) :
    attemptsAt id (ran.map ModuleRun.attempt) =
      (ran.filter fun r => r.id = id).map ModuleRun.attempt := by
  rw [attemptsAt, List.filter_map]
  rfl

section Entered

variable {ran : List (ModuleRun ε α)}
  (hran : ran.map (fun r => (r.id, r.module)) = published snapshot ids)

include hran

theorem find?_of_mem_ran {r : ModuleRun ε α} (hr : r ∈ ran) :
    r.id ∈ ids ∧ snapshot.find? r.id = some r.module := by
  apply mem_published_iff.mp
  rw [← hran]
  exact List.mem_map_of_mem hr

theorem length_ran {m : CompiledModule} (hm : snapshot.find? id = some m) :
    (ran.filter fun r => r.id = id).length = ids.count id := by
  rw [← countP_published hm, ← hran, List.countP_map, List.countP_eq_length_filter]
  rfl

/-- All runs of a module are counted. -/
theorem stats_of_last (before : Executor) {r : ModuleRun ε α}
    (hlast : (ran.filter fun r => r.id = id).getLast? = some r) :
    snapshot.find? id = some r.module ∧ (ran.foldl enter ⟨∅, before⟩).stats.find? id = some {
      executions := ((before.find? id).getD .none).executions + ids.count id
      failures := ((before.find? id).getD .none).failures +
        (ran.filter fun r => r.id = id).countP fun r => !r.result.toBool
      lastRevision := r.module.revision } := by
  obtain ⟨hmem, hid⟩ := List.mem_filter.mp (List.mem_of_getLast? hlast)
  obtain rfl : r.id = id := of_decide_eq_true hid
  have hm := (find?_of_mem_ran hran hmem).2
  refine ⟨hm, ?_⟩
  have hsome : ¬((ran.filter fun s => s.id = r.id).map ModuleRun.attempt).isEmpty = true := by
    rw [List.isEmpty_iff, List.map_eq_nil_iff]
    exact List.ne_nil_of_mem (List.mem_of_getLast? hlast)
  rw [stats_foldl_enter, attemptsAt_map, tallied, if_neg hsome, ExecutionStats.add, List.length_map,
    length_ran hran hm, List.countP_map, List.getLast?_map, hlast]
  rfl

end Entered

/-- Runs that are entered are tallied. -/
theorem tallies_foldl_enter {before : Executor} {ran : List (ModuleRun ε α)}
    (hran : ran.map (fun r => (r.id, r.module)) = published snapshot ids) :
    Tallies before snapshot ids ran (ran.foldl enter ⟨∅, before⟩) := by
  have hentry : ∀ id, (ran.foldl enter ⟨∅, before⟩).results.find? id =
      (ran.filter fun r => r.id = id).getLast?.map ModuleRun.result := by
    intro id
    rw [results_foldl_enter]
    exact Option.or_none
  have hlast : ∀ id result, (ran.foldl enter ⟨∅, before⟩).results.find? id = some result →
      ∃ r, (ran.filter fun r => r.id = id).getLast? = some r ∧ r.result = result := by
    intro id result hresult
    rw [hentry] at hresult
    exact Option.map_eq_some_iff.mp hresult
  refine ⟨hran, hentry, ?_, ?_, ?_⟩
  · intro id hnone
    rw [hentry, Option.map_eq_none_iff, List.getLast?_eq_none_iff] at hnone
    rw [stats_foldl_enter, attemptsAt_map, hnone]
    rfl
  · intro id result hresult
    obtain ⟨r, hr, rfl⟩ := hlast id result hresult
    exact ⟨r.module, stats_of_last hran before hr⟩
  · intro hnodup id result hresult
    obtain ⟨r, hr, rfl⟩ := hlast id result hresult
    obtain ⟨hm, hstats⟩ := stats_of_last hran before hr
    obtain ⟨hmem, hid⟩ := List.mem_filter.mp (List.mem_of_getLast? hr)
    obtain rfl : r.id = id := of_decide_eq_true hid
    have hcount : ids.count r.id = 1 :=
      List.count_eq_one_of_mem hnodup (find?_of_mem_ran hran hmem).1
    obtain ⟨s, hsingle⟩ := List.length_eq_one_iff.mp ((length_ran hran hm).trans hcount)
    rw [hsingle] at hr
    obtain rfl : s = r := Option.some.inj hr
    refine ⟨s.module, hm, ?_⟩
    rw [hstats, hcount, hsingle, List.countP_singleton]
    cases s.result.toBool with
    | false => rfl
    | true => rfl

/-- A call enters its runs. -/
theorem runFrom_eq (before : Executor) (ids : List ModuleId) (start : σ) :
    (runFrom before snapshot ids code).run start =
      let ran := (runAll code (published snapshot ids)).run start
      (ran.1.foldl enter ⟨∅, before⟩, ran.2) := by
  rw [runFrom, foldlM_runOne]
  rfl

end Calls

end Executor

/-! ## Sessions -/

/-- What happens around an executor: requests are served, and code is run, each time from a state of its
own. -/
inductive Session where
  | empty
  | serve (s : Session) (r : Request)
  | execute {σ ε α : Type} (s : Session) (ids : List ModuleId)
      (code : CompiledModule → StateM σ (Except ε α)) (start : σ)

namespace Session

/-- The requests of a session. -/
def history : Session → History
  | empty => .empty
  | serve s r => s.history.serve r
  | execute s _ _ _ => s.history

/-- What is published after a session. -/
def snapshot (s : Session) : Snapshot :=
  s.history.state.snapshot

/-- What the executor has counted. -/
def stats : Session → Executor
  | empty => ∅
  | serve s _ => s.stats
  | execute s ids code start => ((Executor.runFrom s.stats s.snapshot ids code).run start).1.stats

/-- All runs of a session. -/
def attempts : Session → List Attempt
  | empty => []
  | serve s _ => s.attempts
  | execute s ids code start => s.attempts ++
      ((Executor.runAll code (Executor.published s.snapshot ids)).run start).1.map ModuleRun.attempt

/-- The counts of a module are those of all its runs. -/
theorem stats_find? (s : Session) (id : ModuleId) :
    s.stats.find? id = tallied none (attemptsAt id s.attempts) := by
  induction s with
  | empty => rfl
  | serve s r ih => exact ih
  | execute s ids code start ih =>
    rw [stats, Executor.runFrom_eq, attempts, attemptsAt, List.filter_append, tallied_append,
      ← attemptsAt, ← ih]
    exact Executor.stats_foldl_enter _ _ id

/-- After every session the counts of a module are those of all its runs, and a call, of any list and any
code, counts the runs that it makes: the code runs once for each place of the list at which a published
module stands, and for no other. -/
theorem tallies_runFrom (s : Session) :
    (∀ id, s.stats.find? id = tallied none (attemptsAt id s.attempts)) ∧
      ∀ {σ ε α : Type} (ids : List ModuleId) (code : CompiledModule → StateM σ (Except ε α)) (start : σ),
        let ran := (Executor.runAll code (Executor.published s.snapshot ids)).run start
        let call := (Executor.runFrom s.stats s.snapshot ids code).run start
        call.2 = ran.2 ∧ Executor.Tallies s.stats s.snapshot ids ran.1 call.1 := by
  refine ⟨s.stats_find?, fun ids code start => ?_⟩
  dsimp only
  rw [Executor.runFrom_eq]
  exact ⟨rfl, Executor.tallies_foldl_enter (Executor.map_runAll _ start)⟩

end Session

namespace Sample

/-- A module whose function wants an argument is published. -/
def publishing : Session :=
  Session.empty.serve (request (ChangeSet.add ∅ (libraryArchive "let run=$1")))

/-- Calls the function without arguments, in the module that is listed twice. -/
def calledTwice : Execution CallError Value :=
  Executor.run publishing.stats publishing.snapshot [library, library] fun m => m.invoke "a.run" []

end Sample

/-- A module that is listed twice has one entry and two runs. -/
theorem not_countsOnce_repeated :
    ¬Executor.CountsOnce Sample.publishing.stats Sample.publishing.snapshot Sample.calledTwice := by
  intro h
  have hcall : (Sample.calledTwice.results.find? Sample.library).isSome = true ∧
      Sample.calledTwice.stats.find? Sample.library = some ⟨2, 2, 1⟩ := by cbv
  obtain ⟨hsome, hstats⟩ := hcall
  obtain ⟨result, hresult⟩ := Option.isSome_iff_exists.mp hsome
  obtain ⟨m, -, hcounted⟩ := h Sample.library result hresult
  rw [hstats] at hcounted
  have hexecutions : 2 = 0 + 1 := congrArg ExecutionStats.executions (Option.some.inj hcounted)
  cases hexecutions

end HotReload
