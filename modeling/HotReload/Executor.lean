import HotReload.Module.Basic

/-!
# Running code against modules

An executor runs the same code against several modules, all as one snapshot holds them, and counts for
each module how often it ran and failed. The code may keep a state from one run to the next.
-/

namespace HotReload

/-- What an executor has counted for a module. -/
structure ExecutionStats where
  executions : Nat
  failures : Nat
  /-- The revision of the module when it ran last. -/
  lastRevision : Nat
  deriving DecidableEq, Repr

namespace ExecutionStats

def none : ExecutionStats where
  executions := 0
  failures := 0
  lastRevision := 0

/-- Counts an execution of a module. -/
def count (s : ExecutionStats) (m : CompiledModule) (result : Except ε α) : ExecutionStats where
  executions := s.executions + 1
  failures := s.failures + (match result with | .ok _ => 0 | .error _ => 1)
  lastRevision := m.revision

end ExecutionStats

/-- The counts of an executor by module. -/
abbrev Executor := SortedMap ModuleId ExecutionStats

/-- The results of an execution and the counts after it. -/
structure Execution (ε α : Type) where
  results : SortedMap ModuleId (Except ε α)
  stats : Executor

namespace Executor

/-- Runs `code` against one module, unless it is not published. -/
def runOne (snapshot : Snapshot) (code : CompiledModule → StateM σ (Except ε α)) (e : Execution ε α)
    (id : ModuleId) : StateM σ (Execution ε α) :=
  match snapshot.find? id with
  | none => return e
  | some m => do
    let result ← code m
    return { results := e.results.insert id result
             stats := e.stats.insert id (((e.stats.find? id).getD .none).count m result) }

/-- Runs `code` against the given modules in turn; a module that is given twice runs twice, and its
last result counts. -/
def runFrom (stats : Executor) (snapshot : Snapshot) (ids : List ModuleId)
    (code : CompiledModule → StateM σ (Except ε α)) : StateM σ (Execution ε α) :=
  ids.foldlM (runOne snapshot code) ⟨∅, stats⟩

/-- Runs code that keeps no state. -/
def run (stats : Executor) (snapshot : Snapshot) (ids : List ModuleId)
    (code : CompiledModule → Except ε α) : Execution ε α :=
  ((runFrom stats snapshot ids fun m => (pure (code m) : StateM Unit _)).run ()).1

end Executor

end HotReload
