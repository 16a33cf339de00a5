import HotReload.Module.Basic
import HotReload.Reload.Error

/-!
# Reports

What a reload tells: which modules it built in which order, whether it committed, and an outcome for
every module that it concerned. Listeners are told of the same changes one by one.
-/

namespace HotReload

inductive Outcome where
  /-- The module was published; `previous` is the revision it replaced. -/
  | published (revision : Nat) (previous : Option Nat)
  /-- The module was dropped. -/
  | removed (revision : Nat)
  /-- Nothing changed for the module; `retained` is the revision that is still published. -/
  | failed (error : ReloadError) (retained : Option Nat)

namespace Outcome

def isFailure : Outcome → Bool
  | .failed .. => true
  | _ => false

def error? : Outcome → Option ReloadError
  | .failed error _ => some error
  | _ => none

def message : Outcome → String
  | .published revision none => "published r" ++ revision.repr
  | .published revision (some previous) =>
    "published r" ++ revision.repr ++ " (was r" ++ previous.repr ++ ")"
  | .removed revision => "removed (was r" ++ revision.repr ++ ")"
  | .failed error none => "failed: " ++ error.message
  | .failed error (some retained) =>
    "failed, keeping r" ++ retained.repr ++ ": " ++ error.message

end Outcome

/-- The outcomes of a reload by module. -/
abbrev Outcomes := SortedMap ModuleId Outcome

/-- The modules that failed with their errors, in ascending order. -/
def Outcomes.failures (outcomes : Outcomes) : List (ModuleId × ReloadError) :=
  outcomes.entries.filterMap fun (id, outcome) => outcome.error?.map (id, ·)

/-- The result of a reload. -/
structure ReloadReport where
  /-- The modules to build, every one after its dependencies. -/
  order : List ModuleId
  /-- Whether a new snapshot was published. -/
  committed : Bool
  /-- Whether the reload was cancelled before it could commit. -/
  cancelled : Bool
  /-- The version of the snapshot that is published afterwards. -/
  version : Nat
  outcomes : Outcomes

namespace ReloadReport

/-- The modules that failed with their errors, in ascending order. -/
def failures (r : ReloadReport) : List (ModuleId × ReloadError) :=
  r.outcomes.failures

/-- Whether nothing failed and the reload was not cancelled. -/
def isSuccess (r : ReloadReport) : Bool :=
  !r.cancelled && r.failures.isEmpty

/-- The revision at which a module was published. -/
def publishedRevision? (r : ReloadReport) (id : ModuleId) : Option Nat :=
  match r.outcomes.find? id with
  | some (.published revision _) => some revision
  | _ => none

end ReloadReport

inductive Event where
  /-- A module was published, in place of `old` if there was one, or dropped. -/
  | updated (new old : Option CompiledModule)
  | rejected (id : ModuleId) (error : ReloadError)

/-- What each of some listeners is told, in the order in which they are told: every listener hears of
an event before the next event. -/
def deliver (listeners : List α) (events : List Event) : List (α × Event) :=
  events.flatMap fun event => listeners.map (·, event)

end HotReload
