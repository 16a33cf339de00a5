import HotReload.Reload.Build
import HotReload.Reload.Plan
import HotReload.Reload.Report

/-!
# Reload cycles

A cycle takes a change-set from plan to commit. The affected modules are built tier by tier against a
candidate, which starts as the published modules without the removed ones and takes up every module
as it is built. A module that fails is left as it was. If anything was published or removed, the
candidate becomes the next snapshot; otherwise, or if the cycle is cancelled, nothing changes.
-/

namespace HotReload

/-- What stays the same over all cycles. -/
structure Loader where
  offer : Offer
  plugins : PluginTable
  settings : BuildSettings
  /-- How many builds of a tier may run at once, less one. -/
  extraBuilds : Nat

/-- What one cycle leaves to the next. -/
@[ext]
structure LoaderState where
  snapshot : Snapshot
  /-- The highest revision that each module has ever had. -/
  revisions : SortedMap ModuleId Nat

def LoaderState.initial : LoaderState where
  snapshot := .initial
  revisions := ∅

instance : Inhabited LoaderState := ⟨.initial⟩

/-- Whether a cycle is cancelled from outside when it checks for the n-th time. It checks before each
tier and once more before it commits. -/
abbrev Interruption := Nat → Bool

def Interruption.never : Interruption := fun _ => false

/-- The cycle is cancelled before it starts. -/
def Interruption.always : Interruption := fun _ => true

/-- The working state of a cycle. -/
structure Progress where
  /-- The modules as they will be published. -/
  candidate : ModuleMap
  revisions : SortedMap ModuleId Nat
  outcomes : Outcomes
  /-- Whether a build asked for the cycle to be cancelled. -/
  cancelled : Bool
  /-- The wait for the builds so far, and their scratch directories. -/
  footprint : Footprint

namespace Progress

def start (state : LoaderState) (plan : Plan) : Progress where
  candidate := state.snapshot.modules.filter fun id _ => !plan.removed.contains id
  revisions := state.revisions
  outcomes := ∅
  cancelled := false
  footprint := ∅

def hasFailed (p : Progress) (id : ModuleId) : Bool :=
  (p.outcomes.find? id).any (·.isFailure)

def fail (p : Progress) (current : Snapshot) (id : ModuleId) (error : ReloadError) : Progress :=
  { p with outcomes := p.outcomes.insert id (.failed error (current.revision? id)) }

/-- Takes up a module that was built, at the revision after the highest it has had. -/
def publish (p : Progress) (current : Snapshot) (archive : Archive) (boundary : Boundary)
    (output : BuildOutput) : Progress :=
  let id := archive.id
  let revision := (p.revisions.find? id).getD 0 + 1
  let compiled : CompiledModule := {
    revision
    archive
    environment := { boundary, own := output.symbols }
    compiler := output.compiler }
  { p with
    candidate := p.candidate.insert id compiled
    revisions := p.revisions.insert id revision
    outcomes := p.outcomes.insert id (.published revision (current.revision? id)) }

end Progress

/-- A build that was started. -/
structure Started where
  archive : Archive
  boundary : Boundary
  build : Build

namespace Loader

/-- Starts to build a module, unless one of its dependencies has failed or its boundary cannot be
made. -/
def start (l : Loader) (p : Progress) (archive : Archive) : Except ReloadError Started :=
  match archive.spec.dependencies.find? p.hasFailed with
  | some dependency => .error (.dependencyFailed archive.id dependency)
  | none => do
    let boundary ← l.offer.boundary l.plugins p.candidate archive.spec
    return { archive, boundary, build := .run l.settings l.plugins archive boundary }

/-- Starts to build some modules: the builds in the order of the modules, and the modules that could
not be started as failed. -/
def startAll (l : Loader) (current : Snapshot) (plan : Plan) (p : Progress) :
    List ModuleId → Progress × List Started
  | [] => (p, [])
  | id :: ids =>
    match plan.archives.find? id with
    | none => l.startAll current plan p ids
    | some archive =>
      match l.start p archive with
      | .error e => l.startAll current plan (p.fail current id e) ids
      | .ok started =>
        let (p, rest) := l.startAll current plan p ids
        (p, started :: rest)

def collect (current : Snapshot) (p : Progress) (s : Started) : Progress :=
  let p := { p with cancelled := p.cancelled || s.build.cancels }
  match s.build.result with
  | .ok output => p.publish current s.archive s.boundary output
  | .error e => p.fail current s.archive.id e

/-- Builds some modules at once: all builds start at the same moment and from the same candidate. -/
def buildTogether (l : Loader) (current : Snapshot) (plan : Plan) (p : Progress)
    (ids : List ModuleId) : Progress :=
  let (p, started) := l.startAll current plan p ids
  let footprint := Footprint.together (started.map (·.build.footprint))
  started.foldl (collect current) { p with footprint := p.footprint.andThen footprint }

/-- Cuts a list into pieces of `extra + 1` items; the last piece may be shorter. -/
def pieces (extra : Nat) : List α → List (List α)
  | [] => []
  | a :: rest => (a :: rest.take extra) :: pieces extra (rest.drop extra)
termination_by items => items.length
decreasing_by
  simp only [List.length_drop, List.length_cons]
  omega

def buildTier (l : Loader) (current : Snapshot) (plan : Plan) (p : Progress)
    (tier : List ModuleId) : Progress :=
  (pieces l.extraBuilds (plan.workOf tier)).foldl (l.buildTogether current plan) p

/-- Builds tier after tier, checking before each whether the cycle is cancelled; `checks` counts the
checks so far. The outcome tells whether the cycle was cancelled before the end. -/
def buildTiers (l : Loader) (current : Snapshot) (plan : Plan) (stop : Interruption)
    (checks : Nat) (p : Progress) : List (List ModuleId) → Progress × Bool
  | [] => (p, stop checks || p.cancelled)
  | tier :: tiers =>
    if stop checks || p.cancelled then (p, true)
    else l.buildTiers current plan stop (checks + 1) (l.buildTier current plan p tier) tiers

def rejectAffected (current : Snapshot) (plan : Plan) (p : Progress) : Progress :=
  plan.affected.foldl (fun p id =>
    match plan.resolution.rejected.find? id with
    | some e => p.fail current id e
    | none => p) p

/-- The outcomes of a cycle with those of the removed modules. -/
def withRemoved (current : Snapshot) (plan : Plan) (outcomes : Outcomes) : Outcomes :=
  plan.removed.foldl (fun outcomes id =>
    match current.revision? id with
    | some revision => outcomes.insert id (.removed revision)
    | none => outcomes) outcomes

structure Run where
  report : ReloadReport
  state : LoaderState
  /-- What listeners are told, in order. -/
  events : List Event
  /-- The wait for the builds, and their scratch directories. -/
  footprint : Footprint

/-- The end of a cycle that was cancelled: only failures are reported, and nothing changes. -/
def cancelledRun (state : LoaderState) (plan : Plan) (p : Progress) : Run where
  report := {
    order := plan.order
    committed := false
    cancelled := true
    version := state.snapshot.version
    outcomes := p.outcomes.filter fun _ outcome => outcome.isFailure }
  state
  events := []
  footprint := p.footprint

/-- What listeners are told about outcomes: first every change, then every failure. -/
def eventsOf (current : Snapshot) (candidate : ModuleMap) (outcomes : Outcomes) : List Event :=
  (outcomes.entries.filter fun e => !e.2.isFailure).map
      (fun e => .updated (candidate.find? e.1) (current.find? e.1)) ++
    outcomes.failures.map fun e => .rejected e.1 e.2

/-- The end of a cycle that was not cancelled. -/
def finishedRun (state : LoaderState) (plan : Plan) (p : Progress) : Run :=
  let current := state.snapshot
  let outcomes := withRemoved current plan p.outcomes
  let committed := outcomes.values.any fun outcome => !outcome.isFailure
  let after : LoaderState :=
    if committed then
      { snapshot := { version := current.version + 1, modules := p.candidate }
        revisions := p.revisions }
    else state
  { report := {
      order := plan.order
      committed
      cancelled := false
      version := after.snapshot.version
      outcomes }
    state := after
    events := eventsOf current p.candidate outcomes
    footprint := p.footprint }

/-- Applies a change-set. -/
def reload (l : Loader) (state : LoaderState) (changes : ChangeSet) (stop : Interruption) : Run :=
  let current := state.snapshot
  let plan := Plan.make current changes
  let p := rejectAffected current plan (.start state plan)
  match l.buildTiers current plan stop 0 p plan.resolution.tiers with
  | (p, true) => cancelledRun state plan p
  | (p, false) => finishedRun state plan p

/-- What a change-set resolves to, without building anything. -/
def resolveChanges (state : LoaderState) (changes : ChangeSet) : Resolution :=
  (Plan.make state.snapshot changes).resolution

end Loader

end HotReload
