import HotReload.Dependency.Resolution
import HotReload.Module.Basic

/-!
# Planning a reload

A change-set names archives to add or update and modules to remove. Against a snapshot it comes down
to a plan: which archives there will be, which modules are affected, and in which order these can be
built. A module is affected if an archive is submitted for it or if it depends, directly or not, on a
module that is submitted or removed.
-/

namespace HotReload

/-- Archives to add or update and modules to remove. Adding a module that is published updates it, and
updating one that is not adds it. -/
structure ChangeSet where
  adds : List Archive
  updates : List Archive
  removes : List ModuleId

namespace ChangeSet

instance : EmptyCollection ChangeSet := ⟨⟨[], [], []⟩⟩

def add (c : ChangeSet) (archive : Archive) : ChangeSet :=
  { c with adds := c.adds ++ [archive] }

def update (c : ChangeSet) (archive : Archive) : ChangeSet :=
  { c with updates := c.updates ++ [archive] }

def remove (c : ChangeSet) (id : ModuleId) : ChangeSet :=
  { c with removes := c.removes ++ [id] }

def isEmpty (c : ChangeSet) : Bool :=
  c.adds.isEmpty && c.updates.isEmpty && c.removes.isEmpty

/-- The archives that count, by module: of several for one module the last, where additions come
before updates, and none for a module that is removed. -/
def incoming (c : ChangeSet) : SortedMap ModuleId Archive :=
  (SortedMap.ofList ((c.adds ++ c.updates).map fun a => (a.id, a))).filter fun id _ =>
    !c.removes.contains id

end ChangeSet

/-- A change-set seen against a snapshot. -/
structure Plan where
  /-- The submitted archives that count. -/
  incoming : SortedMap ModuleId Archive
  /-- The published modules to remove, in ascending order. -/
  removed : List ModuleId
  /-- All archives after the change. -/
  archives : SortedMap ModuleId Archive
  /-- The modules to build, in ascending order. -/
  affected : List ModuleId
  /-- What the dependencies of all archives resolve to. -/
  resolution : Resolution

namespace Plan

/-- The plan of a change-set for a snapshot. -/
def make (current : Snapshot) (changes : ChangeSet) : Plan :=
  let incoming := changes.incoming
  let removed := current.modules.keys.filter changes.removes.contains
  let kept := (current.modules.filter fun id _ => !changes.removes.contains id).mapValues
    fun _ m => m.archive
  let archives := incoming.entries.foldl (fun all e => all.insert e.1 e.2) kept
  let graph := DependencyGraph.ofSpecs (archives.values.map (·.spec))
  let dependents := graph.transitiveDependents (incoming.keys ++ removed)
  let affected := archives.keys.filter fun id => incoming.contains id || dependents.contains id
  { incoming, removed, archives, affected, resolution := graph.resolve }

/-- The affected modules that can be built, every one after its dependencies. -/
def order (p : Plan) : List ModuleId :=
  p.resolution.order.filter p.affected.contains

/-- The affected modules of a tier. -/
def workOf (p : Plan) (tier : List ModuleId) : List ModuleId :=
  tier.filter p.affected.contains

end Plan

end HotReload
