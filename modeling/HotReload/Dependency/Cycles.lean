import HotReload.Dependency.Components
import HotReload.Reload.Error

/-!
# Dependency cycles

A component of several modules, or of one that depends on itself, is one cycle, shown by a shortest
loop through its smallest member.
-/

namespace HotReload.DependencyGraph

/-- How far a search for a loop has come. -/
structure LoopSearch where
  /-- The modules whose dependencies are next, the first one first. -/
  queue : List ModuleId
  /-- For each module that was found, a module that depends on it. -/
  cameFrom : SortedMap ModuleId ModuleId

namespace LoopSearch

def ofStart (start : ModuleId) : LoopSearch where
  queue := [start]
  cameFrom := ∅

/-- Notes that a module depends on another one, which joins the queue if it is a member and was not
found before. -/
def find (members : List ModuleId) (current : ModuleId) (s : LoopSearch) (dependency : ModuleId) :
    LoopSearch :=
  if dependency ∈ members ∧ !s.cameFrom.contains dependency then
    { queue := s.queue ++ [dependency], cameFrom := s.cameFrom.insert dependency current }
  else s

/-- Finds dependencies of a module one after the other until one of them is `start`, which closes a loop.
The flag tells whether that has happened. -/
def findUntil (start : ModuleId) (members : List ModuleId) (current : ModuleId)
    (s : LoopSearch × Bool) (dependency : ModuleId) : LoopSearch × Bool :=
  if s.2 then s
  else if dependency = start then (s.1, true)
  else (find members current s.1 dependency, false)

/-- The modules from the one where a search stands back to `start`, if they are at most `steps`. -/
def wayBack? (cameFrom : SortedMap ModuleId ModuleId) (start : ModuleId) :
    (steps : Nat) → (current : ModuleId) → Option (List ModuleId)
  | 0, _ => none
  | steps + 1, current =>
    if current = start then some [current]
    else
      match cameFrom.find? current with
      | none => none
      | some before => (wayBack? cameFrom start steps before).map (current :: ·)

end LoopSearch

/-- The loop through `start` at whose end a search first arrives, if its queue takes it there within
`steps` modules. -/
def shortestLoop? (g : DependencyGraph) (start : ModuleId) (members : List ModuleId) :
    (steps : Nat) → LoopSearch → Option (List ModuleId)
  | 0, _ => none
  | steps + 1, s =>
    match s.queue with
    | [] => none
    | current :: queue =>
      match (g.sortedDependencies current).foldl (LoopSearch.findUntil start members current)
          ({ s with queue }, false) with
      | (s, true) => (LoopSearch.wayBack? s.cameFrom start members.length current).map List.reverse
      | (s, false) => g.shortestLoop? start members steps s

/-- The cycle of a component, given in ascending order. -/
def cycleOf (g : DependencyGraph) (start : ModuleId) (members : List ModuleId) : Cycle where
  path := (g.shortestLoop? start members members.length (.ofStart start)).getD members
  members

/-- The cycle that a component is, if there is a loop in it. -/
def cycleIn? (g : DependencyGraph) (component : List ModuleId) : Option Cycle :=
  match inOrder component with
  | [] => none
  | start :: rest =>
    if rest ≠ [] ∨ start ∈ g.dependencies start then some (g.cycleOf start (start :: rest)) else none

/-- The cycles of the graph. -/
def cycles (g : DependencyGraph) : List Cycle :=
  g.components.filterMap g.cycleIn?

end HotReload.DependencyGraph
