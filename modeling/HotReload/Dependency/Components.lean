import HotReload.Dependency.Graph

/-!
# Components

Two modules belong to the same component if each of them leads to the other along dependencies.
`components` finds the components by Tarjan's algorithm. A depth-first search numbers the modules in
the order in which it comes upon them and keeps them on a stack as long as their components may grow.
For each module it notes the lowest number on the stack that it leads to, as far as is known. A
module that leads to none below its own is the first of its component, and the rest of the component
stands above it on the stack.
-/

namespace HotReload.DependencyGraph

/-- How far a search for components has come. -/
structure ComponentSearch where
  /-- The number that is given to the next module. -/
  next : Nat
  /-- The numbers of the modules that were visited. -/
  index : SortedMap ModuleId Nat
  /-- For each module that was visited a number on the stack that it leads to. -/
  low : SortedMap ModuleId Nat
  /-- The modules whose components are not complete, the latest first. -/
  stack : List ModuleId
  /-- The complete components, the latest first. -/
  components : List (List ModuleId)

namespace ComponentSearch

def empty : ComponentSearch where
  next := 0
  index := ∅
  low := ∅
  stack := []
  components := []

/-- Numbers a module and puts it on the stack. -/
def enter (s : ComponentSearch) (node : ModuleId) : ComponentSearch where
  next := s.next + 1
  index := s.index.insert node s.next
  low := s.low.insert node s.next
  stack := node :: s.stack
  components := s.components

/-- Notes that a module leads to a number. -/
def lower (s : ComponentSearch) (node : ModuleId) (reached : Nat) : ComponentSearch :=
  match s.low.find? node with
  | some low => { s with low := s.low.insert node (min low reached) }
  | none => s

/-- Takes the component of a module off the stack if the module is the first of it. -/
def leave (s : ComponentSearch) (node : ModuleId) : ComponentSearch :=
  if s.low.find? node = s.index.find? node then
    { s with
      stack := (s.stack.dropWhile (· != node)).tail
      components := (s.stack.takeWhile (· != node) ++ [node]) :: s.components }
  else s

end ComponentSearch

/-- Follows a dependency of a module, which is visited unless it was before. -/
def follow (g : DependencyGraph) (visit : ComponentSearch → ModuleId → ComponentSearch)
    (node : ModuleId) (s : ComponentSearch) (dependency : ModuleId) : ComponentSearch :=
  if g.contains dependency then
    match s.index.find? dependency with
    | none =>
      let s := visit s dependency
      match s.low.find? dependency with
      | some reached => s.lower node reached
      | none => s
    | some reached => if dependency ∈ s.stack then s.lower node reached else s
  else s

/-- Visits a module and what it leads to, less than `depth` deep. -/
def visit (g : DependencyGraph) : (depth : Nat) → ComponentSearch → ModuleId → ComponentSearch
  | 0, s, _ => s
  | depth + 1, s, node =>
    ((g.sortedDependencies node).foldl (g.follow (g.visit depth) node) (s.enter node)).leave node

/-- Visits a module unless that was done before. -/
def visitNew (g : DependencyGraph) (s : ComponentSearch) (node : ModuleId) : ComponentSearch :=
  if s.index.contains node then s else g.visit g.size s node

/-- The components of the graph, each after those that it depends on. -/
def components (g : DependencyGraph) : List (List ModuleId) :=
  (g.modules.foldl g.visitNew .empty).components.reverse

end HotReload.DependencyGraph
