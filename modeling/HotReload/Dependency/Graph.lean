import HotReload.ModuleSpec.Basic

/-!
# Dependency graphs

The declared dependencies of a set of modules. A dependency may be missing from the graph.
-/

namespace HotReload

/-- The direct dependencies of modules. -/
@[ext]
structure DependencyGraph where
  edges : SortedMap ModuleId (List ModuleId)

namespace DependencyGraph

instance : EmptyCollection DependencyGraph := ⟨⟨∅⟩⟩

def insert (g : DependencyGraph) (id : ModuleId) (dependencies : List ModuleId) :
    DependencyGraph :=
  ⟨g.edges.insert id dependencies⟩

def ofSpecs (specs : List ModuleSpec) : DependencyGraph :=
  specs.foldl (fun g spec => g.insert spec.id spec.dependencies) ∅

def modules (g : DependencyGraph) : List ModuleId :=
  g.edges.keys

def contains (g : DependencyGraph) (id : ModuleId) : Bool :=
  g.edges.contains id

def size (g : DependencyGraph) : Nat :=
  g.edges.size

/-- The direct dependencies of a module, as declared. -/
def dependencies (g : DependencyGraph) (id : ModuleId) : List ModuleId :=
  (g.edges.find? id).getD []

/-- Modules in ascending order. -/
def inOrder (ids : List ModuleId) : List ModuleId :=
  ids.mergeSort fun a b => (compare a b).isLE

def sortedDependencies (g : DependencyGraph) (id : ModuleId) : List ModuleId :=
  inOrder (g.dependencies id)

/-- The modules that directly depend on a module, in ascending order. -/
def dependents (g : DependencyGraph) (id : ModuleId) : List ModuleId :=
  (g.edges.entries.filter fun e => e.2.contains id).map (·.1)

/-- The direct dependents of a module that were not found before. -/
def newDependents (g : DependencyGraph) (found : List ModuleId) (id : ModuleId) : List ModuleId :=
  (g.dependents id).filter fun dependent => !found.contains dependent

/-- If a module has new dependents, fewer modules are left to be found. -/
theorem newDependents_lt (g : DependencyGraph) (found stack : List ModuleId) (id : ModuleId) :
    Prod.Lex (· < ·) (· < ·)
      ((g.edges.keysBut ((g.newDependents found id).reverse ++ found)).length,
        ((g.newDependents found id).reverse ++ stack).length)
      ((g.edges.keysBut found).length, (id :: stack).length) := by
  cases hnew : g.newDependents found id with
  | nil => exact .right _ (Nat.lt_succ_self _)
  | cons dependent rest =>
    have hmem : dependent ∈ g.newDependents found id := hnew ▸ List.mem_cons_self
    obtain ⟨hdependent, hfresh⟩ := List.mem_filter.1 hmem
    obtain ⟨e, he, rfl⟩ := List.mem_map.1 hdependent
    refine .left _ _ (SortedMap.length_keysBut_lt (k := e.1) ?_ ?_ ?_ ?_)
    · exact List.mem_map_of_mem (List.mem_filter.1 he).1
    · simpa using hfresh
    · simp
    · exact List.subset_append_right _ _

/-- Adds to the modules that were found those from which dependencies lead to a module of the stack. What
is found newly goes onto the stack. -/
def collectDependents (g : DependencyGraph) (found stack : List ModuleId) : List ModuleId :=
  match stack with
  | [] => found
  | current :: stack =>
    let new := (g.newDependents found current).reverse
    g.collectDependents (new ++ found) (new ++ stack)
termination_by ((g.edges.keysBut found).length, stack.length)
decreasing_by exact g.newDependents_lt found stack current

/-- The modules that depend on one of the roots, directly or not, in ascending order. A root is among
them only if it depends on a root itself. -/
def transitiveDependents (g : DependencyGraph) (roots : List ModuleId) : List ModuleId :=
  inOrder (g.collectDependents [] roots.reverse)

end DependencyGraph

end HotReload
