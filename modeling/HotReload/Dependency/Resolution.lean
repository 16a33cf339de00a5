import HotReload.Dependency.Cycles

/-!
# Build order

Resolving a dependency graph tells which modules can be built and in which order. First the modules
are rejected that lack a dependency or lie on a cycle, and after them, in rounds, those that depend
on rejected modules. A depth-first search then puts the other modules into an order in which every
module comes after its dependencies, and one pass over this order groups them into tiers: a module
belongs to the tier after the last one that holds a dependency of it.
-/

namespace HotReload

/-- What a graph resolves to. -/
structure Resolution where
  /-- The accepted modules, every one after its dependencies. -/
  order : List ModuleId
  /-- The accepted modules by the length of their longest chain of dependencies. -/
  tiers : List (List ModuleId)
  /-- The other modules and why they are rejected. -/
  rejected : SortedMap ModuleId ReloadError

/-- The distinct cycles among the reasons for rejection, in the order of the modules. -/
def Resolution.cycles (r : Resolution) : List Cycle :=
  (r.rejected.values.filterMap fun
    | .cycle c => some c
    | _ => none).eraseDups

namespace DependencyGraph

/-- A module with its dependencies. -/
abbrev Edges := ModuleId × List ModuleId

/-! ## Rejected modules -/

/-- The modules that are rejected for a missing dependency, the smallest of which is named. -/
def unresolved (g : DependencyGraph) : SortedMap ModuleId ReloadError :=
  .ofList (g.edges.entries.filterMap fun e =>
    ((inOrder e.2).find? fun d => !g.contains d).map fun missing =>
      (e.1, .unresolved e.1 missing))

/-- The modules that are rejected on their own account: as members of a cycle, or else for a
missing dependency. -/
def faults (g : DependencyGraph) : SortedMap ModuleId ReloadError :=
  (g.cycles.flatMap fun c => c.members.map fun id => (id, ReloadError.cycle c)).foldl
    (fun m e => m.insert e.1 e.2) g.unresolved

/-- Why a module that is not rejected yet is rejected on account of a rejected dependency, the
smallest of which is named. -/
def inheritedFault? (rejected : SortedMap ModuleId ReloadError) (e : Edges) :
    Option (ModuleId × ReloadError) :=
  if rejected.contains e.1 then none
  else
    ((inOrder e.2).find? rejected.contains).map fun dependency =>
      (e.1, .dependencyFailed e.1 dependency)

/-- What a round finds: the modules that inherit faults from the modules that are rejected. -/
def inheritedFaults (g : DependencyGraph) (rejected : SortedMap ModuleId ReloadError) :
    List (ModuleId × ReloadError) :=
  g.edges.entries.filterMap (inheritedFault? rejected)

/-- The modules of a graph that are not rejected, in ascending order. -/
def unrejected (g : DependencyGraph) (rejected : SortedMap ModuleId ReloadError) : List ModuleId :=
  g.modules.filter fun id => !rejected.contains id

/-- A round that finds a module to reject leaves fewer that are not rejected. -/
theorem length_unrejected_lt {g : DependencyGraph} {rejected : SortedMap ModuleId ReloadError}
    (h : g.inheritedFaults rejected ≠ []) :
    (g.unrejected ((g.inheritedFaults rejected).foldl (fun m e => m.insert e.1 e.2)
      rejected)).length < (g.unrejected rejected).length := by
  obtain ⟨e, he⟩ := List.exists_mem_of_ne_nil _ h
  obtain ⟨edges, hedges, hfault⟩ := List.mem_filterMap.1 he
  have hnew : edges.1 = e.1 ∧ ¬rejected.contains edges.1 = true := by
    unfold inheritedFault? at hfault
    split at hfault
    next => cases hfault
    next hnot =>
      obtain ⟨d, -, rfl⟩ := Option.map_eq_some_iff.1 hfault
      exact ⟨rfl, hnot⟩
  have hafter : ∀ id, ((g.inheritedFaults rejected).foldl (fun m e => m.insert e.1 e.2)
      rejected).contains id = true ↔
        id ∈ (g.inheritedFaults rejected).map (·.1) ∨ rejected.contains id = true :=
    fun id => SortedMap.contains_foldl_insert
  refine length_filter_lt (a := e.1) (fun id _ hfree => ?_) ?_ ?_ ?_
  · rw [Bool.not_eq_true', ← Bool.not_eq_true, hafter, not_or] at hfree
    rw [Bool.not_eq_true', ← Bool.not_eq_true]
    exact hfree.2
  · rw [← hnew.1]
    exact List.mem_map_of_mem hedges
  · rw [← hnew.1]
    simpa using hnew.2
  · simp [(hafter e.1).2 (.inl (List.mem_map_of_mem he))]

/-- Rejects the modules that depend on rejected ones, in rounds, until a round finds none: what a
round rejects counts from the next round on. -/
def spread (g : DependencyGraph) (rejected : SortedMap ModuleId ReloadError) :
    SortedMap ModuleId ReloadError :=
  if _none : g.inheritedFaults rejected = [] then rejected
  else g.spread ((g.inheritedFaults rejected).foldl (fun m e => m.insert e.1 e.2) rejected)
termination_by (g.unrejected rejected).length
decreasing_by exact length_unrejected_lt _none

/-- The rejected modules with the reasons. -/
def rejections (g : DependencyGraph) : SortedMap ModuleId ReloadError :=
  g.spread g.faults

/-! ## Order -/

/-- How far a search for an order has come. -/
structure OrderSearch where
  /-- The modules that were come upon, the latest first. -/
  met : List ModuleId
  /-- The modules whose dependencies were all followed, in the order in which that was done. -/
  order : List ModuleId

namespace OrderSearch

def empty : OrderSearch where
  met := []
  order := []

def meet (s : OrderSearch) (id : ModuleId) : OrderSearch where
  met := id :: s.met
  order := s.order

def append (s : OrderSearch) (id : ModuleId) : OrderSearch where
  met := s.met
  order := s.order ++ [id]

end OrderSearch

/-- Appends a module that was not met before to the order, after what its dependencies lead to, less
than `depth` deep. -/
def finish (g : DependencyGraph) : (depth : Nat) → OrderSearch → ModuleId → OrderSearch
  | 0, s, _ => s
  | depth + 1, s, id =>
    if s.met.contains id then s
    else ((g.sortedDependencies id).foldl (g.finish depth) (s.meet id)).append id

-- The order and the tiers do not unfold by themselves, lest comparing two plans compute them.

/-- The modules that are not rejected, every one after its dependencies and otherwise in ascending
order. -/
@[irreducible]
def orderOf (g : DependencyGraph) (rejected : SortedMap ModuleId ReloadError) : List ModuleId :=
  ((g.unrejected rejected).foldl (g.finish (g.size + 1)) .empty).order

/-! ## Tiers -/

/-- How far a pass over an order has come. -/
structure Leveling where
  /-- The numbers of the tiers of modules. -/
  level : SortedMap ModuleId Nat
  tiers : List (List ModuleId)

namespace Leveling

def empty : Leveling where
  level := ∅
  tiers := []

/-- Puts a module into a tier, with empty tiers in front of it if there are not enough. -/
def put (s : Leveling) (id : ModuleId) (level : Nat) : Leveling where
  level := s.level.insert id level
  tiers := (s.tiers.rightpad (level + 1) []).modify level (· ++ [id])

end Leveling

/-- The number of the tier after the last one that holds a dependency of a module. Dependencies
without a tier do not count. -/
def levelIn (g : DependencyGraph) (level : SortedMap ModuleId Nat) (id : ModuleId) : Nat :=
  ((g.dependencies id).filterMap fun d => (level.find? d).map (· + 1)).max?.getD 0

/-- The modules of an order by tiers, each tier in ascending order. -/
@[irreducible]
def tiersOf (g : DependencyGraph) (order : List ModuleId) : List (List ModuleId) :=
  (order.foldl (fun s id => s.put id (g.levelIn s.level id)) Leveling.empty).tiers.map inOrder

def resolve (g : DependencyGraph) : Resolution :=
  let rejected := g.rejections
  let order := g.orderOf rejected
  { order, tiers := g.tiersOf order, rejected }

end DependencyGraph

end HotReload
