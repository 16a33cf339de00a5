import HotReload.Module.Basic
import HotReload.Plugin.Basic
import HotReload.Reload.Error

/-!
# What a module is linked to

The boundary of a module holds the core symbols; the modules that it depends on, directly or not; the
runtime symbols of the plugins it declares; and the host symbols that lie both in an exposed package
and in one of its imports. Dependencies are listed depth first in the order of their declaration, each
where it is met first.
-/

namespace HotReload

/-- What every module may be given, whatever it depends on. -/
structure Offer where
  core : SymbolTable
  host : SymbolTable
  /-- The packages of the host that modules may import. -/
  exposed : List String

/-- Whether a name lies in an exposed package and in an import. -/
def admits (exposed imports : List String) (name : String) : Bool :=
  exposed.any (within name) && imports.any (within name)

/-- How far following dependencies has come. -/
structure Flattening where
  /-- The ids of the modules that were met, the latest first. -/
  met : List ModuleId
  /-- The modules in the order in which they were met. -/
  order : List CompiledModule

namespace Flattening

def empty : Flattening where
  met := []
  order := []

def meet (s : Flattening) (id : ModuleId) (m : CompiledModule) : Flattening where
  met := id :: s.met
  order := s.order ++ [m]

end Flattening

/-- Follows dependencies. The stack holds pairs of a module and one of its dependencies, the next to be
followed first. A module may stand on it several times, but counts only where it is met first. A
dependency that is no candidate makes the module that needs it unresolved. -/
def flatten (candidates : ModuleMap) (s : Flattening) (stack : List (ModuleId × ModuleId)) :
    Except ReloadError Flattening :=
  match stack with
  | [] => .ok s
  | (dependent, dependency) :: stack =>
    if s.met.contains dependency then flatten candidates s stack
    else
      match _found : candidates.find? dependency with
      | none => .error (.unresolved dependent dependency)
      | some m =>
        let after := s.meet dependency m
        let next := m.spec.dependencies.filter fun d => !after.met.contains d
        flatten candidates after (next.map (dependency, ·) ++ stack)
termination_by ((candidates.keysBut s.met).length, stack.length)
decreasing_by
  · exact .right _ (Nat.lt_succ_self _)
  · rename_i hnew
    refine .left _ _ (SortedMap.length_keysBut_lt (k := dependency) ?_ ?_ ?_ ?_)
    · rw [SortedMap.mem_keys_iff, _found]
      rfl
    · simpa using hnew
    · exact List.mem_cons_self
    · exact List.subset_cons_self _ _

/-- The candidates that a module depends on, directly or not. -/
def ModuleSpec.linkedModules (spec : ModuleSpec) (candidates : ModuleMap) :
    Except ReloadError (List CompiledModule) :=
  (flatten candidates .empty (spec.dependencies.map (spec.id, ·))).map (·.order)

/-- The runtime symbols of the plugins that a module declares. -/
def ModuleSpec.runtimes (spec : ModuleSpec) (plugins : PluginTable) :
    Except ReloadError (List (PluginId × SymbolTable)) :=
  spec.plugins.mapM fun id =>
    match plugins.find? id with
    | some p => .ok (id, p.runtime)
    | none => .error (.unknownPlugin spec.id id)

/-- The boundary of a module. -/
def Offer.boundary (offer : Offer) (plugins : PluginTable) (candidates : ModuleMap)
    (spec : ModuleSpec) : Except ReloadError Boundary := do
  let linked ← spec.linkedModules candidates
  let runtimes ← spec.runtimes plugins
  return {
    module := spec.id
    core := offer.core
    dependencies := linked.map (·.linked)
    plugins := runtimes
    host := offer.host.filter (admits offer.exposed spec.imports) }

end HotReload
