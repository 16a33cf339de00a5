import HotReload.Identity
import HotReload.Value.Basic

/-!
# Environments as they can be read

A host function is given the environment that it runs in and may read all of it: the names in every
table with the values of the constants, and the modules that it is linked to, with their revisions and
their own environments. What a function does cannot be read; it can only be called.
-/

namespace HotReload

/-- A module as another one is linked to it: its id, the revision at that time, and its environment
then. -/
structure Linked (ε : Type) where
  id : ModuleId
  revision : Nat
  environment : ε

/-- The names of a table in order, each with its value if it is that of a constant. -/
abbrev TableView := List (String × Option Value)

/-- An environment as it can be read. -/
structure EnvironmentView where
  /-- The module that the environment belongs to. -/
  module : ModuleId
  own : TableView
  core : TableView
  /-- The linked modules, in the order of look-up. Their environments are there when asked for. -/
  dependencies : List (Linked (Unit → EnvironmentView))
  plugins : List (PluginId × TableView)
  host : TableView

end HotReload
