import HotReload.Backend.Basic

/-!
# Why modules are not reloaded

A reload reports for each module that it could not publish why: its dependencies do not resolve, one
of them failed, it lies on a dependency cycle, it declares an unknown plugin, or its build failed.
-/

namespace HotReload

/-- Modules that depend on each other. -/
structure Cycle where
  /-- One loop; its last module depends on its first. -/
  path : List ModuleId
  /-- All the modules, in ascending order. -/
  members : List ModuleId
  deriving DecidableEq

/-- The texts of some ids with a separator between them. -/
def joinIds (separator : String) (ids : List ModuleId) : String :=
  separator.intercalate (ids.map (·.toString))

/-- The cycle in words: the loop, and all members if the loop leaves some out. -/
def Cycle.message (c : Cycle) : String :=
  let loop := joinIds " -> " (c.path ++ c.path.take 1)
  let rest :=
    if c.path.length < c.members.length then
      " (component: " ++ joinIds ", " c.members ++ ")"
    else ""
  "dependency cycle: " ++ loop ++ rest

/-- Why a build gave no module. -/
inductive CompilationCause where
  | backend (failure : BuildFailure)
  /-- The build took longer than the given number of milliseconds. -/
  | timeout (limit : Nat)
  /-- The backend broke down. -/
  | crashed (message : String)
  /-- The build could not be started. -/
  | setup (detail : String)
  deriving DecidableEq

def CompilationCause.message : CompilationCause → String
  | .backend failure => failure.message
  | .timeout limit => "timed out after " ++ limit.repr ++ "ms"
  | .crashed message => "backend panicked: " ++ message
  | .setup detail => "build setup failed: " ++ detail

/-- Why a module was not published. -/
inductive ReloadError where
  /-- A dependency of the module is not loaded. -/
  | unresolved (module missing : ModuleId)
  /-- A dependency of the module failed in the same reload. -/
  | dependencyFailed (module dependency : ModuleId)
  | cycle (c : Cycle)
  /-- The module declares a plugin that is not registered. -/
  | unknownPlugin (module : ModuleId) (plugin : PluginId)
  /-- The build by a plugin failed. -/
  | compilation (module : ModuleId) (plugin : PluginId) (cause : CompilationCause)
  deriving DecidableEq

namespace ReloadError

def message : ReloadError → String
  | .unresolved module missing =>
    "module '" ++ module.toString ++ "' depends on '" ++ missing.toString ++
      "', which is not loaded"
  | .dependencyFailed module dependency =>
    "module '" ++ module.toString ++ "' depends on '" ++ dependency.toString ++
      "', which failed this cycle"
  | .cycle c => c.message
  | .unknownPlugin module plugin =>
    "module '" ++ module.toString ++ "' declares unknown compiler plugin '" ++ plugin.text ++ "'"
  | .compilation module _ cause =>
    "compilation of '" ++ module.toString ++ "' failed: " ++ cause.message

def isCompilation : ReloadError → Bool
  | .compilation .. => true
  | _ => false

end ReloadError

end HotReload
