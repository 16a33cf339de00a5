import HotReload.Builtin.Core
import HotReload.FileSystem
import HotReload.Loader.Config
import HotReload.Reload.Cycle

/-!
# Setting up a loader

A loader is made of a configuration, plugins, and symbols to add to the core and to offer from the
host. The core symbols of this library come first; symbols and plugins must have distinct names. If the
configuration names a directory for scratch directories, it is made before the loader.
-/

namespace HotReload

inductive SetupError where
  | config (fault : ConfigFault)
  /-- The directory for scratch directories cannot be made. -/
  | scratchRoot (path : String) (fault : PathFault)
  | symbol (error : SymbolError)
  | duplicatePlugin (id : PluginId)
  deriving DecidableEq

def SetupError.message : SetupError → String
  | .config fault => fault.message
  | .scratchRoot path fault => "cannot create scratch root " ++ path ++ ": " ++ fault.message
  | .symbol error => error.message
  | .duplicatePlugin id => "compiler plugin '" ++ id.text ++ "' is already registered"

/-- Defines symbols whose names are not taken. -/
def SymbolTable.defineAll (t : SymbolTable) (symbols : List Symbol) :
    Except SymbolError SymbolTable :=
  symbols.foldlM define t

/-- Registers plugins whose ids are not taken. -/
def PluginTable.registerAll (t : PluginTable) (plugins : List Plugin) :
    Except SetupError PluginTable :=
  plugins.foldlM (fun t p =>
    match t.register? p with
    | some t => .ok t
    | none => .error (.duplicatePlugin p.id)) t

/-- Makes the directory for scratch directories. A configuration that is not sound has none. -/
def LoaderConfig.makeScratchRoot [Monad m] (config : LoaderConfig) (disk : Disk m) :
    ExceptT SetupError m Unit :=
  match config.check, config.scratchRoot with
  | .ok _, some root => .adapt (.scratchRoot root) (.mk (disk.makeDirectories root))
  | _, _ => return

def Loader.make (config : LoaderConfig) (core host : List Symbol) (plugins : List Plugin) :
    Except SetupError Loader := do
  let config ← config.check.mapError .config
  let core ← (Builtin.core.defineAll core).mapError .symbol
  let host ← (SymbolTable.defineAll ∅ host).mapError .symbol
  let plugins ← PluginTable.registerAll ∅ plugins
  return {
    offer := { core, host, exposed := config.exposed }
    plugins
    settings := {
      timeout := config.timeout
      scratchRoot := config.scratchRoot
      keepScratch := config.keepScratch }
    extraBuilds := config.parallel - 1 }

end HotReload
