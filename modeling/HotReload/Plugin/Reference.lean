import HotReload.Backend.Mixed
import HotReload.Builtin.Script
import HotReload.Plugin.Basic

/-!
# Reference plugins

The plugins for the three backends of this library. Plugins for scripts bring the script runtime.
-/

namespace HotReload

/-- A backend of this library. -/
inductive BackendKind where
  | script
  | symbols
  | mixed
  deriving DecidableEq, Repr

namespace BackendKind

/-- The word for a backend, which is also the id that its plugin has by default. -/
def word : BackendKind → String
  | .script => "script"
  | .symbols => "symbols"
  | .mixed => "mixed"

/-- The backend; only scripts can be link-checked. -/
def backend (linkCheck : Bool) : BackendKind → Backend
  | .script => .script linkCheck
  | .symbols => .symbols
  | .mixed => .mixed linkCheck

def runtime : BackendKind → SymbolTable
  | .symbols => ∅
  | .script | .mixed => Builtin.scriptRuntime

/-- The ends of the names of the entries that a backend reads. -/
def suffixes : BackendKind → List String
  | .script => [Backend.Script.suffix]
  | .symbols => [Backend.Symbols.suffix]
  | .mixed => [Backend.Script.suffix, Backend.Symbols.suffix]

def metadata (linkCheck : Bool) (kind : BackendKind) : SortedMap String String :=
  let suffix := [("suffix", " ".intercalate kind.suffixes)]
  match kind with
  | .symbols => .ofList suffix
  | .script | .mixed =>
    .ofList (suffix ++ [("language", "relink-script"), ("link-check", toString linkCheck)])

/-- The plugin for a backend under an id. -/
def plugin (kind : BackendKind) (id : PluginId) (linkCheck : Bool) : Plugin where
  id
  backend := kind.backend linkCheck
  runtime := kind.runtime
  metadata := kind.metadata linkCheck

/-- The id that a backend's plugin has by default. -/
def defaultId (kind : BackendKind) : PluginId where
  text := kind.word
  legal := by cases kind <;> decide

/-- The plugins for all backends under their default ids, with link checking. -/
def defaultPlugins : List Plugin :=
  [script, symbols, mixed].map fun kind => kind.plugin kind.defaultId true

end BackendKind

end HotReload
