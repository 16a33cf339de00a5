import HotReload.Loader.Setup
import HotReload.Plugin.Reference

/-!
# The configuration file

A configuration file has an optional table `loader` with the settings of the loader and an optional
list `plugins`. Without plugins the reference plugins are used under their default ids.
-/

namespace HotReload.CommandLine

structure PluginEntry where
  id : String
  backend : BackendKind
  /-- Whether references are checked; only backends for scripts care. -/
  linkCheck : Bool
  /-- Metadata to add to that of the plugin. -/
  metadata : SortedMap String String

structure Config where
  loader : LoaderConfig
  plugins : List PluginEntry

/-- Why a plugin entry is no plugin. -/
structure PluginFault where
  id : String
  reason : IdError
  deriving DecidableEq, Repr

namespace PluginEntry

/-- What is known of an entry while it is being read. -/
structure Draft where
  id : Option String
  backend : Option BackendKind
  linkCheck : Bool
  metadata : SortedMap String String

/-- The words for the backends. -/
def backendWords : List (String × BackendKind) :=
  [BackendKind.script, .symbols, .mixed].map fun kind => (kind.word, kind)

def fields : List (Toml.Field Draft) := [
  .of "id" Toml.Value.asText fun draft id => { draft with id := some id },
  .of "backend" (Toml.Value.asWord backendWords)
    fun draft backend => { draft with backend := some backend },
  .of "link-check" Toml.Value.asFlag fun draft linkCheck => { draft with linkCheck },
  .of "metadata" Toml.Value.asTexts fun draft metadata => { draft with metadata }]

/-- Reads an entry, which must have an id and a backend. -/
def read (v : Toml.Value) : Except Toml.Error PluginEntry := do
  let draft ← v.asRecord fields { id := none, backend := none, linkCheck := true, metadata := ∅ }
  match draft.id, draft.backend with
  | some id, some backend =>
    return { id, backend, linkCheck := draft.linkCheck, metadata := draft.metadata }
  | none, _ => throw (.missing "id")
  | _, none => throw (.missing "backend")

/-- The plugin of an entry. -/
def plugin (e : PluginEntry) : Except PluginFault Plugin :=
  match PluginId.parse e.id with
  | .error reason => .error { id := e.id, reason }
  | .ok id =>
    let plugin := e.backend.plugin id e.linkCheck
    .ok { plugin with
      metadata := e.metadata.entries.foldl (fun m (key, s) => m.insert key s) plugin.metadata }

end PluginEntry

namespace Config

/-- What an empty file says. -/
def default : Config where
  loader := .default
  plugins := []

instance : Inhabited Config := ⟨default⟩

def fields : List (Toml.Field Config) := [
  .of "loader" LoaderConfig.read fun c loader => { c with loader },
  .of "plugins" (Toml.Value.asList PluginEntry.read) fun c plugins => { c with plugins }]

/-- Reads a configuration file, whose settings must be sound. -/
def parse (text : String) : Except ConfigError Config := do
  let c ← ((Toml.document text).bind (·.asRecord fields default)).mapError .document
  let _ ← c.loader.check.mapError .unsound
  return c

/-- The plugins of a configuration in the order of their registration. -/
def registrations (c : Config) : Except PluginFault (List Plugin) :=
  if c.plugins.isEmpty then .ok BackendKind.defaultPlugins else c.plugins.mapM PluginEntry.plugin

end Config

end HotReload.CommandLine
