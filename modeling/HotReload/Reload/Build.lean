import HotReload.FileTree
import HotReload.Module.Linking
import HotReload.Reload.Footprint

/-!
# Builds

A module is built by the plugin that is selected for its archive; an archive that no declared plugin
claims passes through without symbols of its own. Every build by a plugin has a scratch directory, and
one that runs longer than the limit counts as failed.
-/

namespace HotReload

/-- How builds are run. -/
structure BuildSettings where
  /-- The number of milliseconds that a build may take. -/
  timeout : Nat
  /-- The directory in which scratch directories are made; without one the system decides. -/
  scratchRoot : Option String
  /-- Whether scratch directories stay after a build. -/
  keepScratch : Bool

/-- The symbols of a module and the plugin that built them, if one did. -/
structure BuildOutput where
  symbols : SymbolTable
  compiler : Option PluginId

/-- A build as the reload sees it. -/
structure Build where
  result : Except ReloadError BuildOutput
  cancels : Bool
  footprint : Footprint

namespace Build

/-- A build that ended before a plugin was asked to do anything. -/
def immediate (result : Except ReloadError BuildOutput) : Build where
  result
  cancels := false
  footprint := ∅

/-- The number of bytes of the name of a module's scratch directory: `relink-`, the name of the module,
a dash and six random characters. -/
def scratchNameSize (id : ModuleId) : Nat :=
  "relink-".utf8ByteSize + id.name.utf8ByteSize + "-".utf8ByteSize + 6

/-- Whether a scratch directory can be made for a module: neither its name nor its path is too long. -/
def hasScratch (settings : BuildSettings) (id : ModuleId) : Bool :=
  let name := scratchNameSize id
  name ≤ nameLimit &&
    settings.scratchRoot.all fun root => (withSlash root.toUTF8).size + name < pathLimit

/-- The result of a plugin's build. The limit goes before whatever the build says when it ends. -/
def resultOf (settings : BuildSettings) (id : ModuleId) (plugin : PluginId) (run : BuildRun) :
    Except ReloadError BuildOutput :=
  if settings.timeout < run.duration then
    .error (.compilation id plugin (.timeout settings.timeout))
  else
    match run.outcome with
    | .built symbols => .ok { symbols, compiler := some plugin }
    | .failed failure => .error (.compilation id plugin (.backend failure))
    | .crashed message => .error (.compilation id plugin (.crashed message))

/-- A build by a plugin. A build past its limit is not waited for, but it goes on to its end. -/
def byPlugin (settings : BuildSettings) (plugin : Plugin) (archive : Archive)
    (boundary : Boundary) : Build :=
  if hasScratch settings archive.id then
    let run := plugin.backend.build archive boundary
    { result := resultOf settings archive.id plugin.id run
      cancels := run.cancels
      footprint := .ofBuild run.duration settings.timeout settings.keepScratch }
  else
    immediate (.error (.compilation archive.id plugin.id (.setup "scratch directory")))

/-- Builds an archive against a boundary. -/
def run (settings : BuildSettings) (plugins : PluginTable) (archive : Archive)
    (boundary : Boundary) : Build :=
  match plugins.select archive with
  | .error unknown => immediate (.error (.unknownPlugin archive.id unknown))
  | .ok none => immediate (.ok { symbols := ∅, compiler := none })
  | .ok (some plugin) => byPlugin settings plugin archive boundary

end Build

end HotReload
