import HotReload.Backend.Basic

/-!
# Compiler plugins

A plugin is a backend with an id, runtime symbols for the modules that declare it, and metadata. A
plugin table holds plugins in the order of their registration, no two of them under one id. The plugin
that builds an archive is the first that the archive declares and that claims it, whatever the order
of registration.
-/

namespace HotReload

structure Plugin where
  id : PluginId
  backend : Backend
  /-- The symbols that the plugin adds to the boundary of every module that declares it. -/
  runtime : SymbolTable
  metadata : SortedMap String String

/-- Plugins in the order of their registration. -/
structure PluginTable where
  plugins : List Plugin
  distinct : (plugins.map (·.id)).Nodup

namespace PluginTable

theorem nodup_noIds : (([] : List Plugin).map (·.id)).Nodup := .nil

instance : EmptyCollection PluginTable := ⟨⟨[], nodup_noIds⟩⟩

def ids (t : PluginTable) : List PluginId :=
  t.plugins.map (·.id)

def find? (t : PluginTable) (id : PluginId) : Option Plugin :=
  t.plugins.find? (·.id = id)

/-- Registers a plugin, unless its id is taken. -/
def register? (t : PluginTable) (p : Plugin) : Option PluginTable :=
  if fresh : p.id ∉ t.ids then
    some {
      plugins := t.plugins ++ [p]
      distinct := by
        rw [List.map_append, List.map_singleton]
        exact List.nodup_append.2 ⟨t.distinct, by simp, fun a ha b hb same => by
          simp only [List.mem_singleton] at hb
          exact fresh (hb ▸ same ▸ ha)⟩ }
  else none

/-- The plugins that an archive declares, in the order of preference, or the first declared id that is
not registered. -/
def declared (t : PluginTable) (archive : Archive) : Except PluginId (List Plugin) :=
  archive.spec.plugins.mapM fun id =>
    match t.find? id with
    | some p => .ok p
    | none => .error id

/-- The plugin that builds an archive, if any declared one claims it. -/
def select (t : PluginTable) (archive : Archive) : Except PluginId (Option Plugin) :=
  (t.declared archive).map fun plugins => plugins.find? (·.backend.claims archive)

end PluginTable

end HotReload
