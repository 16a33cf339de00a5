import HotReload.Archive.Basic
import HotReload.Environment.Call

/-!
# Published modules

A published module is an archive that was built: it has a revision, the environment it was built in,
and the plugin that built it. A snapshot holds the modules that are published at one time; its version
counts the snapshots before it.
-/

namespace HotReload

/-- A module that was built. -/
structure CompiledModule where
  revision : Nat
  archive : Archive
  environment : Environment
  /-- The plugin that built the module, if one claimed it. -/
  compiler : Option PluginId

namespace CompiledModule

def id (m : CompiledModule) : ModuleId :=
  m.archive.id

def spec (m : CompiledModule) : ModuleSpec :=
  m.archive.spec

def symbols (m : CompiledModule) : SymbolTable :=
  m.environment.own

def links (m : CompiledModule) : List LinkedModule :=
  m.environment.boundary.dependencies

/-- A module as others are linked to it. -/
def linked (m : CompiledModule) : LinkedModule where
  id := m.id
  revision := m.revision
  environment := m.environment

def resolve (m : CompiledModule) (name : String) : Except CallError Resolved :=
  m.environment.resolve name

def invoke (m : CompiledModule) (name : String) (args : List Value) : Except CallError Value :=
  m.environment.invoke name args

def resource? (m : CompiledModule) (name : String) : Option ByteArray :=
  m.archive.find? name

end CompiledModule

/-- Modules by id. -/
abbrev ModuleMap := SortedMap ModuleId CompiledModule

/-- The modules published at one time. -/
@[ext]
structure Snapshot where
  /-- The number of snapshots before this one. -/
  version : Nat
  modules : ModuleMap

namespace Snapshot

/-- The first snapshot, in which nothing is published. -/
def initial : Snapshot where
  version := 0
  modules := ∅

instance : Inhabited Snapshot := ⟨initial⟩

/-- The module published under an id. -/
def find? (s : Snapshot) (id : ModuleId) : Option CompiledModule :=
  s.modules.find? id

def revision? (s : Snapshot) (id : ModuleId) : Option Nat :=
  (s.find? id).map (·.revision)

end Snapshot

end HotReload
