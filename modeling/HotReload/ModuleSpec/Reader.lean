import HotReload.ModuleSpec.Basic
import HotReload.Toml.Decode

/-!
# Specifications in TOML

A specification is written as a document with a table `module`, which must have an `id`, and an
optional table `metadata` of texts.
-/

namespace HotReload

inductive SpecFault where
  | document (error : Toml.Error)
  | spec (error : SpecError)
  deriving DecidableEq

def SpecFault.message : SpecFault → String
  | .document error => "TOML parse error: " ++ error.message
  | .spec error => error.message

namespace ModuleSpec

/-- What a document declares about a module, while it is being read. -/
structure Draft where
  id : Option ModuleId
  dependencies : List ModuleId
  plugins : List PluginId
  imports : List String

namespace Draft

def start : Draft where
  id := none
  dependencies := []
  plugins := []
  imports := []

def fields : List (Toml.Field Draft) := [
  .of "id" (Toml.Value.asId ModuleId.parse) fun draft id => { draft with id := some id },
  .of "dependencies" (Toml.Value.asList (Toml.Value.asId ModuleId.parse))
    fun draft dependencies => { draft with dependencies },
  .of "compiler-plugins" (Toml.Value.asList (Toml.Value.asId PluginId.parse))
    fun draft plugins => { draft with plugins },
  .of "allowed-imports" (Toml.Value.asList Toml.Value.asText)
    fun draft imports => { draft with imports }]

/-- Reads the table `module`, which must have an id. -/
def read (v : Toml.Value) : Except Toml.Error (ModuleId × Draft) := do
  let draft ← v.asRecord fields start
  match draft.id with
  | some id => return (id, draft)
  | none => throw (.missing "id")

end Draft

def documentFields : List (Toml.Field (Option (ModuleId × Draft) × SortedMap String String)) := [
  .of "module" Draft.read fun found draft => (some draft, found.2),
  .of "metadata" Toml.Value.asTexts fun found metadata => (found.1, metadata)]

def parse (text : String) : Except SpecFault ModuleSpec := do
  let (found, metadata) ←
    ((Toml.document text).bind (·.asRecord documentFields (none, ∅))).mapError .document
  match found with
  | none => throw (.document (.missing "module"))
  | some (id, draft) =>
    (make id draft.dependencies draft.plugins draft.imports metadata).mapError .spec

end ModuleSpec

end HotReload
