import HotReload.Identity
import HotReload.Name
import HotReload.SortedMap
import HotReload.Value.Printer

/-!
# Module specifications

What a module declares about itself: its id, the modules it depends on, the compiler plugins that may
build it in order of preference, the name spaces of the host that it may import, and metadata. No
list names anything twice, no module depends on itself, and imports are dotted names.
-/

namespace HotReload

/-- A list in which every item stays only where it comes first has no repetitions. -/
theorem nodup_eraseDups [BEq α] [LawfulBEq α] (l : List α) : l.eraseDups.Nodup := by
  induction hn : l.length using Nat.strongRecOn generalizing l with
  | ind n ih =>
    cases l with
    | nil => simp
    | cons a as =>
      rw [List.eraseDups_cons, List.nodup_cons]
      refine ⟨by simp [List.mem_eraseDups], ih _ ?_ _ rfl⟩
      have := List.length_filter_le (fun b => !b == a) as
      simp only [List.length_cons] at hn
      omega

/-- What a module declares about itself. -/
@[ext]
structure ModuleSpec where
  id : ModuleId
  dependencies : List ModuleId
  /-- The plugins that may build the module, the preferred one first. -/
  plugins : List PluginId
  /-- The name spaces of the host that the module may import. -/
  imports : List String
  metadata : SortedMap String String
  dependencies_nodup : dependencies.Nodup
  plugins_nodup : plugins.Nodup
  imports_nodup : imports.Nodup
  id_notMem : id ∉ dependencies
  imports_dotted : ∀ space ∈ imports, IsDottedName space

inductive SpecError where
  | selfDependency (id : ModuleId)
  /-- An import that is not a dotted name. -/
  | badImport (space : String) (fault : NameFault)
  deriving DecidableEq

def SpecError.message : SpecError → String
  | .selfDependency id => "module '" ++ id.toString ++ "' declares a dependency on itself"
  | .badImport space fault =>
    "invalid module spec: allowed import '" ++ space ++ "': " ++ fault.message

namespace ModuleSpec

def empty (id : ModuleId) : ModuleSpec where
  id
  dependencies := []
  plugins := []
  imports := []
  metadata := ∅
  dependencies_nodup := .nil
  plugins_nodup := .nil
  imports_nodup := .nil
  id_notMem := List.not_mem_nil
  imports_dotted _ h := nomatch h

instance : Inhabited ModuleSpec := ⟨empty default⟩

/-- The specification with the given declarations. Repetitions in the lists are dropped. -/
def make (id : ModuleId) (dependencies : List ModuleId) (plugins : List PluginId)
    (imports : List String) (metadata : SortedMap String String) : Except SpecError ModuleSpec :=
  if own : id ∈ dependencies then .error (.selfDependency id)
  else
    match bad : imports.findSome? fun space => (NameFault.of? space).map (space, ·) with
    | some (space, fault) => .error (.badImport space fault)
    | none => .ok {
        id
        dependencies := dependencies.eraseDups
        plugins := plugins.eraseDups
        imports := imports.eraseDups
        metadata
        dependencies_nodup := nodup_eraseDups _
        plugins_nodup := nodup_eraseDups _
        imports_nodup := nodup_eraseDups _
        id_notMem := by simpa [List.mem_eraseDups] using own
        imports_dotted := fun space h => Option.map_eq_none_iff.1
          (List.findSome?_eq_none_iff.1 bad space (List.mem_eraseDups.1 h)) }

def declares (spec : ModuleSpec) (plugin : PluginId) : Bool :=
  spec.plugins.contains plugin

/-- The specification as an object, with its fields in a fixed order. -/
def toValue (spec : ModuleSpec) : Value := .object [
  ("id", .text spec.id.toString),
  ("dependencies", .array (spec.dependencies.map fun id => .text id.toString)),
  ("compiler-plugins", .array (spec.plugins.map fun id => .text id.text)),
  ("allowed-imports", .array (spec.imports.map .text)),
  ("metadata", .object (spec.metadata.entries.map fun (key, s) => (key, .text s)))]

end ModuleSpec

end HotReload
