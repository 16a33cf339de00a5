import HotReload.Text.Blank
import HotReload.Version.Parser

/-!
# Identities

A module is identified by a name and an optional version, written `name` or `name@1.2.3`; a compiler
plugin by a text without white space. Module ids are ordered by name, then by version, an id without
version first; this order decides every traversal of modules in the library.
-/

namespace HotReload

/-! ## Module ids -/

/-- Whether a module name may hold `c`. -/
def isModuleNameChar (c : Char) : Bool :=
  c.isAlphanum || c == '_' || c == '-' || c == '.'

/-- A module name is a non-empty text of letters, digits, `_`, `-` and `.`. -/
def IsModuleName (name : String) : Prop :=
  name ≠ "" ∧ name.toList.all isModuleNameChar = true

instance (name : String) : Decidable (IsModuleName name) :=
  inferInstanceAs (Decidable (_ ∧ _))

@[ext]
structure ModuleId where
  name : String
  version : Option Version
  legal : IsModuleName name
  deriving DecidableEq

inductive ModuleIdFault where
  | empty
  | illegal (c : Char)
  /-- The text after the first `@` is not a version. -/
  | version (fault : Version.Fault)
  deriving DecidableEq, Repr

def ModuleIdFault.message : ModuleIdFault → String
  | .empty => "name is empty"
  | .illegal c => "illegal character '" ++ c.toString ++ "'"
  | .version fault => "bad version: " ++ fault.message

inductive IdError where
  | module (id : String) (fault : ModuleIdFault)
  | plugin (id : String)
  deriving DecidableEq, Repr

def IdError.message : IdError → String
  | .module id fault => "invalid module id '" ++ id ++ "': " ++ fault.message
  | .plugin id =>
    "invalid plugin id '" ++ id ++ "': must be non-empty and contain no whitespace"

namespace ModuleId

/-- By name, then by version; an id without version comes first. -/
instance : Ord ModuleId where
  compare := compareLex (compareOn name) (compareOn version)

instance : Std.TransOrd ModuleId :=
  inferInstanceAs (Std.TransCmp (compareLex _ _))

instance : Std.LawfulEqOrd ModuleId where
  eq_of_compare {_ _} h :=
    ModuleId.ext (Std.LawfulEqCmp.compare_eq_iff_eq.1 (Ordering.then_eq_eq.1 h).1)
      (Std.LawfulEqCmp.compare_eq_iff_eq.1 (Ordering.then_eq_eq.1 h).2)

protected def toString (id : ModuleId) : String :=
  match id.version with
  | none => id.name
  | some version => id.name ++ "@" ++ version.toString

instance : ToString ModuleId := ⟨ModuleId.toString⟩

/-- What is wrong with a text that is not a module name. -/
def nameFault (name : String) : ModuleIdFault :=
  match name.toList.find? fun c => !isModuleNameChar c with
  | some c => .illegal c
  | none => .empty

/-- The id of a name with a version, if there is one. -/
def ofParts (name : String) (version : Option Version) : Except IdError ModuleId :=
  if legal : IsModuleName name then .ok { name, version, legal }
  else .error (.module name (nameFault name))

def ofName (name : String) : Except IdError ModuleId :=
  ofParts name none

def versioned (name : String) (version : Version) : Except IdError ModuleId :=
  ofParts name (some version)

/-- Reads `name` or `name@version`. The version, which starts after the first `@`, is read first. -/
def parse (text : String) : Except IdError ModuleId :=
  match text.toList.dropWhile (· != '@') with
  | [] => ofName text
  | _ :: rest =>
    match Version.parse (.ofList rest) with
    | .error fault => .error (.module text (.version fault))
    | .ok version => versioned (.ofList (text.toList.takeWhile (· != '@'))) version

/-- The id of environments that belong to no published module. -/
def anonymous : ModuleId where
  name := "anonymous"
  version := none
  legal := by decide

instance : Inhabited ModuleId := ⟨anonymous⟩

end ModuleId

/-! ## Plugin ids -/

/-- A plugin id is a non-empty text without white space. -/
def IsPluginName (text : String) : Prop :=
  text ≠ "" ∧ text.toList.all (fun c => !Text.isBlank c) = true

instance (text : String) : Decidable (IsPluginName text) :=
  inferInstanceAs (Decidable (_ ∧ _))

@[ext]
structure PluginId where
  text : String
  legal : IsPluginName text
  deriving DecidableEq

namespace PluginId

instance : ToString PluginId := ⟨PluginId.text⟩

def parse (text : String) : Except IdError PluginId :=
  if legal : IsPluginName text then .ok { text, legal } else .error (.plugin text)

end PluginId

end HotReload
