import HotReload.Digest.Content
import HotReload.ModuleSpec.Basic

/-!
# Archives

An archive is what a module is built from: its specification and named entries, which are script
sources, symbol tables or plain resources. Entries are listed in the order of their names, so neither
the order in which they were added nor where they came from can be seen. The content hash covers the
specification and every entry.
-/

namespace HotReload

inductive EntryFault where
  | empty
  /-- The name starts with a slash or holds a backslash. -/
  | notRelative
  /-- A part between slashes is empty, `.` or `..`. -/
  | badSegment
  deriving DecidableEq, Repr

namespace EntryFault

def message : EntryFault → String
  | .empty => "name is empty"
  | .notRelative => "must be a relative path using '/'"
  | .badSegment => "contains an empty, '.' or '..' segment"

/-- Whether a part of a name leads nowhere or elsewhere. -/
def isBadSegment (segment : List Char) : Bool :=
  segment == [] || segment == ['.'] || segment == ['.', '.']

def of? (name : String) : Option EntryFault :=
  let cs := name.toList
  if cs.isEmpty then some .empty
  else if cs.head? == some '/' || cs.contains '\\' then some .notRelative
  else if (cs.splitOn '/').any isBadSegment then some .badSegment
  else none

end EntryFault

/-- A relative path with slashes between its parts, none of which is empty, `.` or `..`. -/
def IsEntryName (name : String) : Prop :=
  EntryFault.of? name = none

instance (name : String) : Decidable (IsEntryName name) :=
  inferInstanceAs (Decidable (_ = _))

inductive EntryError where
  | badName (name : String) (fault : EntryFault)
  | duplicate (name : String)
  deriving DecidableEq, Repr

def EntryError.message : EntryError → String
  | .badName name fault => "invalid archive entry name '" ++ name ++ "': " ++ fault.message
  | .duplicate name => "duplicate archive entry '" ++ name ++ "'"

/-- What a module is built from. -/
@[ext]
structure Archive where
  spec : ModuleSpec
  entries : SortedMap String ByteArray
  legal : ∀ name ∈ entries.keys, IsEntryName name

namespace Archive

def ofSpec (spec : ModuleSpec) : Archive where
  spec
  entries := ∅
  legal _ h := nomatch h

instance : Inhabited Archive := ⟨ofSpec default⟩

def id (a : Archive) : ModuleId :=
  a.spec.id

def find? (a : Archive) (name : String) : Option ByteArray :=
  a.entries.find? name

/-- Adds an entry under a name that is not taken. -/
def add (a : Archive) (name : String) (content : ByteArray) : Except EntryError Archive :=
  match checked : EntryFault.of? name with
  | some fault => .error (.badName name fault)
  | none =>
    if a.entries.contains name then .error (.duplicate name)
    else .ok {
      spec := a.spec
      entries := a.entries.insert name content
      legal := fun other h => by
        rw [SortedMap.mem_keys_iff, SortedMap.find?_insert] at h
        split at h
        next same => exact same ▸ checked
        next => exact a.legal other ((SortedMap.mem_keys_iff ..).2 h) }

def ofEntries (spec : ModuleSpec) (entries : List (String × ByteArray)) :
    Except EntryError Archive :=
  entries.foldlM (fun a e => a.add e.1 e.2) (ofSpec spec)

def withSuffix (a : Archive) (suffix : String) : List (String × ByteArray) :=
  a.entries.entries.filter fun e => suffix.toList.isSuffixOf e.1.toList

def hasSuffix (a : Archive) (suffix : String) : Bool :=
  !(a.withSuffix suffix).isEmpty

/-- What the content hash covers: the specification, then name and content of each entry. -/
def chunks (a : Archive) : List ByteArray :=
  a.spec.toValue.json.toUTF8 ::
    a.entries.entries.flatMap fun (name, content) => [name.toUTF8, content]

/-- The content hash, in hexadecimal. -/
def hash (a : Archive) : String :=
  Digest.ofChunks a.chunks

end Archive

end HotReload
