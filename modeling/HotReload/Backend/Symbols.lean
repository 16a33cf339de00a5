import HotReload.Backend.Basic
import HotReload.Toml.DateTable
import HotReload.Toml.Document

/-!
# Symbol tables in TOML

Entries whose names end with `.symbols.toml` hold constants in a table `symbols`. Tables inside it are
name spaces; everything else becomes a constant. Tables are gone through in the order of their keys, and
the name of each key is made from the name of the table that it stands in.
-/

namespace HotReload.Backend.Symbols

/-- The end of the names of symbol tables. -/
def suffix : String := ".symbols.toml"

/-- The name of a key in a name space. The table `symbols` itself stands for no name space, which is an
empty text. -/
def nameIn (space key : String) : String :=
  if space.isEmpty then key else space ++ "." ++ key

/-- What the keys of a table lead to, in the order of the keys. -/
def inKeyOrder (found : List (String × List (String × Toml.Value))) : List (String × Toml.Value) :=
  (found.mergeSort fun a b => (compare a.1 b.1).isLE).flatMap (·.2)

mutual

/-- The values that are no tables in a value of the given name, each with its own name. -/
def flatten (name : String) : Toml.Value → List (String × Toml.Value)
  | .table fields => inKeyOrder (flattenFields name fields)
  | v => [(name, v)]

/-- The keys of a table that stands for a name space, each with what it leads to. -/
def flattenFields (space : String) :
    List (String × Nat × Toml.Value) → List (String × List (String × Toml.Value))
  | [] => []
  | (key, _, v) :: fields => (key, flatten (nameIn space key) v) :: flattenFields space fields

end

/-- The constants of a symbol table. -/
def constants (fields : List (String × Nat × Toml.Value)) : List (String × Value) :=
  (inKeyOrder (flattenFields "" fields)).map fun (name, v) => (name, v.toValue)

/-- The fields of the table `symbols` of a document. The table itself stands for no date or time, but
tables inside it may. -/
def symbolFields (document : List (String × Nat × Toml.Value)) :
    Except Nat (List (String × Nat × Toml.Value)) :=
  match document.lookup "symbols" with
  | none => .ok []
  | some (_, .table fields) => Toml.fieldsWithDates fields
  | some (line, .dateTime s) => .ok [(Toml.dateTimeField, line, .text s)]
  | some (line, _) => .error line

def readEntry (entry : String) (content : ByteArray) :
    Except BuildFailure (List (String × Value)) :=
  match Text.decode content with
  | .error fault => .error (.inEntry entry (.encoding fault))
  | .ok source =>
    match (Toml.parse source).bind symbolFields with
    | .error line => .error (.atLine entry line .badTable)
    | .ok fields => .ok (constants fields)

/-- Defines a constant of an entry. -/
def define (entry : String) (table : SymbolTable) (constant : String × Value) :
    Except BuildFailure SymbolTable :=
  (table.defineBody constant.1 (.constant constant.2)).mapError fun e => .inEntry entry (.symbol e)

def addEntry (table : SymbolTable) (entry : String × ByteArray) :
    Except BuildFailure SymbolTable := do
  (← readEntry entry.1 entry.2).foldlM (define entry.1) table

def load (archive : Archive) : Except BuildFailure SymbolTable :=
  (archive.withSuffix suffix).foldlM addEntry ∅

end HotReload.Backend.Symbols

namespace HotReload

def Backend.symbols : Backend where
  claims archive := archive.hasSuffix Backend.Symbols.suffix
  build archive _ := .ofResult (Backend.Symbols.load archive)

end HotReload
