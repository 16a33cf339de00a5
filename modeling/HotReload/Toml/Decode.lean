import HotReload.Identity
import HotReload.SortedMap
import HotReload.Toml.Document

/-!
# Typed reading of TOML values

What a program asks of a document: texts, switches, numbers, lists, maps and records. A record is read
field by field in the order of the document; unknown fields are skipped, and what a missing field
means is for the reader of the record to say.
-/

namespace HotReload.Toml

/-- Why a document does not hold what is asked of it. -/
inductive Error where
  /-- The document is not TOML; the line of the fault. -/
  | malformed (line : Nat)
  | mistyped
  | missing (field : String)
  /-- A text is not the id that it should be. -/
  | refused (reason : IdError)
  deriving DecidableEq, Repr

def Error.message : Error → String
  | .malformed line => "TOML parse error at line " ++ line.repr
  | .mistyped => "TOML parse error: a value of another type is expected"
  | .missing field => "TOML parse error: missing field '" ++ field ++ "'"
  | .refused reason => "TOML parse error: " ++ reason.message

namespace Value

def asText : Value → Except Error String
  | .text s => .ok s
  | _ => .error .mistyped

def asFlag : Value → Except Error Bool
  | .bool b => .ok b
  | _ => .error .mistyped

def asNatural : Value → Except Error Nat
  | .int (.ofNat n) => .ok n
  | _ => .error .mistyped

def asList (item : Value → Except Error α) : Value → Except Error (List α)
  | .array items => items.mapM item
  | _ => .error .mistyped

/-- A value that must be the text of an id. -/
def asId (parse : String → Except IdError α) (v : Value) : Except Error α := do
  match parse (← v.asText) with
  | .ok id => return id
  | .error reason => throw (.refused reason)

/-- The fields of a table. A date or time counts as a table that holds its text. -/
def fields? : Value → Option (List (String × Value))
  | .table fields => some (fields.map fun (key, _, v) => (key, v))
  | .dateTime s => some [(dateTimeField, .text s)]
  | _ => none

/-- A value that must be a table of texts. -/
def asTexts (v : Value) : Except Error (SortedMap String String) := do
  match v.fields? with
  | none => throw .mistyped
  | some fields => return .ofList (← fields.mapM fun (key, v) => return (key, ← v.asText))

/-- A value that must be one of some words. A table whose only field has such a word as its name and
holds nothing stands for the word. -/
def asWord (words : List (String × α)) : Value → Except Error α
  | .text s => find s
  | .table [(key, _, .table [])] => find key
  | .table [(key, _, .array [])] => find key
  | _ => .error .mistyped
where
  /-- What a word stands for. -/
  find (s : String) : Except Error α :=
    match words.lookup s with
    | some a => .ok a
    | none => .error .mistyped

end Value

/-- How one field of a record is read into what is known of the record so far. -/
structure Field (σ : Type) where
  name : String
  read : σ → Value → Except Error σ

/-- The field that `item` reads and `store` puts into the record. -/
def Field.of (name : String) (item : Value → Except Error α) (store : σ → α → σ) : Field σ where
  name
  read state v := return store state (← item v)

/-- Reads the fields of a record in the order of the document. -/
def readFields (fields : List (Field σ)) (state : σ) : List (String × Value) → Except Error σ
  | [] => .ok state
  | (key, v) :: rest => do
    let state ← match fields.find? (·.name == key) with
      | some field => field.read state v
      | none => pure state
    readFields fields state rest

/-- Reads a record from a table, or from a list of the values of its first fields. -/
def Value.asRecord (fields : List (Field σ)) (start : σ) (v : Value) : Except Error σ :=
  match v, v.fields? with
  | .array items, _ => readFields fields start ((fields.map (·.name)).zip items)
  | _, some found => readFields fields start found
  | _, none => .error .mistyped

def document (text : String) : Except Error Value :=
  match parse text with
  | .ok fields => .ok (.table fields)
  | .error line => .error (.malformed line)

end HotReload.Toml
