import HotReload.Value.Basic

/-!
# TOML documents

The values of a TOML 1.0 document. A table keeps its fields in the order of the document, each with
the line on which its value starts, so that messages can point there.
-/

namespace HotReload.Toml

inductive Value where
  | text (s : String)
  | int (n : Int)
  /-- A number with fraction or exponent; none if it is infinite or no number. -/
  | float (x : Option Binary64)
  | bool (b : Bool)
  /-- A date, a time or both, in normal form. -/
  | dateTime (s : String)
  | array (items : List Value)
  /-- Keys, the lines of their values, and the values. -/
  | table (fields : List (String × Nat × Value))
  deriving Inhabited

/-- The field that holds the text of a date or time in a value. -/
def dateTimeField : String := "$__toml_private_datetime"

mutual

/-- The value that a symbol gets from a TOML value. Infinite numbers and the like become null, and a
date or time an object that holds its text. -/
def Value.toValue : Toml.Value → HotReload.Value
  | .text s => .text s
  | .int n => .int n
  | .float (some x) => .real x
  | .float none => .null
  | .bool b => .bool b
  | .dateTime s => .object [(dateTimeField, .text s)]
  | .array items => .array (valuesOf items)
  | .table fields => .ofFields (fieldsOf fields)

def valuesOf : List Toml.Value → List HotReload.Value
  | [] => []
  | item :: items => item.toValue :: valuesOf items

def fieldsOf : List (String × Nat × Toml.Value) → List (String × HotReload.Value)
  | [] => []
  | (key, _, value) :: fields => (key, value.toValue) :: fieldsOf fields

end

/-- A place in a document: the text that follows and the line it starts on, counted from one. -/
structure Cursor where
  rest : List Char
  line : Nat

/-- The same line with other text. -/
def Cursor.with (c : Cursor) (rest : List Char) : Cursor :=
  { c with rest }

/-- The next line with the given text. -/
def Cursor.nextLine (c : Cursor) (rest : List Char) : Cursor :=
  { rest, line := c.line + 1 }

end HotReload.Toml
