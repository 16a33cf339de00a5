import HotReload.Toml.Scalar

/-!
# Dates and times written as tables

A table whose first field is `dateTimeField` stands for the date or time that this field holds as a
text; its other fields do not count. `Value.withDates` puts the date or time in the place of every such
table inside a value.
-/

namespace HotReload.Toml

/-- The date or time that a text is; a fault of the given line if the value is no such text. -/
def dateTimeOf (line : Nat) : Value → Except Nat Value
  | .text s =>
    match dateTime s.toList with
    | .ok (some (v, [])) => .ok v
    | _ => .error line
  | _ => .error line

/-- The line and the value of the field that makes a table stand for a date or time. -/
def dateField? : List (String × Nat × Value) → Option (Nat × Value)
  | (key, line, v) :: _ => if key == dateTimeField then some (line, v) else none
  | [] => none

mutual

/-- The value with a date or time in the place of every table that stands for one, or the line of the
first such table that holds none. -/
def Value.withDates : Value → Except Nat Value
  | .table fields =>
    match dateField? fields with
    | some (line, v) => dateTimeOf line v
    | none => do return .table (← fieldsWithDates fields)
  | .array items => do return .array (← itemsWithDates items)
  | v => .ok v

def itemsWithDates : List Value → Except Nat (List Value)
  | [] => .ok []
  | item :: items => do return (← item.withDates) :: (← itemsWithDates items)

def fieldsWithDates : List (String × Nat × Value) → Except Nat (List (String × Nat × Value))
  | [] => .ok []
  | (key, line, v) :: fields => do return (key, line, ← v.withDates) :: (← fieldsWithDates fields)

end

end HotReload.Toml
