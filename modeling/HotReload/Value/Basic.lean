import HotReload.Number.Binary64
import HotReload.SortedMap

/-!
# Values

The values that symbols hold, take and return: those of the JSON data model. Integers and other
numbers are kept apart, and the fields of an object stand in the order of their names.
-/

namespace HotReload

inductive Value where
  | null
  | bool (b : Bool)
  /-- A whole number written without fraction and exponent. -/
  | int (n : Int)
  /-- Any other number. -/
  | real (x : Binary64)
  | text (s : String)
  | array (items : List Value)
  | object (fields : List (String × Value))
  deriving Inhabited

namespace Value

/-- The object with the given fields; the last field of a name wins. -/
def ofFields (fields : List (String × Value)) : Value :=
  .object (SortedMap.ofList fields).entries

/-- The integer of a value that is one and fits 64 bits with sign. -/
def toInt64? : Value → Option Int
  | .int n => if -0x8000000000000000 ≤ n ∧ n < 0x8000000000000000 then some n else none
  | _ => none

/-- The integer of a value that is one and fits 64 bits without sign. -/
def toNat64? : Value → Option Nat
  | .int n => if 0 ≤ n ∧ n < 0x10000000000000000 then some n.toNat else none
  | _ => none

end Value

end HotReload
