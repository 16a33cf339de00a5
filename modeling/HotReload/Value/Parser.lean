import HotReload.Value.Basic

/-!
# Reading values

`Value.parse?` reads JSON text. Arrays and objects may be nested 127 deep. A number without fraction
and exponent that fits 64 bits, with or without sign, is an integer. Any other number is read in two
roundings: its leading digits, as many as fit 64 bits, become a binary number, which is then scaled
by a power of ten.
-/

namespace HotReload.Value

/-- The depth to which arrays and objects may be nested. -/
def maxNesting : Nat := 127

/-- Whether `c` may stand between the tokens of JSON text. -/
def isSpace (c : Char) : Bool :=
  c == ' ' || c == '\t' || c == '\n' || c == '\r'

def skipSpace (cs : List Char) : List Char :=
  cs.dropWhile isSpace

/-! ## Numbers -/

/-- Appends digits to a number as long as it stays below 2 to the 64; the second result counts the
digits appended. -/
def absorb (n count : Nat) : List Char → Nat × Nat
  | [] => (n, count)
  | c :: cs =>
    let next := 10 * n + (c.toNat - '0'.toNat)
    if next < 0x10000000000000000 then absorb next (count + 1) cs else (n, count)

/-- The magnitude nearest to a power of ten. -/
def powerOfTen (exponent : Nat) : Nat :=
  (Binary64.nearest? (Nat.pow 10 exponent) 1).getD 0

/-- Divides a magnitude by `10 ^ exponent`, at most 308 powers at a time. -/
def scaleDown (magnitude exponent : Nat) : Option Nat :=
  if exponent ≤ 308 then Binary64.div? magnitude (powerOfTen exponent)
  else if magnitude = 0 then some 0
  else do scaleDown (← Binary64.div? magnitude (powerOfTen 308)) (exponent - 308)
termination_by exponent

/-- The magnitude that `digits · 10 ^ exponent` is read as; none if that is infinite. -/
def scale (digits : Nat) (exponent : Int) : Option Nat := do
  let magnitude ← Binary64.nearest? digits 1
  if exponent < 0 then scaleDown magnitude (-exponent).toNat
  else if exponent ≤ 308 then Binary64.mul? magnitude (powerOfTen exponent.toNat)
  else if magnitude = 0 then some 0
  else none

/-- The largest exponent that is told apart from larger ones. -/
def exponentLimit : Nat := 0x7fffffff

/-- Reads the exponent after its mark; a number beyond the limit is the limit plus one. -/
def exponentPart? (cs : List Char) : Option (Bool × Nat × List Char) :=
  let (negative, cs) :=
    match cs with
    | '-' :: rest => (true, rest)
    | '+' :: rest => (false, rest)
    | cs => (false, cs)
  match cs.takeWhile Char.isDigit with
  | [] => none
  | digits =>
    some (negative, min (Nat.ofDigitChars 10 digits 0) (exponentLimit + 1),
      cs.dropWhile Char.isDigit)

/-- A number that is not an integer, from its significand and the power of ten that its digits
imply, before the exponent part. -/
def withExponent? (negative : Bool) (digits : Nat) (exponent : Int) (cs : List Char) :
    Option (Value × List Char) := do
  let finish := fun (magnitude : Nat) (rest : List Char) =>
    (Value.real (.ofMagnitude negative magnitude), rest)
  match cs with
  | c :: cs =>
    if c = 'e' ∨ c = 'E' then
      let (negativeExponent, size, rest) ← exponentPart? cs
      if exponentLimit < size then
        if digits ≠ 0 ∧ !negativeExponent then none else some (finish 0 rest)
      else
        let total := if negativeExponent then exponent - size else exponent + size
        return finish (← scale digits (max (-0x80000000) (min total 0x7fffffff))) rest
    else return finish (← scale digits exponent) (c :: cs)
  | [] => return finish (← scale digits exponent) []

/-- Reads the digits of a number and what follows them. -/
def number? (negative : Bool) (cs : List Char) : Option (Value × List Char) :=
  let whole := cs.takeWhile Char.isDigit
  let rest := cs.dropWhile Char.isDigit
  let (digits, absorbed) := absorb 0 0 whole
  let dropped : Int := whole.length - absorbed
  match whole, rest with
  | [], _ => none
  | '0' :: _ :: _, _ => none
  | _, '.' :: rest =>
    match rest.takeWhile Char.isDigit with
    | [] => none
    | fraction =>
      let rest := rest.dropWhile Char.isDigit
      let (digits, absorbed) := absorb digits 0 fraction
      withExponent? negative digits (dropped - absorbed) rest
  | _, rest =>
    if dropped ≠ 0 ∨ (rest.head? == some 'e') ∨ (rest.head? == some 'E') then
      withExponent? negative digits dropped rest
    else if !negative then some (.int digits, rest)
    else if digits = 0 ∨ 0x8000000000000000 < digits then
      (Binary64.nearest? digits 1).map fun magnitude =>
        (.real (.ofMagnitude true magnitude), rest)
    else some (.int (-digits), rest)

/-! ## Strings -/

/-- The value of a hexadecimal digit. -/
def hexDigit? (c : Char) : Option Nat :=
  if c.isDigit then some (c.toNat - '0'.toNat)
  else if 'a' ≤ c ∧ c ≤ 'f' then some (c.toNat - 'a'.toNat + 10)
  else if 'A' ≤ c ∧ c ≤ 'F' then some (c.toNat - 'A'.toNat + 10)
  else none

/-- The number that four hexadecimal digits write. -/
def hexQuad? (a b c d : Char) : Option Nat := do
  return (((← hexDigit? a) * 16 + (← hexDigit? b)) * 16 + (← hexDigit? c)) * 16 + (← hexDigit? d)

/-- The character of an escape with one letter. -/
def shortEscape? : Char → Option Char
  | '"' => some '"'
  | '\\' => some '\\'
  | '/' => some '/'
  | 'b' => some '\x08'
  | 'f' => some '\x0c'
  | 'n' => some '\n'
  | 'r' => some '\r'
  | 't' => some '\t'
  | _ => none

/-- Reads a string after its opening quote. A character beyond 16 bits is escaped as a pair of
surrogates; a surrogate outside a pair is refused. -/
def string? (cs : List Char) (acc : List Char) : Option (String × List Char) :=
  match cs with
  | '"' :: rest => some (.ofList acc.reverse, rest)
  | '\\' :: 'u' :: a :: b :: c :: d :: rest =>
    match hexQuad? a b c d with
    | none => none
    | some unit =>
      if 0xDC00 ≤ unit ∧ unit < 0xE000 then none
      else if 0xD800 ≤ unit ∧ unit < 0xDC00 then
        match rest with
        | '\\' :: 'u' :: a :: b :: c :: d :: rest =>
          match hexQuad? a b c d with
          | none => none
          | some low =>
            if 0xDC00 ≤ low ∧ low < 0xE000 then
              string? rest (.ofNat ((unit - 0xD800) * 1024 + (low - 0xDC00) + 0x10000) :: acc)
            else none
        | _ => none
      else string? rest (.ofNat unit :: acc)
  | '\\' :: c :: rest =>
    match shortEscape? c with
    | some c => string? rest (c :: acc)
    | none => none
  | c :: rest => if c.toNat < 0x20 ∨ c = '\\' then none else string? rest (c :: acc)
  | [] => none

/-! ## Values -/

/-- Removes a word from the front of a text. -/
def afterWord? (word cs : List Char) : Option (List Char) :=
  word.isPrefixOf? cs

mutual

/-- Reads a value. `room` levels of nesting are left, and `fuel` steps, of which every character of
the text needs at most two. -/
def value? (fuel room : Nat) (cs : List Char) : Option (Value × List Char) :=
  match fuel with
  | 0 => none
  | fuel + 1 =>
    match skipSpace cs with
    | [] => none
    | c :: rest =>
      match c with
      | 'n' => (afterWord? ['u', 'l', 'l'] rest).map (.null, ·)
      | 't' => (afterWord? ['r', 'u', 'e'] rest).map (.bool true, ·)
      | 'f' => (afterWord? ['a', 'l', 's', 'e'] rest).map (.bool false, ·)
      | '"' => (string? rest []).map fun (s, rest) => (.text s, rest)
      | '-' => number? true rest
      | '[' =>
        match room with
        | 0 => none
        | room + 1 =>
          match skipSpace rest with
          | ']' :: rest => some (.array [], rest)
          | rest => (items? fuel room rest []).map fun (items, rest) => (.array items, rest)
      | '\x7b' =>
        match room with
        | 0 => none
        | room + 1 =>
          match skipSpace rest with
          | '\x7d' :: rest => some (.object [], rest)
          | rest => (fields? fuel room rest []).map fun (fields, rest) => (ofFields fields, rest)
      | c => number? false (c :: rest)

/-- Reads the items of an array and its closing bracket. -/
def items? (fuel room : Nat) (cs : List Char) (acc : List Value) :
    Option (List Value × List Char) :=
  match fuel with
  | 0 => none
  | fuel + 1 =>
    match value? fuel room cs with
    | none => none
    | some (item, rest) =>
      match skipSpace rest with
      | ',' :: rest => items? fuel room rest (item :: acc)
      | ']' :: rest => some ((item :: acc).reverse, rest)
      | _ => none

/-- Reads the fields of an object and its closing brace. -/
def fields? (fuel room : Nat) (cs : List Char) (acc : List (String × Value)) :
    Option (List (String × Value) × List Char) :=
  match fuel with
  | 0 => none
  | fuel + 1 =>
    match skipSpace cs with
    | '"' :: rest =>
      match string? rest [] with
      | none => none
      | some (name, rest) =>
        match skipSpace rest with
        | ':' :: rest =>
          match value? fuel room rest with
          | none => none
          | some (value, rest) =>
            match skipSpace rest with
            | ',' :: rest => fields? fuel room rest ((name, value) :: acc)
            | '\x7d' :: rest => some (((name, value) :: acc).reverse, rest)
            | _ => none
        | _ => none
    | _ => none

end

def parse? (text : String) : Option Value :=
  let cs := text.toList
  match value? (2 * cs.length + 2) maxNesting cs with
  | some (value, rest) => if (skipSpace rest).isEmpty then some value else none
  | none => none

end HotReload.Value
