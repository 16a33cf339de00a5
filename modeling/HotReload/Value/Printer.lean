import HotReload.Number.Shortest
import HotReload.Value.Basic

/-!
# Writing values

`Value.json` writes a value as compact JSON text, and `Value.display` as messages and concatenation
show it: a text stands for itself, anything else for its JSON text.
-/

namespace HotReload.Value

/-- The characters that stand for `c` inside a JSON string. -/
def escaped (c : Char) : List Char :=
  if c = '"' then ['\\', '"']
  else if c = '\\' then ['\\', '\\']
  else if c = '\x08' then ['\\', 'b']
  else if c = '\x0c' then ['\\', 'f']
  else if c = '\n' then ['\\', 'n']
  else if c = '\r' then ['\\', 'r']
  else if c = '\t' then ['\\', 't']
  else if c.toNat < 0x20 then
    ['\\', 'u', '0', '0', Nat.digitChar (c.toNat / 16), Nat.digitChar (c.toNat % 16)]
  else [c]

/-- A text as a JSON string. -/
def quoted (s : String) : List Char :=
  '"' :: s.toList.flatMap escaped ++ ['"']

/-- Which numbers are written without an exponent: those whose leading digit counts multiples of
`10 ^ e` with `lowest ≤ e < beyond`. -/
structure PlainRange where
  lowest : Int
  beyond : Int

/-- Numbers from `0.00001` up to sixteen digits before the point are written without exponent. -/
def plainRange : PlainRange := ⟨-5, 16⟩

/-- A decimal without exponent, with at least one digit on both sides of the point. -/
def plainDecimal (digits : List Char) (exponent : Int) : List Char :=
  if 0 ≤ exponent then digits ++ List.replicate exponent.toNat '0' ++ ['.', '0']
  else
    let places := (-exponent).toNat
    if places < digits.length then
      digits.take (digits.length - places) ++ ['.'] ++ digits.drop (digits.length - places)
    else ['0', '.'] ++ List.replicate (places - digits.length) '0' ++ digits

/-- A decimal with one digit before the point and an exponent with its sign. -/
def scientificDecimal (digits : List Char) (leading : Int) : List Char :=
  let mantissa :=
    match digits with
    | [] => []
    | [d] => [d]
    | d :: rest => d :: '.' :: rest
  let sign := if leading < 0 then '-' else '+'
  mantissa ++ ['e', sign] ++ Nat.toDigits 10 leading.natAbs

/-- A number in the fewest digits that read back. -/
def realChars (x : Binary64) : List Char :=
  let sign := if x.isNegative then ['-'] else []
  let (digits, exponent) := Binary64.shortest x.magnitude
  let digits := Nat.toDigits 10 digits
  let leading := exponent + digits.length - 1
  let body :=
    if plainRange.lowest ≤ leading && leading < plainRange.beyond then plainDecimal digits exponent
    else scientificDecimal digits leading
  sign ++ body

def intChars (n : Int) : List Char :=
  (if n < 0 then ['-'] else []) ++ Nat.toDigits 10 n.natAbs

mutual

/-- The characters of a value as compact JSON text. -/
def chars : Value → List Char
  | .null => ['n', 'u', 'l', 'l']
  | .bool true => ['t', 'r', 'u', 'e']
  | .bool false => ['f', 'a', 'l', 's', 'e']
  | .int n => intChars n
  | .real x => realChars x
  | .text s => quoted s
  | .array [] => ['[', ']']
  | .array (item :: items) => '[' :: chars item ++ itemsChars items ++ [']']
  | .object [] => ['\x7b', '\x7d']
  | .object ((name, value) :: fields) =>
    '\x7b' :: quoted name ++ ':' :: chars value ++ fieldsChars fields ++ ['\x7d']

/-- The items after the first, each after a comma. -/
def itemsChars : List Value → List Char
  | [] => []
  | item :: items => ',' :: chars item ++ itemsChars items

/-- The fields after the first, each after a comma. -/
def fieldsChars : List (String × Value) → List Char
  | [] => []
  | (name, value) :: fields =>
    ',' :: quoted name ++ ':' :: chars value ++ fieldsChars fields

end

def json (v : Value) : String :=
  .ofList v.chars

/-- The text of a value in messages and concatenations. -/
def display : Value → String
  | .text s => s
  | v => v.json

end HotReload.Value
