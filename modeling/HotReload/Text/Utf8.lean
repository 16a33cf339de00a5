/-!
# UTF-8

Reading bytes as text. Bytes that are no text have a first fault: the place of a character that is
spelled wrongly or cut off by the end.
-/

namespace HotReload.Text

/-- Why bytes are not UTF-8. -/
inductive Utf8Fault where
  /-- The character at `index` goes wrong after `length` bytes. -/
  | invalid (length index : Nat)
  /-- The bytes end inside the character at `index`. -/
  | incomplete (index : Nat)
  deriving DecidableEq, Repr

def Utf8Fault.message : Utf8Fault → String
  | .invalid length index =>
    "invalid utf-8 sequence of " ++ length.repr ++ " bytes from index " ++ index.repr
  | .incomplete index => "incomplete utf-8 byte sequence from index " ++ index.repr

/-- The range of the bytes that continue a character. -/
def continuation : UInt8 × UInt8 := (0x80, 0xBF)

/-- The ranges of the bytes that follow the first byte of a character. The narrower ranges rule out
surrogates, characters above the last one, and spellings that are longer than they need to be. -/
def continuationsOf? (first : UInt8) : Option (List (UInt8 × UInt8)) :=
  if first < 0x80 then some []
  else if first < 0xC2 then none
  else if first < 0xE0 then some [continuation]
  else if first = 0xE0 then some [(0xA0, 0xBF), continuation]
  else if first = 0xED then some [(0x80, 0x9F), continuation]
  else if first < 0xF0 then some [continuation, continuation]
  else if first = 0xF0 then some [(0x90, 0xBF), continuation, continuation]
  else if first < 0xF4 then some [continuation, continuation, continuation]
  else if first = 0xF4 then some [(0x80, 0x8F), continuation, continuation]
  else none

/-- The number of bytes at the front that lie in the given ranges, one after the other. -/
def matching : List (UInt8 × UInt8) → List UInt8 → Nat
  | (low, high) :: ranges, b :: bytes =>
    if low ≤ b ∧ b ≤ high then matching ranges bytes + 1 else 0
  | _, _ => 0

/-- The first fault of some bytes that start at `index`, and the bytes after the faulty character. -/
def fault? (index : Nat) (bytes : List UInt8) : Option (Utf8Fault × List UInt8) :=
  match bytes with
  | [] => none
  | first :: rest =>
    match continuationsOf? first with
    | none => some (.invalid 1 index, rest)
    | some ranges =>
      let count := matching ranges rest
      if count = ranges.length then fault? (index + 1 + count) (rest.drop count)
      else if count = rest.length then some (.incomplete index, [])
      else some (.invalid (count + 1) index, rest.drop count)
termination_by bytes.length
decreasing_by
  simp only [List.length_drop, List.length_cons]
  omega

/-- Reads bytes as text. -/
def decode (bytes : ByteArray) : Except Utf8Fault String :=
  match String.fromUTF8? bytes with
  | some s => .ok s
  | none =>
    match fault? 0 bytes.data.toList with
    | some (fault, _) => .error fault
    | none => .error (.incomplete bytes.size)

/-- Reads bytes as text with a replacement character for each character that is spelled wrongly. -/
def decodeLossy (bytes : ByteArray) : String :=
  go (bytes.size + 1) bytes.data.toList
where
  /-- Reads the bytes that are left; `fuel` exceeds their number. -/
  go : Nat → List UInt8 → String
    | 0, _ => ""
    | fuel + 1, bytes =>
      match fault? 0 bytes with
      | none => textOf bytes
      | some (.invalid _ index, rest) => textOf (bytes.take index) ++ "\ufffd" ++ go fuel rest
      | some (.incomplete index, _) => textOf (bytes.take index) ++ "\ufffd"
  /-- The text of bytes without fault. -/
  textOf (bytes : List UInt8) : String :=
    (String.fromUTF8? ⟨bytes.toArray⟩).getD ""

end HotReload.Text
