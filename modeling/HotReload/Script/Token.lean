import HotReload.Text.Quoted

/-!
# Script tokens

A line of a script is a list of tokens. `Token.scan` finds them: blanks separate tokens, `#` starts a
comment that runs to the end of the line, and the first character of a token decides its kind.
-/

namespace HotReload

inductive Token where
  | name (s : String)
  | text (s : String)
  | int (n : Int)
  /-- An argument reference such as `$1`. -/
  | arg (n : Nat)
  | leftParen
  | rightParen
  | comma
  | plus
  | equals
  deriving DecidableEq, Repr

inductive LexicalFault where
  /-- A backslash in a text before a character that is not escaped. -/
  | unknownEscape (c : Char)
  | unterminatedText
  /-- A dollar sign without a number of 64 bits after it. -/
  | argumentNumber
  | argumentZero
  /-- A literal beyond 64 bits with sign, or a minus sign alone. -/
  | badInteger (literal : String)
  /-- A name with two adjacent dots or a dot at its end. -/
  | malformedName (word : String)
  /-- A character that starts no token, and the byte it starts at, counted from one. -/
  | unexpected (c : Char) (column : Nat)
  deriving DecidableEq, Repr

def LexicalFault.message : LexicalFault → String
  | .unknownEscape c => "unknown escape '\\" ++ c.toString ++ "'"
  | .unterminatedText => "unterminated string literal"
  | .argumentNumber => "expected argument number after '$'"
  | .argumentZero => "argument numbers start at $1"
  | .badInteger literal => "invalid integer literal '" ++ literal ++ "'"
  | .malformedName word => "malformed name '" ++ word ++ "'"
  | .unexpected c column =>
    "unexpected character '" ++ c.toString ++ "' at column " ++ column.repr

namespace Token

def display : Token → String
  | .name s => "'" ++ s ++ "'"
  | .text s => "string " ++ Text.quote s
  | .int n => "integer " ++ toString n
  | .arg n => "'$" ++ n.repr ++ "'"
  | .leftParen => "'('"
  | .rightParen => "')'"
  | .comma => "','"
  | .plus => "'+'"
  | .equals => "'='"

/-- The token of a punctuation character. -/
def punctuation? : Char → Option Token
  | '(' => some .leftParen
  | ')' => some .rightParen
  | ',' => some .comma
  | '+' => some .plus
  | '=' => some .equals
  | _ => none

/-- The character that an escape letter stands for. -/
def unescape? : Char → Option Char
  | 'n' => some '\n'
  | 't' => some '\t'
  | '"' => some '"'
  | '\\' => some '\\'
  | _ => none

/-- Whether a name may start with `c`. -/
def startsName (c : Char) : Bool :=
  c.isAlpha || c == '_'

/-- Whether a name may continue with `c`. -/
def continuesName (c : Char) : Bool :=
  c.isAlphanum || c == '_' || c == '-' || c == '.'

/-- Whether two dots meet in a word. -/
def hasAdjacentDots : List Char → Bool
  | '.' :: '.' :: _ => true
  | _ :: rest => hasAdjacentDots rest
  | [] => false

/-- Reads a text after its opening quote; `acc` holds the characters read so far, latest first. -/
def scanText (acc : List Char) : List Char → Except LexicalFault (String × List Char)
  | '"' :: rest => .ok (.ofList acc.reverse, rest)
  | '\\' :: c :: rest =>
    match unescape? c with
    | some c => scanText (c :: acc) rest
    | none => .error (.unknownEscape c)
  | ['\\'] => .error .unterminatedText
  | c :: rest => scanText (c :: acc) rest
  | [] => .error .unterminatedText

/-- The argument token of the digits after a dollar sign. -/
def ofArgument (digits : List Char) : Except LexicalFault Token :=
  let n := Nat.ofDigitChars 10 digits 0
  if digits.isEmpty ∨ 0x10000000000000000 ≤ n then .error .argumentNumber
  else if n = 0 then .error .argumentZero
  else .ok (.arg n)

/-- The integer token of a literal: an optional minus sign, given as the first character, and
digits. -/
def ofLiteral (first : Char) (rest : List Char) : Except LexicalFault Token :=
  let negative := first = '-'
  let digits := if negative then rest else first :: rest
  let n : Int := Nat.ofDigitChars 10 digits 0
  let n := if negative then -n else n
  if digits.isEmpty ∨ n < -0x8000000000000000 ∨ 0x8000000000000000 ≤ n then
    .error (.badInteger (.ofList (first :: rest)))
  else .ok (.int n)

/-- The name token of a word. -/
def ofWord (word : List Char) : Except LexicalFault Token :=
  if word.getLast? = some '.' ∨ hasAdjacentDots word then .error (.malformedName (.ofList word))
  else .ok (.name (.ofList word))

/-- The number of bytes of a text in UTF-8. -/
def byteLength (cs : List Char) : Nat :=
  cs.foldl (fun n c => n + c.utf8Size) 0

/-- Reads the token that starts with `c`, which is no blank and starts no comment. The line has
`total` bytes. -/
def scanOne (total : Nat) (c : Char) (rest : List Char) : Except LexicalFault (Token × List Char) :=
  match punctuation? c with
  | some token => .ok (token, rest)
  | none =>
    if c = '"' then do
      let (s, rest) ← scanText [] rest
      return (.text s, rest)
    else if c = '$' then do
      return (← ofArgument (rest.takeWhile Char.isDigit), rest.dropWhile Char.isDigit)
    else if c = '-' ∨ c.isDigit then do
      return (← ofLiteral c (rest.takeWhile Char.isDigit), rest.dropWhile Char.isDigit)
    else if startsName c then do
      return (← ofWord (c :: rest.takeWhile continuesName), rest.dropWhile continuesName)
    else .error (.unexpected c (total - byteLength (c :: rest) + 1))

theorem length_dropWhile_le (p : Char → Bool) (cs : List Char) :
    (cs.dropWhile p).length ≤ cs.length :=
  (List.dropWhile_sublist p).length_le

theorem scanText_length_le {acc cs rest : List Char} {s : String}
    (h : scanText acc cs = .ok (s, rest)) : rest.length ≤ cs.length := by
  fun_induction scanText acc cs with
  | case1 acc rest' => simp_all
  | case2 acc c rest' c' _ ih =>
    have := ih h
    simp only [List.length_cons]
    omega
  | case3 => simp at h
  | case4 => simp at h
  | case5 acc c rest' _ _ _ ih =>
    have := ih h
    simp only [List.length_cons]
    omega
  | case6 => simp at h

/-- A token takes at least its first character. -/
theorem scanOne_length_le {total : Nat} {c : Char} {rest rest' : List Char} {token : Token}
    (h : scanOne total c rest = .ok (token, rest')) : rest'.length ≤ rest.length := by
  simp only [scanOne, bind, Except.bind, pure, Except.pure] at h
  repeat' split at h
  all_goals first
    | (cases h; done)
    | (cases h; first
        | exact Nat.le_refl _
        | exact length_dropWhile_le _ _
        | exact scanText_length_le ‹_›)

/-- Reads the tokens of a line of `total` bytes; `acc` holds the tokens read so far, latest first. -/
def scanFrom (total : Nat) (acc : List Token) (cs : List Char) : Except LexicalFault (List Token) :=
  match cs with
  | [] => .ok acc.reverse
  | c :: rest =>
    if c = ' ' ∨ c = '\t' then scanFrom total acc rest
    else if c = '#' then .ok acc.reverse
    else
      match _h : scanOne total c rest with
      | .error fault => .error fault
      | .ok (token, rest') => scanFrom total (token :: acc) rest'
termination_by cs.length
decreasing_by
  · simp
  · have := scanOne_length_le _h
    simp only [List.length_cons]
    omega

def scan (line : List Char) : Except LexicalFault (List Token) :=
  scanFrom (byteLength line) [] line

end Token

end HotReload
