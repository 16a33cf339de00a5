import HotReload.Toml.Basic
import HotReload.Value.Parser

/-!
# Texts in TOML

The four kinds of text: between double quotes with escapes, between single quotes without, and both
over several lines between triple quotes. A line end inside a text of several lines reads as a single
newline.
-/

namespace HotReload.Toml

/-- Whether `c` may stand in a comment or, apart from quotes and backslashes, in a text. -/
def isPlain (c : Char) : Bool :=
  c == '\t' || (0x20 ≤ c.toNat && c.toNat ≠ 0x7F)

/-- Reads the character that `count` hexadecimal digits stand for. -/
def codePoint? (count : Nat) (cs : List Char) : Option (Char × List Char) :=
  let digits := cs.take count
  if digits.length = count then do
    let n ← digits.foldlM (fun n c => (Value.hexDigit? c).map (16 * n + ·)) 0
    if n.isValidChar then return (.ofNat n, cs.drop count) else none
  else none

/-- Reads an escape after its backslash. -/
def escape (cur : Cursor) : Except Nat (Char × Cursor) :=
  match cur.rest with
  | [] => .error cur.line
  | c :: rest =>
    match c with
    | 'b' => .ok ('\x08', cur.with rest)
    | 'f' => .ok ('\x0c', cur.with rest)
    | 'n' => .ok ('\n', cur.with rest)
    | 'r' => .ok ('\r', cur.with rest)
    | 't' => .ok ('\t', cur.with rest)
    | '\\' => .ok ('\\', cur.with rest)
    | '"' => .ok ('"', cur.with rest)
    | 'u' => found (codePoint? 4 rest)
    | 'U' => found (codePoint? 8 rest)
    -- The fault is found after the character, which may be the end of the line.
    | c => .error (if c = '\n' then cur.line + 1 else cur.line)
where
  /-- The character of a code point, if it is one. -/
  found : Option (Char × List Char) → Except Nat (Char × Cursor)
    | some (c, rest) => .ok (c, cur.with rest)
    | none => .error cur.line

/-- Reads a text after its double quote; `acc` holds the characters read so far, latest first. -/
def basicText (fuel : Nat) (acc : List Char) (cur : Cursor) : Except Nat (String × Cursor) :=
  match fuel with
  | 0 => .error cur.line
  | fuel + 1 =>
    match cur.rest with
    | '"' :: rest => .ok (.ofList acc.reverse, cur.with rest)
    | '\\' :: rest => do
      let (c, cur) ← escape (cur.with rest)
      basicText fuel (c :: acc) cur
    | c :: rest => if isPlain c then basicText fuel (c :: acc) (cur.with rest) else .error cur.line
    | [] => .error cur.line

/-- Reads a text after its single quote. -/
def literalText (cur : Cursor) : Except Nat (String × Cursor) :=
  let body := cur.rest.takeWhile fun c => isPlain c && c != '\''
  match cur.rest.dropWhile fun c => isPlain c && c != '\'' with
  | '\'' :: rest => .ok (.ofList body, cur.with rest)
  | _ => .error cur.line

/-- Removes a line end from the front of a text. -/
def lineEnd? : List Char → Option (List Char)
  | '\n' :: rest => some rest
  | '\r' :: '\n' :: rest => some rest
  | _ => none

/-- Skips blanks and line ends. -/
def skipLines (fuel : Nat) (cur : Cursor) : Cursor :=
  match fuel with
  | 0 => cur
  | fuel + 1 =>
    match cur.rest with
    | ' ' :: rest => skipLines fuel (cur.with rest)
    | '\t' :: rest => skipLines fuel (cur.with rest)
    | cs =>
      match lineEnd? cs with
      | some rest => skipLines fuel (cur.nextLine rest)
      | none => cur

/-- Skips the rest of a line after a backslash at its end, and the blanks and lines after it; none if
something else follows the backslash on its line. -/
def lineContinuation? (fuel : Nat) (cur : Cursor) : Option Cursor :=
  match lineEnd? (cur.rest.dropWhile fun c => c == ' ' || c == '\t') with
  | some rest => some (skipLines fuel (cur.nextLine rest))
  | none => none

/-- Reads a text of several lines after its opening quotes, which are three times `quote`; `acc` holds
the characters read so far, latest first. Up to two quotes may stand right before the closing ones. -/
def longText (quote : Char) (escapes : Bool) (fuel : Nat) (acc : List Char) (cur : Cursor) :
    Except Nat (String × Cursor) :=
  match fuel with
  | 0 => .error cur.line
  | fuel + 1 =>
    let quotes := cur.rest.takeWhile (· == quote)
    match quotes.length with
    | 0 =>
      match cur.rest with
      | [] => .error cur.line
      | c :: rest =>
        if escapes && c == '\\' then
          match lineContinuation? fuel (cur.with rest) with
          | some cur => longText quote escapes fuel acc cur
          | none => do
            let (c, cur) ← escape (cur.with rest)
            longText quote escapes fuel (c :: acc) cur
        else
          match lineEnd? (c :: rest) with
          | some rest => longText quote escapes fuel ('\n' :: acc) (cur.nextLine rest)
          | none =>
            if isPlain c then longText quote escapes fuel (c :: acc) (cur.with rest)
            else .error cur.line
    | 1 => longText quote escapes fuel (quote :: acc) (cur.with (cur.rest.drop 1))
    | 2 => longText quote escapes fuel (quote :: quote :: acc) (cur.with (cur.rest.drop 2))
    | count =>
      let kept := min (count - 3) 2
      .ok (.ofList (List.replicate kept quote ++ acc).reverse, cur.with (cur.rest.drop (kept + 3)))

/-- Skips a line end right after the opening quotes of a text of several lines. -/
def afterOpening (cur : Cursor) : Cursor :=
  match lineEnd? cur.rest with
  | some rest => cur.nextLine rest
  | none => cur

/-- Reads a text that starts with a quote. Every character needs at most one step of `fuel`. -/
def text (fuel : Nat) (cur : Cursor) : Except Nat (String × Cursor) :=
  match cur.rest with
  | '"' :: '"' :: '"' :: rest => longText '"' true fuel [] (afterOpening (cur.with rest))
  | '\'' :: '\'' :: '\'' :: rest => longText '\'' false fuel [] (afterOpening (cur.with rest))
  | '"' :: rest => basicText fuel [] (cur.with rest)
  | '\'' :: rest => literalText (cur.with rest)
  | _ => .error cur.line

end HotReload.Toml
