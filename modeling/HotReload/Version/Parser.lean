import HotReload.Text.Quoted
import HotReload.Version.Basic

/-!
# Reading versions

`Version.parse` reads a version from left to right and stops at the first fault. A number has no
leading zero and fits 64 bits; a numeric pre-release identifier has no leading zero either, but one
in the build metadata may.
-/

namespace HotReload.Version

/-- The parts of a version, as messages name them. -/
inductive Part where
  | major
  | minor
  | patch
  | preRelease
  | build
  deriving DecidableEq, Repr

/-- The name of a part in a message. -/
def Part.name : Part → String
  | .major => "major version number"
  | .minor => "minor version number"
  | .patch => "patch version number"
  | .preRelease => "pre-release identifier"
  | .build => "build metadata"

inductive Fault where
  | empty
  /-- The text ends inside or right after a part. -/
  | unexpectedEnd (part : Part)
  /-- A character where a part should start. -/
  | unexpected (part : Part) (c : Char)
  /-- A character after a part that cannot follow it. -/
  | unexpectedAfter (part : Part) (c : Char)
  /-- A number of several digits that starts with zero. -/
  | leadingZero (part : Part)
  /-- A number beyond 64 bits. -/
  | overflow (part : Part)
  /-- An identifier without characters. -/
  | emptySegment (part : Part)
  deriving DecidableEq, Repr

def Fault.message : Fault → String
  | .empty => "empty string, expected a semver version"
  | .unexpectedEnd part => "unexpected end of input while parsing " ++ part.name
  | .unexpected part c =>
    "unexpected character " ++ Text.quoteChar c ++ " while parsing " ++ part.name
  | .unexpectedAfter part c => "unexpected character " ++ Text.quoteChar c ++ " after " ++ part.name
  | .leadingZero part => "invalid leading zero in " ++ part.name
  | .overflow part => "value of " ++ part.name ++ " exceeds u64::MAX"
  | .emptySegment part => "empty identifier segment in " ++ part.name

def number (part : Part) (cs : List Char) : Except Fault (UInt64 × List Char) :=
  let digits := cs.takeWhile Char.isDigit
  let rest := cs.dropWhile Char.isDigit
  match digits with
  | [] =>
    match rest with
    | [] => .error (.unexpectedEnd part)
    | c :: _ => .error (.unexpected part c)
  | '0' :: _ :: _ => .error (.leadingZero part)
  | digits =>
    let value := Nat.ofDigitChars 10 digits 0
    if value < 0x10000000000000000 then .ok (.ofNat value, rest) else .error (.overflow part)

/-- Reads the dot that follows the number of a part. -/
def dot (part : Part) : List Char → Except Fault (List Char)
  | [] => .error (.unexpectedEnd part)
  | '.' :: rest => .ok rest
  | c :: _ => .error (.unexpectedAfter part c)

/-- The identifier that a segment is. Only in build metadata may a number have leading zeros. -/
def identifier (part : Part) (segment : List Char) : Except Fault Identifier :=
  if segment.all Char.isDigit && part != .build && segment.length > 1 &&
      segment.head? == some '0' then
    .error (.leadingZero part)
  else if legal : String.ofList segment ≠ "" ∧
      (String.ofList segment).toList.all isIdentifierChar = true then
    .ok ⟨.ofList segment, legal⟩
  else .error (.emptySegment part)

/-- Reads the identifiers of a part: the longest run of identifier characters and dots. -/
def identifiers (part : Part) (cs : List Char) :
    Except Fault (List Identifier × List Char) := do
  let inRun := fun c => isIdentifierChar c || c == '.'
  let segments := (cs.takeWhile inRun).splitOn '.'
  return (← segments.mapM (identifier part), cs.dropWhile inRun)

/-- Reads the identifiers of a part if `mark`, which introduces it, comes next. -/
def identifiersAfter (mark : Char) (part : Part) (cs : List Char) :
    Except Fault (List Identifier × List Char) :=
  match cs with
  | [] => .ok ([], [])
  | c :: rest => if c = mark then identifiers part rest else .ok ([], c :: rest)

def parse (text : String) : Except Fault Version := do
  let cs := text.toList
  if cs.isEmpty then throw .empty
  let (major, cs) ← number .major cs
  let cs ← dot .major cs
  let (minor, cs) ← number .minor cs
  let cs ← dot .minor cs
  let (patch, cs) ← number .patch cs
  let (preRelease, cs) ← identifiersAfter '-' .preRelease cs
  let (build, cs) ← identifiersAfter '+' .build cs
  match cs with
  | [] => return { major, minor, patch, preRelease, build }
  | c :: _ =>
    throw (.unexpectedAfter (lastPart preRelease build) c)
where
  /-- The last part that was read. -/
  lastPart (preRelease build : List Identifier) : Part :=
    if !build.isEmpty then .build else if !preRelease.isEmpty then .preRelease else .patch

end HotReload.Version
