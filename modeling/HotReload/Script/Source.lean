import HotReload.Script.Parser
import HotReload.Text.Blank

/-!
# Script sources

A source is a sequence of lines. A line that is blank or starts with `#` says nothing; a `namespace`
line sets the name space of the lines after it; a `let` line defines a symbol in the current name
space.
-/

namespace HotReload

structure Definition where
  /-- The complete name of the symbol. -/
  name : String
  body : Expr
  /-- The line of the source, counted from one. -/
  line : Nat
  deriving Repr

/-- A fault in a line of a source. -/
structure SourceFault where
  line : Nat
  fault : SyntaxFault
  deriving DecidableEq, Repr

/-- What a line says. -/
inductive Statement where
  | enter (space : String)
  | define (name : String) (body : Expr)
  deriving Repr

namespace Statement

def expectName (what : Expected) : List Token → Except SyntaxFault (String × List Token)
  | .name s :: rest => .ok (s, rest)
  | [] => .error (.expected what none)
  | t :: _ => .error (.expected what (some t))

def expectEnd : List Token → Except SyntaxFault Unit
  | [] => .ok ()
  | t :: _ => .error (.trailing t)

/-- Reads the statement of a line in a name space. A line without tokens says nothing. -/
def ofTokens (space : String) : List Token → Except SyntaxFault (Option Statement)
  | [] => .ok none
  | .name keyword :: rest =>
    if keyword = "namespace" then do
      let (name, rest) ← expectName .namespaceName rest
      expectEnd rest
      return some (.enter name)
    else if keyword = "let" then do
      let (name, rest) ← expectName .definitionName rest
      if name.toList.contains '.' then throw (.dottedDefinition name)
      let equals ← expectToken .equals rest
      let body ← Expr.parse space 0 equals.rest
      expectEnd body.rest
      return some (.define name body.value)
    else .error (.expected .statement (some (.name keyword)))
  | t :: _ => .error (.expected .statement (some t))

/-- Reads the statement of a line, given without the blanks at its ends. -/
def ofLine (space : String) (line : List Char) : Except SyntaxFault (Option Statement) :=
  match line with
  | [] | '#' :: _ => .ok none
  | line =>
    match Token.scan line with
    | .error fault => .error (.lexical fault)
    | .ok tokens => ofTokens space tokens

end Statement

namespace Definition

/-- Reads lines, the first of them numbered `number`, from a name space on; `acc` holds the
definitions read so far, latest first. -/
def ofLines (space : String) (number : Nat) (acc : List Definition) :
    List (List Char) → Except SourceFault (List Definition)
  | [] => .ok acc.reverse
  | line :: lines =>
    match Statement.ofLine space (Text.trim line) with
    | .error fault => .error ⟨number, fault⟩
    | .ok none => ofLines space (number + 1) acc lines
    | .ok (some (.enter space)) => ofLines space (number + 1) acc lines
    | .ok (some (.define name body)) =>
      ofLines space (number + 1) (⟨space ++ "." ++ name, body, number⟩ :: acc) lines

/-- The definitions of a source, whose first name space is given. -/
def ofSource (space : String) (source : String) : Except SourceFault (List Definition) :=
  ofLines space 1 [] (source.toList.splitOn '\n')

end Definition

end HotReload
