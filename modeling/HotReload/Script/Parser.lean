import HotReload.Script.Expr
import HotReload.Script.Token

/-!
# Reading expressions

An expression is a chain of terms joined by `+`, which groups to the left. A term is a text, an
integer, an argument, a symbol with or without arguments, or an expression in parentheses. Every
term is read at a level: one for each expression around it and one for each `+` before it in those
expressions. Levels are limited, which bounds the height of what is read.
-/

namespace HotReload

/-- The highest level at which a term is read. -/
def maxNesting : Nat := 128

/-- What a line should have had next. -/
inductive Expected where
  | token (t : Token)
  | namespaceName
  | definitionName
  | statement
  | expression
  /-- A comma or the end of an argument list. -/
  | nextArgument
  deriving DecidableEq, Repr

def Expected.display : Expected → String
  | .token t => t.display
  | .namespaceName => "namespace name"
  | .definitionName => "definition name"
  | .statement => "'let' or 'namespace'"
  | .expression => "an expression"
  | .nextArgument => "',' or ')'"

/-- Why a line is not a statement. -/
inductive SyntaxFault where
  | lexical (fault : LexicalFault)
  /-- Something else was found, or nothing at all. -/
  | expected (what : Expected) (found : Option Token)
  /-- A token after the end of a statement. -/
  | trailing (found : Token)
  /-- A definition whose name has a dot. -/
  | dottedDefinition (name : String)
  | tooDeep
  deriving DecidableEq, Repr

def SyntaxFault.message : SyntaxFault → String
  | .lexical fault => fault.message
  | .expected .nextArgument none => "unclosed argument list"
  | .expected what (some found) => "expected " ++ what.display ++ ", found " ++ found.display
  | .expected what none => "expected " ++ what.display ++ " at end of line"
  | .trailing found => "unexpected " ++ found.display
  | .dottedDefinition name => "definition name '" ++ name ++ "' must not contain '.'"
  | .tooDeep => "expression nested too deeply (limit " ++ maxNesting.repr ++ ")"

/-- Something read from tokens, and the tokens after it, of which there are fewer than `bound`. -/
structure Parsed (α : Type) (bound : Nat) where
  value : α
  rest : List Token
  shorter : rest.length < bound

namespace Parsed

/-- The same result under a larger bound. -/
def weaken (p : Parsed α m) (h : m ≤ n) : Parsed α n :=
  ⟨p.value, p.rest, Nat.lt_of_lt_of_le p.shorter h⟩

end Parsed

/-- The complete name that `name` stands for in a name space. -/
def qualify (space name : String) : String :=
  if name.toList.contains '.' then name else space ++ "." ++ name

def expectToken (want : Token) (ts : List Token) : Except SyntaxFault (Parsed Unit ts.length) :=
  match ts with
  | [] => .error (.expected (.token want) none)
  | t :: rest =>
    if t = want then .ok ⟨(), rest, by simp⟩ else .error (.expected (.token want) (some t))

namespace Expr

mutual

/-- Reads an expression inside `outer` levels. -/
def parse (space : String) (outer : Nat) (ts : List Token) :
    Except SyntaxFault (Parsed Expr ts.length) := do
  let level := outer + 1
  if maxNesting < level then throw .tooDeep
  let first ← parseTerm space level ts
  let all ← parseSum space level first.value first.rest
  return all.weaken first.shorter
termination_by (ts.length, 1)
decreasing_by
  · exact Prod.Lex.right _ (by omega)
  · exact Prod.Lex.left _ _ first.shorter

/-- Reads the terms that are added to `left`, which was read at `level`. -/
def parseSum (space : String) (level : Nat) (left : Expr) (ts : List Token) :
    Except SyntaxFault (Parsed Expr (ts.length + 1)) :=
  match ts with
  | .plus :: rest => do
    let level := level + 1
    if maxNesting < level then throw .tooDeep
    let right ← parseTerm space level rest
    let all ← parseSum space level (.add left right.value) right.rest
    return all.weaken (by have := right.shorter; simp only [List.length_cons]; omega)
  | ts => .ok ⟨left, ts, by simp⟩
termination_by (ts.length, 0)
decreasing_by
  · exact Prod.Lex.left _ _ (by simp)
  · exact Prod.Lex.left _ _ (by have := right.shorter; simp only [List.length_cons]; omega)

/-- Reads a term at `level`. -/
def parseTerm (space : String) (level : Nat) (ts : List Token) :
    Except SyntaxFault (Parsed Expr ts.length) :=
  match ts with
  | [] => .error (.expected .expression none)
  | .text s :: rest => .ok ⟨.text s, rest, by simp⟩
  | .int n :: rest => .ok ⟨.int n, rest, by simp⟩
  | .arg n :: rest => .ok ⟨.arg n, rest, by simp⟩
  | .leftParen :: rest => do
    let inner ← parse space level rest
    let close ← expectToken .rightParen inner.rest
    return ⟨inner.value, close.rest, by
      have := inner.shorter
      have := close.shorter
      simp only [List.length_cons]
      omega⟩
  | .name name :: .leftParen :: .rightParen :: rest =>
    .ok ⟨.call (qualify space name) [], rest, by simp only [List.length_cons]; omega⟩
  | .name name :: .leftParen :: rest => do
    let args ← parseArguments space level [] rest
    return ⟨.call (qualify space name) args.value, args.rest, by
      have := args.shorter
      simp only [List.length_cons]
      omega⟩
  | .name name :: rest => .ok ⟨.ref (qualify space name), rest, by simp⟩
  | t :: _ => .error (.expected .expression (some t))
termination_by (ts.length, 0)
decreasing_by
  · exact Prod.Lex.left _ _ (by simp)
  · exact Prod.Lex.left _ _ (by simp only [List.length_cons]; omega)

/-- Reads the arguments of a call and its closing parenthesis; `acc` holds the arguments read so far,
latest first. -/
def parseArguments (space : String) (level : Nat) (acc : List Expr) (ts : List Token) :
    Except SyntaxFault (Parsed (List Expr) ts.length) := do
  let arg ← parse space level ts
  match h : arg.rest with
  | [] => throw (.expected .nextArgument none)
  | .comma :: rest =>
    let more ← parseArguments space level (arg.value :: acc) rest
    return more.weaken (by have := arg.shorter; rw [h] at this; simp at this; omega)
  | .rightParen :: rest =>
    return ⟨(arg.value :: acc).reverse, rest, by
      have := arg.shorter
      rw [h] at this
      simp at this
      omega⟩
  | t :: _ => throw (.expected .nextArgument (some t))
termination_by (ts.length, 2)
decreasing_by
  · exact Prod.Lex.right _ (by omega)
  · exact Prod.Lex.left _ _ (by have := arg.shorter; rw [h] at this; simp at this; omega)

end

end Expr

end HotReload
