/-!
# Script expressions

The expressions that scripts define symbols with. Symbol names in an expression are complete. The
arity of an expression is the highest argument it reads, and its references are the symbols it names
with the number of arguments it passes to each, in the order of the source.
-/

namespace HotReload

inductive Expr where
  | text (s : String)
  | int (n : Int)
  /-- An argument of the call, counted from one. -/
  | arg (n : Nat)
  /-- A symbol that is called without arguments. -/
  | ref (name : String)
  | call (name : String) (args : List Expr)
  | add (left right : Expr)
  deriving Inhabited, Repr

namespace Expr

mutual

/-- The number of arguments an expression reads: its highest argument. -/
def arity : Expr → Nat
  | .text _ | .int _ | .ref _ => 0
  | .arg n => n
  | .call _ args => listArity args
  | .add left right => max left.arity right.arity

/-- The highest arity in a list of expressions. -/
def listArity : List Expr → Nat
  | [] => 0
  | e :: es => max e.arity (listArity es)

end

mutual

/-- The symbols an expression refers to, each with the number of arguments passed to it. -/
def references : Expr → List (String × Nat)
  | .text _ | .int _ | .arg _ => []
  | .ref name => [(name, 0)]
  | .call name args => (name, args.length) :: listReferences args
  | .add left right => left.references ++ right.references

/-- The references of a list of expressions. -/
def listReferences : List Expr → List (String × Nat)
  | [] => []
  | e :: es => e.references ++ listReferences es

end

mutual

/-- The number of levels of an expression: calls and sums stand one level above their parts. -/
def height : Expr → Nat
  | .text _ | .int _ | .arg _ | .ref _ => 1
  | .call _ args => listHeight args + 1
  | .add left right => max left.height right.height + 1

/-- The highest height in a list of expressions. -/
def listHeight : List Expr → Nat
  | [] => 0
  | e :: es => max e.height (listHeight es)

end

end Expr

end HotReload
