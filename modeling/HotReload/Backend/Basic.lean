import HotReload.Archive.Basic
import HotReload.Environment.Basic
import HotReload.Script.Source
import HotReload.Text.Utf8

/-!
# Backends

A backend builds archives: it says which archives it claims, and it turns an archive and the boundary
of its module into a table of symbols, or reports why it cannot. A build is a function of archive and
boundary; besides its outcome it tells how long it ran and whether it asked for the whole reload to be
cancelled.
-/

namespace HotReload

/-- Why an archive cannot be built. -/
inductive BuildCause where
  | encoding (fault : Text.Utf8Fault)
  /-- A line of a script is not well formed. -/
  | malformed (fault : SyntaxFault)
  /-- A script defines a symbol that a script defined before, at an entry and line. -/
  | redefined (name entry : String) (line : Nat)
  /-- A script defines a symbol that a symbol table defined before. -/
  | precompiled (name : String)
  /-- A script passes the wrong number of arguments to a function of its module. -/
  | arity (name : String) (expected actual : Nat)
  | constantCalled (name : String)
  /-- A script refers to a symbol that its module does not see. -/
  | unresolved (name : String)
  | symbol (error : SymbolError)
  /-- A symbol table is not well-formed TOML. -/
  | badTable
  | reported (message : String)
  deriving DecidableEq, Repr

/-- What messages show for a symbol table that is not well-formed TOML. -/
def badTableMessage : String := "<toml>"

def BuildCause.message : BuildCause → String
  | .encoding fault => "not valid UTF-8: " ++ fault.message
  | .malformed fault => fault.message
  | .redefined name entry line =>
    "duplicate definition of '" ++ name ++ "' (first defined at " ++ entry ++ ":" ++ line.repr ++ ")"
  | .precompiled name => "'" ++ name ++ "' is already defined by a precompiled table"
  | .arity name expected actual =>
    "'" ++ name ++ "' expects " ++ expected.repr ++ " argument(s), got " ++ actual.repr
  | .constantCalled name => "'" ++ name ++ "' is a constant and takes no arguments"
  | .unresolved name => "unresolved symbol '" ++ name ++ "'"
  | .symbol error => error.message
  | .badTable => badTableMessage
  | .reported message => message

/-- A backend's report that an archive cannot be built, with the entry and line to blame if there are
any. -/
structure BuildFailure where
  cause : BuildCause
  entry : Option String
  line : Option Nat
  deriving DecidableEq, Repr

namespace BuildFailure

def inEntry (entry : String) (cause : BuildCause) : BuildFailure where
  cause
  entry := some entry
  line := none

def atLine (entry : String) (line : Nat) (cause : BuildCause) : BuildFailure where
  cause
  entry := some entry
  line := some line

/-- The failure in words, after the place it points at. A line without an entry is not shown. -/
def message (f : BuildFailure) : String :=
  match f.entry, f.line with
  | some entry, some line => entry ++ ":" ++ line.repr ++ ": " ++ f.cause.message
  | some entry, none => entry ++ ": " ++ f.cause.message
  | none, _ => f.cause.message

end BuildFailure

inductive BuildOutcome where
  | built (table : SymbolTable)
  | failed (failure : BuildFailure)
  /-- The backend broke down with a message instead of giving an answer. -/
  | crashed (message : String)

/-- A build from start to end. -/
structure BuildRun where
  outcome : BuildOutcome
  /-- How many milliseconds the build takes. -/
  duration : Nat
  /-- Whether the build asks for the reload that it is part of to be cancelled. -/
  cancels : Bool

/-- A build that takes no time and does nothing but give an answer. -/
def BuildRun.ofResult (result : Except BuildFailure SymbolTable) : BuildRun where
  outcome :=
    match result with
    | .ok table => .built table
    | .error failure => .failed failure
  duration := 0
  cancels := false

structure Backend where
  /-- Whether the backend wants to build an archive. -/
  claims : Archive → Bool
  build : Archive → Boundary → BuildRun

end HotReload
