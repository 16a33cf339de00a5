import HotReload.Environment.View
import HotReload.Name
import HotReload.Script.Expr
import HotReload.Value.Printer

/-!
# Symbols

A symbol has a dotted name and a body: a constant, a script function or a host function. A host
function reads the environment that it runs in and may call names there and in the environments of the
linked modules. A symbol table holds at most one symbol of a name, in the order of their names. A call
may fail in four ways, each of which ends that call and changes nothing else. A function may also
crash, which ends the whole program; `CallError` lists this with the failures, as it ends the calls
around it in the same way.
-/

namespace HotReload

/-! ## Calls -/

/-- Why a call has no value. -/
inductive CallError where
  /-- The module that looks the symbol up may not see it. -/
  | hidden (module : ModuleId) (symbol : String)
  /-- A constant was given arguments. -/
  | notCallable (symbol : String)
  | arity (symbol : String) (expected actual : Nat)
  | failed (symbol : String) (message : String)
  /-- A function broke down with a message instead of giving an answer. -/
  | crashed (message : String)
  deriving DecidableEq

def CallError.message : CallError → String
  | .hidden module symbol =>
    "module '" ++ module.toString ++ "' cannot see symbol '" ++ symbol ++ "'"
  | .notCallable symbol => "symbol '" ++ symbol ++ "' is a constant and takes no arguments"
  | .arity symbol expected actual =>
    "symbol '" ++ symbol ++ "' expects " ++ expected.repr ++ " argument(s), got " ++ actual.repr
  | .failed symbol message => "call to '" ++ symbol ++ "' failed: " ++ message
  | .crashed message => message

/-- What a host function does: it ends, or it calls a name and goes on, whether the call has a value or
fails. The name is called in the environment that the function runs in or in one that is reached from
there over linked modules, each given by its place among those that the one before is linked to. -/
inductive HostRun where
  | done (result : Except CallError Value)
  | invoke (way : List Nat) (name : String) (args : List Value)
      (next : Except CallError Value → HostRun)

/-- What a function does when it is called. -/
inductive Callable where
  /-- Evaluates an expression, reporting its own failures under a symbol's name. -/
  | script (symbol : String) (body : Expr)
  /-- Does what the environment that it runs in and its arguments make it do. -/
  | host (run : EnvironmentView → List Value → HostRun)

/-- The body of a symbol. -/
inductive Body where
  | constant (v : Value)
  | function (f : Callable)

/-- Whether a body is a function. -/
def Body.isFunction : Body → Bool
  | .constant _ => false
  | .function _ => true

/-- The value of a constant. -/
def Body.value? : Body → Option Value
  | .constant v => some v
  | .function _ => none

/-! ## Symbols and tables -/

inductive SymbolError where
  | badName (name : String) (fault : NameFault)
  | duplicate (name : String)
  deriving DecidableEq, Repr

def SymbolError.message : SymbolError → String
  | .badName name fault => "invalid symbol name '" ++ name ++ "': " ++ fault.message
  | .duplicate name => "duplicate symbol '" ++ name ++ "'"

structure Symbol where
  name : String
  body : Body
  legal : IsDottedName name

def Symbol.make (name : String) (body : Body) : Except SymbolError Symbol :=
  match h : NameFault.of? name with
  | none => .ok ⟨name, body, h⟩
  | some fault => .error (.badName name fault)

/-- A table of symbols, in the order of their names. -/
@[ext]
structure SymbolTable where
  bodies : SortedMap String Body
  legal : ∀ name ∈ bodies.keys, IsDottedName name

namespace SymbolTable

instance : EmptyCollection SymbolTable :=
  ⟨⟨∅, fun _ h => nomatch h⟩⟩

instance : Inhabited SymbolTable := ⟨∅⟩

def find? (t : SymbolTable) (name : String) : Option Body :=
  t.bodies.find? name

def contains (t : SymbolTable) (name : String) : Bool :=
  t.bodies.contains name

/-- The names in order. -/
def names (t : SymbolTable) : List String :=
  t.bodies.keys

/-- The names and bodies in the order of the names. -/
def entries (t : SymbolTable) : List (String × Body) :=
  t.bodies.entries

def view (t : SymbolTable) : TableView :=
  t.entries.map fun (name, body) => (name, body.value?)

def size (t : SymbolTable) : Nat :=
  t.bodies.size

def isEmpty (t : SymbolTable) : Bool :=
  t.bodies.isEmpty

/-- Stores a symbol, in place of one with the same name. -/
def insert (t : SymbolTable) (s : Symbol) : SymbolTable where
  bodies := t.bodies.insert s.name s.body
  legal name h := by
    rw [SortedMap.mem_keys_iff, SortedMap.find?_insert] at h
    split at h
    next heq => exact heq ▸ s.legal
    next => exact t.legal name ((SortedMap.mem_keys_iff ..).2 h)

/-- Defines a symbol whose name is not taken. -/
def define (t : SymbolTable) (s : Symbol) : Except SymbolError SymbolTable :=
  if t.contains s.name then .error (.duplicate s.name) else .ok (t.insert s)

/-- Makes a symbol of a name and a body and defines it. -/
def defineBody (t : SymbolTable) (name : String) (body : Body) : Except SymbolError SymbolTable := do
  t.define (← Symbol.make name body)

/-- A body is defined under a name that is legal and not taken, and nothing else changes. -/
theorem defineBody_cases (t : SymbolTable) (name : String) (body : Body) :
    (∃ fault, NameFault.of? name = some fault ∧
      t.defineBody name body = .error (.badName name fault)) ∨
    (IsDottedName name ∧ t.contains name = true ∧
      t.defineBody name body = .error (.duplicate name)) ∨
    ∃ legal : IsDottedName name, t.contains name = false ∧
      t.defineBody name body = .ok (t.insert ⟨name, body, legal⟩) := by
  unfold defineBody Symbol.make
  split
  next legal =>
    cases htaken : t.contains name with
    | true => exact .inr (.inl ⟨legal, rfl, if_pos htaken⟩)
    | false => exact .inr (.inr ⟨legal, rfl, if_neg (Bool.eq_false_iff.mp htaken)⟩)
  next fault hfault => exact .inl ⟨fault, hfault, rfl⟩

/-- The table of some symbols; the last symbol of a name wins. -/
def ofSymbols (symbols : List Symbol) : SymbolTable :=
  symbols.foldl insert ∅

def symbols (t : SymbolTable) : List Symbol :=
  t.bodies.entries.attach.map fun e =>
    ⟨e.1.1, e.1.2, t.legal e.1.1 (List.mem_map_of_mem e.2)⟩

/-- The symbols whose names `keep` accepts. -/
def filter (keep : String → Bool) (t : SymbolTable) : SymbolTable where
  bodies := t.bodies.filter fun name _ => keep name
  legal name h := by
    refine t.legal name ?_
    obtain ⟨e, he, rfl⟩ := List.mem_map.1 h
    exact List.mem_map_of_mem (List.mem_filter.1 he).1

end SymbolTable

end HotReload
