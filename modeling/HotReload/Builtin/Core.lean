import HotReload.Symbol.Basic
import HotReload.Text.Case

/-!
# Core symbols

The symbols that every module sees: the version of the runtime and a few functions on texts.
-/

namespace HotReload.Builtin

/-- The version of the runtime. -/
def runtimeVersion : String := "0.1.0"

/-- Checks the number of arguments of a function of one argument. -/
def onlyArgument (symbol : String) : List Value → Except CallError Value
  | [v] => .ok v
  | args => .error (.arity symbol 1 args.length)

/-- Checks that the only argument is a text. -/
def onlyText (symbol : String) (args : List Value) : Except CallError String := do
  match ← onlyArgument symbol args with
  | .text s => return s
  | v => throw (.failed symbol ("expected a string, got " ++ v.json))

def concat (args : List Value) : Except CallError Value :=
  .ok (.text (String.join (args.map Value.display)))

def upper (args : List Value) : Except CallError Value := do
  return .text (Text.toUpper (← onlyText "relink.core.upper" args))

def lower (args : List Value) : Except CallError Value := do
  return .text (Text.toLower (← onlyText "relink.core.lower" args))

/-- The number of characters, items or fields of the argument. -/
def length (args : List Value) : Except CallError Value := do
  match ← onlyArgument "relink.core.len" args with
  | .text s => return .int s.length
  | .array items => return .int items.length
  | .object fields => return .int fields.length
  | v => throw (.failed "relink.core.len" ("no length for " ++ v.json))

/-- A host function that answers from its arguments alone. -/
def pureFunction (run : List Value → Except CallError Value) : Body :=
  .function (.host fun _ args => .done (run args))

def core : SymbolTable := .ofSymbols [
  ⟨"relink.core.version", .constant (.text runtimeVersion), by decide⟩,
  ⟨"relink.core.concat", pureFunction concat, by decide⟩,
  ⟨"relink.core.upper", pureFunction upper, by decide⟩,
  ⟨"relink.core.lower", pureFunction lower, by decide⟩,
  ⟨"relink.core.len", pureFunction length, by decide⟩]

end HotReload.Builtin
