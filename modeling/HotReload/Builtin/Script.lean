import HotReload.Builtin.Core

/-!
# Script runtime

The functions that modules see which declare a plugin for scripts. Both multiply the length of a text
by a number that their caller chooses, and crash when no text can be that long.
-/

namespace HotReload.Builtin

/-- The greatest number of bytes that a text may take. -/
def textCapacity : Nat := 0x7fffffffffffffff

/-- The number of bytes that some texts take with a separator between them. -/
def joinedSize (separator : String) : List String → Nat
  | [] => 0
  | [s] => s.utf8ByteSize
  | s :: items => s.utf8ByteSize + separator.utf8ByteSize + joinedSize separator items

/-- How joining breaks down that needs so many bytes. A number of bytes beyond 64 bits is noticed while
it is counted. -/
def joinCrash (size : Nat) : CallError :=
  if size < 0x10000000000000000 then .crashed "capacity overflow"
  else .crashed "attempt to join into collection with len > usize::MAX"

/-- The texts of the arguments after the first, separated by the text of the first. -/
def join : List Value → Except CallError Value
  | [] => .error (.arity "script.runtime.join" 1 0)
  | separator :: items =>
    let items := items.map Value.display
    let size := joinedSize separator.display items
    if size ≤ textCapacity then .ok (.text (separator.display.intercalate items))
    else .error (joinCrash size)

/-- The number of repetitions that a value asks for. -/
def repetitions? (v : Value) : Option Nat :=
  v.toNat64?

/-- A text repeated `count` times, by doubling. -/
def repeated (s : String) (count : Nat) : String :=
  if s.isEmpty then "" else go count
where
  /-- The repetition of a text that is not empty. -/
  go (count : Nat) : String :=
    if count = 0 then ""
    else
      let half := go (count / 2)
      if count % 2 = 0 then half ++ half else half ++ half ++ s

/-- The text of the first argument, as many times as the second says. -/
def repeatText : List Value → Except CallError Value
  | [v, count] =>
    match repetitions? count with
    | some n =>
      if v.display.utf8ByteSize * n ≤ textCapacity then .ok (.text (repeated v.display n))
      else .error (.crashed "capacity overflow")
    | none =>
      .error (.failed "script.runtime.repeat"
        ("count must be a non-negative integer, got " ++ count.json))
  | args => .error (.arity "script.runtime.repeat" 2 args.length)

def scriptRuntime : SymbolTable := .ofSymbols [
  ⟨"script.runtime.join", pureFunction join, by decide⟩,
  ⟨"script.runtime.repeat", pureFunction repeatText, by decide⟩]

end HotReload.Builtin
