import HotReload.Identity
import HotReload.Value.Parser

/-!
# What to call

A call on the command line names a module and a symbol, with the first colon between them. An argument
is a value in JSON, or else a text that stands for itself.
-/

namespace HotReload.CommandLine

/-- A symbol as a module sees it. -/
@[ext]
structure InvokeTarget where
  module : ModuleId
  symbol : String
  deriving DecidableEq

/-- Why a text names nothing to call. -/
inductive TargetFault where
  | noColon
  | noSymbol
  | badModule (reason : IdError)
  deriving DecidableEq, Repr

/-- The fault of a text in words, followed by its cause if it has one. -/
def TargetFault.chain (text : String) : TargetFault → List String
  | .noColon => ["invoke target '" ++ text ++ "' must look like MODULE:SYMBOL"]
  | .noSymbol => ["invoke target '" ++ text ++ "' has no symbol"]
  | .badModule reason => ["invoke target '" ++ text ++ "'", reason.message]

def InvokeTarget.parse (text : String) : Except TargetFault InvokeTarget :=
  match text.toList.dropWhile (· != ':') with
  | [] => .error .noColon
  | [_] => .error .noSymbol
  | _ :: symbol =>
    match ModuleId.parse (.ofList (text.toList.takeWhile (· != ':'))) with
    | .ok module => .ok { module, symbol := .ofList symbol }
    | .error reason => .error (.badModule reason)

def argumentValue (text : String) : Value :=
  (Value.parse? text).getD (.text text)

end HotReload.CommandLine
