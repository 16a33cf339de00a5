import HotReload.Environment.Basic

/-!
# Calls

How symbols are called and scripts evaluated. Every name in a script is looked up in the environment
of the module that defines the script. Evaluations nest at most `maxDepth` deep: each counts itself
in while it runs and out when it ends, however it ends, and one that would pass the limit fails. The
count is threaded through the computation, so that what one call leaves behind is what the next one
starts from. Host functions are not counted; what they call starts at the count that they were called
at.
-/

namespace HotReload

/-- The number of evaluations that are running, each inside the one before. -/
abbrev Depth := Nat

/-- The highest number of evaluations that run inside each other. -/
def maxDepth : Depth := 256

/-- A computation that may fail and that counts the evaluations around it. -/
abbrev Metered (α : Type) := ExceptT CallError (StateM Depth) α

/-- The outcome of a computation and the count that it leaves, from a count at its start. -/
def Metered.runFrom (m : Metered α) (depth : Depth) : Except CallError α × Depth :=
  StateT.run (ExceptT.run m) depth

/-- What is reported of a call to the function that made it: how it ended, unless it crashed. -/
def reported : Except CallError α → Except CallError (Except CallError α)
  | .error (.crashed message) => .error (.crashed message)
  | result => .ok result

/-- A computation from whose failure one can go on. -/
def Metered.reported (m : Metered α) : Metered (Except CallError α) := ExceptT.mk fun depth =>
  let (result, after) := m.runFrom depth
  (HotReload.reported result, after)

/-- Runs `body` as an evaluation on behalf of a symbol: one level deeper, if the limit allows. -/
def nested (symbol : String) (body : Metered α) : Metered α := ExceptT.mk fun depth =>
  let inside := depth + 1
  if maxDepth < inside then (.error (.failed symbol "recursion limit exceeded"), inside - 1)
  else
    let (result, after) := body.runFrom inside
    (result, after - 1)

/-- The sum of integers that fit 64 bits with sign, if both values are such integers; otherwise their
texts one after the other. -/
def addValues (symbol : String) (left right : Value) : Except CallError Value :=
  match left.toInt64?, right.toInt64? with
  | some a, some b =>
    if -0x8000000000000000 ≤ a + b ∧ a + b < 0x8000000000000000 then .ok (.int (a + b))
    else
      .error (.failed symbol ("integer overflow in " ++ toString a ++ " + " ++ toString b))
  | _, _ => .ok (.text (left.display ++ right.display))

/-- What a call comes down to once its name is looked up. -/
inductive Target where
  /-- The call is answered without running anything. -/
  | answered (result : Except CallError Value)
  /-- The script to evaluate, the environment it runs in and its arguments. -/
  | scripted (home : Environment) (symbol : String) (body : Expr) (args : List Value)
  /-- What a host function does, and the environment it runs in. -/
  | hosted (home : Environment) (run : HostRun)

/-- What a call of a body, which has a name, comes down to in the environment it runs in. -/
def Environment.follow (home : Environment) (name : String) (body : Body) (args : List Value) :
    Target :=
  match body with
  | .constant v => .answered (if args.isEmpty then .ok v else .error (.notCallable name))
  | .function (.script symbol expr) => .scripted home symbol expr args
  | .function (.host run) => .hosted home (run home.view args)

/-- What a call of a name comes down to. -/
def Environment.target (env : Environment) (name : String) (args : List Value) : Target :=
  match env.resolve name with
  | .error e => .answered (.error e)
  | .ok found => (found.owner.getD env).follow found.name found.body args

/-- How scripts are evaluated: environment, arguments, the symbol to report failures under, and the
expression. -/
abbrev Evaluator := Environment → List Value → String → Expr → Metered Value

/-- The number of host functions that run inside each other with no script between them. One more
exhausts the stack; where that happens in a real program depends on the machine. -/
def maxHosts : Nat := 4096

/-- The crash of a program whose stack is exhausted. -/
def stackOverflow : CallError :=
  .crashed "stack overflow"

/-- Does what a host function does, with the given means to call names from where it runs. -/
def HostRun.perform (call : List Nat → String → List Value → Metered Value) : HostRun → Metered Value
  | .done result => ExceptT.mk (pure result)
  | .invoke way name args next => do
    let answer ← (call way name args).reported
    (next answer).perform call

/-- Completes a call with the given evaluator for scripts, where so many host functions may still run
inside each other. -/
def Target.runWithin (evaluate : Evaluator) : (hosts : Nat) → Target → Metered Value
  | _, .answered result => ExceptT.mk (pure result)
  | _, .scripted home symbol body args =>
    if args.length = body.arity then evaluate home args symbol body
    else throw (.arity symbol body.arity args.length)
  | 0, .hosted _ _ => throw stackOverflow
  | hosts + 1, .hosted home run =>
    run.perform fun way name args => ((home.along way).target name args).runWithin evaluate hosts

/-- Completes a call with the given evaluator for scripts. -/
def Target.run (evaluate : Evaluator) (target : Target) : Metered Value :=
  target.runWithin evaluate maxHosts

/-- The value of an argument reference, counted from one. -/
def argument (args : List Value) (symbol : String) : Nat → Except CallError Value
  | 0 => .error (.arity symbol 0 args.length)
  | n + 1 =>
    match args[n]? with
    | some v => .ok v
    | none => .error (.arity symbol (n + 1) args.length)

/-- Evaluates an expression. The count of running evaluations decides when recursion goes too deep;
`fuel` only bounds the definition and does not run out before that. -/
def evaluateWithin : (fuel : Nat) → Evaluator
  | 0, _, _, symbol, _ => nested symbol (throw (.failed symbol "recursion limit exceeded"))
  | fuel + 1, env, args, symbol, expr =>
    nested symbol <|
      match expr with
      | .text s => pure (.text s)
      | .int n => pure (.int n)
      | .arg n => ExceptT.mk (pure (argument args symbol n))
      | .ref name => (env.target name []).run (evaluateWithin fuel)
      | .call name exprs => do
        let values ← exprs.mapM (evaluateWithin fuel env args symbol)
        (env.target name values).run (evaluateWithin fuel)
      | .add left right => do
        let l ← evaluateWithin fuel env args symbol left
        let r ← evaluateWithin fuel env args symbol right
        ExceptT.mk (pure (addValues symbol l r))

/-- The number of evaluations that may still start inside each other, and one more that fails. -/
def fuelAt (depth : Depth) : Nat :=
  maxDepth + 1 - depth

def evaluate : Evaluator := fun env args symbol expr => ExceptT.mk fun depth =>
  (evaluateWithin (fuelAt depth) env args symbol expr).runFrom depth

namespace Environment

/-- Calls a name: the symbol runs in the environment of its owner. -/
def call (env : Environment) (name : String) (args : List Value) : Metered Value :=
  (env.target name args).run evaluate

/-- Calls a name while no evaluation is running. -/
def invoke (env : Environment) (name : String) (args : List Value) : Except CallError Value :=
  ((env.call name args).runFrom 0).1

/-- Calls the body of a symbol, which has a name, while no evaluation is running. -/
def invokeBody (env : Environment) (name : String) (body : Body) (args : List Value) :
    Except CallError Value :=
  (((env.follow name body args).run evaluate).runFrom 0).1

end Environment

end HotReload
