import HotReload.Proofs.Except
import HotReload.Proofs.Script.Metering

/-!
# What a call fails for

The error of a call does not tell which step of it failed: a symbol of the boundary may answer with any
error, those of the evaluator included. Here calls of a module's own symbols are described a second
time, so that every failure says what it is a failure of (`Environment.outcome`). Apart from that the
two descriptions agree (`resultAt_call`).
-/

namespace HotReload

/-- A failure of a call and the step that it is a failure of. -/
inductive Failure where
  /-- An evaluation that would pass the limit. -/
  | recursion (symbol : String)
  /-- An addition. -/
  | sum (left right : Value) (e : CallError)
  /-- A reference to an argument that was not given. -/
  | argument (symbol : String) (n actual : Nat)
  /-- A name that stands for nothing. -/
  | hidden (module : ModuleId) (name : String)
  /-- A call of a script of the module with the wrong number of arguments. -/
  | arity (symbol : String) (expected actual : Nat)
  /-- A call of a constant of the module with arguments. -/
  | constantCalled (name : String)
  /-- A call, at a depth, of a symbol that is no script or constant of the module. -/
  | returned (name : String) (args : List Value) (depth : Depth) (e : CallError)

/-- The error that a failure is reported as. -/
def Failure.error : Failure → CallError
  | recursion symbol => .failed symbol "recursion limit exceeded"
  | sum _ _ e => e
  | argument symbol n actual => .arity symbol n actual
  | hidden module name => .hidden module name
  | arity symbol expected actual => .arity symbol expected actual
  | constantCalled name => .notCallable name
  | returned _ _ _ e => e

namespace Environment

/-- A call of a symbol that is no script or constant of the module. -/
def delegate (env : Environment) (depth : Depth) (name : String) (args : List Value) :
    Except Failure Value :=
  ((env.call name args).resultAt depth).mapError (.returned name args depth)

/-- A call from a script of the module, with the given way to evaluate scripts of the module. -/
def answer (env : Environment) (evaluate : List Value → String → Expr → Except Failure Value)
    (depth : Depth) (name : String) (args : List Value) : Except Failure Value :=
  match env.own.find? name with
  | some (.constant v) => if args.isEmpty then .ok v else .error (.constantCalled name)
  | some (.function (.script symbol body)) =>
    if args.length = body.arity then evaluate args symbol body
    else .error (.arity symbol body.arity args.length)
  | some (.function (.host _)) => env.delegate depth name args
  | none =>
    match env.boundary.resolve? name with
    | some _ => env.delegate depth name args
    | none => .error (.hidden env.module name)

/-- The evaluation of a script of the module, where so many evaluations may still start inside each
other. -/
def outcome (env : Environment) : (levels : Nat) → List Value → String → Expr → Except Failure Value
  | 0, _, symbol, _ => .error (.recursion symbol)
  | levels + 1, args, symbol, expr =>
    match expr with
    | .text s => .ok (.text s)
    | .int n => .ok (.int n)
    | .arg n => (argument args symbol n).mapError fun _ => .argument symbol n args.length
    | .ref name => env.answer (env.outcome levels) (maxDepth - levels) name []
    | .call name exprs =>
      (exprs.mapM (env.outcome levels args symbol)).bind
        (env.answer (env.outcome levels) (maxDepth - levels) name)
    | .add left right =>
      (env.outcome levels args symbol left).bind fun l =>
        (env.outcome levels args symbol right).bind fun r =>
          (addValues symbol l r).mapError (.sum l r)

/-- A call at a depth. -/
def outcomeOf (env : Environment) (depth : Depth) (name : String) (args : List Value) :
    Except Failure Value :=
  env.answer (env.outcome (maxDepth - depth)) depth name args

end Environment

section Agreement

variable {env : Environment} {depth levels : Nat} {name symbol : String}
  {args : List Value} {expr : Expr}

theorem target_of_own {body : Body} (h : env.own.find? name = some body) :
    env.target name args = env.follow name body args := by
  rw [Environment.target, Environment.resolve, Environment.resolve?, h]
  rfl

theorem mapError_delegate :
    (env.delegate depth name args).mapError Failure.error = (env.call name args).resultAt depth := by
  rw [Environment.delegate]
  cases (env.call name args).resultAt depth with
  | error e => rfl
  | ok v => rfl

/-- An argument that was not given is the only failure of a reference to an argument. -/
theorem mapError_argument (args : List Value) (symbol : String) (n : Nat) :
    ((argument args symbol n).mapError fun _ => Failure.argument symbol n args.length).mapError
      Failure.error = argument args symbol n := by
  cases n with
  | zero => rfl
  | succ n =>
    rw [argument]
    cases args[n]? with
    | none => rfl
    | some v => rfl

theorem mapError_sum (symbol : String) (left right : Value) :
    ((addValues symbol left right).mapError (Failure.sum left right)).mapError Failure.error =
      addValues symbol left right := by
  cases addValues symbol left right with
  | error e => rfl
  | ok v => rfl

/-- Calls agree where evaluations of scripts do. -/
theorem resultAt_run_target {ev : Evaluator}
    {f : List Value → String → Expr → Except Failure Value}
    (hown : ∀ args symbol body,
      (ev env args symbol body).resultAt depth = (f args symbol body).mapError Failure.error)
    (hcall : ((env.target name args).run ev).resultAt depth = (env.call name args).resultAt depth) :
    ((env.target name args).run ev).resultAt depth =
      (env.answer f depth name args).mapError Failure.error := by
  rw [Environment.answer]
  cases hfind : env.own.find? name with
  | some body =>
    rcases body with v | (⟨symbol, body⟩ | run)
    · rw [target_of_own hfind]
      cases args with
      | nil => rfl
      | cons first rest => rfl
    · rw [target_of_own hfind, Environment.follow, Target.run_scripted]
      dsimp only
      split
      · exact hown args symbol body
      · rfl
    · exact hcall.trans mapError_delegate.symm
  | none =>
    cases hfound : env.boundary.resolve? name with
    | some r => exact hcall.trans mapError_delegate.symm
    | none =>
      have hresolve : env.resolve name = .error (.hidden env.module name) := by
        rw [Environment.resolve, Environment.resolve?, hfind]
        simp only [hfound]
      rw [Environment.target, hresolve]
      rfl

theorem resultAt_evaluateWithin (h : depth + levels = maxDepth) :
    (evaluateWithin (levels + 1) env args symbol expr).resultAt depth =
      (env.outcome levels args symbol expr).mapError Failure.error := by
  induction levels generalizing depth args symbol expr with
  | zero => exact Metered.resultAt_nested_of_le (Nat.le_of_eq h.symm)
  | succ levels ih =>
    have hlimit : depth < maxDepth := by omega
    have hinside : depth + 1 + levels = maxDepth := by omega
    have hdepth : maxDepth - levels = depth + 1 := Nat.sub_eq_of_eq_add hinside.symm
    have hfuel : fuelAt (depth + 1) = levels + 1 := by
      rw [fuelAt]
      omega
    have hrestores := restores_evaluateWithin (levels + 1) env args symbol
    have hcall : ∀ name values,
        ((env.target name values).run (evaluateWithin (levels + 1))).resultAt (depth + 1) =
          (env.answer (env.outcome levels) (maxDepth - levels) name values).mapError
            Failure.error := by
      intro name values
      rw [hdepth]
      apply resultAt_run_target fun args symbol body => ih hinside
      rw [← hfuel]
      exact Target.resultAt_runWithin maxHosts _ _
    refine (Metered.resultAt_nested_of_lt hlimit).trans ?_
    cases expr with
    | text s => rfl
    | int n => rfl
    | arg n => exact (mapError_argument args symbol n).symm
    | ref name => exact hcall name []
    | call name exprs =>
      dsimp only [Environment.outcome]
      rw [Metered.resultAt_bind (Metered.restores_mapM hrestores), Metered.resultAt_mapM hrestores,
        except_mapError_bind, mapError_mapM]
      simp only [ih hinside, hcall]
    | add left right =>
      dsimp only [Environment.outcome]
      rw [Metered.resultAt_bind (hrestores left), except_mapError_bind, ih hinside]
      refine congrArg (Except.bind _) (funext fun l => ?_)
      rw [Metered.resultAt_bind (hrestores right), except_mapError_bind, ih hinside]
      refine congrArg (Except.bind _) (funext fun r => ?_)
      exact (mapError_sum symbol l r).symm

theorem resultAt_evaluate (env : Environment) (depth : Nat) (args : List Value) (symbol : String)
    (expr : Expr) :
    (evaluate env args symbol expr).resultAt depth =
      (env.outcome (maxDepth - depth) args symbol expr).mapError Failure.error := by
  rcases Nat.le_total depth maxDepth with hle | hge
  · have hlevels : depth + (maxDepth - depth) = maxDepth := Nat.add_sub_of_le hle
    have hfuel : fuelAt depth = maxDepth - depth + 1 := by
      rw [fuelAt, Nat.sub_add_comm hle]
    rw [← resultAt_evaluateWithin hlevels, ← hfuel]
    rfl
  · have hnone : maxDepth - depth = 0 := Nat.sub_eq_zero_of_le hge
    rw [hnone]
    change (evaluateWithin (fuelAt depth) env args symbol expr).resultAt depth = _
    cases fuelAt depth with
    | zero => exact Metered.resultAt_nested_of_le hge
    | succ fuel => exact Metered.resultAt_nested_of_le hge

/-- The two descriptions of a call agree. -/
theorem resultAt_call (env : Environment) (depth : Nat) (name : String) (args : List Value) :
    (env.call name args).resultAt depth =
      (env.outcomeOf depth name args).mapError Failure.error :=
  resultAt_run_target (resultAt_evaluate env depth) rfl

end Agreement

end HotReload
