import HotReload.Environment.Call

/-!
# Evaluations count themselves out

However an evaluation ends, it leaves the count of running evaluations as it was at its start
(`restores_evaluateWithin`). So of a computation only its result at a depth matters, and the parts of
a computation all run at the same depth.
-/

namespace HotReload

namespace Metered

variable {α β : Type} {m : Metered α} {depth : Depth}

/-- The result of a computation that starts at a depth. -/
def resultAt (m : Metered α) (depth : Depth) : Except CallError α :=
  (m.runFrom depth).1

/-- A computation leaves the count of running evaluations as it was. -/
def Restores (m : Metered α) : Prop :=
  ∀ depth, (m.runFrom depth).2 = depth

theorem Restores.runFrom_eq (h : m.Restores) (depth : Depth) :
    m.runFrom depth = (m.resultAt depth, depth) :=
  Prod.ext rfl (h depth)

theorem restores_pure (a : α) : Restores (pure a) := fun _ => rfl

theorem restores_throw (e : CallError) : Restores (throw e : Metered α) := fun _ => rfl

theorem restores_const (r : Except CallError α) : Restores (ExceptT.mk (pure r) : Metered α) :=
  fun _ => rfl

theorem runFrom_bind_of_ok {f : α → Metered β} {a : α} {after : Depth}
    (h : m.runFrom depth = (.ok a, after)) : (m >>= f).runFrom depth = (f a).runFrom after :=
  congrArg (fun p : Except CallError α × Depth => (ExceptT.bindCont f p.1 : StateM Depth _) p.2) h

theorem runFrom_bind_of_error {f : α → Metered β} {e : CallError} {after : Depth}
    (h : m.runFrom depth = (.error e, after)) : (m >>= f).runFrom depth = (.error e, after) :=
  congrArg (fun p : Except CallError α × Depth => (ExceptT.bindCont f p.1 : StateM Depth _) p.2) h

theorem resultAt_bind (hm : m.Restores) (f : α → Metered β) (depth : Depth) :
    (m >>= f).resultAt depth = (m.resultAt depth).bind fun a => (f a).resultAt depth := by
  have hrun := hm.runFrom_eq depth
  cases hresult : m.resultAt depth with
  | ok a =>
    rw [hresult] at hrun
    exact congrArg Prod.fst (runFrom_bind_of_ok hrun)
  | error e =>
    rw [hresult] at hrun
    exact congrArg Prod.fst (runFrom_bind_of_error hrun)

theorem Restores.bind {f : α → Metered β} (hm : m.Restores) (hf : ∀ a, (f a).Restores) :
    (m >>= f).Restores := by
  intro depth
  have hrun := hm.runFrom_eq depth
  cases hresult : m.resultAt depth with
  | ok a =>
    rw [hresult] at hrun
    rw [runFrom_bind_of_ok hrun]
    exact hf a depth
  | error e =>
    rw [hresult] at hrun
    rw [runFrom_bind_of_error hrun]

theorem restores_mapM {as : List α} {f : α → Metered β} (hf : ∀ a, (f a).Restores) :
    (as.mapM f).Restores := by
  induction as with
  | nil => exact restores_pure []
  | cons a as ih =>
    rw [List.mapM_cons]
    exact (hf a).bind fun b => ih.bind fun bs => restores_pure (b :: bs)

theorem resultAt_mapM {f : α → Metered β} (hf : ∀ a, (f a).Restores) (as : List α)
    (depth : Depth) : (as.mapM f).resultAt depth = as.mapM fun a => (f a).resultAt depth := by
  induction as with
  | nil => rfl
  | cons a as ih =>
    rw [List.mapM_cons, List.mapM_cons, resultAt_bind (hf a)]
    refine congrArg (Except.bind _) (funext fun b => ?_)
    rw [resultAt_bind (restores_mapM hf), ih]
    rfl

theorem Restores.reported (hm : m.Restores) : m.reported.Restores :=
  hm

/-- Nothing runs inside an evaluation that would pass the limit. -/
theorem resultAt_nested_of_le {symbol : String} (h : maxDepth ≤ depth) :
    (nested symbol m).resultAt depth = .error (.failed symbol "recursion limit exceeded") := by
  have hlimit : maxDepth < depth + 1 := Nat.lt_succ_of_le h
  change (if maxDepth < depth + 1 then _ else _ : Except CallError α × Depth).1 = _
  rw [if_pos hlimit]

theorem resultAt_nested_of_lt {symbol : String} (h : depth < maxDepth) :
    (nested symbol m).resultAt depth = m.resultAt (depth + 1) := by
  have hlimit : ¬maxDepth < depth + 1 := Nat.not_lt_of_le h
  change (if maxDepth < depth + 1 then _ else _ : Except CallError α × Depth).1 = _
  rw [if_neg hlimit]
  rfl

theorem Restores.nested {symbol : String} (hm : m.Restores) :
    (HotReload.nested symbol m).Restores := by
  intro depth
  change (if maxDepth < depth + 1 then _ else _ : Except CallError α × Depth).2 = _
  split
  · rfl
  · change (m.runFrom (depth + 1)).2 - 1 = depth
    rw [hm (depth + 1)]
    rfl

end Metered

open Metered

section Hosts

variable {call : List Nat → String → List Value → Metered Value}

/-- A host function leaves the count as it was if its calls do. -/
theorem HostRun.restores_perform (h : ∀ way name args, (call way name args).Restores)
    (run : HostRun) : (run.perform call).Restores := by
  induction run with
  | done result => exact restores_const result
  | invoke way name args next ih => exact (h way name args).reported.bind ih

theorem HostRun.resultAt_perform_invoke (h : ∀ way name args, (call way name args).Restores)
    (way : List Nat) (name : String) (args : List Value) (next : Except CallError Value → HostRun)
    (depth : Depth) :
    ((HostRun.invoke way name args next).perform call).resultAt depth =
      (reported ((call way name args).resultAt depth)).bind fun answer =>
        ((next answer).perform call).resultAt depth :=
  resultAt_bind (h way name args).reported _ depth

/-- At a depth, a host function does the same with calls that have the same results at that depth. -/
theorem HostRun.resultAt_perform_congr {call' : List Nat → String → List Value → Metered Value}
    {depth : Depth} (h : ∀ way name args, (call way name args).Restores)
    (h' : ∀ way name args, (call' way name args).Restores)
    (hsame : ∀ way name args,
      (call way name args).resultAt depth = (call' way name args).resultAt depth)
    (run : HostRun) : (run.perform call).resultAt depth = (run.perform call').resultAt depth := by
  induction run with
  | done result => rfl
  | invoke way name args next ih =>
    rw [resultAt_perform_invoke h, resultAt_perform_invoke h', hsame]
    exact congrArg _ (funext ih)

end Hosts

theorem Target.run_scripted (evaluate : Evaluator) (home : Environment) (symbol : String)
    (body : Expr) (args : List Value) :
    (Target.scripted home symbol body args).run evaluate =
      if args.length = body.arity then evaluate home args symbol body
      else throw (.arity symbol body.arity args.length) := by
  rw [run, runWithin]

/-- A call leaves the count as it was if the evaluations of scripts do. -/
theorem Target.restores_runWithin {evaluate : Evaluator}
    (h : ∀ env args symbol expr, (evaluate env args symbol expr).Restores) (hosts : Nat)
    (t : Target) : (t.runWithin evaluate hosts).Restores := by
  fun_induction runWithin evaluate hosts t with
  | case1 hosts result => exact restores_const result
  | case2 hosts home symbol body args arity => exact h home args symbol body
  | case3 hosts home symbol body args arity => exact restores_throw _
  | case4 home run => exact restores_throw _
  | case5 hosts home run ih => exact run.restores_perform ih

theorem restores_evaluateWithin (fuel : Nat) (env : Environment) (args : List Value)
    (symbol : String) (expr : Expr) : (evaluateWithin fuel env args symbol expr).Restores := by
  induction fuel generalizing env args symbol expr with
  | zero => exact (restores_throw _).nested
  | succ fuel ih =>
    apply Restores.nested
    cases expr with
    | text s => exact restores_pure _
    | int n => exact restores_pure _
    | arg n => exact restores_const _
    | ref name => exact Target.restores_runWithin ih maxHosts _
    | call name exprs =>
      exact (restores_mapM (ih env args symbol)).bind fun _ =>
        Target.restores_runWithin ih maxHosts _
    | add left right =>
      exact (ih env args symbol left).bind fun _ => (ih env args symbol right).bind fun _ =>
        restores_const _

theorem restores_evaluate (env : Environment) (args : List Value) (symbol : String) (expr : Expr) :
    (evaluate env args symbol expr).Restores := fun depth =>
  restores_evaluateWithin (fuelAt depth) env args symbol expr depth

/-- A call leaves the count as it was. -/
theorem Environment.restores_call (env : Environment) (name : String) (args : List Value) :
    (env.call name args).Restores :=
  Target.restores_runWithin restores_evaluate maxHosts (env.target name args)

/-- A call that starts at a depth evaluates scripts with the fuel for that depth. -/
theorem Target.resultAt_runWithin (hosts : Nat) (t : Target) (depth : Depth) :
    (t.runWithin (evaluateWithin (fuelAt depth)) hosts).resultAt depth =
      (t.runWithin evaluate hosts).resultAt depth := by
  have hfuel := restores_runWithin (restores_evaluateWithin (fuelAt depth))
  fun_induction runWithin evaluate hosts t with
  | case1 hosts result => rw [runWithin]
  | case2 hosts home symbol body args arity =>
    rw [runWithin, if_pos arity]
    rfl
  | case3 hosts home symbol body args arity => rw [runWithin, if_neg arity]
  | case4 home run => rfl
  | case5 hosts home run ih =>
    exact run.resultAt_perform_congr (fun _ _ _ => hfuel hosts _)
      (fun _ _ _ => restores_runWithin restores_evaluate hosts _) ih

end HotReload
