import HotReload.Proofs.Script.Metering

/-!
# The rules of evaluation

Calls and evaluations described by rules (`Runs`), each of which says what one of them does with the
count of running evaluations and which other ones it makes. No rule bounds a run but the ones for an
evaluation that would pass the limit and for a host function for which there is no room. However a run
ends, the count is then what it was (`Runs.after_eq`), and the evaluations inside it are counted up to
the limit and one more (`Runs.within`). Every call has a run (`exists_runs_call`), and its outcome is
the one that the evaluator computes (`Runs.result_eq`).
-/

namespace HotReload

/-- What is seen of a run while it goes on. -/
inductive RunEvent where
  /-- An evaluation starts. So many are running then, this one among them. -/
  | started (running : Depth) (expr : Expr)
  /-- A call in an environment is answered by something that is no script. -/
  | answered (env : Environment) (name : String) (args : List Value)
      (result : Except CallError Value)

/-- What may be done and how it ends. -/
inductive Activity where
  /-- An expression is evaluated. -/
  | evaluation (env : Environment) (args : List Value) (symbol : String) (expr : Expr)
      (result : Except CallError Value)
  /-- The part of an evaluation during which it is counted among the running ones. -/
  | inside (env : Environment) (args : List Value) (symbol : String) (expr : Expr)
      (result : Except CallError Value)
  /-- The arguments of a call are evaluated one after the other. -/
  | arguments (env : Environment) (args : List Value) (symbol : String) (exprs : List Expr)
      (results : Except CallError (List Value))
  /-- A name is called, where so many host functions may still run inside each other. -/
  | callWithin (hosts : Nat) (env : Environment) (name : String) (args : List Value)
      (result : Except CallError Value)
  /-- A host function that was called by a name goes on where it runs. -/
  | hosting (hosts : Nat) (env : Environment) (name : String) (args : List Value)
      (home : Environment) (run : HostRun) (result : Except CallError Value)

/-- A name is called, not by a host function. -/
abbrev Activity.call (env : Environment) (name : String) (args : List Value)
    (result : Except CallError Value) : Activity :=
  .callWithin maxHosts env name args result

/-- A computation ended in a crash. -/
def Crashed (result : Except CallError α) : Prop :=
  ∃ message, result = .error (.crashed message)

theorem not_crashed_ok (a : α) : ¬Crashed (.ok a : Except CallError α) := by
  rintro ⟨message, h⟩
  cases h

theorem crashed_error_iff {e : CallError} :
    Crashed (.error e : Except CallError α) ↔ ∃ message, e = .crashed message := by
  simp only [Crashed, Except.error.injEq]

theorem reported_of_not_crashed {result : Except CallError α} (h : ¬Crashed result) :
    reported result = .ok result := by
  cases result with
  | ok a => rfl
  | error e =>
    cases e with
    | crashed message => exact absurd ⟨message, rfl⟩ h
    | hidden module symbol => rfl
    | notCallable symbol => rfl
    | arity symbol expected actual => rfl
    | failed symbol message => rfl

/-- The rules: what is done, the counts of running evaluations before and after it, and what is seen
meanwhile. -/
inductive Runs : Activity → (before after : Depth) → List RunEvent → Prop where
  | tooDeep (limit : maxDepth < depth + 1) :
      Runs (.evaluation env args symbol expr (.error (.failed symbol "recursion limit exceeded")))
        depth (depth + 1 - 1) [.started (depth + 1) expr]
  | counted (limit : depth + 1 ≤ maxDepth)
      (inner : Runs (.inside env args symbol expr result) (depth + 1) after trace) :
      Runs (.evaluation env args symbol expr result)
        depth (after - 1) (.started (depth + 1) expr :: trace)
  | text : Runs (.inside env args symbol (.text s) (.ok (.text s))) depth depth []
  | int : Runs (.inside env args symbol (.int n) (.ok (.int n))) depth depth []
  | arg : Runs (.inside env args symbol (.arg n) (argument args symbol n)) depth depth []
  | ref (callee : Runs (.call env name [] result) depth after trace) :
      Runs (.inside env args symbol (.ref name) result) depth after trace
  | call (given : Runs (.arguments env args symbol exprs (.ok values)) depth between first)
      (callee : Runs (.call env name values result) between after second) :
      Runs (.inside env args symbol (.call name exprs) result) depth after (first ++ second)
  | callFails (given : Runs (.arguments env args symbol exprs (.error e)) depth after trace) :
      Runs (.inside env args symbol (.call name exprs) (.error e)) depth after trace
  | add (leftRun : Runs (.evaluation env args symbol left (.ok l)) depth between first)
      (rightRun : Runs (.evaluation env args symbol right (.ok r)) between after second) :
      Runs (.inside env args symbol (.add left right) (addValues symbol l r))
        depth after (first ++ second)
  | leftFails (leftRun : Runs (.evaluation env args symbol left (.error e)) depth after trace) :
      Runs (.inside env args symbol (.add left right) (.error e)) depth after trace
  | rightFails (leftRun : Runs (.evaluation env args symbol left (.ok l)) depth between first)
      (rightRun : Runs (.evaluation env args symbol right (.error e)) between after second) :
      Runs (.inside env args symbol (.add left right) (.error e)) depth after (first ++ second)
  | noArguments : Runs (.arguments env args symbol [] (.ok [])) depth depth []
  | argument (head : Runs (.evaluation env args symbol expr (.ok v)) depth between first)
      (tail : Runs (.arguments env args symbol exprs (.ok values)) between after second) :
      Runs (.arguments env args symbol (expr :: exprs) (.ok (v :: values)))
        depth after (first ++ second)
  | argumentFails (head : Runs (.evaluation env args symbol expr (.error e)) depth after trace) :
      Runs (.arguments env args symbol (expr :: exprs) (.error e)) depth after trace
  | laterFails (head : Runs (.evaluation env args symbol expr (.ok v)) depth between first)
      (tail : Runs (.arguments env args symbol exprs (.error e)) between after second) :
      Runs (.arguments env args symbol (expr :: exprs) (.error e)) depth after (first ++ second)
  | answered (target : env.target name args = .answered result) :
      Runs (.callWithin hosts env name args result) depth depth [.answered env name args result]
  | misfit (target : env.target name args = .scripted home symbol body given)
      (arity : given.length ≠ body.arity) :
      Runs (.callWithin hosts env name args (.error (.arity symbol body.arity given.length)))
        depth depth []
  | scripted (target : env.target name args = .scripted home symbol body given)
      (arity : given.length = body.arity)
      (script : Runs (.evaluation home given symbol body result) depth after trace) :
      Runs (.callWithin hosts env name args result) depth after trace
  | noRoom (target : env.target name args = .hosted home run) :
      Runs (.callWithin 0 env name args (.error stackOverflow))
        depth depth [.answered env name args (.error stackOverflow)]
  | hosted (target : env.target name args = .hosted home run)
      (host : Runs (.hosting hosts env name args home run result) depth after trace) :
      Runs (.callWithin (hosts + 1) env name args result) depth after trace
  | done : Runs (.hosting hosts env name args home (.done result) result)
        depth depth [.answered env name args result]
  | invoke
      (callee : Runs (.callWithin hosts (home.along way) called given answer) depth between first)
      (calm : ¬Crashed answer)
      (rest : Runs (.hosting hosts env name args home (next answer) result) between after second) :
      Runs (.hosting hosts env name args home (.invoke way called given next) result)
        depth after (first ++ second)
  | invokeCrashes (crash : Crashed answer)
      (callee : Runs (.callWithin hosts (home.along way) called given answer) depth after trace) :
      Runs (.hosting hosts env name args home (.invoke way called given next) answer)
        depth after trace

/-! ## The count of running evaluations -/

section Count

variable {activity : Activity} {depth after : Depth} {trace : List RunEvent}

/-- The count of running evaluations is the same after a run as before it, however the run ends. -/
theorem Runs.after_eq (h : Runs activity depth after trace) : after = depth := by
  induction h with
  | tooDeep limit => rfl
  | counted limit inner ih => rw [ih, Nat.add_sub_cancel]
  | text => rfl
  | int => rfl
  | arg => rfl
  | ref callee ih => exact ih
  | call given callee ihGiven ihCallee => exact ihCallee.trans ihGiven
  | callFails given ih => exact ih
  | add leftRun rightRun ihLeft ihRight => exact ihRight.trans ihLeft
  | leftFails leftRun ih => exact ih
  | rightFails leftRun rightRun ihLeft ihRight => exact ihRight.trans ihLeft
  | noArguments => rfl
  | argument head tail ihHead ihTail => exact ihTail.trans ihHead
  | argumentFails head ih => exact ih
  | laterFails head tail ihHead ihTail => exact ihTail.trans ihHead
  | answered target => rfl
  | misfit target arity => rfl
  | scripted target arity script ih => exact ih
  | noRoom target => rfl
  | hosted target host ih => exact ih
  | done => rfl
  | invoke callee calm rest ihCallee ihRest => exact ihRest.trans ihCallee
  | invokeCrashes crash callee ih => exact ih

/-- An event is no evaluation that is counted beyond a limit. -/
def RunEvent.Within (limit : Depth) : RunEvent → Prop
  | .started running _ => running ≤ limit
  | .answered _ _ _ _ => True

/-- Evaluations nest until the count passes the limit and no further. -/
theorem Runs.within (h : Runs activity depth after trace) :
    ∀ event ∈ trace, event.Within (max depth maxDepth + 1) := by
  induction h with
  | tooDeep limit =>
    rw [List.forall_mem_singleton]
    exact Nat.succ_le_succ (Nat.le_max_left _ _)
  | counted limit inner ih =>
    rw [Nat.max_eq_right limit] at ih
    rw [Nat.max_eq_right (Nat.le_of_succ_le limit), List.forall_mem_cons]
    exact ⟨Nat.le_succ_of_le limit, ih⟩
  | text => exact List.forall_mem_nil _
  | int => exact List.forall_mem_nil _
  | arg => exact List.forall_mem_nil _
  | ref callee ih => exact ih
  | call given callee ihGiven ihCallee =>
    rw [given.after_eq] at ihCallee
    exact List.forall_mem_append.mpr ⟨ihGiven, ihCallee⟩
  | callFails given ih => exact ih
  | add leftRun rightRun ihLeft ihRight =>
    rw [leftRun.after_eq] at ihRight
    exact List.forall_mem_append.mpr ⟨ihLeft, ihRight⟩
  | leftFails leftRun ih => exact ih
  | rightFails leftRun rightRun ihLeft ihRight =>
    rw [leftRun.after_eq] at ihRight
    exact List.forall_mem_append.mpr ⟨ihLeft, ihRight⟩
  | noArguments => exact List.forall_mem_nil _
  | argument head tail ihHead ihTail =>
    rw [head.after_eq] at ihTail
    exact List.forall_mem_append.mpr ⟨ihHead, ihTail⟩
  | argumentFails head ih => exact ih
  | laterFails head tail ihHead ihTail =>
    rw [head.after_eq] at ihTail
    exact List.forall_mem_append.mpr ⟨ihHead, ihTail⟩
  | answered target => exact List.forall_mem_singleton.mpr trivial
  | misfit target arity => exact List.forall_mem_nil _
  | scripted target arity script ih => exact ih
  | noRoom target => exact List.forall_mem_singleton.mpr trivial
  | hosted target host ih => exact ih
  | done => exact List.forall_mem_singleton.mpr trivial
  | invoke callee calm rest ihCallee ihRest =>
    rw [callee.after_eq] at ihRest
    exact List.forall_mem_append.mpr ⟨ihCallee, ihRest⟩
  | invokeCrashes crash callee ih => exact ih

end Count

/-! ## Crashes -/

/-- How an activity ended that crashed. -/
def Activity.Crashes : Activity → Prop
  | .evaluation _ _ _ _ result => Crashed result
  | .inside _ _ _ _ result => Crashed result
  | .arguments _ _ _ _ results => Crashed results
  | .callWithin _ _ _ _ result => Crashed result
  | .hosting _ _ _ _ _ _ result => Crashed result

/-- A call that was answered with a crash. -/
def RunEvent.Crashes : RunEvent → Prop
  | .started _ _ => False
  | .answered _ _ _ result => Crashed result

theorem not_crashed_argument (args : List Value) (symbol : String) (n : Nat) :
    ¬Crashed (argument args symbol n) := by
  rintro ⟨message, h⟩
  unfold argument at h
  split at h
  next => cases h
  next =>
    split at h
    next => cases h
    next => cases h

theorem not_crashed_addValues (symbol : String) (left right : Value) :
    ¬Crashed (addValues symbol left right) := by
  rintro ⟨message, h⟩
  unfold addValues at h
  split at h
  next =>
    split at h
    next => cases h
    next => cases h
  next => cases h

theorem exists_crashes_append {first second : List RunEvent} :
    (∃ event ∈ first ++ second, event.Crashes) ↔
      (∃ event ∈ first, event.Crashes) ∨ ∃ event ∈ second, event.Crashes := by
  simp only [List.mem_append, or_and_right, exists_or]

/-- A run crashes if and only if a call in it was answered with a crash. -/
theorem Runs.crashes_iff {activity : Activity} {depth after : Depth} {trace : List RunEvent}
    (h : Runs activity depth after trace) : activity.Crashes ↔ ∃ event ∈ trace, event.Crashes := by
  induction h with
  | tooDeep limit => simp [Activity.Crashes, RunEvent.Crashes, crashed_error_iff]
  | counted limit inner ih => simpa [Activity.Crashes, RunEvent.Crashes] using ih
  | text => simp [Activity.Crashes, not_crashed_ok]
  | int => simp [Activity.Crashes, not_crashed_ok]
  | arg => simp [Activity.Crashes, not_crashed_argument]
  | ref callee ih => exact ih
  | call given callee ihGiven ihCallee =>
    rw [exists_crashes_append, ← ihGiven, ← ihCallee]
    simp only [Activity.Crashes, not_crashed_ok, false_or]
  | callFails given ih => simpa only [Activity.Crashes, crashed_error_iff] using ih
  | add leftRun rightRun ihLeft ihRight =>
    rw [exists_crashes_append, ← ihLeft, ← ihRight]
    simp only [Activity.Crashes, not_crashed_ok, not_crashed_addValues, or_self]
  | leftFails leftRun ih => exact ih
  | rightFails leftRun rightRun ihLeft ihRight =>
    rw [exists_crashes_append, ← ihLeft, ← ihRight]
    simp only [Activity.Crashes, not_crashed_ok, false_or]
  | noArguments => simp [Activity.Crashes, not_crashed_ok]
  | argument head tail ihHead ihTail =>
    rw [exists_crashes_append, ← ihHead, ← ihTail]
    simp only [Activity.Crashes, not_crashed_ok, or_self]
  | argumentFails head ih => simpa only [Activity.Crashes, crashed_error_iff] using ih
  | laterFails head tail ihHead ihTail =>
    rw [exists_crashes_append, ← ihHead, ← ihTail]
    simp only [Activity.Crashes, not_crashed_ok, crashed_error_iff, false_or]
  | answered target => simp [Activity.Crashes, RunEvent.Crashes]
  | misfit target arity => simp [Activity.Crashes, crashed_error_iff]
  | scripted target arity script ih => exact ih
  | noRoom target => simp [Activity.Crashes, RunEvent.Crashes]
  | hosted target host ih => exact ih
  | done => simp [Activity.Crashes, RunEvent.Crashes]
  | invoke callee calm rest ihCallee ihRest =>
    rw [exists_crashes_append, ← ihCallee, ← ihRest]
    exact (or_iff_right calm).symm
  | invokeCrashes crash callee ih => exact ih

/-! ## Runs and computations -/

/-- What an evaluation does while it is counted, with the given way to evaluate its parts. -/
def insideOf (evaluate : Evaluator) (env : Environment) (args : List Value) (symbol : String) :
    Expr → Metered Value
  | .text s => pure (.text s)
  | .int n => pure (.int n)
  | .arg n => ExceptT.mk (pure (argument args symbol n))
  | .ref name => (env.target name []).run evaluate
  | .call name exprs => do
    let values ← exprs.mapM (evaluate env args symbol)
    (env.target name values).run evaluate
  | .add left right => do
    let l ← evaluate env args symbol left
    let r ← evaluate env args symbol right
    ExceptT.mk (pure (addValues symbol l r))

theorem evaluateWithin_succ (fuel : Nat) (env : Environment) (args : List Value) (symbol : String)
    (expr : Expr) :
    evaluateWithin (fuel + 1) env args symbol expr =
      nested symbol (insideOf (evaluateWithin fuel) env args symbol expr) := by
  cases expr with
  | text s => rfl
  | int n => rfl
  | arg n => rfl
  | ref name => rfl
  | call name exprs => rfl
  | add left right => rfl

theorem fuelAt_pos {depth : Nat} (h : depth < maxDepth) : 0 < fuelAt depth := by
  rw [fuelAt]
  omega

theorem maxDepth_le_of_fuelAt_eq_zero {depth : Depth} (h : fuelAt depth = 0) :
    maxDepth ≤ depth :=
  Nat.le_of_succ_le (Nat.le_of_sub_eq_zero h)

theorem fuelAt_succ_le {depth fuel : Nat} (h : fuelAt depth ≤ fuel + 1) :
    fuelAt (depth + 1) ≤ fuel := by
  rw [fuelAt] at h ⊢
  omega

/-- The result of an activity is the one that the evaluator computes with some fuel at a depth. -/
def Activity.Computed (fuel : Nat) (depth : Depth) : Activity → Prop
  | .evaluation env args symbol expr result =>
    (evaluateWithin fuel env args symbol expr).resultAt depth = result
  | .inside env args symbol expr result =>
    (insideOf (evaluateWithin fuel) env args symbol expr).resultAt depth = result
  | .arguments env args symbol exprs results =>
    (exprs.mapM (evaluateWithin fuel env args symbol)).resultAt depth = results
  | .callWithin hosts env name args result =>
    ((env.target name args).runWithin (evaluateWithin fuel) hosts).resultAt depth = result
  | .hosting hosts _ _ _ home run result =>
    (run.perform fun way name args =>
      ((home.along way).target name args).runWithin (evaluateWithin fuel) hosts).resultAt depth =
        result

section Computed

variable {env : Environment} {args : List Value} {symbol : String} {expr left right : Expr}
  {exprs : List Expr} {fuel : Nat} {depth : Depth} {e : CallError}

open Metered

/-- An evaluation that starts at a depth has the fuel for that depth. -/
theorem resultAt_evaluate_eq :
    (evaluate env args symbol expr).resultAt depth =
      (evaluateWithin (fuelAt depth) env args symbol expr).resultAt depth :=
  rfl

theorem resultAt_evaluateWithin_of_le (h : maxDepth ≤ depth) :
    (evaluateWithin fuel env args symbol expr).resultAt depth =
      .error (.failed symbol "recursion limit exceeded") := by
  cases fuel with
  | zero => exact resultAt_nested_of_le h
  | succ fuel =>
    rw [evaluateWithin_succ]
    exact resultAt_nested_of_le h

theorem resultAt_evaluateWithin_of_lt (h : depth < maxDepth) :
    (evaluateWithin (fuel + 1) env args symbol expr).resultAt depth =
      (insideOf (evaluateWithin fuel) env args symbol expr).resultAt (depth + 1) := by
  rw [evaluateWithin_succ]
  exact resultAt_nested_of_lt h

theorem resultAt_insideOf_call (name : String) :
    (insideOf (evaluateWithin fuel) env args symbol (.call name exprs)).resultAt depth =
      ((exprs.mapM (evaluateWithin fuel env args symbol)).resultAt depth).bind fun values =>
        ((env.target name values).run (evaluateWithin fuel)).resultAt depth :=
  resultAt_bind (restores_mapM (restores_evaluateWithin fuel env args symbol)) _ depth

theorem resultAt_insideOf_add :
    (insideOf (evaluateWithin fuel) env args symbol (.add left right)).resultAt depth =
      ((evaluateWithin fuel env args symbol left).resultAt depth).bind fun l =>
        ((evaluateWithin fuel env args symbol right).resultAt depth).bind fun r =>
          addValues symbol l r := by
  have hrestores := restores_evaluateWithin fuel env args symbol
  refine (resultAt_bind (hrestores left) _ depth).trans ?_
  refine congrArg (Except.bind _) (funext fun l => ?_)
  exact resultAt_bind (hrestores right) _ depth

theorem resultAt_arguments_cons :
    ((expr :: exprs).mapM (evaluateWithin fuel env args symbol)).resultAt depth =
      ((evaluateWithin fuel env args symbol expr).resultAt depth).bind fun v =>
        ((exprs.mapM (evaluateWithin fuel env args symbol)).resultAt depth).bind fun values =>
          .ok (v :: values) := by
  have hrestores := restores_evaluateWithin fuel env args symbol
  rw [List.mapM_cons, resultAt_bind (hrestores expr)]
  refine congrArg (Except.bind _) (funext fun v => ?_)
  exact resultAt_bind (restores_mapM hrestores) _ depth

theorem resultAt_hosting_invoke {hosts : Nat} {home : Environment} (way : List Nat) (name : String)
    (args : List Value) (next : Except CallError Value → HostRun) :
    ((HostRun.invoke way name args next).perform fun way name args =>
        ((home.along way).target name args).runWithin (evaluateWithin fuel) hosts).resultAt depth =
      (reported ((((home.along way).target name args).runWithin (evaluateWithin fuel)
        hosts).resultAt depth)).bind fun answer => ((next answer).perform fun way name args =>
          ((home.along way).target name args).runWithin (evaluateWithin fuel) hosts).resultAt depth :=
  have hrestores := Target.restores_runWithin (restores_evaluateWithin fuel)
  HostRun.resultAt_perform_invoke (fun _ _ _ => hrestores hosts _) way name args next depth

/-- What the rules lead to is what the evaluator computes, with any fuel that is enough for the
depth. -/
theorem Runs.computed {activity : Activity} {after : Depth} {trace : List RunEvent}
    (h : Runs activity depth after trace) (hfuel : fuelAt depth ≤ fuel) :
    activity.Computed fuel depth := by
  induction h generalizing fuel with
  | tooDeep limit => exact resultAt_evaluateWithin_of_le (Nat.le_of_lt_succ limit)
  | counted limit inner ih =>
    obtain ⟨fuel, rfl⟩ : ∃ n, fuel = n + 1 :=
      Nat.exists_eq_add_one.mpr (Nat.lt_of_lt_of_le (fuelAt_pos limit) hfuel)
    exact (resultAt_evaluateWithin_of_lt limit).trans (ih (fuelAt_succ_le hfuel))
  | text => rfl
  | int => rfl
  | arg => rfl
  | ref callee ih => exact ih hfuel
  | call given callee ihGiven ihCallee =>
    obtain rfl := given.after_eq
    refine (resultAt_insideOf_call _).trans ?_
    rw [ihGiven hfuel]
    exact ihCallee hfuel
  | callFails given ih =>
    refine (resultAt_insideOf_call _).trans ?_
    rw [ih hfuel]
    rfl
  | add leftRun rightRun ihLeft ihRight =>
    obtain rfl := leftRun.after_eq
    refine resultAt_insideOf_add.trans ?_
    rw [ihLeft hfuel, ihRight hfuel]
    rfl
  | leftFails leftRun ih =>
    refine resultAt_insideOf_add.trans ?_
    rw [ih hfuel]
    rfl
  | rightFails leftRun rightRun ihLeft ihRight =>
    obtain rfl := leftRun.after_eq
    refine resultAt_insideOf_add.trans ?_
    rw [ihLeft hfuel, ihRight hfuel]
    rfl
  | noArguments => rfl
  | argument head tail ihHead ihTail =>
    obtain rfl := head.after_eq
    refine resultAt_arguments_cons.trans ?_
    rw [ihHead hfuel, ihTail hfuel]
    rfl
  | argumentFails head ih =>
    refine resultAt_arguments_cons.trans ?_
    rw [ih hfuel]
    rfl
  | laterFails head tail ihHead ihTail =>
    obtain rfl := head.after_eq
    refine resultAt_arguments_cons.trans ?_
    rw [ihHead hfuel, ihTail hfuel]
    rfl
  | answered target =>
    rw [Activity.Computed, target, Target.runWithin]
    rfl
  | misfit target arity =>
    rw [Activity.Computed, target, Target.runWithin, if_neg arity]
    rfl
  | scripted target arity script ih =>
    rw [Activity.Computed, target, Target.runWithin, if_pos arity]
    exact ih hfuel
  | noRoom target =>
    rw [Activity.Computed, target]
    rfl
  | hosted target host ih =>
    rw [Activity.Computed, target]
    exact ih hfuel
  | done => rfl
  | invoke callee calm rest ihCallee ihRest =>
    obtain rfl := callee.after_eq
    refine (resultAt_hosting_invoke _ _ _ _).trans ?_
    rw [ihCallee hfuel, reported_of_not_crashed calm]
    exact ihRest hfuel
  | invokeCrashes crash callee ih =>
    obtain ⟨message, rfl⟩ := crash
    refine (resultAt_hosting_invoke _ _ _ _).trans ?_
    rw [ih hfuel]
    rfl

end Computed

/-! ## Every activity has a run -/

section Existence

variable {env : Environment} {args values : List Value} {symbol name : String} {expr : Expr}
  {exprs : List Expr} {fuel : Nat} {depth : Depth}

/-- Every evaluation with some fuel at a depth has a run that ends with the computed result. -/
def AllRun (fuel : Nat) (depth : Depth) : Prop :=
  ∀ env args symbol expr, ∃ trace,
    Runs (.evaluation env args symbol expr
      ((evaluateWithin fuel env args symbol expr).resultAt depth)) depth depth trace

/-- A host function has a run if what it calls has. -/
theorem exists_runs_hosting {hosts : Nat} {home : Environment}
    (h : ∀ way name args, ∃ trace, Runs (.callWithin hosts (home.along way) name args
      ((((home.along way).target name args).runWithin (evaluateWithin fuel) hosts).resultAt depth))
        depth depth trace)
    (env : Environment) (name : String) (values : List Value) (run : HostRun) :
    ∃ trace, Runs (.hosting hosts env name values home run
      ((run.perform fun way name args =>
        ((home.along way).target name args).runWithin (evaluateWithin fuel) hosts).resultAt depth))
          depth depth trace := by
  induction run with
  | done result => exact ⟨_, .done⟩
  | invoke way called given next ih =>
    rw [resultAt_hosting_invoke]
    obtain ⟨first, hfirst⟩ := h way called given
    generalize (((home.along way).target called given).runWithin (evaluateWithin fuel)
      hosts).resultAt depth = answer at hfirst
    by_cases hcrash : Crashed answer
    · obtain ⟨message, rfl⟩ := hcrash
      exact ⟨first, .invokeCrashes ⟨message, rfl⟩ hfirst⟩
    · obtain ⟨second, hsecond⟩ := ih answer
      rw [reported_of_not_crashed hcrash]
      exact ⟨first ++ second, .invoke hfirst hcrash hsecond⟩

/-- A call that comes down to a script has a run if evaluations have. -/
theorem AllRun.scripted (h : AllRun fuel depth) (hosts : Nat) {home : Environment} {body : Expr}
    {given : List Value} (htarget : env.target name values = .scripted home symbol body given) :
    ∃ trace, Runs (.callWithin hosts env name values
      (((Target.scripted home symbol body given).runWithin (evaluateWithin fuel) hosts).resultAt
        depth)) depth depth trace := by
  rw [Target.runWithin]
  split
  next harity =>
    obtain ⟨trace, hrun⟩ := h home given symbol body
    exact ⟨trace, .scripted htarget harity hrun⟩
  next harity => exact ⟨[], .misfit htarget harity⟩

/-- A target that is reached has a run if evaluations have. -/
theorem AllRun.callWithin (h : AllRun fuel depth) (hosts : Nat) (env : Environment) (name : String)
    (values : List Value) :
    ∃ trace, Runs (.callWithin hosts env name values
      (((env.target name values).runWithin (evaluateWithin fuel) hosts).resultAt depth))
        depth depth trace := by
  induction hosts generalizing env name values with
  | zero =>
    cases htarget : env.target name values with
    | answered result => exact ⟨_, .answered htarget⟩
    | scripted home symbol body given => exact h.scripted 0 htarget
    | hosted home run => exact ⟨_, .noRoom htarget⟩
  | succ hosts ih =>
    cases htarget : env.target name values with
    | answered result => exact ⟨_, .answered htarget⟩
    | scripted home symbol body given => exact h.scripted (hosts + 1) htarget
    | hosted home run =>
      have hinside := fun way => ih (home.along way)
      obtain ⟨trace, hrun⟩ := exists_runs_hosting hinside env name values run
      exact ⟨trace, .hosted htarget hrun⟩

theorem AllRun.arguments (h : AllRun fuel depth) (env : Environment) (args : List Value)
    (symbol : String) (exprs : List Expr) :
    ∃ trace, Runs (.arguments env args symbol exprs
      ((exprs.mapM (evaluateWithin fuel env args symbol)).resultAt depth)) depth depth trace := by
  induction exprs with
  | nil => exact ⟨[], .noArguments⟩
  | cons expr exprs ih =>
    rw [resultAt_arguments_cons]
    obtain ⟨first, hfirst⟩ := h env args symbol expr
    obtain ⟨second, hsecond⟩ := ih
    cases hhead : (evaluateWithin fuel env args symbol expr).resultAt depth with
    | error e =>
      rw [hhead] at hfirst
      exact ⟨first, .argumentFails hfirst⟩
    | ok v =>
      rw [hhead] at hfirst
      cases htail : (exprs.mapM (evaluateWithin fuel env args symbol)).resultAt depth with
      | error e =>
        rw [htail] at hsecond
        exact ⟨first ++ second, .laterFails hfirst hsecond⟩
      | ok values =>
        rw [htail] at hsecond
        exact ⟨first ++ second, .argument hfirst hsecond⟩

theorem AllRun.inside (h : AllRun fuel depth) (env : Environment) (args : List Value)
    (symbol : String) (expr : Expr) :
    ∃ trace, Runs (.inside env args symbol expr
      ((insideOf (evaluateWithin fuel) env args symbol expr).resultAt depth)) depth depth trace := by
  cases expr with
  | text s => exact ⟨[], .text⟩
  | int n => exact ⟨[], .int⟩
  | arg n => exact ⟨[], .arg⟩
  | ref name =>
    obtain ⟨trace, hrun⟩ := h.callWithin maxHosts env name []
    exact ⟨trace, .ref hrun⟩
  | call name exprs =>
    rw [resultAt_insideOf_call]
    obtain ⟨first, hfirst⟩ := h.arguments env args symbol exprs
    cases hgiven : (exprs.mapM (evaluateWithin fuel env args symbol)).resultAt depth with
    | error e =>
      rw [hgiven] at hfirst
      exact ⟨first, .callFails hfirst⟩
    | ok values =>
      rw [hgiven] at hfirst
      obtain ⟨second, hsecond⟩ := h.callWithin maxHosts env name values
      exact ⟨first ++ second, .call hfirst hsecond⟩
  | add left right =>
    rw [resultAt_insideOf_add]
    obtain ⟨first, hfirst⟩ := h env args symbol left
    obtain ⟨second, hsecond⟩ := h env args symbol right
    cases hleft : (evaluateWithin fuel env args symbol left).resultAt depth with
    | error e =>
      rw [hleft] at hfirst
      exact ⟨first, .leftFails hfirst⟩
    | ok l =>
      rw [hleft] at hfirst
      cases hright : (evaluateWithin fuel env args symbol right).resultAt depth with
      | error e =>
        rw [hright] at hsecond
        exact ⟨first ++ second, .rightFails hfirst hsecond⟩
      | ok r =>
        rw [hright] at hsecond
        exact ⟨first ++ second, .add hfirst hsecond⟩

theorem allRun (hfuel : fuelAt depth ≤ fuel) : AllRun fuel depth := by
  induction fuel generalizing depth with
  | zero =>
    intro env args symbol expr
    have hge : maxDepth ≤ depth := maxDepth_le_of_fuelAt_eq_zero (Nat.le_zero.mp hfuel)
    rw [resultAt_evaluateWithin_of_le hge]
    exact ⟨_, .tooDeep (Nat.lt_succ_of_le hge)⟩
  | succ fuel ih =>
    intro env args symbol expr
    rcases Nat.lt_or_ge depth maxDepth with hlt | hge
    · obtain ⟨trace, hrun⟩ := (ih (fuelAt_succ_le hfuel)).inside env args symbol expr
      rw [resultAt_evaluateWithin_of_lt hlt]
      exact ⟨_, .counted hlt hrun⟩
    · rw [resultAt_evaluateWithin_of_le hge]
      exact ⟨_, .tooDeep (Nat.lt_succ_of_le hge)⟩

end Existence

/-! ## Calls -/

section Calls

variable {env : Environment} {name : String} {args : List Value} {depth : Depth}

/-- Every call has a run, which ends with the result that the call has. -/
theorem exists_runs_call (env : Environment) (name : String) (args : List Value) (depth : Depth) :
    ∃ trace, Runs (.call env name args ((env.call name args).resultAt depth)) depth depth trace := by
  obtain ⟨trace, hrun⟩ := (allRun (Nat.le_refl (fuelAt depth))).callWithin maxHosts env name args
  rw [Target.resultAt_runWithin] at hrun
  exact ⟨trace, hrun⟩

/-- No run of a call ends with another result. -/
theorem Runs.result_eq {result : Except CallError Value} {after : Depth} {trace : List RunEvent}
    (h : Runs (.call env name args result) depth after trace) :
    result = (env.call name args).resultAt depth := by
  have hcomputed := h.computed (Nat.le_refl (fuelAt depth))
  rw [Activity.Computed, Target.resultAt_runWithin] at hcomputed
  exact hcomputed.symm

end Calls

end HotReload
