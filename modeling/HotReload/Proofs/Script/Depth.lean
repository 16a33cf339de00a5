import HotReload.Proofs.Script.Rules
import HotReload.Proofs.Script.Tables

/-!
# The depth at which evaluations start

A host function may answer when what it calls has failed, and so tell how deep it is called. Where all
host functions pass such failures on (`SymbolTable.PassesFailures`), as those of the core and of the
script runtime do, which call nothing, a run that does not end with the limit takes the same course
with fewer evaluations around it (`Runs.outward`): of all rules only those that compare the count with
the limit look at it, and no rule turns a failure into something else. So the result at a depth is the
result at any smaller one, unless it is a failure with the limit (`resultAt_eq_of_le`).
-/

namespace HotReload

/-- A computation failed because evaluations would have nested too deeply. -/
def LimitExceeded (result : Except CallError α) : Prop :=
  ∃ symbol, result = .error (.failed symbol "recursion limit exceeded")

theorem not_limitExceeded_ok (a : α) : ¬LimitExceeded (.ok a : Except CallError α) := by
  rintro ⟨symbol, h⟩
  cases h

/-- A failure with the limit is one whatever the computation would have given. -/
theorem LimitExceeded.error {e : CallError} (h : LimitExceeded (.error e : Except CallError α)) :
    LimitExceeded (.error e : Except CallError β) := by
  obtain ⟨symbol, h⟩ := h
  cases h
  exact ⟨symbol, rfl⟩

/-- How an activity ended that failed with the limit. -/
def Activity.ExceedsLimit : Activity → Prop
  | .evaluation _ _ _ _ result => LimitExceeded result
  | .inside _ _ _ _ result => LimitExceeded result
  | .arguments _ _ _ _ results => LimitExceeded results
  | .callWithin _ _ _ _ result => LimitExceeded result
  | .hosting _ _ _ _ _ _ result => LimitExceeded result

/-! ## Failures that are passed on -/

/-- A host function fails when something that it calls does, and for the same reason. -/
inductive HostRun.PassesFailures : HostRun → Prop
  | done (result : Except CallError Value) : PassesFailures (.done result)
  | invoke {way : List Nat} {name : String} {args : List Value}
      {next : Except CallError Value → HostRun} (failure : ∀ e, next (.error e) = .done (.error e))
      (value : ∀ v, (next (.ok v)).PassesFailures) : PassesFailures (.invoke way name args next)

def Body.PassesFailures : Body → Prop
  | .function (.host run) => ∀ env args, (run env args).PassesFailures
  | _ => True

/-- A table whose host functions pass failures on. -/
def SymbolTable.PassesFailures (t : SymbolTable) : Prop :=
  ∀ name body, t.find? name = some body → body.PassesFailures

/-- The functions of this library call nothing. -/
theorem Body.IsReference.passesFailures {body : Body} (h : body.IsReference) :
    body.PassesFailures := by
  cases h with
  | constant v => trivial
  | script counts => trivial
  | function f => exact fun _ args => .done (f.run args)

theorem SymbolTable.IsReference.passesFailures {t : SymbolTable} (h : t.IsReference) :
    t.PassesFailures :=
  fun name body hbody => (h.sound name body hbody).passesFailures

theorem Environment.IsReference.passesFailures {env : Environment} (h : env.IsReference) :
    env.Everywhere SymbolTable.PassesFailures :=
  Everywhere.mono (fun _ ht => ht.passesFailures) h

/-- A table of scripts, whatever they are, and of what may stand in tables of this library passes
failures on. -/
theorem SymbolTable.passesFailures_of_scripts {t : SymbolTable}
    (h : ∀ name body, t.find? name = some body →
      (∃ symbol expr, body = .function (.script symbol expr)) ∨ body.IsReference) :
    t.PassesFailures := by
  intro name body hbody
  rcases h name body hbody with ⟨symbol, expr, rfl⟩ | hreference
  · trivial
  · exact hreference.passesFailures

section Hosts

variable {way : List Nat} {called : String} {given : List Value}
  {next : Except CallError Value → HostRun} {answer result : Except CallError Value}

theorem HostRun.PassesFailures.answered (h : (HostRun.invoke way called given next).PassesFailures)
    (answer : Except CallError Value) : (next answer).PassesFailures := by
  cases h with
  | invoke failure value =>
    cases answer with
    | ok v => exact value v
    | error e =>
      rw [failure e]
      exact .done _

/-- After a call that failed with the limit a host function goes on only to fail in the same way. -/
theorem HostRun.PassesFailures.limitExceeded
    (h : (HostRun.invoke way called given next).PassesFailures) {hosts : Nat} {env home : Environment}
    {name : String} {args : List Value} {depth after : Depth} {trace : List RunEvent}
    (rest : Runs (.hosting hosts env name args home (next answer) result) depth after trace)
    (hanswer : LimitExceeded answer) : LimitExceeded result := by
  obtain ⟨symbol, rfl⟩ := hanswer
  cases h with
  | invoke failure value =>
    rw [failure] at rest
    cases rest
    exact ⟨symbol, rfl⟩

end Hosts

/-- What is done only with host functions that pass failures on. -/
def Activity.PassesFailures : Activity → Prop
  | .evaluation env _ _ _ _ => env.Everywhere SymbolTable.PassesFailures
  | .inside env _ _ _ _ => env.Everywhere SymbolTable.PassesFailures
  | .arguments env _ _ _ _ => env.Everywhere SymbolTable.PassesFailures
  | .callWithin _ env _ _ _ => env.Everywhere SymbolTable.PassesFailures
  | .hosting _ _ _ _ home run _ =>
    home.Everywhere SymbolTable.PassesFailures ∧ run.PassesFailures

/-- What is seen of a run with so many fewer evaluations around it. -/
def RunEvent.outward (fewer : Nat) : RunEvent → RunEvent
  | .started running expr => .started (running - fewer) expr
  | .answered env name args result => .answered env name args result

/-- A run that does not end with the limit takes the same course with fewer evaluations around it. -/
theorem Runs.outward {activity : Activity} {before after depth fewer : Depth} {trace : List RunEvent}
    (h : Runs activity before after trace) (hpasses : activity.PassesFailures)
    (hend : ¬activity.ExceedsLimit) (hbefore : before = depth + fewer) :
    Runs activity depth depth (trace.map (·.outward fewer)) := by
  induction h generalizing depth with
  -- Only the first two rules compare the count with the limit, and with fewer evaluations around the
  -- run it is farther from it.
  | @tooDeep before env args symbol expr limit => exact absurd ⟨symbol, rfl⟩ hend
  | @counted before env args symbol expr result after trace limit inner ih =>
    subst hbefore
    have hlimit : depth + 1 ≤ maxDepth :=
      Nat.le_trans (Nat.succ_le_succ (Nat.le_add_right depth fewer)) limit
    have hinside : depth + fewer + 1 = depth + 1 + fewer := Nat.add_right_comm depth fewer 1
    have hrun := Runs.counted hlimit (ih hpasses hend hinside)
    rwa [List.map_cons, RunEvent.outward, hinside, Nat.add_sub_cancel]
  | text => exact .text
  | int => exact .int
  | arg => exact .arg
  | ref callee ih => exact .ref (ih hpasses hend hbefore)
  | call given callee ihGiven ihCallee =>
    obtain rfl := given.after_eq
    rw [List.map_append]
    exact .call (ihGiven hpasses (not_limitExceeded_ok _) hbefore) (ihCallee hpasses hend hbefore)
  -- Where a failure is passed on, it is not the limit's because the end is not.
  | callFails given ih => exact .callFails (ih hpasses (mt LimitExceeded.error hend) hbefore)
  | add leftRun rightRun ihLeft ihRight =>
    obtain rfl := leftRun.after_eq
    rw [List.map_append]
    exact .add (ihLeft hpasses (not_limitExceeded_ok _) hbefore)
      (ihRight hpasses (not_limitExceeded_ok _) hbefore)
  | leftFails leftRun ih => exact .leftFails (ih hpasses hend hbefore)
  | rightFails leftRun rightRun ihLeft ihRight =>
    obtain rfl := leftRun.after_eq
    rw [List.map_append]
    exact .rightFails (ihLeft hpasses (not_limitExceeded_ok _) hbefore)
      (ihRight hpasses hend hbefore)
  | noArguments => exact .noArguments
  | argument head tail ihHead ihTail =>
    obtain rfl := head.after_eq
    rw [List.map_append]
    exact .argument (ihHead hpasses (not_limitExceeded_ok _) hbefore)
      (ihTail hpasses (not_limitExceeded_ok _) hbefore)
  | argumentFails head ih =>
    exact .argumentFails (ih hpasses (mt LimitExceeded.error hend) hbefore)
  | laterFails head tail ihHead ihTail =>
    obtain rfl := head.after_eq
    rw [List.map_append]
    exact .laterFails (ihHead hpasses (not_limitExceeded_ok _) hbefore)
      (ihTail hpasses (mt LimitExceeded.error hend) hbefore)
  | answered target => exact .answered target
  | misfit target arity => exact .misfit target arity
  | scripted target arity script ih =>
    exact .scripted target arity (ih (hpasses.of_scripted target).2 hend hbefore)
  | noRoom target => exact .noRoom target
  | hosted target host ih =>
    obtain ⟨⟨t, key, f, ht, hfound, rfl⟩, hhome⟩ := hpasses.of_hosted target
    exact .hosted target (ih ⟨hhome, ht key _ hfound _ _⟩ hend hbefore)
  | done => exact .done
  | invoke callee calm rest ihCallee ihRest =>
    obtain rfl := callee.after_eq
    obtain ⟨hhome, hrun⟩ := hpasses
    have hanswer := mt (hrun.limitExceeded rest) hend
    rw [List.map_append]
    exact .invoke (ihCallee (hhome.along _) hanswer hbefore) calm
      (ihRest ⟨hhome, hrun.answered _⟩ hend hbefore)
  | invokeCrashes crash callee ih => exact .invokeCrashes crash (ih (hpasses.1.along _) hend hbefore)

section Results

variable {env : Environment} {args : List Value} {symbol : String} {expr : Expr}

/-- Every evaluation has a run, which ends with the result that the evaluation has. -/
theorem exists_runs_evaluate (env : Environment) (args : List Value) (symbol : String) (expr : Expr)
    (depth : Depth) :
    ∃ trace, Runs (.evaluation env args symbol expr
      ((evaluate env args symbol expr).resultAt depth)) depth depth trace :=
  allRun (Nat.le_refl (fuelAt depth)) env args symbol expr

/-- No run of an evaluation ends with another result. -/
theorem Runs.evaluate_eq {result : Except CallError Value} {depth after : Depth}
    {trace : List RunEvent} (h : Runs (.evaluation env args symbol expr result) depth after trace) :
    result = (evaluate env args symbol expr).resultAt depth :=
  (h.computed (Nat.le_refl (fuelAt depth))).symm

/-- The limit only ever turns results into failures with the limit: an evaluation or a call that does
not fail with it has the same result at every smaller depth. -/
theorem resultAt_eq_of_le {shallow deep : Depth} (hle : shallow ≤ deep) {env : Environment}
    (henv : env.Everywhere SymbolTable.PassesFailures) :
    (∀ args symbol expr, ¬LimitExceeded ((evaluate env args symbol expr).resultAt deep) →
      (evaluate env args symbol expr).resultAt shallow =
        (evaluate env args symbol expr).resultAt deep) ∧
    ∀ name args, ¬LimitExceeded ((env.call name args).resultAt deep) →
      (env.call name args).resultAt shallow = (env.call name args).resultAt deep := by
  have hsplit : deep = shallow + (deep - shallow) := (Nat.add_sub_cancel' hle).symm
  constructor
  · intro args symbol expr hend
    obtain ⟨trace, hrun⟩ := exists_runs_evaluate env args symbol expr deep
    have hshallow := hrun.outward henv hend hsplit
    exact hshallow.evaluate_eq.symm
  · intro name args hend
    obtain ⟨trace, hrun⟩ := exists_runs_call env name args deep
    have hshallow := hrun.outward henv hend hsplit
    exact hshallow.result_eq.symm

/-- A boundary with the core and the script runtime. -/
def equipped (dependencies : List LinkedModule) : Boundary :=
  { BoundaryOf.ofCore .anonymous Builtin.core with
    dependencies
    plugins := [(BackendKind.script.defaultId, BackendKind.script.runtime)] }

/-- A module that defines `lib.twice` as `$1 + $1`. -/
def doubling : Environment where
  boundary := equipped []
  own := .ofSymbols
    [⟨"lib.twice", .function (.script "lib.twice" (.add (.arg 1) (.arg 1))), by decide⟩]

/-- A module that is linked to it and defines `m.six` as `lib.twice(3)`. -/
def doubled : Environment where
  boundary := equipped [⟨.anonymous, 1, doubling⟩]
  own := .ofSymbols [⟨"m.six", .function (.script "m.six" (.call "lib.twice" [.int 3])), by decide⟩]

theorem passesFailures_equipped {dependencies : List LinkedModule} {own : SymbolTable}
    (hown : own.PassesFailures)
    (hdependencies : ∀ d ∈ dependencies, d.environment.Everywhere SymbolTable.PassesFailures) :
    Environment.Everywhere SymbolTable.PassesFailures ⟨equipped dependencies, own⟩ := by
  refine ⟨hown, SymbolTable.IsReference.ofCore.passesFailures, hdependencies, ?_, nofun⟩
  intro p hp
  cases List.mem_singleton.mp hp
  exact (SymbolTable.IsReference.ofRuntime .script).passesFailures

theorem passesFailures_doubled : doubled.Everywhere SymbolTable.PassesFailures := by
  have hscripts : ∀ (name symbol : String) (body : Expr) (legal : IsDottedName name),
      (SymbolTable.ofSymbols [⟨name, .function (.script symbol body), legal⟩]).PassesFailures := by
    intro name symbol body legal
    refine SymbolTable.passesFailures_of_scripts fun key found hfound => .inl ?_
    obtain ⟨s, hs, rfl⟩ := exists_of_find?_ofSymbols hfound
    cases List.mem_singleton.mp hs
    exact ⟨symbol, body, rfl⟩
  refine passesFailures_equipped (hscripts _ _ _ _) ?_
  rw [List.forall_mem_singleton]
  exact passesFailures_equipped (hscripts _ _ _ _) nofun

/-- Three evaluations nest in a call of `m.six`, so depth 253 is the last one at which it has a value. -/
theorem resultAt_doubled :
    doubled.Everywhere SymbolTable.PassesFailures ∧
      (doubled.call "m.six" []).resultAt 253 = .ok (.int 6) ∧
      LimitExceeded ((doubled.call "m.six" []).resultAt 254) ∧
      (doubled.call "m.six" []).resultAt 0 = .ok (.int 6) := by
  have hdeep : (doubled.call "m.six" []).resultAt 253 = .ok (.int 6) := rfl
  have hlimit : (doubled.call "m.six" []).resultAt 254 =
      .error (.failed "lib.twice" "recursion limit exceeded") := rfl
  refine ⟨passesFailures_doubled, hdeep, ⟨_, hlimit⟩, ?_⟩
  have hend : ¬LimitExceeded ((doubled.call "m.six" []).resultAt 253) := by
    rw [hdeep]
    exact not_limitExceeded_ok _
  have hshallow : 0 ≤ 253 := by decide
  rw [(resultAt_eq_of_le hshallow passesFailures_doubled).2 "m.six" [] hend]
  exact hdeep

end Results

end HotReload
