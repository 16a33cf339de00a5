import HotReload.Builtin.Script
import HotReload.Proofs.Script.Rules

/-!
# Calls end and leave no trace

A call is worked off by the rules in finitely many steps, to one result only, whatever its environment
holds and however scripts call themselves and each other (`Environment.Settles`, `exists_settles`).
Evaluations nest until the count of running ones passes the limit, and afterwards the count is what it
was before. So calls that one thread makes one after the other do not depend on each other
(`callsFrom_eq`). The result is a value or a failure that is reported, unless a function that is no
script crashed; that this may happen is seen from a script that asks for a text longer than texts can
be (`invoke_overflowing`).
-/

namespace HotReload

/-- The results of calls that one thread makes one after the other, and the count of running
evaluations after the last. Each call is given by an environment, a name and arguments. -/
def callsFrom (depth : Depth) :
    List (Environment × String × List Value) → List (Except CallError Value) × Depth
  | [] => ([], depth)
  | (env, name, args) :: calls =>
    let (result, after) := (env.call name args).runFrom depth
    let (results, last) := callsFrom after calls
    (result :: results, last)

/-- What holds of a call that is made at a depth. -/
structure Environment.Settles (env : Environment) (name : String) (args : List Value)
    (depth : Depth) (result : Except CallError Value) : Prop where
  /-- The rules lead to the result. -/
  runs : ∃ trace, Runs (.call env name args result) depth depth trace
  /-- They lead to nothing else, and the count is then what it was. -/
  unique : ∀ result' after trace, Runs (.call env name args result') depth after trace →
    result' = result ∧ after = depth
  /-- No evaluation on the way is counted further beyond the limit than by one. -/
  within : ∀ result' after trace, Runs (.call env name args result') depth after trace →
    ∀ event ∈ trace, event.Within (max depth maxDepth + 1)
  /-- The result is a value or a failure that is reported, unless something that was called on the
  way crashed. -/
  crashed_iff : ∀ result' after trace, Runs (.call env name args result') depth after trace →
    (Crashed result ↔ ∃ event ∈ trace, event.Crashes)
  /-- The evaluator computes the result and leaves the count as it was. -/
  computes : (env.call name args).runFrom depth = (result, depth)
  /-- Calls that the thread made before, and how they ended, make no difference. -/
  after_calls : ∀ earlier : List (Environment × String × List Value),
    callsFrom depth (earlier ++ [(env, name, args)]) = ((callsFrom depth earlier).1 ++ [result], depth)

/-- Each of several calls has the result that it would have alone. -/
theorem callsFrom_eq (depth : Depth) (calls : List (Environment × String × List Value)) :
    callsFrom depth calls =
      (calls.map fun (env, name, args) => (env.call name args).resultAt depth, depth) := by
  induction calls with
  | nil => rfl
  | cons call calls ih =>
    obtain ⟨env, name, args⟩ := call
    rw [callsFrom, (env.restores_call name args).runFrom_eq depth]
    dsimp only
    rw [ih, List.map_cons]

/-- Every call, in whatever environment, has a result on which it settles. -/
theorem exists_settles (env : Environment) (name : String) (args : List Value) (depth : Depth) :
    ∃ result, env.Settles name args depth result := by
  refine ⟨(env.call name args).resultAt depth, ?_⟩
  constructor
  case runs => exact exists_runs_call env name args depth
  case unique =>
    intro result after trace hrun
    exact ⟨hrun.result_eq, hrun.after_eq⟩
  case within =>
    intro result after trace hrun
    exact hrun.within
  case crashed_iff =>
    intro result after trace hrun
    rw [← hrun.result_eq]
    exact hrun.crashes_iff
  case computes => exact (env.restores_call name args).runFrom_eq depth
  case after_calls =>
    intro earlier
    rw [callsFrom_eq, callsFrom_eq, List.map_append]
    rfl

/-- A script that asks for a text of nearly twice as many bytes as a text can have. -/
def overflowing : Environment where
  boundary := { BoundaryOf.ofCore .anonymous Builtin.core with
    plugins := [(⟨"script", by decide⟩, Builtin.scriptRuntime)] }
  own := .ofSymbols [⟨"m.x", .function (.script "m.x"
    (.call "script.runtime.repeat" [.text "ab", .int 0x7fffffffffffffff])), by decide⟩]

/-- A call of a script may end in a crash, which is neither a value nor a failure that is reported. -/
theorem invoke_overflowing : overflowing.invoke "m.x" [] = .error (.crashed "capacity overflow") := by
  have hrepeat : Builtin.repeatText [.text "ab", .int 0x7fffffffffffffff] =
      .error (.crashed "capacity overflow") := by
    rw [Builtin.repeatText, Builtin.repetitions?]
    exact if_neg (by decide)
  have htarget : overflowing.target "script.runtime.repeat" [.text "ab", .int 0x7fffffffffffffff] =
      .hosted overflowing (.done (.error (.crashed "capacity overflow"))) := by
    rw [← hrepeat]
    rfl
  have hgiven : Runs (.arguments overflowing [] "m.x" [.text "ab", .int 0x7fffffffffffffff]
      (.ok [.text "ab", .int 0x7fffffffffffffff])) 1 1
        ([.started 2 (.text "ab")] ++ ([.started 2 (.int 0x7fffffffffffffff)] ++ [])) :=
    .argument (.counted (by decide) .text) (.argument (.counted (by decide) .int) .noArguments)
  have hrun : Runs (.call overflowing "m.x" [] (.error (.crashed "capacity overflow"))) 0 0 _ :=
    .scripted rfl rfl (.counted (by decide) (.call hgiven (.hosted htarget .done)))
  exact hrun.result_eq.symm

end HotReload
