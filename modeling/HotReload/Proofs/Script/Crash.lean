import HotReload.Proofs.Script.Rules
import HotReload.Proofs.Script.Tables

/-!
# What makes a call crash

Where all tables come from the backends of this library, its core and its script runtime
(`Environment.IsReference`), a call crashes if and only if it comes to a function of the script runtime
with arguments that ask for a text longer than texts can be (`crashed_iff_oversized`). Nothing else
breaks down: no script refers to an argument without a number, and every other fault is reported. That
the script runtime does crash is seen from a text that is to be repeated too often
(`invoke_bare_repeat`). What it answers otherwise is never too long (`Builtin.utf8ByteSize_le_of_run`).
-/

namespace HotReload

/-! ## Functions of this library -/

namespace Builtin

/-- A function is asked for a text that is longer than texts can be. -/
inductive Oversized : Function → List Value → Prop
  | repetition {v count : Value} {n : Nat} (accepted : repetitions? count = some n)
      (size : textCapacity < v.display.utf8ByteSize * n) : Oversized .repetition [v, count]
  | join {separator : Value} {items : List Value}
      (size : textCapacity < joinedSize separator.display (items.map Value.display)) :
      Oversized .join (separator :: items)

section Functions

variable {args : List Value}

theorem not_crashed_onlyArgument (symbol : String) (args : List Value) :
    ¬Crashed (onlyArgument symbol args) := by
  rintro ⟨message, h⟩
  unfold onlyArgument at h
  split at h
  next => cases h
  next => cases h

theorem not_crashed_onlyText (symbol : String) (args : List Value) :
    ¬Crashed (onlyText symbol args) := by
  rintro ⟨message, h⟩
  rcases except_bind_eq_error h with h | ⟨v, -, h⟩
  · exact not_crashed_onlyArgument symbol args ⟨message, h⟩
  · split at h
    next => cases h
    next => cases h

theorem not_crashed_upper (args : List Value) : ¬Crashed (upper args) := by
  rintro ⟨message, h⟩
  rcases except_bind_eq_error h with h | ⟨s, -, h⟩
  · exact not_crashed_onlyText _ args ⟨message, h⟩
  · cases h

theorem not_crashed_lower (args : List Value) : ¬Crashed (lower args) := by
  rintro ⟨message, h⟩
  rcases except_bind_eq_error h with h | ⟨s, -, h⟩
  · exact not_crashed_onlyText _ args ⟨message, h⟩
  · cases h

theorem not_crashed_length (args : List Value) : ¬Crashed (length args) := by
  rintro ⟨message, h⟩
  rcases except_bind_eq_error h with h | ⟨v, -, h⟩
  · exact not_crashed_onlyArgument _ args ⟨message, h⟩
  · split at h
    next => cases h
    next => cases h
    next => cases h
    next => cases h

theorem crashed_joinCrash (size : Nat) :
    Crashed (.error (joinCrash size) : Except CallError Value) := by
  unfold joinCrash
  split
  next => exact ⟨_, rfl⟩
  next => exact ⟨_, rfl⟩

theorem crashed_join_iff : Crashed (join args) ↔ Oversized .join args := by
  cases args with
  | nil =>
    refine ⟨?_, fun h => nomatch h⟩
    rintro ⟨message, h⟩
    cases h
  | cons separator items =>
    by_cases hsize : joinedSize separator.display (items.map Value.display) ≤ textCapacity
    · simp only [join, if_pos hsize, not_crashed_ok, false_iff]
      intro h
      cases h with
      | join size => exact Nat.not_lt_of_le hsize size
    · simp only [join, if_neg hsize, crashed_joinCrash, true_iff]
      exact .join (Nat.lt_of_not_le hsize)

theorem crashed_repeatText_iff : Crashed (repeatText args) ↔ Oversized .repetition args := by
  unfold repeatText
  split
  next v count =>
    cases hcount : repetitions? count with
    | none =>
      simp only [crashed_error_iff, reduceCtorEq, exists_false, false_iff]
      intro h
      cases h with
      | repetition accepted size =>
        rw [hcount] at accepted
        cases accepted
    | some n =>
      by_cases hsize : v.display.utf8ByteSize * n ≤ textCapacity
      · simp only [if_pos hsize, not_crashed_ok, false_iff]
        intro h
        cases h with
        | repetition accepted size =>
          rw [hcount] at accepted
          cases accepted
          exact Nat.not_lt_of_le hsize size
      · simp only [if_neg hsize, crashed_error_iff, CallError.crashed.injEq, exists_eq', true_iff]
        exact .repetition hcount (Nat.lt_of_not_le hsize)
  next args hother =>
    simp only [crashed_error_iff, reduceCtorEq, exists_false, false_iff]
    intro h
    cases h with
    | repetition accepted size => exact hother _ _ rfl

/-- A function of this library crashes if and only if it is asked for a text that is too long. -/
theorem crashed_run_iff (f : Function) : Crashed (f.run args) ↔ Oversized f args := by
  cases f with
  | concat => exact iff_of_false (not_crashed_ok _) (fun h => nomatch h)
  | upper => exact iff_of_false (not_crashed_upper args) (fun h => nomatch h)
  | lower => exact iff_of_false (not_crashed_lower args) (fun h => nomatch h)
  | length => exact iff_of_false (not_crashed_length args) (fun h => nomatch h)
  | join => exact crashed_join_iff
  | repetition => exact crashed_repeatText_iff

/-! ### The sizes of texts -/

theorem utf8ByteSize_go (s : String) (count : Nat) :
    (repeated.go s count).utf8ByteSize = s.utf8ByteSize * count := by
  fun_induction repeated.go s count with
  | case1 => simp
  | case2 count hpositive half heven ih =>
    rw [String.utf8ByteSize_append, ih, ← Nat.mul_add]
    congr 1
    omega
  | case3 count hpositive half hodd ih =>
    rw [String.utf8ByteSize_append, String.utf8ByteSize_append, ih, ← Nat.mul_add, ← Nat.mul_succ]
    congr 1
    omega

/-- A repeated text takes as many bytes as its repetitions together. -/
theorem utf8ByteSize_repeated (s : String) (count : Nat) :
    (repeated s count).utf8ByteSize = s.utf8ByteSize * count := by
  unfold repeated
  split
  next hempty =>
    rw [String.isEmpty_iff.mp hempty]
    simp
  next => exact utf8ByteSize_go s count

theorem utf8ByteSize_intercalate (separator : String) (items : List String) :
    (separator.intercalate items).utf8ByteSize = joinedSize separator items := by
  fun_induction joinedSize separator items with
  | case1 => rfl
  | case2 s => rw [String.intercalate_singleton]
  | case3 s items hitems ih =>
    cases items with
    | nil => exact absurd rfl hitems
    | cons next items =>
      rw [String.intercalate_cons_cons, String.utf8ByteSize_append, String.utf8ByteSize_append, ih]

/-- A text that is answered by a function which may be asked for too long a text is not too long. -/
theorem utf8ByteSize_le_of_run {f : Function} {s : String} (hf : f = .join ∨ f = .repetition)
    (h : f.run args = .ok (.text s)) : s.utf8ByteSize ≤ textCapacity := by
  rcases hf with rfl | rfl
  · change join args = _ at h
    unfold join at h
    split at h
    next => cases h
    next separator items =>
      dsimp only at h
      split at h
      next hsize =>
        cases h
        rwa [utf8ByteSize_intercalate]
      next => cases h
  · change repeatText args = _ at h
    unfold repeatText at h
    split at h
    next v count =>
      split at h
      next n hcount =>
        split at h
        next hsize =>
          cases h
          rwa [utf8ByteSize_repeated]
        next => cases h
      next => cases h
    next => cases h

end Functions

end Builtin

/-! ## Calls -/

section Calls

variable {env home : Environment} {name symbol : String} {args given : List Value} {expr body : Expr}
  {found : Resolved} {result : Except CallError Value}

theorem Environment.target_of_pureFunction {run : List Value → Except CallError Value}
    (resolved : env.resolve name = .ok found) (body : found.body = Builtin.pureFunction run)
    (args : List Value) :
    env.target name args = .hosted (found.owner.getD env) (.done (run args)) := by
  rw [target, resolved]
  dsimp only
  rw [body]
  rfl

theorem not_crashed_of_answered (h : env.target name args = .answered result) : ¬Crashed result := by
  rintro ⟨message, rfl⟩
  unfold Environment.target at h
  split at h
  next e hresolve =>
    cases h
    unfold Environment.resolve at hresolve
    split at hresolve
    next => cases hresolve
    next => cases hresolve
  next found hresolve =>
    unfold Environment.follow at h
    split at h
    next =>
      split at h
      next => cases h
      next => cases h
    next => cases h
    next => cases h

theorem Environment.IsReference.of_scripted (henv : env.IsReference)
    (h : env.target name args = .scripted home symbol body given) :
    home.IsReference ∧ body.CountsFromOne := by
  obtain ⟨⟨t, key, ht, hfound⟩, hhome⟩ := Everywhere.of_scripted henv h
  cases ht.sound key _ hfound with
  | script counts => exact ⟨hhome, counts⟩

/-- A host function of this library calls nothing. -/
theorem Environment.IsReference.of_hosted {run : HostRun} (henv : env.IsReference)
    (h : env.target name args = .hosted home run) :
    ∃ found, env.resolve name = .ok found ∧ ∃ f : Builtin.Function,
      found.body = Builtin.pureFunction f.run ∧ run = .done (f.run args) := by
  obtain ⟨found, host, hresolve, hbody, -, rfl⟩ := target_eq_hosted h
  obtain ⟨⟨t, ht, hfound⟩, -⟩ := Everywhere.of_resolve henv hresolve
  have hreference := ht.sound name found.body hfound
  rw [hbody] at hreference
  cases hreference with
  | function f => exact ⟨found, hresolve, f, hbody, rfl⟩

theorem maxHosts_pos : 0 < maxHosts :=
  Nat.zero_lt_succ _

/-- What is done only with what comes from this library. -/
def Activity.IsReference : Activity → Prop
  | .evaluation env _ _ expr _ => env.IsReference ∧ expr.CountsFromOne
  | .inside env _ _ expr _ => env.IsReference ∧ expr.CountsFromOne
  | .arguments env _ _ exprs _ => env.IsReference ∧ ∀ expr ∈ exprs, expr.CountsFromOne
  -- There is always room for one host function, and none calls another one.
  | .callWithin hosts env _ _ _ => env.IsReference ∧ 0 < hosts
  | .hosting _ env name args home run _ =>
    env.IsReference ∧ env.target name args = .hosted home run ∧ ∃ result, run = .done result

/-- What is seen of a run in which all is from this library. -/
def RunEvent.IsReference : RunEvent → Prop
  | .started _ expr => expr.CountsFromOne
  | .answered env name args result =>
    env.IsReference ∧ (env.target name args = .answered result ∨
      ∃ home, env.target name args = .hosted home (.done result))

/-- A call of a function of this library that is asked for a text longer than texts can be. -/
inductive RunEvent.Oversized : RunEvent → Prop
  | mk {env : Environment} {name : String} {args : List Value} {result : Except CallError Value}
      {found : Resolved} {f : Builtin.Function} (resolved : env.resolve name = .ok found)
      (body : found.body = Builtin.pureFunction f.run) (size : Builtin.Oversized f args) :
      Oversized (.answered env name args result)

/-- A run that starts from what is of this library meets nothing else. -/
theorem Runs.isReference {activity : Activity} {depth after : Depth} {trace : List RunEvent}
    (h : Runs activity depth after trace) (hactivity : activity.IsReference) :
    ∀ event ∈ trace, event.IsReference := by
  induction h with
  | tooDeep limit =>
    rw [List.forall_mem_singleton]
    exact hactivity.2
  | counted limit inner ih =>
    rw [List.forall_mem_cons]
    exact ⟨hactivity.2, ih hactivity⟩
  | text => exact List.forall_mem_nil _
  | int => exact List.forall_mem_nil _
  | arg => exact List.forall_mem_nil _
  | ref callee ih => exact ih ⟨hactivity.1, maxHosts_pos⟩
  | call given callee ihGiven ihCallee =>
    obtain ⟨henv, hexpr⟩ := hactivity
    cases hexpr with
    | call each =>
      exact List.forall_mem_append.mpr ⟨ihGiven ⟨henv, each⟩, ihCallee ⟨henv, maxHosts_pos⟩⟩
  | callFails given ih =>
    obtain ⟨henv, hexpr⟩ := hactivity
    cases hexpr with
    | call each => exact ih ⟨henv, each⟩
  | add leftRun rightRun ihLeft ihRight =>
    obtain ⟨henv, hexpr⟩ := hactivity
    cases hexpr with
    | add first second =>
      exact List.forall_mem_append.mpr ⟨ihLeft ⟨henv, first⟩, ihRight ⟨henv, second⟩⟩
  | leftFails leftRun ih =>
    obtain ⟨henv, hexpr⟩ := hactivity
    cases hexpr with
    | add first second => exact ih ⟨henv, first⟩
  | rightFails leftRun rightRun ihLeft ihRight =>
    obtain ⟨henv, hexpr⟩ := hactivity
    cases hexpr with
    | add first second =>
      exact List.forall_mem_append.mpr ⟨ihLeft ⟨henv, first⟩, ihRight ⟨henv, second⟩⟩
  | noArguments => exact List.forall_mem_nil _
  | argument head tail ihHead ihTail =>
    obtain ⟨henv, hexprs⟩ := hactivity
    obtain ⟨hhead, htail⟩ := List.forall_mem_cons.mp hexprs
    exact List.forall_mem_append.mpr ⟨ihHead ⟨henv, hhead⟩, ihTail ⟨henv, htail⟩⟩
  | argumentFails head ih =>
    obtain ⟨henv, hexprs⟩ := hactivity
    exact ih ⟨henv, hexprs _ List.mem_cons_self⟩
  | laterFails head tail ihHead ihTail =>
    obtain ⟨henv, hexprs⟩ := hactivity
    obtain ⟨hhead, htail⟩ := List.forall_mem_cons.mp hexprs
    exact List.forall_mem_append.mpr ⟨ihHead ⟨henv, hhead⟩, ihTail ⟨henv, htail⟩⟩
  | answered target =>
    rw [List.forall_mem_singleton]
    exact ⟨hactivity.1, .inl target⟩
  | misfit target arity => exact List.forall_mem_nil _
  | scripted target arity script ih => exact ih (hactivity.1.of_scripted target)
  | noRoom target => exact absurd hactivity.2 (Nat.lt_irrefl 0)
  | hosted target host ih =>
    obtain ⟨-, -, f, -, hrun⟩ := hactivity.1.of_hosted target
    exact ih ⟨hactivity.1, target, _, hrun⟩
  | done =>
    obtain ⟨henv, target, -⟩ := hactivity
    rw [List.forall_mem_singleton]
    exact ⟨henv, .inr ⟨_, target⟩⟩
  | invoke callee calm rest ihCallee ihRest =>
    obtain ⟨-, -, result, hrun⟩ := hactivity
    cases hrun
  | invokeCrashes crash callee ih =>
    obtain ⟨-, -, result, hrun⟩ := hactivity
    cases hrun

/-- In a run of this library only a call crashes that asks for too long a text, and it does crash. -/
theorem RunEvent.IsReference.crashes_iff {event : RunEvent} (h : event.IsReference) :
    event.Crashes ↔ event.Oversized := by
  cases event with
  | started running expr => exact iff_of_false id (fun h => nomatch h)
  | answered env name args result =>
    obtain ⟨henv, htarget⟩ := h
    constructor
    · intro hcrash
      rcases htarget with htarget | ⟨home, htarget⟩
      · exact absurd hcrash (not_crashed_of_answered htarget)
      · obtain ⟨found, resolved, f, body, hrun⟩ := henv.of_hosted htarget
        cases hrun
        exact .mk resolved body ((Builtin.crashed_run_iff f).mp hcrash)
    · rintro (@⟨_, _, _, _, found, f, resolved, body, size⟩)
      rw [Environment.target_of_pureFunction resolved body] at htarget
      rcases htarget with htarget | ⟨home, htarget⟩
      · cases htarget
      · cases htarget
        exact (Builtin.crashed_run_iff f).mpr size

end Calls

/-- Where everything is of this library, a call ends and leaves the count of running evaluations as it
was; no reference to an argument lacks its number on the way, and the call crashes if and only if it
comes to a function that is asked for a text longer than texts can be. -/
theorem crashed_iff_oversized {env : Environment} (henv : env.IsReference) (name : String)
    (args : List Value) (depth : Depth) :
    ∃ result trace, Runs (.call env name args result) depth depth trace ∧
      (env.call name args).runFrom depth = (result, depth) ∧
      (∀ running n, .started running (.arg n) ∈ trace → 0 < n) ∧
      (Crashed result ↔ ∃ event ∈ trace, event.Oversized) := by
  obtain ⟨trace, hrun⟩ := exists_runs_call env name args depth
  have htrace := hrun.isReference ⟨henv, maxHosts_pos⟩
  refine ⟨_, trace, hrun, (env.restores_call name args).runFrom_eq depth, ?_, ?_⟩
  · intro running n hmem
    cases htrace _ hmem with
    | arg positive => exact positive
  · refine hrun.crashes_iff.trans ?_
    constructor
    · rintro ⟨event, hmem, hcrash⟩
      exact ⟨event, hmem, (htrace event hmem).crashes_iff.mp hcrash⟩
    · rintro ⟨event, hmem, hsize⟩
      exact ⟨event, hmem, (htrace event hmem).crashes_iff.mpr hsize⟩

/-- A module without entries that is linked with the plugin for scripts. -/
def bare : Environment where
  boundary := { BoundaryOf.ofCore .anonymous Builtin.core with
    plugins := [(BackendKind.script.defaultId, BackendKind.script.runtime)] }
  own := ∅

theorem bare_isReference : bare.IsReference := by
  refine ⟨?_, .ofCore, (fun d hd => nomatch hd), ?_, .ofRuntime .symbols⟩
  · exact @SymbolTable.IsReference.built .symbols true (.ofSpec (.empty .anonymous)) bare.boundary ∅ rfl
  · intro p hp
    cases List.mem_singleton.mp hp
    exact .ofRuntime .script

theorem repeatText_tooOften : Builtin.repeatText [.text "ab", .int 0x7fffffffffffffff] =
    .error (.crashed "capacity overflow") := by
  rw [Builtin.repeatText, Builtin.repetitions?]
  exact if_neg (by decide)

/-- What the functions of the script runtime answer when they are called through their environment. -/
theorem invoke_bare (args : List Value) :
    bare.invoke "script.runtime.repeat" args = Builtin.repeatText args :=
  rfl

/-- Repeating a text too often comes to a function that is asked for too long a text, and crashes. -/
theorem crashed_iff_oversized_repeat :
    let name := "script.runtime.repeat"
    let args := [Value.text "ab", .int 0x7fffffffffffffff]
    bare.IsReference ∧
      ∃ result trace, Runs (.call bare name args result) 0 0 trace ∧
        (bare.call name args).runFrom 0 = (result, 0) ∧
        (∀ running n, .started running (.arg n) ∈ trace → 0 < n) ∧
        (Crashed result ↔ ∃ event ∈ trace, event.Oversized) ∧ Crashed result := by
  intro name args
  obtain ⟨result, trace, hrun, hcall, hpositive, hcrashed⟩ :=
    crashed_iff_oversized bare_isReference name args 0
  have hinvoke : bare.invoke name args = .error (.crashed "capacity overflow") :=
    (invoke_bare args).trans repeatText_tooOften
  rw [Environment.invoke, hcall] at hinvoke
  exact ⟨bare_isReference, result, trace, hrun, hcall, hpositive, hcrashed, _, hinvoke⟩

/-- The script runtime accepts a count with which the text would be longer than texts can be, and the
call crashes. -/
theorem invoke_bare_repeat :
    bare.IsReference ∧
      Builtin.repetitions? (.int 0x7fffffffffffffff) = some 0x7fffffffffffffff ∧
      Builtin.textCapacity < (Value.text "ab").display.utf8ByteSize * 0x7fffffffffffffff ∧
      bare.invoke "script.runtime.repeat" [.text "ab", .int 0x7fffffffffffffff] =
        .error (.crashed "capacity overflow") :=
  ⟨bare_isReference, rfl, by decide, (invoke_bare _).trans repeatText_tooOften⟩

end HotReload
