import HotReload.Proofs.Lookup

/-!
# Where revision numbers bear on behaviour

An environment records the revision of every module in it. Two environments that differ in nothing
but these numbers resolve names to the same bodies (`resolve_unrevised`). They answer every call alike
if the host functions in them make nothing of the numbers (`invoke_unrevised`), which they can read
and might tell (`invoke_revealing`).
-/

namespace HotReload

mutual

/-- An environment without revision numbers. -/
def Environment.unrevised : Environment → Environment
  | ⟨boundary, own⟩ => ⟨boundary.unrevised, own⟩

/-- A boundary without revision numbers. -/
def BoundaryOf.unrevised : Boundary → Boundary
  | ⟨module, core, dependencies, plugins, host⟩ =>
    ⟨module, core, unrevisedLinks dependencies, plugins, host⟩

/-- Linked modules without revision numbers. -/
def unrevisedLinks : List LinkedModule → List LinkedModule
  | [] => []
  | d :: dependencies => d.unrevised :: unrevisedLinks dependencies

/-- A linked module without revision numbers. -/
def Linked.unrevised : LinkedModule → LinkedModule
  | ⟨id, _, environment⟩ => ⟨id, 0, environment.unrevised⟩

end

theorem unrevisedLinks_eq_map (links : List LinkedModule) :
    unrevisedLinks links = links.map Linked.unrevised := by
  induction links with
  | nil => rfl
  | cons d links ih => rw [unrevisedLinks, ih, List.map_cons]

theorem Environment.unrevised_eq (env : Environment) :
    env.unrevised = { boundary := env.boundary.unrevised, own := env.own } := by
  cases env
  rfl

section Fields

variable (env : Environment) (b : Boundary) (d : LinkedModule)

@[simp] theorem own_unrevised : env.unrevised.own = env.own := by
  cases env
  rfl

@[simp] theorem boundary_unrevised : env.unrevised.boundary = env.boundary.unrevised := by
  cases env
  rfl

@[simp] theorem module_unrevised : b.unrevised.module = b.module := by
  cases b
  rfl

@[simp] theorem core_unrevised : b.unrevised.core = b.core := by
  cases b
  rfl

@[simp] theorem dependencies_unrevised :
    b.unrevised.dependencies = b.dependencies.map Linked.unrevised := by
  cases b
  exact unrevisedLinks_eq_map _

@[simp] theorem plugins_unrevised : b.unrevised.plugins = b.plugins := by
  cases b
  rfl

@[simp] theorem host_unrevised : b.unrevised.host = b.host := by
  cases b
  rfl

@[simp] theorem id_unrevised : d.unrevised.id = d.id := by
  cases d
  rfl

@[simp] theorem environment_unrevised : d.unrevised.environment = d.environment.unrevised := by
  cases d
  rfl

@[simp] theorem revision_unrevised : d.unrevised.revision = 0 := by
  cases d
  rfl

end Fields

/-! ## Look-up -/

/-- An origin without a revision number. -/
def Origin.unrevised : Origin → Origin
  | .dependency module _ => .dependency module 0
  | origin => origin

/-- A source without revision numbers. -/
def Source.unrevised (s : Source) : Source where
  origin := s.origin.unrevised
  table := s.table
  owner := s.owner.map Environment.unrevised

/-- A symbol that was looked up, without revision numbers. -/
def Resolved.unrevised (r : Resolved) : Resolved where
  name := r.name
  body := r.body
  origin := r.origin.unrevised
  owner := r.owner.map Environment.unrevised

section Lookup

variable (env : Environment) (b : Boundary) (name : String)

theorem find?_unrevised (s : Source) :
    s.unrevised.find? name = (s.find? name).map Resolved.unrevised := by
  simp only [Source.find?, Source.unrevised, Option.map_map]
  rfl

theorem sources_unrevised : b.unrevised.sources = b.sources.map Source.unrevised := by
  simp only [BoundaryOf.sources, core_unrevised, dependencies_unrevised, plugins_unrevised,
    host_unrevised, List.map_append, List.map_map, List.map_cons, List.map_nil]
  have hlinks : ((fun d : LinkedModule =>
      (⟨.dependency d.id d.revision, d.environment.own, some d.environment⟩ : Source)) ∘
        Linked.unrevised) =
      Source.unrevised ∘ fun d : LinkedModule =>
        ⟨.dependency d.id d.revision, d.environment.own, some d.environment⟩ := by
    funext d
    simp [Source.unrevised, Origin.unrevised]
  rw [hlinks]
  rfl

theorem boundary_resolve?_unrevised :
    b.unrevised.resolve? name = (b.resolve? name).map Resolved.unrevised := by
  rw [BoundaryOf.resolve?, BoundaryOf.resolve?, sources_unrevised]
  induction b.sources with
  | nil => rfl
  | cons s sources ih =>
    rw [List.map_cons, List.findSome?_cons, List.findSome?_cons, find?_unrevised]
    cases s.find? name with
    | none => exact ih
    | some r => rfl

theorem resolve?_unrevised :
    env.unrevised.resolve? name = (env.resolve? name).map Resolved.unrevised := by
  unfold Environment.resolve?
  rw [own_unrevised, boundary_unrevised]
  cases env.own.find? name with
  | none => exact boundary_resolve?_unrevised env.boundary name
  | some body => rfl

theorem resolve_unrevised :
    env.unrevised.resolve name = (env.resolve name).map Resolved.unrevised := by
  unfold Environment.resolve
  rw [resolve?_unrevised, Environment.module, boundary_unrevised, module_unrevised]
  cases env.resolve? name with
  | none => rfl
  | some r => rfl

end Lookup

/-! ## Calls -/

/-- Revision numbers make no difference to where links lead. -/
theorem along_unrevised (env : Environment) (way : List Nat) :
    env.unrevised.along way = (env.along way).unrevised := by
  induction way generalizing env with
  | nil => rfl
  | cons place way ih =>
    rw [Environment.along, Environment.along, boundary_unrevised, dependencies_unrevised,
      List.getElem?_map]
    cases env.boundary.dependencies[place]? with
    | none => rfl
    | some d =>
      rw [Option.map_some]
      dsimp only
      rw [environment_unrevised, ih]

/-- A body that does the same whatever the revision numbers are that it can read. -/
def Body.IgnoresRevisions : Body → Prop
  | .function (.host run) => ∀ (env : Environment) (args : List Value),
      run env.unrevised.view args = run env.view args
  | _ => True

/-- A table whose host functions make nothing of revision numbers. -/
def SymbolTable.IgnoresRevisions (t : SymbolTable) : Prop :=
  ∀ name body, t.find? name = some body → body.IgnoresRevisions

theorem SymbolTable.IgnoresRevisions.filter {t : SymbolTable} (h : t.IgnoresRevisions)
    (keep : String → Bool) : (t.filter keep).IgnoresRevisions := by
  intro name body hbody
  rw [find?_filter] at hbody
  split at hbody
  next => exact h name body hbody
  next => cases hbody

/-- What a call comes down to, without revision numbers. -/
def Target.unrevised : Target → Target
  | .answered result => .answered result
  | .scripted home symbol body args => .scripted home.unrevised symbol body args
  | .hosted home run => .hosted home.unrevised run

/-- What runs, if anything does, runs where no table makes anything of revision numbers. -/
def Target.IgnoresRevisions : Target → Prop
  | .answered _ => True
  | .scripted home _ _ _ => home.Everywhere SymbolTable.IgnoresRevisions
  | .hosted home _ => home.Everywhere SymbolTable.IgnoresRevisions

section Calls

variable {env : Environment} {name : String} {args : List Value}

theorem owner_unrevised (env : Environment) (r : Resolved) :
    r.unrevised.owner.getD env.unrevised = (r.owner.getD env).unrevised := by
  cases howner : r.owner with
  | none => simp [Resolved.unrevised, howner]
  | some owner => simp [Resolved.unrevised, howner]

theorem follow_unrevised {body : Body} (h : body.IgnoresRevisions) :
    env.unrevised.follow name body args = (env.follow name body args).unrevised := by
  rcases body with v | (⟨symbol, expr⟩ | run)
  · rfl
  · rfl
  · exact congrArg (Target.hosted env.unrevised) (h env args)

theorem target_unrevised (henv : env.Everywhere SymbolTable.IgnoresRevisions) :
    env.unrevised.target name args = (env.target name args).unrevised := by
  unfold Environment.target
  rw [resolve_unrevised]
  cases hresolve : env.resolve name with
  | error e => rfl
  | ok r =>
    obtain ⟨⟨t, ht, hfound⟩, -⟩ := henv.of_resolve hresolve
    simp only [Except.map]
    rw [owner_unrevised]
    exact follow_unrevised (ht name _ hfound)

theorem ignoresRevisions_target (henv : env.Everywhere SymbolTable.IgnoresRevisions) :
    (env.target name args).IgnoresRevisions := by
  cases htarget : env.target name args with
  | answered result => trivial
  | scripted home symbol body given => exact (henv.of_scripted htarget).2
  | hosted home run => exact (henv.of_hosted htarget).2

/-- An evaluator that does the same whatever the revision numbers are. -/
def Evaluator.Unrevised (evaluate : Evaluator) : Prop :=
  ∀ (env : Environment), env.Everywhere SymbolTable.IgnoresRevisions →
    ∀ (args : List Value) (symbol : String) (expr : Expr),
      evaluate env.unrevised args symbol expr = evaluate env args symbol expr

theorem Evaluator.Unrevised.runWithin {evaluate : Evaluator} (h : evaluate.Unrevised) (hosts : Nat)
    {t : Target} (ht : t.IgnoresRevisions) :
    t.unrevised.runWithin evaluate hosts = t.runWithin evaluate hosts := by
  induction hosts generalizing t with
  | zero =>
    cases t with
    | answered result => rfl
    | scripted home symbol body args =>
      simp only [Target.unrevised, Target.runWithin, h home ht]
    | hosted home run => rfl
  | succ hosts ih =>
    cases t with
    | answered result => rfl
    | scripted home symbol body args =>
      simp only [Target.unrevised, Target.runWithin, h home ht]
    | hosted home run =>
      simp only [Target.unrevised, Target.runWithin]
      -- What the function calls is answered alike, there and over links.
      refine congrArg run.perform (funext fun way => funext fun name => funext fun args => ?_)
      rw [along_unrevised, target_unrevised (ht.along way)]
      exact ih (ignoresRevisions_target (ht.along way))

theorem Evaluator.Unrevised.run_target {evaluate : Evaluator} (h : evaluate.Unrevised)
    (henv : env.Everywhere SymbolTable.IgnoresRevisions) (name : String) (args : List Value) :
    (env.unrevised.target name args).run evaluate = (env.target name args).run evaluate := by
  rw [target_unrevised henv]
  exact h.runWithin maxHosts (ignoresRevisions_target henv)

theorem evaluateWithin_unrevised (fuel : Nat) : (evaluateWithin fuel).Unrevised := by
  induction fuel with
  | zero =>
    intro env henv args symbol expr
    rfl
  | succ fuel ih =>
    intro env henv args symbol expr
    have hargs : evaluateWithin fuel env.unrevised args symbol =
        evaluateWithin fuel env args symbol := by
      funext expr
      exact ih env henv args symbol expr
    cases expr with
    | text s => rfl
    | int n => rfl
    | arg n => rfl
    | ref name => simp only [evaluateWithin, ih.run_target henv]
    | call name exprs => simp only [evaluateWithin, ih.run_target henv, hargs]
    | add left right => simp only [evaluateWithin, hargs]

theorem evaluate_unrevised : Evaluator.Unrevised evaluate := by
  intro env henv args symbol expr
  refine congrArg ExceptT.mk (funext fun depth => ?_)
  rw [evaluateWithin_unrevised (fuelAt depth) env henv]

/-- Calls are answered without regard to revision numbers where host functions make nothing of
them. -/
theorem invoke_unrevised (henv : env.Everywhere SymbolTable.IgnoresRevisions) (name : String)
    (args : List Value) : env.unrevised.invoke name args = env.invoke name args := by
  unfold Environment.invoke Environment.call
  rw [evaluate_unrevised.run_target henv]

/-- An environment with a host function that tells the revision of the first linked module. -/
def revealing : Environment where
  boundary := {
    BoundaryOf.ofCore .anonymous ∅ with
    dependencies := [⟨.anonymous, 3, .detached⟩]
    host := .ofSymbols [⟨"host.revision", .function (.host fun env _ =>
      .done (.ok (.int ((env.dependencies.head?.map (·.revision)).getD 0)))), by decide⟩] }
  own := ∅

/-- A host function that tells revision numbers answers with other ones where they are others. -/
theorem invoke_revealing :
    revealing.invoke "host.revision" [] = .ok (.int 3) ∧
      revealing.unrevised.invoke "host.revision" [] = .ok (.int 0) := by
  constructor
  · rfl
  · rfl

end Calls

end HotReload
