import HotReload.Proofs.Reload.Fate
import HotReload.Proofs.Selection

/-!
# How the turn of a module ends

When the turn of an accepted module comes, one of three things happens, which are looked for in this
order: a declared dependency has failed, a declared plugin is not registered, or the module is built
by the first declared plugin that claims it, if one does (`Loader.ending`). There is no fourth one, for
whatever the module leads to has been built or kept when its turn comes, unless it failed
(`Settled.exists_linkedModules`).
-/

namespace HotReload

namespace Loader

/-- What comes of the turn of an accepted module. -/
inductive Ending where
  /-- A declared dependency has failed. -/
  | dependencyFailed (d : ModuleId)
  /-- A declared plugin is not registered. -/
  | unknownPlugin (i : PluginId)
  /-- The module is built by a plugin, or passed through where no plugin claims it. -/
  | built (plugin : Option Plugin)

/-- What comes of the turn of an archive, given the modules that have failed. -/
def ending (l : Loader) (failed : ModuleId → Bool) (a : Archive) : Ending :=
  match a.spec.dependencies.find? failed with
  | some d => .dependencyFailed d
  | none =>
    match a.spec.unknownPlugin? l.plugins with
    | some i => .unknownPlugin i
    | none => .built (l.plugins.claimant? a)

/-- The result of a build by a plugin. Without a plugin a module passes through and has no symbols. -/
def buildBy (l : Loader) (a : Archive) (boundary : Boundary) :
    Option Plugin → Except ReloadError BuildOutput
  | none => .ok { symbols := ∅, compiler := none }
  | some plugin => (Build.byPlugin l.settings plugin a boundary).result

/-- The verdict that an ending stands for, as a cycle stands. -/
def verdictOf (l : Loader) (p : Progress) (a : Archive) : Ending → Verdict
  | .dependencyFailed d => .error (.dependencyFailed a.id d)
  | .unknownPlugin i => .error (.unknownPlugin a.id i)
  | .built plugin =>
    (l.offer.boundary l.plugins p.candidate a.spec).bind fun boundary =>
      (l.buildBy a boundary plugin).map (boundary, ·)

section Verdict

variable {l : Loader} {p : Progress} {a : Archive} {boundary : Boundary} {plugin : Option Plugin}
  {output : BuildOutput} {e : ReloadError}

/-- The turn of an archive ends in one of three ways, each of which is looked for only if those before
it do not apply. -/
theorem ending_cases (l : Loader) (failed : ModuleId → Bool) (a : Archive) :
    (∃ d, a.spec.dependencies.find? failed = some d ∧
        l.ending failed a = .dependencyFailed d) ∨
      (∀ d ∈ a.spec.dependencies, failed d = false) ∧
        ((∃ i, a.spec.unknownPlugin? l.plugins = some i ∧ l.ending failed a = .unknownPlugin i) ∨
          a.spec.unknownPlugin? l.plugins = none ∧
            l.ending failed a = .built (l.plugins.claimant? a)) := by
  rw [ending]
  cases hfirst : a.spec.dependencies.find? failed with
  | some d => exact .inl ⟨d, rfl, rfl⟩
  | none =>
    refine .inr ⟨fun d hd => ?_, ?_⟩
    · simpa using List.find?_eq_none.mp hfirst d hd
    · cases a.spec.unknownPlugin? l.plugins with
      | some i => exact .inl ⟨i, rfl, rfl⟩
      | none => exact .inr ⟨rfl, rfl⟩

theorem result_run_eq (h : l.plugins.select a = .ok plugin) (boundary : Boundary) :
    (Build.run l.settings l.plugins a boundary).result = l.buildBy a boundary plugin := by
  rw [Build.run, h]
  cases plugin with
  | none => rfl
  | some plugin => rfl

theorem compiler_of_resultOf {settings : BuildSettings} {id : ModuleId} {i : PluginId}
    {run : BuildRun} (h : Build.resultOf settings id i run = .ok output) :
    output.compiler = some i := by
  unfold Build.resultOf at h
  split at h
  next => cases h
  next =>
    split at h
    next =>
      cases h
      rfl
    next => cases h
    next => cases h

theorem exists_cause_of_resultOf {settings : BuildSettings} {id : ModuleId} {i : PluginId}
    {run : BuildRun} (h : Build.resultOf settings id i run = .error e) :
    ∃ cause, e = .compilation id i cause := by
  unfold Build.resultOf at h
  split at h
  next =>
    cases h
    exact ⟨_, rfl⟩
  next =>
    split at h
    next => cases h
    next =>
      cases h
      exact ⟨_, rfl⟩
    next =>
      cases h
      exact ⟨_, rfl⟩

/-- What is built names the plugin that built it. -/
theorem compiler_of_buildBy (h : l.buildBy a boundary plugin = .ok output) :
    output.compiler = plugin.map (·.id) := by
  cases plugin with
  | none =>
    cases h
    rfl
  | some plugin =>
    rw [buildBy, Build.byPlugin] at h
    split at h
    next => exact compiler_of_resultOf h
    next => cases h

/-- Only a build by a plugin fails, and it fails in its own name. -/
theorem exists_cause_of_buildBy (h : l.buildBy a boundary plugin = .error e) :
    ∃ builder cause, plugin = some builder ∧ e = .compilation a.id builder.id cause := by
  cases plugin with
  | none => cases h
  | some plugin =>
    rw [buildBy, Build.byPlugin] at h
    split at h
    next =>
      obtain ⟨cause, rfl⟩ := exists_cause_of_resultOf h
      exact ⟨plugin, cause, rfl, rfl⟩
    next =>
      cases h
      exact ⟨plugin, _, rfl, rfl⟩

/-- A boundary can be made of links and runtimes. -/
theorem exists_boundary {candidates : ModuleMap}
    (hlinked : ∃ ms, a.spec.linkedModules candidates = .ok ms)
    (hunknown : a.spec.unknownPlugin? l.plugins = none) :
    ∃ boundary, l.offer.boundary l.plugins candidates a.spec = .ok boundary := by
  obtain ⟨ms, hms⟩ := hlinked
  obtain ⟨runtimes, hruntimes⟩ := ModuleSpec.exists_runtimes hunknown
  exact ⟨_, Offer.boundary_eq_ok_iff.mpr ⟨ms, runtimes, hms, hruntimes, rfl⟩⟩

/-- Where the links of a module can be made unless a dependency has failed, the verdict on it is that
of its ending. -/
theorem verdict_eq_verdictOf
    (hlinked : (∀ d ∈ a.spec.dependencies, p.hasFailed d = false) →
      ∃ ms, a.spec.linkedModules p.candidate = .ok ms) :
    l.verdict p a = l.verdictOf p a (l.ending p.hasFailed a) := by
  rw [verdict_eq]
  rcases l.ending_cases p.hasFailed a with ⟨d, hfirst, hending⟩ | ⟨hnone, hending⟩
  · rw [hfirst, hending]
    rfl
  · have hfirst : a.spec.dependencies.find? p.hasFailed = none := by
      rw [List.find?_eq_none]
      intro d hd
      rw [hnone d hd]
      exact Bool.false_ne_true
    rw [hfirst]
    rcases hending with ⟨i, hunknown, hending⟩ | ⟨hunknown, hending⟩
    · obtain ⟨ms, hms⟩ := hlinked hnone
      have hboundary : l.offer.boundary l.plugins p.candidate a.spec =
          .error (.unknownPlugin a.spec.id i) := by
        rw [Offer.boundary, hms, ModuleSpec.runtimes_of_unknownPlugin hunknown]
        rfl
      rw [hboundary, hending]
      rfl
    · obtain ⟨runtimes, hruntimes⟩ := ModuleSpec.exists_runtimes hunknown
      have hselect : l.plugins.select a = .ok (l.plugins.claimant? a) :=
        PluginTable.select_eq_ok (ModuleSpec.exists_find?_of_runtimes hruntimes)
      rw [hending]
      simp only [verdictOf, result_run_eq hselect]

end Verdict

end Loader

section Settled

variable {l : Loader} {state : LoaderState} {c : ChangeSet} {done : List ModuleId}
  {p q : Progress} {a : Archive}

/-- The links of a module can be made once its dependencies are settled, if none of them has
failed. -/
theorem Settled.exists_linkedModules (h : Settled l state c done p)
    (hdone : (state.plan c).Prefix done) (hagree : ∀ d ∈ done, q.standing d = p.standing d)
    (hdeps : ∀ d ∈ a.spec.dependencies, d ∈ done)
    (hnone : ∀ d ∈ a.spec.dependencies, q.hasFailed d = false) :
    ∃ ms, a.spec.linkedModules q.candidate = .ok ms := by
  apply HotReload.exists_linkedModules fun d => d ∈ done ∧ p.hasFailed d = false
  · rintro d ⟨hd, hfailed⟩
    obtain ⟨m, hm, -, hclosed⟩ := h.sound hdone hd hfailed
    have hentry : q.candidate.find? d = p.candidate.find? d :=
      congrArg Standing.entry (hagree d hd)
    exact ⟨m, hentry.trans hm, hclosed⟩
  · intro d hd
    have hsame : q.hasFailed d = p.hasFailed d := Progress.hasFailed_congr (hagree d (hdeps d hd))
    exact ⟨hdeps d hd, hsame ▸ hnone d hd⟩

/-- The verdict on a module whose dependencies are settled is that of its ending. -/
theorem Settled.verdict_eq_verdictOf (h : Settled l state c done p)
    (hdone : (state.plan c).Prefix done) (hdeps : ∀ d ∈ a.spec.dependencies, d ∈ done) :
    l.verdict p a = l.verdictOf p a (l.ending p.hasFailed a) := by
  apply Loader.verdict_eq_verdictOf
  intro hnone
  exact h.exists_linkedModules hdone (fun _ _ => rfl) hdeps hnone

end Settled

end HotReload
