import HotReload.Proofs.Reload.Ending

/-!
# Why accepted modules fail

What resolving leaves to be found is whether a dependency fails in its turn, whether the declared
plugins are registered and whether the build succeeds, and it is found in this order (`Loader.Fault`).
A dependency that is not loaded is not among it.
-/

namespace HotReload

/-- The ways in which an accepted module can fail, as a cycle stands. -/
inductive Loader.Fault (l : Loader) (p : Progress) (a : Archive) : ReloadError → Prop
  | dependencyFailed {d : ModuleId} (first : a.spec.dependencies.find? p.hasFailed = some d) :
      Fault l p a (.dependencyFailed a.id d)
  | unknownPlugin {i : PluginId} (noneFailed : ∀ d ∈ a.spec.dependencies, p.hasFailed d = false)
      (first : a.spec.plugins.find? (fun i => (l.plugins.find? i).isNone) = some i) :
      Fault l p a (.unknownPlugin a.id i)
  | compilation {plugin : Plugin} {cause : CompilationCause}
      (noneFailed : ∀ d ∈ a.spec.dependencies, p.hasFailed d = false)
      (selected : l.plugins.select a = .ok (some plugin)) :
      Fault l p a (.compilation a.id plugin.id cause)

section Settled

variable {l : Loader} {state : LoaderState} {c : ChangeSet} {p : Progress} {id : ModuleId}
  {a : Archive} {e : ReloadError}

/-- An accepted module that fails does so in one of the ways listed. -/
theorem Settled.fault_of_verdict (h : Settled l state c (state.plan c).graph.accepted p)
    (hid : id ∈ (state.plan c).graph.accepted) (ha : (state.plan c).archives.find? id = some a)
    (hverdict : l.verdict p a = .error e) : l.Fault p a e := by
  have hdone := (state.plan c).prefix_accepted
  have hdeps : ∀ d ∈ a.spec.dependencies, d ∈ (state.plan c).graph.accepted := fun d hd =>
    hdone.closed id hid d ((Plan.edge_iff h.keyed ha).mpr hd)
  rw [h.verdict_eq_verdictOf hdone hdeps] at hverdict
  rcases l.ending_cases p.hasFailed a with ⟨d, hfirst, hending⟩ | ⟨hnone, hending⟩
  · rw [hending] at hverdict
    cases hverdict
    exact .dependencyFailed hfirst
  · rcases hending with ⟨i, hunknown, hending⟩ | ⟨hunknown, hending⟩
    · rw [hending] at hverdict
      cases hverdict
      exact .unknownPlugin hnone hunknown
    · have hlinked := h.exists_linkedModules hdone (fun _ _ => rfl) hdeps hnone
      obtain ⟨boundary, hboundary⟩ := Loader.exists_boundary hlinked hunknown
      simp only [hending, Loader.verdictOf, hboundary] at hverdict
      have hbuild := except_map_eq_error hverdict
      obtain ⟨plugin, cause, hclaimant, rfl⟩ := Loader.exists_cause_of_buildBy hbuild
      refine .compilation hnone ?_
      rw [← hclaimant]
      obtain ⟨runtimes, hruntimes⟩ := ModuleSpec.exists_runtimes hunknown
      exact PluginTable.select_eq_ok (ModuleSpec.exists_find?_of_runtimes hruntimes)

/-- A module that is reported as failed was rejected by resolving, or accepted and failed in one of the
ways listed. -/
theorem Finished.rejected_or_fault {run : Loader.Run} (h : Finished l state c p run)
    {retained : Option Nat} (hfailed : run.report.outcomes.find? id = some (.failed e retained)) :
    (state.plan c).resolution.rejected.find? id = some e ∨
      id ∈ (state.plan c).graph.accepted ∧
        ∃ a, (state.plan c).archives.find? id = some a ∧ l.Fault p a e := by
  obtain ⟨st, hfate, houtcome, -, -⟩ := h.exists_fate id
  rw [houtcome] at hfailed
  cases hfate with
  | removed found removed => cases hfailed
  | published affected accepted planned verdict => cases hfailed
  | kept notAffected notRemoved => cases hfailed
  | failed affected reason =>
    cases hfailed
    refine reason.imp_right ?_
    rintro ⟨haccepted, a, ha, hverdict⟩
    exact ⟨haccepted, a, ha, h.settled.fault_of_verdict haccepted ha hverdict⟩

end Settled

end HotReload
