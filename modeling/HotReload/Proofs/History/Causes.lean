import HotReload.Proofs.History.Publication
import HotReload.Proofs.Reload.Fault
import HotReload.Proofs.Relation

/-!
# Causes of failures

A module that fails on account of a dependency points at what it blames, and so on until a module
fails on its own account. There is one way for the trail to leave the report: resolving looks at all
modules, reported or not, and a published module that lost a dependency in an earlier cycle is
rejected again whenever something depends on it anew, although the cycle does not concern it
(`History.Quarantined`). What it lost is missing still, so its links are stale and it counts as failed
since then. Either kind of end is always reached (`exists_cause_of_blames`), since blame passes along
declared dependencies and a module on a loop blames none.
-/

namespace HotReload

open Relation

/-- Whether an error lies with the module itself and not with a dependency of it. -/
def ReloadError.IsOwn : ReloadError → Prop
  | .unresolved .. => True
  | .dependencyFailed .. => False
  | .cycle .. => True
  | .unknownPlugin .. => True
  | .compilation .. => True

theorem ReloadError.isOwn_or (e : ReloadError) : e.IsOwn ∨ ∃ m d, e = .dependencyFailed m d := by
  cases e with
  | dependencyFailed m d => exact .inr ⟨m, d, rfl⟩
  | unresolved m missing => exact .inl trivial
  | cycle c => exact .inl trivial
  | unknownPlugin m plugin => exact .inl trivial
  | compilation m plugin cause => exact .inl trivial

namespace ReloadReport

def Fails (r : ReloadReport) (id : ModuleId) : Prop :=
  ∃ e retained, r.outcomes.find? id = some (.failed e retained)

/-- A module failed, and not on account of a dependency. -/
def FailsItself (r : ReloadReport) (id : ModuleId) : Prop :=
  ∃ e retained, r.outcomes.find? id = some (.failed e retained) ∧ e.IsOwn

/-- A module failed on account of a dependency. -/
def Blames (r : ReloadReport) (id d : ModuleId) : Prop :=
  ∃ m retained, r.outcomes.find? id = some (.failed (.dependencyFailed m d) retained)

end ReloadReport

/-- A published module that a request keeps and does not report on, although dependencies lead from it
to a module that is missing. Resolving the request rejects it, and it failed when it was last
reported on. -/
structure History.Quarantined (h : History) (r : Request) (id : ModuleId) : Prop where
  silent : (r.run h.state).report.outcomes.find? id = none
  kept : ∃ m, h.state.snapshot.find? id = some m ∧ (h.serve r).state.snapshot.find? id = some m
  rejected : ∃ e, (Loader.resolveChanges h.state r.changes).rejected.find? id = some e
  stale : ∃ y z, ReflTransGen h.state.snapshot.Declares id y ∧ h.state.snapshot.Declares y z ∧
    h.state.snapshot.find? z = none
  failed : ∃ e retained, h.lastOutcome? id = some (.failed e retained)

/-! ## Modules that are kept although they are rejected -/

section Idle

variable {s : Snapshot} {c : ChangeSet} {id d : ModuleId} {m : CompiledModule}

/-- Wherever paths of a plan lead from an idle module, they lead among published modules. -/
theorem Plan.Idle.path (hs : s.Keyed) (h : (make s c).Idle s id m)
    (hpath : ReflTransGen (make s c).graph.Edge id d) (hd : d ∈ (make s c).graph.modules) :
    ReflTransGen s.Declares id d ∧ ∃ m, (make s c).Idle s d m := by
  induction hpath with
  | refl => exact ⟨.refl, m, h⟩
  | tail _ hstep ih =>
    obtain ⟨hdeclares, m', hidle⟩ := ih hstep.mem_modules
    have hdeclared := (edge_iff hs hidle.planned).mp hstep
    obtain ⟨a, ha⟩ := (mem_graph_iff hs).mp hd
    obtain ⟨m'', hidle', -⟩ := exists_idle_of_planned ha (hidle.edge hs hdeclared).1
    exact ⟨hdeclares.tail ⟨m', hidle.published, hdeclared⟩, m'', hidle'⟩

/-- An idle module that is rejected leads to one that is missing, if no loop is published. -/
theorem Plan.Idle.exists_missing (hs : s.Keyed) (hloop : ∀ y, ¬s.DependsOn y y)
    (h : (make s c).Idle s id m)
    (hrejected : ((make s c).graph.resolve.rejected.find? id).isSome) :
    ∃ y z, ReflTransGen s.Declares id y ∧ s.Declares y z ∧ s.find? z = none := by
  obtain ⟨y, hpath, hfaulty⟩ := DependencyGraph.rejected_isSome_iff.mp hrejected
  obtain ⟨hdeclares, m', hidle⟩ := h.path hs hpath hfaulty.mem_modules
  rcases hfaulty with hback | ⟨z, hz, hmissing⟩
  · obtain ⟨z, hforth, hz⟩ := TransGen.tail'_iff.mp hback
    obtain ⟨hforth', m'', hidle'⟩ := hidle.path hs hforth hz.mem_modules
    have hdeclared := (edge_iff hs hidle'.planned).mp hz
    have hlast : s.Declares z y := ⟨m'', hidle'.published, hdeclared⟩
    exact absurd (TransGen.tail' hforth' hlast) (hloop y)
  · have hdeclared := (edge_iff hs hidle.planned).mp hz
    refine ⟨y, z, hdeclares, ⟨m', hidle.published, hdeclared⟩, ?_⟩
    apply unpublished_of_not_planned (c := c) _ (hidle.edge hs hdeclared).2
    rw [mem_graph_iff hs, not_exists] at hmissing
    exact Option.eq_none_iff_forall_ne_some.mpr hmissing

end Idle

section Request

variable {h : History} {r : Request} {id d : ModuleId} {m : CompiledModule} {p : Progress}

/-- A published module that leads to a missing one failed when it was last reported on. -/
theorem failed_of_missing (hm : h.state.snapshot.find? id = some m) {y z : ModuleId}
    (hpath : ReflTransGen h.state.snapshot.Declares id y) (hz : h.state.snapshot.Declares y z)
    (hmissing : h.state.snapshot.find? z = none) :
    ∃ e retained, h.lastOutcome? id = some (.failed e retained) := by
  refine (upToDate_or_failed hm).resolve_left ?_
  rintro ⟨l, -, hnew⟩
  have hcurrent := hnew.linksCurrent h.keyed_state hm
  obtain ⟨x, hx, rfl⟩ := (hcurrent.exact z).mpr (TransGen.tail' hpath hz)
  obtain ⟨m', hm', -⟩ := hcurrent.present x hx
  rw [hmissing] at hm'
  cases hm'

theorem Finished.quarantined (hfinished : Finished r.loader h.state r.changes p (r.run h.state))
    (hidle : (h.state.plan r.changes).Idle h.state.snapshot id m) {e : ReloadError}
    (hrejected : (h.state.plan r.changes).resolution.rejected.find? id = some e) :
    h.Quarantined r id := by
  obtain ⟨y, z, hpath, hz, hmissing⟩ := hidle.exists_missing h.keyed_state (acyclic_state h)
    (Option.isSome_of_eq_some hrejected)
  have hkept := hfinished.standing_of_kept hidle.notMem
    (Plan.notMem_removed_of_planned hidle.planned)
  constructor
  · exact congrArg Standing.outcome hkept
  · exact ⟨m, hidle.published, (congrArg Standing.entry hkept).trans hidle.published⟩
  · exact ⟨e, hrejected⟩
  · exact ⟨y, z, hpath, hz, hmissing⟩
  · exact failed_of_missing hidle.published hpath hz hmissing

/-! ## Blame -/

/-- What lets a module blame another one: it declares it as a dependency, the other one was rejected or
failed in its turn, and the module itself lies on no loop. -/
structure Plan.MayBlame (plan : Plan) (p : Progress) (id d : ModuleId) : Prop where
  edge : plan.graph.Edge id d
  planned : d ∈ plan.graph.modules
  noLoop : ¬plan.graph.DependsOn id id
  cause : (∃ e, plan.resolution.rejected.find? d = some e) ∨ p.hasFailed d = true

theorem Finished.mayBlame (hfinished : Finished r.loader h.state r.changes p (r.run h.state))
    (hblames : (r.run h.state).report.Blames id d) :
    (h.state.plan r.changes).MayBlame p id d := by
  obtain ⟨module, retained, hblames⟩ := hblames
  rcases hfinished.rejected_or_fault hblames with hrejected | ⟨haccepted, a, ha, hfault⟩
  · cases DependencyGraph.reason_of_rejected hrejected with
    | dependencyFailed noLoop present edge rejected =>
      exact ⟨edge, present d edge, noLoop, .inl (Option.isSome_iff_exists.mp rejected)⟩
  · cases hfault with
    | dependencyFailed first =>
      have hdeclared := List.mem_of_find?_eq_some first
      have hedge := (Plan.edge_iff h.keyed_state ha).mpr hdeclared
      have hd := DependencyGraph.mem_accepted_of_edge haccepted hedge
      constructor
      · exact hedge
      · exact DependencyGraph.mem_modules_of_mem_accepted hd
      · exact DependencyGraph.not_dependsOn_self_of_mem_accepted haccepted
      · exact .inr (List.find?_some first)

/-- What a module blames failed or is quarantined. -/
theorem Finished.fails_or_quarantined
    (hfinished : Finished r.loader h.state r.changes p (r.run h.state))
    (hblames : (r.run h.state).report.Blames id d) :
    (r.run h.state).report.Fails d ∨ h.Quarantined r d := by
  have hmay := hfinished.mayBlame hblames
  obtain ⟨a, ha⟩ := (Plan.mem_graph_iff h.keyed_state).mp hmay.planned
  rcases hmay.cause with ⟨e, he⟩ | hfailed
  · by_cases haffected : d ∈ (h.state.plan r.changes).affected
    · exact .inl ⟨e, _, hfinished.outcome_of_rejected haffected he⟩
    · obtain ⟨m, hidle, -⟩ := Plan.exists_idle_of_planned ha haffected
      exact .inr (hfinished.quarantined hidle he)
  · rw [hfinished.hasFailed_eq (Plan.notMem_removed_of_planned ha), Option.any_eq_true] at hfailed
    obtain ⟨o, ho, hfailure⟩ := hfailed
    cases o with
    | published revision previous => cases hfailure
    | removed revision => cases hfailure
    | failed e retained => exact .inl ⟨e, retained, ho⟩

/-- Blame never comes back to a module that passed it on. -/
theorem Finished.blames_no_loop
    (hfinished : Finished r.loader h.state r.changes p (r.run h.state)) :
    ¬TransGen (r.run h.state).report.Blames id id := by
  intro hloop
  have hedges : (r.run h.state).report.Blames ≤ (h.state.plan r.changes).graph.Edge := by
    intro a b hab
    exact (hfinished.mayBlame hab).edge
  have hgraph : (h.state.plan r.changes).graph.DependsOn id id := TransGen.mono hedges _ _ hloop
  obtain ⟨d, hblames, -⟩ := TransGen.head'_iff.mp hloop
  exact (hfinished.mayBlame hblames).noLoop hgraph

/-- Blame comes to an end. -/
theorem Finished.exists_cause
    (hfinished : Finished r.loader h.state r.changes p (r.run h.state)) :
    ∀ a ∈ (h.state.plan r.changes).graph.modules,
      (r.run h.state).report.Fails a ∨ h.Quarantined r a →
        ∃ cause, ReflTransGen (r.run h.state).report.Blames a cause ∧
          ((r.run h.state).report.FailsItself cause ∨ h.Quarantined r cause) := by
  refine forall_mem_of_no_loop (r := (r.run h.state).report.Blames) ?_ ?_
  · intro a _
    exact hfinished.blames_no_loop
  · rintro a - ih (⟨e, retained, hfails⟩ | hquarantined)
    · rcases e.isOwn_or with hown | ⟨module, b, rfl⟩
      · exact ⟨a, .refl, .inl ⟨e, retained, hfails, hown⟩⟩
      · have hab : (r.run h.state).report.Blames a b := ⟨module, retained, hfails⟩
        obtain ⟨cause, hpath, hcause⟩ := ih b (hfinished.mayBlame hab).planned hab
          (hfinished.fails_or_quarantined hab)
        exact ⟨cause, .head hab hpath, hcause⟩
    · exact ⟨a, .refl, .inr hquarantined⟩

/-- In every reachable state, if a module fails on account of a dependency then the same report says
that the dependency failed, or it is quarantined; and blame leads in finitely many steps to a module
that fails on its own account or is quarantined. -/
theorem exists_cause_of_blames (h : History) (r : Request) (id d : ModuleId)
    (hrun : (r.run h.state).report.cancelled = false)
    (hblames : (r.run h.state).report.Blames id d) :
    ((r.run h.state).report.Fails d ∨ h.Quarantined r d) ∧
      ∃ cause, ReflTransGen (r.run h.state).report.Blames d cause ∧
        ((r.run h.state).report.FailsItself cause ∨ h.Quarantined r cause) := by
  obtain ⟨p, hfinished⟩ := Request.finished_of_not_cancelled hrun
  have hd := hfinished.fails_or_quarantined hblames
  have hplanned := (hfinished.mayBlame hblames).planned
  exact ⟨hd, hfinished.exists_cause d hplanned hd⟩

end Request

namespace Sample

def reader : ModuleId := ⟨"c", none, by decide⟩

/-- A module that refers to the user of the library. -/
def readerArchive : Archive :=
  archive {
    ModuleSpec.empty reader with
    dependencies := [user]
    dependencies_nodup := List.nodup_singleton _
    id_notMem := by decide } "let z=b.y"

/-- The library is removed, and its user is kept. -/
def orphaned : History :=
  (History.empty.serve load).serve (request (ChangeSet.remove ∅ library))

def addReader : Request :=
  request (ChangeSet.add ∅ readerArchive)

theorem outcomes_addReader :
    (addReader.run orphaned.state).report.cancelled = false ∧
      (addReader.run orphaned.state).report.outcomes.entries =
        [(reader, .failed (.dependencyFailed reader user) none)] := by
  constructor
  · cbv
  · cbv

theorem blames_user : (addReader.run orphaned.state).report.Blames reader user := by
  refine ⟨reader, none, ?_⟩
  rw [← SortedMap.mem_entries_iff, outcomes_addReader.2]
  exact List.mem_singleton_self _

end Sample

/-- The new module blames one that is quarantined. -/
theorem exists_cause_of_reader :
    (Sample.addReader.run Sample.orphaned.state).report.cancelled = false ∧
      (Sample.addReader.run Sample.orphaned.state).report.Blames Sample.reader Sample.user ∧
      ((Sample.addReader.run Sample.orphaned.state).report.Fails Sample.user ∨
        Sample.orphaned.Quarantined Sample.addReader Sample.user) ∧
      ∃ cause,
        ReflTransGen (Sample.addReader.run Sample.orphaned.state).report.Blames Sample.user cause ∧
          ((Sample.addReader.run Sample.orphaned.state).report.FailsItself cause ∨
            Sample.orphaned.Quarantined Sample.addReader cause) :=
  ⟨Sample.outcomes_addReader.1, Sample.blames_user,
    exists_cause_of_blames _ _ _ _ Sample.outcomes_addReader.1 Sample.blames_user⟩

/-- A report need not mention what it blames: the new module fails on account of a dependency of which
nothing is reported, and so blame leads to no module that is reported to fail on its own account. -/
theorem blames_unreported :
    (Sample.addReader.run Sample.orphaned.state).report.cancelled = false ∧
      (Sample.addReader.run Sample.orphaned.state).report.Blames Sample.reader Sample.user ∧
      ¬(Sample.addReader.run Sample.orphaned.state).report.Fails Sample.user ∧
      ¬∃ cause,
        ReflTransGen (Sample.addReader.run Sample.orphaned.state).report.Blames Sample.user cause ∧
          (Sample.addReader.run Sample.orphaned.state).report.FailsItself cause := by
  have hsilent : ∀ o,
      (Sample.addReader.run Sample.orphaned.state).report.outcomes.find? Sample.user ≠ some o := by
    intro o ho
    rw [← SortedMap.mem_entries_iff, Sample.outcomes_addReader.2, List.mem_singleton] at ho
    have hne : Sample.user ≠ Sample.reader := by decide
    exact hne (congrArg Prod.fst ho)
  refine ⟨Sample.outcomes_addReader.1, Sample.blames_user, ?_, ?_⟩
  · rintro ⟨e, retained, hfails⟩
    exact hsilent _ hfails
  · rintro ⟨cause, hpath, hfails⟩
    rcases ReflTransGen.cases_head hpath with rfl | ⟨d, ⟨m, retained, hblames⟩, -⟩
    · obtain ⟨e, retained, hfails, -⟩ := hfails
      exact hsilent _ hfails
    · exact hsilent _ hblames

end HotReload
