import HotReload.Proofs.History.Scope
import HotReload.Proofs.Reload.Turn

/-!
# What comes of accepted modules

A module that resolving accepts, and that a change concerns, gets its turn in a cycle. It fails if a
dependency of it has failed or a plugin that it declares is not registered, and is built otherwise
(`Loader.ending`). The report says so, and says nothing else (`Finished.endsIn`). Two errors that
linking and selecting allow for never come up: when a boundary is made, all that the module leads to
can be linked, and when a plugin is selected, all that are declared are registered.
-/

namespace HotReload

/-- Whether a reload reports that a module failed. -/
def ReloadReport.hasFailed (r : ReloadReport) (id : ModuleId) : Bool :=
  (r.outcomes.find? id).any (·.isFailure)

namespace Loader

/-- A loader with other plugins. -/
def withPlugins (l : Loader) (t : PluginTable) : Loader :=
  { l with plugins := t }

/-- A cycle ends for a module in the way that its turn came out. What is built is linked to the modules
as they are published afterwards. -/
inductive EndsIn (l : Loader) (before : Snapshot) (run : Run) (id : ModuleId) (a : Archive) :
    Ending → Prop
  | dependencyFailed {d : ModuleId}
      (outcome : run.report.outcomes.find? id =
        some (.failed (.dependencyFailed id d) (before.revision? id))) :
      EndsIn l before run id a (.dependencyFailed d)
  | unknownPlugin {i : PluginId}
      (outcome : run.report.outcomes.find? id =
        some (.failed (.unknownPlugin id i) (before.revision? id))) :
      EndsIn l before run id a (.unknownPlugin i)
  | published {plugin : Option Plugin} {boundary : Boundary} {output : BuildOutput}
      {revision : Nat}
      (linked : l.offer.boundary l.plugins run.state.snapshot.modules a.spec = .ok boundary)
      (built : l.buildBy a boundary plugin = .ok output)
      (outcome : run.report.outcomes.find? id =
        some (.published revision (before.revision? id)))
      (entry : run.state.snapshot.find? id = some {
        revision
        archive := a
        environment := { boundary, own := output.symbols }
        compiler := plugin.map (·.id) }) :
      EndsIn l before run id a (.built plugin)
  | compilation {builder : Plugin} {boundary : Boundary} {cause : CompilationCause}
      (linked : l.offer.boundary l.plugins run.state.snapshot.modules a.spec = .ok boundary)
      (failed : l.buildBy a boundary (some builder) = .error (.compilation id builder.id cause))
      (outcome : run.report.outcomes.find? id =
        some (.failed (.compilation id builder.id cause) (before.revision? id))) :
      EndsIn l before run id a (.built (some builder))

/-- The order in which plugins were registered makes no difference to a cycle. -/
theorem reload_withPlugins {l : Loader} {t : PluginTable} (h : t.plugins.Perm l.plugins.plugins) :
    (l.withPlugins t).reload = l.reload := by
  have hfind : t.find? = l.plugins.find? := PluginTable.find?_of_perm h
  have hboundary : l.offer.boundary t = l.offer.boundary l.plugins :=
    Offer.boundary_congr_plugins hfind l.offer
  have hrun : Build.run l.settings t = Build.run l.settings l.plugins := by
    funext a boundary
    rw [Build.run, Build.run, PluginTable.select_congr hfind]
  have hstart : (l.withPlugins t).start = l.start := by
    funext p a
    simp only [start, withPlugins, hboundary, hrun]
  exact reload_congr hstart rfl

end Loader

section Finished

variable {l : Loader} {state : LoaderState} {c : ChangeSet} {p : Progress} {run : Loader.Run}
  {id : ModuleId} {a : Archive}

/-- An accepted module that a cycle affects is settled by the verdict on it. -/
theorem Finished.standing_of_accepted (h : Finished l state c p run)
    (haccepted : id ∈ (state.plan c).graph.accepted) (haffected : id ∈ (state.plan c).affected)
    (ha : (state.plan c).archives.find? id = some a) :
    run.standing id =
      (state.standing id).settle (state.snapshot.revision? id) a (l.verdict p a) := by
  have hremoved := Plan.notMem_removed_of_planned ha
  have hnone := DependencyGraph.rejected_eq_none_of_mem_accepted haccepted
  rw [h.standing_eq, Progress.final_of_notRemoved hremoved,
    h.settled.built id a haccepted haffected ha, standing_opening_of_notRejected hnone,
    standing_start_of_notRemoved hremoved]

/-- What has failed of the dependencies of an accepted module is what the report says. -/
theorem Finished.ending_eq (h : Finished l state c p run)
    (haccepted : id ∈ (state.plan c).graph.accepted)
    (ha : (state.plan c).archives.find? id = some a) :
    l.ending p.hasFailed a = l.ending run.report.hasFailed a := by
  have hsame : ∀ d ∈ a.spec.dependencies, p.hasFailed d = run.report.hasFailed d := by
    intro d hd
    have hedge := (Plan.edge_iff h.settled.keyed ha).mpr hd
    have hd := DependencyGraph.mem_accepted_of_edge haccepted hedge
    obtain ⟨b, hb⟩ := (state.plan c).prefix_accepted.exists_archive h.settled.keyed hd
    exact h.hasFailed_eq (Plan.notMem_removed_of_planned hb)
  rw [Loader.ending, Loader.ending, List.find?_congr hsame]

/-- An accepted module that a cycle affects ends as the report on its dependencies says. -/
theorem Finished.endsIn (h : Finished l state c p run)
    (haccepted : id ∈ (state.plan c).graph.accepted) (haffected : id ∈ (state.plan c).affected)
    (ha : (state.plan c).archives.find? id = some a) :
    l.EndsIn state.snapshot run id a (l.ending run.report.hasFailed a) := by
  have hstanding := h.standing_of_accepted haccepted haffected ha
  have hdone := (state.plan c).prefix_accepted
  have hdeps : ∀ d ∈ a.spec.dependencies, d ∈ (state.plan c).graph.accepted := fun d hd =>
    hdone.closed id haccepted d ((Plan.edge_iff h.settled.keyed ha).mpr hd)
  have hid : a.id = id := Plan.id_of_archives_find? h.settled.keyed ha
  rw [h.settled.verdict_eq_verdictOf hdone hdeps, ← hid] at hstanding
  rw [← h.ending_eq haccepted ha, ← hid]
  rcases l.ending_cases p.hasFailed a with ⟨d, -, hending⟩ | ⟨hnone, hending⟩
  · rw [hending] at hstanding ⊢
    exact .dependencyFailed (congrArg Standing.outcome hstanding)
  · rcases hending with ⟨i, -, hending⟩ | ⟨hunknown, hending⟩
    · rw [hending] at hstanding ⊢
      exact .unknownPlugin (congrArg Standing.outcome hstanding)
    · have hlinked := h.settled.exists_linkedModules hdone (fun _ _ => rfl) hdeps hnone
      obtain ⟨boundary, hboundary⟩ := Loader.exists_boundary hlinked hunknown
      simp only [hending, Loader.verdictOf, hboundary, Except.bind] at hstanding ⊢
      rw [← h.modules_eq] at hboundary
      cases hbuild : l.buildBy a boundary (l.plugins.claimant? a) with
      | ok output =>
        rw [hbuild] at hstanding
        have hentry := congrArg Standing.entry hstanding
        refine .published hboundary hbuild (congrArg Standing.outcome hstanding) (hentry.trans ?_)
        rw [← Loader.compiler_of_buildBy hbuild]
        rfl
      | error e =>
        rw [hbuild] at hstanding
        obtain ⟨builder, cause, hbuilder, rfl⟩ := Loader.exists_cause_of_buildBy hbuild
        rw [hbuilder] at hbuild ⊢
        exact .compilation hboundary hbuild (congrArg Standing.outcome hstanding)

end Finished

/-- What a request comes to for the modules that resolving accepts. -/
structure Request.Attributes (r : Request) (state : LoaderState) : Prop where
  /-- An accepted module that the change concerns gets its turn, and it ends in the way that the turn
  comes out, which is what the report on its dependencies says. -/
  ends : ∀ id ∈ (Loader.resolveChanges state r.changes).order,
    state.snapshot.Concerned r.changes id →
      ∃ a, state.snapshot.archiveAfter? r.changes id = some a ∧
        r.loader.EndsIn state.snapshot (r.run state) id a
          (r.loader.ending (r.run state).report.hasFailed a) ∧
        ∃ q, r.loader.Turn state r.changes r.stop id a q ∧
          r.loader.ending q.hasFailed a = r.loader.ending (r.run state).report.hasFailed a
  /-- Whenever links are made, nothing that they lead to is missing. -/
  linked : ∀ id a q, r.loader.Turn state r.changes r.stop id a q →
    (∀ d ∈ a.spec.dependencies, q.hasFailed d = false) →
      ∃ ms, a.spec.linkedModules q.candidate = .ok ms
  /-- Whenever a plugin is selected, all that are declared are registered. -/
  selected : ∀ id a q, r.loader.Turn state r.changes r.stop id a q →
    ∀ boundary, r.loader.offer.boundary r.loader.plugins q.candidate a.spec = .ok boundary →
      r.loader.plugins.select a = .ok (r.loader.plugins.claimant? a)
  /-- The order in which the plugins were registered makes no difference. -/
  registration : ∀ t : PluginTable, t.plugins.Perm r.loader.plugins.plugins →
    ({ r with loader := r.loader.withPlugins t }).run state = r.run state

/-- In every reachable state and for every request that is not cancelled, each module that resolving
accepts and the change concerns fails on account of the first declared dependency that failed, or for
the first declared plugin that is not registered, or else is built by the first declared plugin that
claims it, if one does. Making links and selecting plugins bring up no errors of their own. -/
theorem attributes_of_not_cancelled (h : History) (r : Request)
    (hrun : (r.run h.state).report.cancelled = false) : r.Attributes h.state := by
  have hs := h.keyed_state
  constructor
  · intro id hid hconcerned
    have haccepted := DependencyGraph.mem_order_iff.mp hid
    have haffected := (Plan.mem_affected_iff_concerned hs).mpr hconcerned
    obtain ⟨a, ha⟩ := (Plan.mem_affected_iff.mp haffected).1
    obtain ⟨p, hbuild, hfinished⟩ := Finished.exists_buildTiers hs hrun
    obtain ⟨q, hturn⟩ := exists_turn haccepted haffected ha hbuild
    have hends := hfinished.endsIn haccepted haffected ha
    have hending := (hturn.ending_eq hs hbuild).trans (hfinished.ending_eq haccepted ha)
    rw [Plan.archives_eq_archiveAfter] at ha
    exact ⟨a, ha, hends, q, hturn, hending⟩
  · intro id a q hturn hnone
    exact hturn.exists_linkedModules hs hnone
  · intro id a q hturn boundary hboundary
    obtain ⟨ms, runtimes, -, hruntimes, -⟩ := Offer.boundary_eq_ok_iff.mp hboundary
    exact PluginTable.select_eq_ok (ModuleSpec.exists_find?_of_runtimes hruntimes)
  · intro t hperm
    rw [Request.run, Request.run, Loader.reload_withPlugins hperm]

/-- The update of a library builds it and the module that refers to it. -/
theorem attributes_update :
    (Sample.update.run (History.empty.serve Sample.load).state).report.cancelled = false ∧
      Sample.update.Attributes (History.empty.serve Sample.load).state := by
  have hrun : (Sample.update.run
      (History.empty.serve Sample.load).state).report.cancelled = false := by cbv
  exact ⟨hrun, attributes_of_not_cancelled _ _ hrun⟩

end HotReload
