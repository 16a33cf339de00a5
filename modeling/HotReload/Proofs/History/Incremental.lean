import HotReload.Proofs.History.FreshLoad
import HotReload.Proofs.Script.Tables

/-!
# Incremental reloads

A registry that went through any number of successful cycles of the plugins of this library cannot
be told from one that was loaded at once (`republishes_of_succeeds`), except by its revision
numbers. Its modules answer every call alike if the functions that the loader was given, for the core,
the host and the runtimes of its plugins, make nothing of these numbers (`Loader.IgnoresRevisions`).
The backends of this library build no others (`Snapshot.Coherent.ignoresRevisions`).
-/

namespace HotReload

open Relation

/-- A module that is another one but for revision numbers, which are in its links also. -/
structure CompiledModule.Republishes (m' m : CompiledModule) : Prop where
  archive : m'.archive = m.archive
  compiler : m'.compiler = m.compiler
  symbols : m'.symbols = m.symbols
  core : m'.environment.boundary.core = m.environment.boundary.core
  links : m'.links.map (·.id) = m.links.map (·.id)
  plugins : m'.environment.boundary.plugins = m.environment.boundary.plugins
  host : m'.environment.boundary.host = m.environment.boundary.host
  environment : m'.environment.unrevised = m.environment.unrevised

/-- A cycle that succeeds and publishes exactly the modules of a snapshot, each as it is there but
for revision numbers. -/
structure Loader.Run.Republishes (run : Loader.Run) (s : Snapshot) : Prop where
  success : run.report.isSuccess = true
  outcomes : ∀ id,
    (∃ revision previous,
      run.report.outcomes.find? id = some (.published revision previous)) ↔
        ∃ m, s.find? id = some m
  modules : ∀ id m, s.find? id = some m →
    ∃ m', run.state.snapshot.find? id = some m' ∧ m'.Republishes m
  nothingElse : ∀ id, s.find? id = none → run.state.snapshot.find? id = none

/-- The backends of all plugins are backends of this library. -/
def Loader.UsesReferenceBackends (l : Loader) : Prop :=
  ∀ p ∈ l.plugins.plugins, ∃ kind linkCheck, p.backend = BackendKind.backend linkCheck kind

/-- The functions that a loader was given make nothing of the revision numbers that they can read. -/
structure Loader.IgnoresRevisions (l : Loader) : Prop where
  core : l.offer.core.IgnoresRevisions
  host : l.offer.host.IgnoresRevisions
  runtimes : ∀ p ∈ l.plugins.plugins, p.runtime.IgnoresRevisions

/-! ## Successful cycles -/

theorem ReloadReport.isSuccess_iff (r : ReloadReport) :
    r.isSuccess = true ↔
      r.cancelled = false ∧ ∀ id o, r.outcomes.find? id = some o → o.isFailure = false := by
  have hfailures : r.failures = [] ↔
      ∀ id o, r.outcomes.find? id = some o → o.isFailure = false := by
    have herror : ∀ o : Outcome, o.error? = none ↔ o.isFailure = false := by
      intro o
      cases o <;> simp [Outcome.error?, Outcome.isFailure]
    simp only [failures, Outcomes.failures, List.filterMap_eq_nil_iff, Option.map_eq_none_iff,
      herror, Prod.forall, SortedMap.mem_entries_iff]
  simp [isSuccess, hfailures]

section Succeeds

variable {h : History} {l : Loader} {id : ModuleId}

/-- Nothing was reported to have failed where every cycle was a success. -/
theorem History.Succeeds.isFailure_eq_false (hsuccess : h.Succeeds) {o : Outcome}
    (ho : h.lastOutcome? id = some o) : o.isFailure = false := by
  induction h with
  | empty => cases ho
  | serve h r ih =>
    obtain ⟨hbefore, hreport⟩ := hsuccess
    obtain ⟨hcancelled, houtcomes⟩ := (ReloadReport.isSuccess_iff _).mp hreport
    rw [History.lastOutcome?, hcancelled] at ho
    rcases Option.or_eq_some_iff.mp ho with hnow | ⟨-, hlast⟩
    · exact houtcomes id o hnow
    · exact ih hbefore hlast

/-- After successful cycles, the snapshot is one that the loader would build as it is. -/
theorem History.Succeeds.coherent (hsuccess : h.Succeeds) (hl : ∀ l' ∈ h.loaders, l' = l) :
    h.state.snapshot.Coherent l := by
  constructor
  · exact h.keyed_state
  · intro id m hm
    rcases upToDate_or_failed hm with ⟨l', hl', hnew⟩ | ⟨e, retained, hfailed⟩
    · rw [hl l' hl'] at hnew
      exact hnew
    · cases hsuccess.isFailure_eq_false hfailed
  · intro id hloop
    exact acyclic_state h id hloop

end Succeeds

/-! ## Republication -/

section Republish

variable {s : Snapshot} {l : Loader} {archives : List Archive} {p : Progress} {run : Loader.Run}
  {id : ModuleId} {m m' : CompiledModule}

theorem CompiledModule.republishes_of_unrevised (h : m'.unrevised = m.unrevised) :
    m'.Republishes m := by
  simp only [CompiledModule.unrevised, CompiledModule.mk.injEq, true_and] at h
  obtain ⟨harchive, henvironment, hcompiler⟩ := h
  have hparts := henvironment
  rw [Environment.unrevised_eq, Environment.unrevised_eq, Environment.mk.injEq] at hparts
  obtain ⟨hboundary, hown⟩ := hparts
  have hlinks := congrArg BoundaryOf.dependencies hboundary
  rw [dependencies_unrevised, dependencies_unrevised] at hlinks
  refine ⟨harchive, hcompiler, hown, ?_, ?_, ?_, ?_, henvironment⟩
  · rw [← core_unrevised, hboundary, core_unrevised]
  · have hid : (Linked.id : LinkedModule → ModuleId) ∘ Linked.unrevised = Linked.id := by
      funext d
      exact id_unrevised d
    have hids := congrArg (List.map Linked.id) hlinks
    rw [List.map_map, List.map_map, hid] at hids
    exact hids
  · rw [← plugins_unrevised, hboundary, plugins_unrevised]
  · rw [← host_unrevised, hboundary, host_unrevised]

/-- What a fresh load reports and leaves of a module. -/
theorem Fresh.standing (h : Fresh s archives) (hs : s.Coherent l) (hl : l.plugins.Plain)
    (hfinished : Finished l .initial (.ofArchives archives) p run) (id : ModuleId) :
    match s.find? id with
    | some m =>
      (∃ revision, run.report.outcomes.find? id = some (.published revision none)) ∧
        ∃ m', run.state.snapshot.find? id = some m' ∧ m'.Republishes m
    | none => run.report.outcomes.find? id = none ∧ run.state.snapshot.find? id = none := by
  obtain ⟨st, hfate, houtcome, hentry, -⟩ := hfinished.exists_fate id
  cases hm : s.find? id with
  | none =>
    have hunplanned : (Plan.fresh archives).archives.find? id = none := by
      rw [h.archives_find?, hm]
      rfl
    have haffected : id ∉ (Plan.fresh archives).affected := by
      intro haffected
      obtain ⟨a, ha⟩ := (Plan.mem_affected_iff.mp haffected).1
      rw [hunplanned] at ha
      cases ha
    cases hfate with
    | removed found removed => cases found
    | published affected => exact absurd affected haffected
    | failed affected => exact absurd affected haffected
    | kept => exact ⟨houtcome, hentry⟩
  | some m =>
    obtain ⟨halike, hsound⟩ := h.reproduced hs hl hfinished hm
    have hcandidate : run.state.snapshot.find? id = p.candidate.find? id := by
      rw [Snapshot.find?, hfinished.modules_eq]
    rw [hm, ← hcandidate, Option.map_some, eq_comm] at halike
    obtain ⟨m', hm', hunrevised⟩ := Option.map_eq_some_iff.mp halike
    refine ⟨?_, m', hm', CompiledModule.republishes_of_unrevised hunrevised⟩
    cases hfate with
    | removed found removed => cases found
    | published affected accepted planned verdict => exact ⟨_, houtcome⟩
    | failed affected reason =>
      rw [hfinished.hasFailed_eq List.not_mem_nil, houtcome] at hsound
      cases hsound
    | kept notAffected => exact absurd (h.mem_affected hm) notAffected

end Republish

theorem Loader.UsesReferenceBackends.plain {l : Loader} (hl : l.UsesReferenceBackends) :
    l.plugins.Plain := by
  intro p hp
  obtain ⟨kind, linkCheck, hbackend⟩ := hl p hp
  rw [hbackend]
  exact plain_backend kind linkCheck

/-! ## Functions that make nothing of revision numbers -/

section Functions

variable {s : Snapshot} {l : Loader} {id : ModuleId} {m m' : CompiledModule}

theorem SymbolTable.Sound.ignoresRevisions {t : SymbolTable} (h : t.Sound) : t.IgnoresRevisions := by
  intro name body hbody
  cases h name body hbody with
  | constant v => trivial
  | script counts => trivial
  | function f => exact fun env args => rfl

/-- What the backends of this library build makes nothing of revision numbers. -/
theorem CompiledModule.BuiltBy.ignoresRevisions (hm : m.BuiltBy l) (hl : l.UsesReferenceBackends) :
    m.symbols.IgnoresRevisions := by
  unfold BuiltBy Build.run at hm
  split at hm
  next => cases hm
  next =>
    have hsymbols : (∅ : SymbolTable) = m.symbols := congrArg BuildOutput.symbols (Except.ok.inj hm)
    rw [← hsymbols]
    exact nofun
  next plugin hselect =>
    obtain ⟨kind, linkCheck, hbackend⟩ := hl plugin (mem_of_select hselect)
    unfold Build.byPlugin at hm
    split at hm
    next =>
      simp only [Build.resultOf] at hm
      split at hm
      next => cases hm
      next =>
        split at hm
        next table hbuilt =>
          have hsymbols : table = m.symbols := congrArg BuildOutput.symbols (Except.ok.inj hm)
          rw [hbackend] at hbuilt
          rw [← hsymbols]
          exact (sound_of_build hbuilt).ignoresRevisions
        next => cases hm
        next => cases hm
    next => cases hm

/-- Neither does anything that is visible to a module, if that holds of the modules it is linked to. -/
theorem CompiledModule.UpToDate.ignoresRevisions (hm : m.UpToDate l s.modules)
    (hl : l.UsesReferenceBackends) (hgiven : l.IgnoresRevisions)
    (hlinks : ∀ d ∈ m.links, d.environment.Everywhere SymbolTable.IgnoresRevisions) :
    m.environment.Everywhere SymbolTable.IgnoresRevisions := by
  obtain ⟨ms, runtimes, -, hruntimes, hboundary⟩ := Offer.boundary_eq_ok_iff.mp hm.boundary
  refine ⟨hm.built.ignoresRevisions hl, ?_, hlinks, ?_, ?_⟩
  · rw [hboundary]
    exact hgiven.core
  · rw [hboundary]
    intro e he
    obtain ⟨id, -, hid⟩ := exists_of_forall₂ (mapM_eq_ok_iff.mp hruntimes) he
    split at hid
    next plugin hfound =>
      cases hid
      exact hgiven.runtimes plugin (List.mem_of_find?_eq_some hfound)
    next => cases hid
  · rw [hboundary]
    exact hgiven.host.filter _

/-- Nothing that is visible to a module of a coherent snapshot makes anything of revision numbers. -/
theorem Snapshot.Coherent.ignoresRevisions (hs : s.Coherent l) (hl : l.UsesReferenceBackends)
    (hgiven : l.IgnoresRevisions) (hm : s.find? id = some m) :
    m.environment.Everywhere SymbolTable.IgnoresRevisions := by
  -- It passes from the modules that a module depends on to the module, and there are no loops.
  have hall : ∀ a ∈ s.modules.keys, ∀ m, s.find? a = some m →
      m.environment.Everywhere SymbolTable.IgnoresRevisions := by
    refine forall_mem_of_no_loop (r := s.DependsOn) ?_ ?_
    · intro a _ hloop
      have : IsTrans ModuleId s.DependsOn := ⟨fun _ _ _ => TransGen.trans⟩
      rw [transGen_eq_self] at hloop
      exact hs.acyclic a hloop
    · intro a _ hnext m hm
      have hnew := hs.upToDate a m hm
      have hlinks := hnew.linksCurrent hs.keyed hm
      refine hnew.ignoresRevisions hl hgiven ?_
      intro x hx
      obtain ⟨d, hd, rfl⟩ := hlinks.present x hx
      exact hnext _ (Snapshot.mem_keys_iff.mpr ⟨d, hd⟩) ((hlinks.exact _).mp ⟨_, hx, rfl⟩) d hd
  exact hall id (Snapshot.mem_keys_iff.mpr ⟨m, hm⟩) m hm

/-- Modules that differ in revision numbers only answer every call alike if nothing that is visible to
them makes anything of these numbers. -/
theorem CompiledModule.Republishes.invoke_eq (h : m'.Republishes m)
    (hm' : m'.environment.Everywhere SymbolTable.IgnoresRevisions)
    (hm : m.environment.Everywhere SymbolTable.IgnoresRevisions) (name : String)
    (args : List Value) : m'.invoke name args = m.invoke name args := by
  rw [CompiledModule.invoke, CompiledModule.invoke, ← invoke_unrevised hm', h.environment,
    invoke_unrevised hm]

end Functions

section Reload

variable {l : Loader} {h : History} {archives : List Archive} {id : ModuleId}
  {m m' : CompiledModule}

/-- Adding the archives of all published modules at once, in any order, to an empty registry succeeds
and publishes just these modules. -/
theorem History.Succeeds.republishes (hsuccess : h.Succeeds) (hl : l.UsesReferenceBackends)
    (hloaders : ∀ l' ∈ h.loaders, l' = l) (harchives : archives.Perm h.state.snapshot.archives) :
    (l.reload .initial (.ofArchives archives) .never).Republishes h.state.snapshot := by
  have hs := hsuccess.coherent hloaders
  have hfresh : Fresh h.state.snapshot archives := ⟨h.keyed_state, harchives⟩
  obtain ⟨p, hfinished⟩ :=
    Finished.of_never History.keyed_initial hl.plain (.ofArchives archives)
  have hstanding := fun id => hfresh.standing hs hl.plain hfinished id
  constructor
  · refine (ReloadReport.isSuccess_iff _).mpr ⟨hfinished.cancelled, fun id o ho => ?_⟩
    have hid := hstanding id
    cases hm : h.state.snapshot.find? id with
    | none =>
      rw [hm] at hid
      rw [hid.1] at ho
      cases ho
    | some m =>
      rw [hm] at hid
      obtain ⟨⟨revision, hpublished⟩, -⟩ := hid
      rw [hpublished] at ho
      cases ho
      rfl
  · intro id
    have hid := hstanding id
    cases hm : h.state.snapshot.find? id with
    | none =>
      rw [hm] at hid
      simp [hid.1]
    | some m =>
      rw [hm] at hid
      obtain ⟨⟨revision, hpublished⟩, -⟩ := hid
      simp [hpublished]
  · intro id m hm
    have hid := hstanding id
    rw [hm] at hid
    exact hid.2
  · intro id hm
    have hid := hstanding id
    rw [hm] at hid
    exact hid.2

/-- Nothing that is visible to a published module makes anything of revision numbers. -/
theorem History.Succeeds.ignoresRevisions (hsuccess : h.Succeeds) (hl : l.UsesReferenceBackends)
    (hloaders : ∀ l' ∈ h.loaders, l' = l) (hgiven : l.IgnoresRevisions)
    (hm : h.state.snapshot.find? id = some m) :
    m.environment.Everywhere SymbolTable.IgnoresRevisions :=
  (hsuccess.coherent hloaders).ignoresRevisions hl hgiven hm

end Reload

/-- After any successful cycles of one loader with backends of this library, adding the archives
of all published modules at once, in any order, to an empty registry succeeds and publishes just
these modules: built by the same plugins to the same symbols, with the same boundaries but for
revision numbers. If the functions that the loader was given make nothing of these numbers, they answer
every call alike. -/
theorem republishes_of_succeeds (l : Loader) (hl : l.UsesReferenceBackends) (h : History)
    (hloaders : ∀ l' ∈ h.loaders, l' = l) (hsuccess : h.Succeeds) (archives : List Archive)
    (harchives : archives.Perm h.state.snapshot.archives) :
    let fresh := l.reload .initial (.ofArchives archives) .never
    fresh.Republishes h.state.snapshot ∧
      (l.IgnoresRevisions → ∀ id m m', h.state.snapshot.find? id = some m →
        fresh.state.snapshot.find? id = some m' →
          ∀ name args, m'.invoke name args = m.invoke name args) := by
  intro fresh
  have hrepublishes := hsuccess.republishes hl hloaders harchives
  refine ⟨hrepublishes, fun hgiven id m m' hm hm' => ?_⟩
  have hold := hsuccess.ignoresRevisions hl hloaders hgiven hm
  -- The load from nothing is a history of one request, which succeeded as well.
  have hload : (History.empty.serve ⟨l, .ofArchives archives, .never⟩).Succeeds :=
    ⟨trivial, hrepublishes.success⟩
  have hloads : ∀ l' ∈ (History.empty.serve ⟨l, .ofArchives archives, .never⟩).loaders, l' = l := by
    simp [History.loaders]
  have hnew := hload.ignoresRevisions hl hloads hgiven hm'
  obtain ⟨m'', hm'', hsame⟩ := hrepublishes.modules id m hm
  cases hm'.symm.trans hm''
  exact hsame.invoke_eq hnew hold

theorem SymbolTable.ignoresRevisions_empty : (∅ : SymbolTable).IgnoresRevisions :=
  nofun

namespace Sample

theorem ignoresRevisions_loader : loader.IgnoresRevisions := by
  refine ⟨SymbolTable.ignoresRevisions_empty, SymbolTable.ignoresRevisions_empty, fun p hp => ?_⟩
  obtain ⟨kind, -, rfl⟩ := List.mem_map.mp hp
  exact (SymbolTable.IsReference.ofRuntime kind).sound.ignoresRevisions

end Sample

/-- A library that was updated and a module that was built again for it, loaded at once in the
opposite order. -/
theorem republishes_sample :
    Sample.loader.UsesReferenceBackends ∧ (∀ l ∈ Sample.history.loaders, l = Sample.loader) ∧
      Sample.history.Succeeds ∧ Sample.loader.IgnoresRevisions ∧
      let fresh := Sample.loader.reload .initial
        (.ofArchives Sample.history.state.snapshot.archives.reverse) .never
      fresh.Republishes Sample.history.state.snapshot ∧
        ∀ id m m', Sample.history.state.snapshot.find? id = some m →
          fresh.state.snapshot.find? id = some m' →
            ∀ name args, m'.invoke name args = m.invoke name args := by
  have hbackends : Sample.loader.UsesReferenceBackends := by
    intro p hp
    obtain ⟨kind, -, rfl⟩ := List.mem_map.mp hp
    exact ⟨kind, true, rfl⟩
  have hloaders : ∀ l ∈ Sample.history.loaders, l = Sample.loader := by
    intro l hl
    simpa [History.loaders, Sample.history, Sample.request] using hl
  have hsuccess : Sample.history.Succeeds := ⟨⟨trivial, by cbv⟩, by cbv⟩
  obtain ⟨hrepublishes, hinvoke⟩ := republishes_of_succeeds Sample.loader hbackends Sample.history
    hloaders hsuccess _ (List.reverse_perm _)
  exact ⟨hbackends, hloaders, hsuccess, Sample.ignoresRevisions_loader, hrepublishes,
    hinvoke Sample.ignoresRevisions_loader⟩

end HotReload
