import HotReload.Plugin.Reference
import HotReload.Proofs.History.Commit
import Mathlib

/-!
# Links of published modules

The links of a module are frozen when it is built, while the modules around it go on changing.
Every change that bears on them makes the module affected, so a cycle that leaves a module as it
is also leaves all that it depends on as it is (`Finished.alike`). Hence a published module is
either what a loader would make of it today or the last thing reported of it is a failure
(`upToDate_or_failed`), and in the first case it is linked to exactly what it depends on.
-/

namespace HotReload

/-- A module stands as a loader would build it among the given modules. -/
structure CompiledModule.UpToDate (m : CompiledModule) (l : Loader) (modules : ModuleMap) :
    Prop where
  boundary : l.offer.boundary l.plugins modules m.spec = .ok m.environment.boundary
  built : m.BuiltBy l

section Step

variable {l l' : Loader} {state : LoaderState} {c : ChangeSet} {p : Progress} {run : Loader.Run}
  {id : ModuleId} {m : CompiledModule}

/-- What a cycle neither builds nor removes, nor anything that it depends on, stays as it was. -/
theorem Finished.alike (h : Finished l state c p run) :
    AlikeWithin (fun m => m) (fun d => d ∉ (state.plan c).affected ∧ ¬(state.plan c).Changes d)
      state.snapshot.modules run.state.snapshot.modules := by
  constructor
  · intro m₁ m₂ heq
    rw [heq]
  · intro d hd
    have hremoved : d ∉ (state.plan c).removed := fun hremoved => hd.2 (.inr hremoved)
    have hentry : run.state.snapshot.find? d = state.snapshot.find? d :=
      congrArg Standing.entry (h.standing_of_kept hd.1 hremoved)
    exact congrArg (Option.map fun m => m) hentry.symm
  · intro d m hd hm e he
    have hremoved : d ∉ (state.plan c).removed := fun hremoved => hd.2 (.inr hremoved)
    exact (Plan.idle_of_published hm hd.1 hremoved).edge h.settled.keyed he

/-- A module that a cycle keeps stays up to date if it was. -/
theorem Finished.upToDate_of_kept (h : Finished l state c p run)
    (hm : state.snapshot.find? id = some m)
    (haffected : id ∉ (state.plan c).affected) (hremoved : id ∉ (state.plan c).removed)
    (hold : m.UpToDate l' state.snapshot.modules) :
    m.UpToDate l' run.state.snapshot.modules := by
  have hidle := Plan.idle_of_published hm haffected hremoved
  have hboundary : l'.offer.boundary l'.plugins state.snapshot.modules m.spec =
      l'.offer.boundary l'.plugins run.state.snapshot.modules m.spec :=
    Offer.boundary_congr h.alike _ _ fun d hd => hidle.edge h.settled.keyed hd
  refine ⟨?_, hold.built⟩
  rw [← hboundary]
  exact hold.boundary

/-- A module that a cycle publishes is up to date. -/
theorem Finished.upToDate_of_published (h : Finished l state c p run)
    {st : Standing} {a : Archive} {r : Boundary × BuildOutput} {previous : Option Nat}
    (hverdict : l.verdict p a = .ok r) (hm : (st.settle previous a (.ok r)).entry = some m) :
    m.UpToDate l run.state.snapshot.modules := by
  obtain ⟨boundary, output⟩ := r
  obtain ⟨-, hboundary, hresult⟩ := Loader.verdict_eq_ok_iff.mp hverdict
  cases hm
  rw [h.modules_eq]
  exact ⟨hboundary, hresult⟩

end Step

/-! ## The invariant -/

section Invariant

variable {h : History} {id : ModuleId} {m : CompiledModule}

/-- Every published module is up to date or failed when it was last reported. -/
theorem upToDate_or_failed (hm : h.state.snapshot.find? id = some m) :
    (∃ l ∈ h.loaders, m.UpToDate l h.state.snapshot.modules) ∨
      ∃ e retained, h.lastOutcome? id = some (.failed e retained) := by
  induction h generalizing m with
  | empty => cases hm
  | serve h r ih =>
    rcases r.run_cases h with ⟨p, hcancelled⟩ | ⟨p, hfinished⟩
    · obtain ⟨hstate, hlast⟩ := History.serve_of_cancelled hcancelled
      rw [hstate] at hm ⊢
      rw [hlast]
      refine (ih hm).imp_left ?_
      rintro ⟨l, hl, hold⟩
      exact ⟨l, List.mem_cons_of_mem _ hl, hold⟩
    · obtain ⟨st, hfate, houtcome, hentry, -⟩ := hfinished.exists_fate id
      have hlast : (h.serve r).lastOutcome? id = st.outcome.or (h.lastOutcome? id) := by
        rw [History.lastOutcome?, houtcome, hfinished.cancelled]
        rfl
      rw [hlast]
      rw [History.state, hentry] at hm
      cases hfate with
      | removed found removed => cases hm
      | published affected accepted planned verdict =>
        -- The boundary was made of the candidate of the moment, but `verdict` holds at the end.
        have hnew := hfinished.upToDate_of_published verdict hm
        exact .inl ⟨r.loader, List.mem_cons_self, hnew⟩
      | failed affected reason => exact .inr ⟨_, _, rfl⟩
      | kept notAffected notRemoved =>
        refine (ih hm).imp_left ?_
        rintro ⟨l, hl, hold⟩
        have hnew := hfinished.upToDate_of_kept hm notAffected notRemoved hold
        exact ⟨l, List.mem_cons_of_mem _ hl, hnew⟩

end Invariant

/-! ## Current links -/

/-- The module published under an id is linked to exactly the modules that it depends on, to each
of them once and as it is published now. -/
structure Snapshot.LinksCurrent (s : Snapshot) (id : ModuleId) (m : CompiledModule) : Prop where
  nodup : (m.links.map (·.id)).Nodup
  exact : ∀ d, (∃ x ∈ m.links, x.id = d) ↔ s.DependsOn id d
  present : ∀ x ∈ m.links, ∃ d, s.find? x.id = some d ∧ d.linked = x

/-- A module that is up to date has current links. -/
theorem CompiledModule.UpToDate.linksCurrent {s : Snapshot} (hs : s.Keyed) {l : Loader}
    {id : ModuleId} {m : CompiledModule} (hm : s.find? id = some m) (h : m.UpToDate l s.modules) :
    s.LinksCurrent id m := by
  obtain ⟨ms, runtimes, hms, -, hboundary⟩ := Offer.boundary_eq_ok_iff.mp h.boundary
  have hlinks : m.links = ms.map (·.linked) := congrArg BoundaryOf.dependencies hboundary
  have hmem : ∀ d, d ∈ ms ↔ ∃ i, s.find? i = some d ∧ s.DependsOn id i := by
    intro d
    rw [mem_linkedModules_iff hms]
    exact exists_congr fun i => and_congr_right fun _ => Snapshot.reaches_iff hm
  constructor
  · have hnodup := nodup_linkedModules hs hms
    rw [hlinks, List.map_map]
    exact hnodup
  · intro d
    rw [hlinks]
    constructor
    · rintro ⟨x, hx, rfl⟩
      obtain ⟨m', hm', rfl⟩ := List.mem_map.mp hx
      obtain ⟨i, hi, hdepends⟩ := (hmem m').mp hm'
      have hid : m'.linked.id = i := hs i m' hi
      rw [hid]
      exact hdepends
    · intro hdepends
      have hreach := (Snapshot.reaches_iff hm).mpr hdepends
      obtain ⟨m', hm'⟩ := exists_of_reaches hms hreach
      have hlinked : m' ∈ ms := (hmem m').mpr ⟨d, hm', hdepends⟩
      exact ⟨m'.linked, List.mem_map_of_mem hlinked, hs d m' hm'⟩
  · intro x hx
    rw [hlinks] at hx
    obtain ⟨m', hm', rfl⟩ := List.mem_map.mp hx
    obtain ⟨i, hi, -⟩ := (hmem m').mp hm'
    have hid : m'.linked.id = i := hs i m' hi
    refine ⟨m', ?_, rfl⟩
    rw [hid]
    exact hi

/-- In every reachable state, each published module has current links, or the latest cycle that
was not cancelled and reported on it reported that it failed. -/
theorem linksCurrent_or_failed (h : History) (id : ModuleId) (m : CompiledModule)
    (hm : h.state.snapshot.find? id = some m) :
    h.state.snapshot.LinksCurrent id m ∨
      ∃ e retained, h.lastOutcome? id = some (.failed e retained) := by
  refine (upToDate_or_failed hm).imp_left ?_
  rintro ⟨l, -, hnew⟩
  exact hnew.linksCurrent h.keyed_state hm

namespace Sample

def library : ModuleId := ⟨"a", none, by decide⟩

def user : ModuleId := ⟨"b", none, by decide⟩

/-- A module of one script. -/
def archive (spec : ModuleSpec) (source : String) : Archive where
  spec := {
    spec with
    plugins := [BackendKind.script.defaultId]
    plugins_nodup := List.nodup_singleton _ }
  entries := SortedMap.insert ∅ "m.rls" source.toUTF8
  legal name hname := by
    have hlegal : IsEntryName "m.rls" := by decide
    cases List.mem_singleton.mp hname
    exact hlegal

/-- A module that nothing else is needed for. -/
def libraryArchive (source : String) : Archive :=
  archive (.empty library) source

/-- A module that refers to the library. -/
def userArchive : Archive :=
  archive {
    ModuleSpec.empty user with
    dependencies := [library]
    dependencies_nodup := List.nodup_singleton _
    id_notMem := by decide } "let y=a.x"

def loader : Loader where
  offer := { core := ∅, host := ∅, exposed := [] }
  plugins := { plugins := BackendKind.defaultPlugins, distinct := by decide }
  settings := { timeout := 1000, scratchRoot := none, keepScratch := false }
  extraBuilds := 1

def request (changes : ChangeSet) : Request where
  loader
  changes
  stop := .never

/-- Both modules are added, and then the library is updated. -/
def history : History :=
  let load := request ((ChangeSet.add ∅ userArchive).add (libraryArchive "let x=1"))
  let update := request (ChangeSet.update ∅ (libraryArchive "let x=2"))
  (History.empty.serve load).serve update

end Sample

/-- After the library was updated, the other module is linked to it as it is now. -/
theorem linksCurrent_user :
    ∃ m, Sample.history.state.snapshot.find? Sample.user = some m ∧
      Sample.history.state.snapshot.LinksCurrent Sample.user m := by
  -- The equations by which `cbv` evaluates texts and bytes are spread over the whole library.
  have hsome : (Sample.history.state.snapshot.find? Sample.user).isSome = true := by cbv
  have hlast : (Sample.history.lastOutcome? Sample.user).any (·.isFailure) = false := by cbv
  obtain ⟨m, hm⟩ := Option.isSome_iff_exists.mp hsome
  refine ⟨m, hm, (linksCurrent_or_failed Sample.history Sample.user m hm).resolve_right ?_⟩
  rintro ⟨e, retained, hfailed⟩
  rw [hfailed] at hlast
  cases hlast

end HotReload
