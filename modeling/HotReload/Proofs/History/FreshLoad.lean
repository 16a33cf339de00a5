import HotReload.Proofs.History.Acyclic
import HotReload.Proofs.Reload.Cancellation
import HotReload.Proofs.Relation

/-!
# Loading everything afresh

Reloading piece by piece ends where loading everything at once would have ended. After cycles that
all succeeded, every published module is up to date and none depends on itself, so a change-set of
all their archives is accepted as a whole. Along the dependencies, each module then gets the same
boundary as before but for revision numbers (`Offer.boundary_unrevised`), and so it is built to
the same symbols (`Fresh.reproduced`).
-/

namespace HotReload

open Relation

/-- A module without revision numbers. -/
def CompiledModule.unrevised (m : CompiledModule) : CompiledModule :=
  { m with revision := 0, environment := m.environment.unrevised }

section Boundary

variable {c₁ c₂ : ModuleMap} {region : ModuleId → Prop} {spec : ModuleSpec}

theorem linked_unrevised {m₁ m₂ : CompiledModule} (h : m₁.unrevised = m₂.unrevised) :
    m₁.linked.unrevised = m₂.linked.unrevised := by
  simp only [CompiledModule.unrevised, CompiledModule.mk.injEq, true_and] at h
  obtain ⟨harchive, henvironment, -⟩ := h
  simp only [CompiledModule.linked, CompiledModule.id, Linked.unrevised, harchive, henvironment]

theorem map_linked_unrevised {ms₁ ms₂ : List CompiledModule}
    (h : ms₁.map CompiledModule.unrevised = ms₂.map CompiledModule.unrevised) :
    (ms₁.map (·.linked)).map Linked.unrevised = (ms₂.map (·.linked)).map Linked.unrevised := by
  induction ms₁ generalizing ms₂ with
  | nil =>
    cases ms₂ with
    | nil => rfl
    | cons m₂ ms₂ => cases h
  | cons m₁ ms₁ ih =>
    cases ms₂ with
    | nil => cases h
    | cons m₂ ms₂ =>
      rw [List.map_cons, List.map_cons, List.cons.injEq] at h
      simp only [List.map_cons, linked_unrevised h.1, ih h.2]

/-- Candidates that differ in revision numbers only give boundaries that do so. -/
theorem Offer.boundary_unrevised (h : AlikeWithin CompiledModule.unrevised region c₁ c₂)
    {offer : Offer} {plugins : PluginTable} (hdeps : ∀ d ∈ spec.dependencies, region d)
    {b₁ : Boundary} (hb₁ : offer.boundary plugins c₁ spec = .ok b₁) :
    ∃ b₂, offer.boundary plugins c₂ spec = .ok b₂ ∧ b₂.unrevised = b₁.unrevised := by
  obtain ⟨ms₁, runtimes, hms₁, hruntimes, rfl⟩ := Offer.boundary_eq_ok_iff.mp hb₁
  have hlinks := h.spec_linkedModules_map hdeps
  rw [hms₁, eq_comm] at hlinks
  obtain ⟨ms₂, hms₂, hunrevised⟩ := except_map_eq_ok hlinks
  refine ⟨_, Offer.boundary_eq_ok_iff.mpr ⟨ms₂, runtimes, hms₂, hruntimes, rfl⟩, ?_⟩
  simp only [BoundaryOf.unrevised, unrevisedLinks_eq_map, map_linked_unrevised hunrevised]

end Boundary

/-! ## The plan of a fresh load -/

/-- The archives of all published modules. -/
def Snapshot.archives (s : Snapshot) : List Archive :=
  s.modules.values.map (·.archive)

/-- The change-set that adds archives and does nothing else. -/
def ChangeSet.ofArchives (archives : List Archive) : ChangeSet where
  adds := archives
  updates := []
  removes := []

/-- The plan of adding archives to an empty registry. -/
abbrev Plan.fresh (archives : List Archive) : Plan :=
  LoaderState.initial.plan (.ofArchives archives)

theorem Snapshot.mem_keys_iff {s : Snapshot} {id : ModuleId} :
    id ∈ s.modules.keys ↔ ∃ m, s.find? id = some m := by
  rw [SortedMap.mem_keys_iff, Option.isSome_iff_exists]
  rfl

theorem Snapshot.mem_archives_iff {s : Snapshot} {a : Archive} :
    a ∈ s.archives ↔ ∃ id m, s.find? id = some m ∧ m.archive = a := by
  simp only [archives, List.mem_map, SortedMap.mem_values_iff, find?]
  constructor
  · rintro ⟨m, ⟨id, hm⟩, ha⟩
    exact ⟨id, m, hm, ha⟩
  · rintro ⟨id, m, hm, ha⟩
    exact ⟨m, ⟨id, hm⟩, ha⟩

/-- All archives of a snapshot, submitted to an empty registry. -/
structure Fresh (s : Snapshot) (archives : List Archive) : Prop where
  keyed : s.Keyed
  perm : archives.Perm s.archives

namespace Fresh

variable {s : Snapshot} {archives : List Archive} {id d : ModuleId} {m : CompiledModule}
  {a : Archive}

theorem incoming_find? (h : Fresh s archives) (id : ModuleId) :
    (ChangeSet.ofArchives archives).incoming.find? id = (s.find? id).map (·.archive) := by
  cases hin : (ChangeSet.ofArchives archives).incoming.find? id with
  | some a =>
    obtain ⟨hid, hmem, -⟩ := ChangeSet.mem_of_incoming_find? hin
    have ha : a ∈ archives := by simpa [ChangeSet.ofArchives] using hmem
    obtain ⟨i, m, hm, rfl⟩ := Snapshot.mem_archives_iff.mp (h.perm.mem_iff.mp ha)
    have hi : i = id := (h.keyed i m hm).symm.trans hid
    rw [← hi, hm]
    rfl
  | none =>
    cases hm : s.find? id with
    | none => rfl
    | some m =>
      have ha : m.archive ∈ archives :=
        h.perm.mem_iff.mpr (Snapshot.mem_archives_iff.mpr ⟨id, m, hm, rfl⟩)
      have hid : m.archive.id = id := h.keyed id m hm
      have hkept : id ∉ (ChangeSet.ofArchives archives).removes := List.not_mem_nil
      rw [ChangeSet.incoming_find?, if_neg hkept, List.getLast?_eq_none_iff,
        List.filter_eq_nil_iff] at hin
      have hne := hin m.archive (List.mem_append_left _ ha)
      exact absurd (decide_eq_true hid) hne

theorem archives_find? (h : Fresh s archives) (id : ModuleId) :
    (Plan.fresh archives).archives.find? id =
      (s.find? id).map (·.archive) := by
  rw [Plan.archives_find?, h.incoming_find?]
  cases s.find? id with
  | none =>
    rw [Option.map_none, Option.none_or]
    exact ite_self none
  | some m => rfl

theorem edge_iff (h : Fresh s archives) :
    (Plan.fresh archives).graph.Edge id d ↔ s.Declares id d := by
  cases hm : s.find? id with
  | none =>
    constructor
    · intro hedge
      obtain ⟨a, ha⟩ := (Plan.mem_graph_iff History.keyed_initial).mp hedge.mem_modules
      rw [h.archives_find?, hm] at ha
      cases ha
    · rintro ⟨m, hm', -⟩
      rw [hm] at hm'
      cases hm'
  | some m =>
    have hplanned : (Plan.fresh archives).archives.find? id =
        some m.archive := by
      rw [h.archives_find?, hm]
      rfl
    rw [Plan.edge_iff History.keyed_initial hplanned]
    constructor
    · intro hd
      exact ⟨m, hm, hd⟩
    · rintro ⟨m', hm', hd⟩
      rw [hm] at hm'
      cases hm'
      exact hd

theorem mem_graph_iff (h : Fresh s archives) :
    id ∈ (Plan.fresh archives).graph.modules ↔
      ∃ m, s.find? id = some m := by
  rw [Plan.mem_graph_iff History.keyed_initial, h.archives_find?]
  simp

theorem mem_affected (h : Fresh s archives) (hm : s.find? id = some m) :
    id ∈ (Plan.fresh archives).affected := by
  refine Plan.mem_affected_iff.mpr ⟨⟨m.archive, ?_⟩, .inl ⟨m.archive, ?_⟩⟩
  · rw [h.archives_find?, hm]
    rfl
  · rw [Plan.incoming_make, h.incoming_find?, hm]
    rfl

end Fresh

/-! ## What a fresh load builds -/

/-- A snapshot without loops in which a loader would build every module as it is. -/
structure Snapshot.Coherent (s : Snapshot) (l : Loader) : Prop where
  keyed : s.Keyed
  upToDate : ∀ id m, s.find? id = some m → m.UpToDate l s.modules
  acyclic : ∀ id, ¬s.DependsOn id id

/-- A module that stands in a progress as it stands in a snapshot, but for revision numbers. -/
structure Reproduced (s : Snapshot) (p : Progress) (id : ModuleId) : Prop where
  alike : (s.find? id).map CompiledModule.unrevised =
    (p.candidate.find? id).map CompiledModule.unrevised
  sound : p.hasFailed id = false

section Build

variable {s : Snapshot} {l : Loader} {archives : List Archive} {p : Progress} {run : Loader.Run}
  {id d : ModuleId} {m : CompiledModule}

theorem Snapshot.Coherent.exists_of_declares (hs : s.Coherent l) (hd : s.Declares id d) :
    ∃ m, s.find? d = some m := by
  obtain ⟨m, hm, hdeclared⟩ := hd
  obtain ⟨ms, runtimes, hms, -, -⟩ :=
    Offer.boundary_eq_ok_iff.mp (hs.upToDate id m hm).boundary
  exact exists_of_reaches hms (.of_dependency hdeclared)

/-- Nothing is rejected. -/
theorem Fresh.mem_accepted (h : Fresh s archives) (hs : s.Coherent l)
    (hm : s.find? id = some m) :
    id ∈ (Plan.fresh archives).graph.accepted := by
  apply DependencyGraph.mem_accepted_of_no_loop
  · intro a b hedge
    exact h.mem_graph_iff.mpr (hs.exists_of_declares (h.edge_iff.mp hedge))
  · intro a hloop
    exact hs.acyclic a (TransGen.mono (fun _ _ hedge => h.edge_iff.mp hedge) a a hloop)
  · exact h.mem_graph_iff.mpr ⟨m, hm⟩

/-- If all that a module depends on is reproduced, it is built to the same symbols against the same
boundary. -/
theorem Snapshot.Coherent.verdict (hs : s.Coherent l) (hl : l.plugins.Plain)
    (hm : s.find? id = some m) (hdeps : ∀ d, s.DependsOn id d → Reproduced s p d) :
    ∃ b, l.verdict p m.archive = .ok (b, { symbols := m.symbols, compiler := m.compiler }) ∧
      b.unrevised = m.environment.boundary.unrevised := by
  have hdirect : ∀ d ∈ m.spec.dependencies, s.DependsOn id d := fun d hd => .single ⟨m, hm, hd⟩
  have halike : AlikeWithin CompiledModule.unrevised (s.DependsOn id) s.modules p.candidate := by
    constructor
    · intro m₁ m₂ heq
      simp only [CompiledModule.unrevised, CompiledModule.mk.injEq, true_and] at heq
      rw [CompiledModule.spec, CompiledModule.spec, heq.1]
    · intro d hd
      exact (hdeps d hd).alike
    · intro d m' hd hm' e he
      exact hd.tail ⟨m', hm', he⟩
  have hold := hs.upToDate id m hm
  obtain ⟨b, hb, hunrevised⟩ := Offer.boundary_unrevised halike hdirect hold.boundary
  refine ⟨b, ?_, hunrevised⟩
  apply Loader.verdict_eq_ok_iff.mpr
  refine ⟨fun d hd => (hdeps d (hdirect d hd)).sound, hb, ?_⟩
  rw [← run_unrevised hl, hunrevised, run_unrevised hl]
  exact hold.built

theorem Fresh.reproduced_of_dependencies (h : Fresh s archives) (hs : s.Coherent l)
    (hl : l.plugins.Plain) (hfinished : Finished l .initial (.ofArchives archives) p run)
    (hm : s.find? id = some m) (hdeps : ∀ d, s.DependsOn id d → Reproduced s p d) :
    Reproduced s p id := by
  obtain ⟨b, hverdict, hunrevised⟩ := hs.verdict hl hm hdeps
  have hplanned : (Plan.fresh archives).archives.find? id =
      some m.archive := by
    rw [h.archives_find?, hm]
    rfl
  have hbuilt := hfinished.settled.built id m.archive (h.mem_accepted hs hm) (h.mem_affected hm)
    hplanned
  rw [hverdict] at hbuilt
  constructor
  · have hentry := congrArg Standing.entry hbuilt
    simp only [Standing.settle, Progress.standing] at hentry
    rw [hm, hentry]
    simp only [Option.map_some, CompiledModule.unrevised, Environment.unrevised_eq, hunrevised]
    rfl
  · rw [Progress.hasFailed_eq, hbuilt]
    rfl

/-- Every module is reproduced. -/
theorem Fresh.reproduced (h : Fresh s archives) (hs : s.Coherent l) (hl : l.plugins.Plain)
    (hfinished : Finished l .initial (.ofArchives archives) p run) (hm : s.find? id = some m) :
    Reproduced s p id := by
  -- Reproduction passes from the dependencies of a module to the module, and there are no loops.
  have hall : ∀ a ∈ s.modules.keys, Reproduced s p a ∧ ∀ d, s.DependsOn a d → Reproduced s p d := by
    refine forall_mem_of_no_loop (r := s.Declares) (fun a _ => hs.acyclic a) ?_
    intro a ha hnext
    obtain ⟨m, hm⟩ := Snapshot.mem_keys_iff.mp ha
    have hdeps : ∀ d, s.DependsOn a d → Reproduced s p d := by
      intro d hd
      obtain ⟨b, hb, hpath⟩ := TransGen.head'_iff.mp hd
      have hpublished : b ∈ s.modules.keys :=
        Snapshot.mem_keys_iff.mpr (hs.exists_of_declares hb)
      obtain ⟨hreproduced, hrest⟩ := hnext b hpublished hb
      rcases reflTransGen_iff_eq_or_transGen.mp hpath with rfl | hpath
      · exact hreproduced
      · exact hrest d hpath
    exact ⟨h.reproduced_of_dependencies hs hl hfinished hm hdeps, hdeps⟩
  exact (hall id (Snapshot.mem_keys_iff.mpr ⟨m, hm⟩)).1

end Build

end HotReload
