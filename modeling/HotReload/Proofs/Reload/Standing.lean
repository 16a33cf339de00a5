import HotReload.Proofs.Linking
import HotReload.Reload.Cycle
import Mathlib.Data.List.Find

/-!
# Where a module stands

A cycle in progress is looked at module by module: the standing of a module is its outcome so far,
its entry in the candidate and the highest revision it has had. Building modules side by side
settles the standing of each of them by its own verdict, which is taken from the progress at the
start, and leaves all other modules where they stand (`standing_buildTogether`,
`standing_buildTogether_of_notMem`).
-/

namespace HotReload

/-- What a cycle in progress holds of one module. -/
structure Standing where
  outcome : Option Outcome
  /-- The module as it will be published. -/
  entry : Option CompiledModule
  /-- The highest revision that the module has had. -/
  counter : Option Nat

/-- What building a module comes to: its boundary and what was built against it, or an error. -/
abbrev Verdict := Except ReloadError (Boundary × BuildOutput)

namespace Standing

/-- Whether the module has failed. -/
def hasFailed (st : Standing) : Bool :=
  st.outcome.any (·.isFailure)

/-- The standing of a module that has failed. -/
def fail (st : Standing) (previous : Option Nat) (error : ReloadError) : Standing :=
  { st with outcome := some (.failed error previous) }

/-- The standing of a module after the verdict on an archive. -/
def settle (st : Standing) (previous : Option Nat) (archive : Archive) : Verdict → Standing
  | .error error => st.fail previous error
  | .ok (boundary, output) =>
    let revision := st.counter.getD 0 + 1
    { outcome := some (.published revision previous)
      entry := some {
        revision
        archive
        environment := { boundary, own := output.symbols }
        compiler := output.compiler }
      counter := some revision }

end Standing

namespace Progress

variable {p q : Progress} {current : Snapshot} {id j : ModuleId}

/-- The standing of a module. -/
def standing (p : Progress) (id : ModuleId) : Standing where
  outcome := p.outcomes.find? id
  entry := p.candidate.find? id
  counter := p.revisions.find? id

theorem hasFailed_eq (p : Progress) (id : ModuleId) :
    p.hasFailed id = (p.standing id).hasFailed := rfl

theorem hasFailed_congr (h : p.standing id = q.standing id) : p.hasFailed id = q.hasFailed id := by
  rw [hasFailed_eq, hasFailed_eq, h]

theorem standing_fail (p : Progress) (current : Snapshot) (id j : ModuleId) (e : ReloadError) :
    (p.fail current id e).standing j =
      if j = id then (p.standing j).fail (current.revision? j) e else p.standing j := by
  by_cases hj : j = id
  · simp [standing, fail, Standing.fail, SortedMap.find?_insert, hj]
  · simp [standing, fail, SortedMap.find?_insert, hj]

theorem standing_publish (p : Progress) (current : Snapshot) (archive : Archive)
    (boundary : Boundary) (output : BuildOutput) (j : ModuleId) :
    (p.publish current archive boundary output).standing j =
      if j = archive.id then
        (p.standing j).settle (current.revision? j) archive (.ok (boundary, output))
      else p.standing j := by
  by_cases hj : j = archive.id
  · simp [standing, publish, Standing.settle, SortedMap.find?_insert, hj]
  · simp [standing, publish, SortedMap.find?_insert, hj]

end Progress

/-- The module that a build was started for. -/
def Started.id (s : Started) : ModuleId :=
  s.archive.id

/-- The verdict on a build that was started. -/
def Started.verdict (s : Started) : Verdict :=
  s.build.result.map (s.boundary, ·)

namespace Loader

variable {l : Loader} {current : Snapshot} {plan : Plan} {p q : Progress} {ids : List ModuleId}
  {id j : ModuleId} {archive a : Archive}

/-- The verdict on an archive as a cycle stands. -/
def verdict (l : Loader) (p : Progress) (archive : Archive) : Verdict :=
  (l.start p archive).bind Started.verdict

/-- A start reads the failures among the declared dependencies and, if there are none, the
boundary. -/
theorem start_congr (hfailed : ∀ d ∈ archive.spec.dependencies, p.hasFailed d = q.hasFailed d)
    (hboundary : (∀ d ∈ archive.spec.dependencies, p.hasFailed d = false) →
      l.offer.boundary l.plugins p.candidate archive.spec =
        l.offer.boundary l.plugins q.candidate archive.spec) :
    l.start p archive = l.start q archive := by
  have hfind : archive.spec.dependencies.find? p.hasFailed =
      archive.spec.dependencies.find? q.hasFailed := List.find?_congr hfailed
  unfold start
  rw [hfind]
  cases hnone : archive.spec.dependencies.find? q.hasFailed with
  | some d => rfl
  | none =>
    rw [hboundary fun d hd => ?_]
    rw [hfailed d hd]
    simpa using List.find?_eq_none.mp hnone d hd

theorem archive_of_start {s : Started} (h : l.start p archive = .ok s) : s.archive = archive := by
  unfold start at h
  split at h
  next => cases h
  next =>
    cases hb : l.offer.boundary l.plugins p.candidate archive.spec with
    | error e => simp [hb, bind, Except.bind] at h
    | ok boundary =>
      simp only [hb, bind, Except.bind, pure, Except.pure, Except.ok.injEq] at h
      rw [← h]

/-- A verdict names the first declared dependency that has failed. If there is none, it is what comes
of the boundary and of the build against it. -/
theorem verdict_eq (l : Loader) (p : Progress) (archive : Archive) :
    l.verdict p archive =
      match archive.spec.dependencies.find? p.hasFailed with
      | some d => .error (.dependencyFailed archive.id d)
      | none =>
        (l.offer.boundary l.plugins p.candidate archive.spec).bind fun boundary =>
          (Build.run l.settings l.plugins archive boundary).result.map (boundary, ·) := by
  unfold verdict start
  cases archive.spec.dependencies.find? p.hasFailed with
  | some d => rfl
  | none =>
    cases l.offer.boundary l.plugins p.candidate archive.spec with
    | error e => rfl
    | ok boundary => rfl

/-- A verdict is good if no declared dependency has failed, the boundary can be made and the build
against it succeeds. -/
theorem verdict_eq_ok_iff {boundary : Boundary} {output : BuildOutput} :
    l.verdict p archive = .ok (boundary, output) ↔
      (∀ d ∈ archive.spec.dependencies, p.hasFailed d = false) ∧
        l.offer.boundary l.plugins p.candidate archive.spec = .ok boundary ∧
        (Build.run l.settings l.plugins archive boundary).result = .ok output := by
  rw [verdict_eq]
  cases hfind : archive.spec.dependencies.find? p.hasFailed with
  | some d =>
    have hfailed : p.hasFailed d = true := List.find?_some hfind
    constructor
    · intro h
      cases h
    · rintro ⟨hnone, -⟩
      rw [hnone d (List.mem_of_find?_eq_some hfind)] at hfailed
      cases hfailed
  | none =>
    have hnone : ∀ d ∈ archive.spec.dependencies, p.hasFailed d = false := fun d hd => by
      simpa using List.find?_eq_none.mp hfind d hd
    constructor
    · intro h
      obtain ⟨b, hb, hrun⟩ := except_bind_eq_ok h
      obtain ⟨o, ho, hpair⟩ := except_map_eq_ok hrun
      cases hpair
      exact ⟨hnone, hb, ho⟩
    · rintro ⟨-, hb, ho⟩
      simp only [hb, Except.bind, ho, Except.map]

/-! ## Taking up results -/

theorem standing_collect (current : Snapshot) (p : Progress) (s : Started) (j : ModuleId) :
    (collect current p s).standing j =
      if j = s.id then (p.standing j).settle (current.revision? j) s.archive s.verdict
      else p.standing j := by
  have hflag : ∀ j, ({ p with cancelled := p.cancelled || s.build.cancels } : Progress).standing j =
      p.standing j := fun _ => rfl
  unfold collect Started.verdict
  cases s.build.result with
  | ok output =>
    simp only [Progress.standing_publish, hflag]
    rfl
  | error e =>
    simp only [Progress.standing_fail, hflag]
    rfl

theorem standing_foldl_collect_of_notMem {started : List Started}
    (hj : j ∉ started.map Started.id) :
    (started.foldl (collect current) p).standing j = p.standing j := by
  induction started generalizing p with
  | nil => rfl
  | cons s started ih =>
    rw [List.map_cons, List.mem_cons, not_or] at hj
    rw [List.foldl_cons, ih hj.2, standing_collect, if_neg hj.1]

theorem standing_foldl_collect {started : List Started}
    (hnodup : (started.map Started.id).Nodup) {s : Started} (hs : s ∈ started) :
    (started.foldl (collect current) p).standing s.id =
      (p.standing s.id).settle (current.revision? s.id) s.archive s.verdict := by
  induction started generalizing p with
  | nil => simp at hs
  | cons t started ih =>
    rw [List.map_cons, List.nodup_cons] at hnodup
    rw [List.foldl_cons]
    rcases List.mem_cons.mp hs with rfl | hs
    · rw [standing_foldl_collect_of_notMem hnodup.1, standing_collect, if_pos rfl]
    · have hne : s.id ≠ t.id := fun heq => hnodup.1 (heq ▸ List.mem_map_of_mem hs)
      rw [ih hnodup.2 hs, standing_collect, if_neg hne]

/-! ## Starting builds -/

/-- Modules that may be built side by side: archives stand under their own ids, no module is named
twice, and none declares another one as a dependency. -/
structure SideBySide (plan : Plan) (ids : List ModuleId) : Prop where
  keyed : ∀ id a, plan.archives.find? id = some a → a.id = id
  nodup : ids.Nodup
  independent : ∀ id ∈ ids, ∀ a, plan.archives.find? id = some a →
    ∀ d ∈ a.spec.dependencies, d ∉ ids

theorem SideBySide.of_sublist {ids' : List ModuleId} (h : SideBySide plan ids)
    (hsub : ids'.Sublist ids) : SideBySide plan ids' where
  keyed := h.keyed
  nodup := h.nodup.sublist hsub
  independent id hid a ha d hd hmem :=
    h.independent id (hsub.subset hid) a ha d hd (hsub.subset hmem)

theorem standing_startAll_of_notMem (hj : j ∉ ids) :
    (l.startAll current plan p ids).1.standing j = p.standing j := by
  induction ids generalizing p with
  | nil => rfl
  | cons i ids ih =>
    rw [List.mem_cons, not_or] at hj
    unfold startAll
    split
    next => exact ih hj.2
    next a ha =>
      split
      next e he => rw [ih hj.2, Progress.standing_fail, if_neg hj.1]
      next s hs => exact ih hj.2

/-- Builds are started in the order of the modules, at most one for each. -/
theorem startAll_sublist (hkeyed : ∀ id a, plan.archives.find? id = some a → a.id = id) :
    ((l.startAll current plan p ids).2.map Started.id).Sublist ids := by
  induction ids generalizing p with
  | nil => exact List.Sublist.slnil
  | cons i ids ih =>
    unfold startAll
    split
    next => exact ih.cons i
    next a ha =>
      split
      next e he => exact ih.cons i
      next s hs =>
        rw [List.map_cons, Started.id, archive_of_start hs, hkeyed i a ha]
        exact ih.cons_cons i

/-- Starting a module does not bear on the start of another one that does not depend on it. -/
theorem start_fail {e : ReloadError} (hi : id ∉ archive.spec.dependencies) :
    l.start (p.fail current id e) archive = l.start p archive := by
  refine start_congr (fun d hd => Progress.hasFailed_congr ?_) fun _ => rfl
  have hne : d ≠ id := fun heq => hi (heq ▸ hd)
  rw [Progress.standing_fail, if_neg hne]

/-- A module that cannot be started fails, and no build of it is started. -/
theorem standing_startAll_of_error (h : SideBySide plan ids) (hid : id ∈ ids)
    (ha : plan.archives.find? id = some a) {e : ReloadError} (he : l.start p a = .error e) :
    (l.startAll current plan p ids).1.standing id =
        (p.standing id).fail (current.revision? id) e ∧
      id ∉ (l.startAll current plan p ids).2.map Started.id := by
  induction ids generalizing p with
  | nil => simp at hid
  | cons i ids ih =>
    have hrest := h.of_sublist (List.sublist_cons_self i ids)
    have hi : i ∉ ids := (List.nodup_cons.mp h.nodup).1
    by_cases hsame : id = i
    · subst hsame
      simp only [startAll, ha, he]
      refine ⟨?_, fun hmem => hi ((startAll_sublist h.keyed).subset hmem)⟩
      rw [standing_startAll_of_notMem hi, Progress.standing_fail, if_pos rfl]
    · have hid := (List.mem_cons.mp hid).resolve_left hsame
      have hdep : i ∉ a.spec.dependencies := fun hd =>
        h.independent id (List.mem_cons_of_mem _ hid) a ha i hd List.mem_cons_self
      unfold startAll
      split
      next => exact ih hrest hid he
      next b hb =>
        split
        next e' he' =>
          rw [← start_fail hdep] at he
          have hih := ih hrest hid he
          rwa [Progress.standing_fail, if_neg hsame] at hih
        next s hs =>
          obtain ⟨hstanding, hnot⟩ := ih hrest hid he
          refine ⟨hstanding, fun hmem => ?_⟩
          rcases List.mem_cons.mp hmem with heq | hmem
          · rw [Started.id, archive_of_start hs, h.keyed i b hb] at heq
            exact hsame heq
          · exact hnot hmem

/-- A module that can be started keeps its standing, and its build is started. -/
theorem standing_startAll_of_ok (h : SideBySide plan ids) (hid : id ∈ ids)
    (ha : plan.archives.find? id = some a) {s : Started} (hs : l.start p a = .ok s) :
    (l.startAll current plan p ids).1.standing id = p.standing id ∧
      s ∈ (l.startAll current plan p ids).2 := by
  induction ids generalizing p with
  | nil => simp at hid
  | cons i ids ih =>
    have hrest := h.of_sublist (List.sublist_cons_self i ids)
    have hi : i ∉ ids := (List.nodup_cons.mp h.nodup).1
    by_cases hsame : id = i
    · subst hsame
      simp only [startAll, ha, hs]
      exact ⟨standing_startAll_of_notMem hi, List.mem_cons_self⟩
    · have hid := (List.mem_cons.mp hid).resolve_left hsame
      have hdep : i ∉ a.spec.dependencies := fun hd =>
        h.independent id (List.mem_cons_of_mem _ hid) a ha i hd List.mem_cons_self
      unfold startAll
      split
      next => exact ih hrest hid hs
      next b hb =>
        split
        next e' he' =>
          rw [← start_fail hdep] at hs
          have hih := ih hrest hid hs
          rwa [Progress.standing_fail, if_neg hsame] at hih
        next t ht =>
          obtain ⟨hstanding, hmem⟩ := ih hrest hid hs
          exact ⟨hstanding, List.mem_cons_of_mem _ hmem⟩

/-! ## Building side by side -/

theorem startAll_congr {l' : Loader} (h : l.start = l'.start) :
    l.startAll current plan p ids = l'.startAll current plan p ids := by
  induction ids generalizing p with
  | nil => rfl
  | cons id ids ih => simp only [startAll, h, ih]

/-- Building side by side reads of a loader only how it starts a build. -/
theorem buildTogether_congr {l' : Loader} (h : l.start = l'.start) :
    l.buildTogether = l'.buildTogether := by
  funext current plan p ids
  rw [buildTogether, buildTogether, startAll_congr h]

/-- A cycle reads of a loader how it starts a build and how many it runs at once. -/
theorem reload_congr {l' : Loader} (h : l.start = l'.start)
    (hextra : l.extraBuilds = l'.extraBuilds) : l.reload = l'.reload := by
  have htier : l.buildTier = l'.buildTier := by
    funext current plan p tier
    rw [buildTier, buildTier, buildTogether_congr h, hextra]
  have htiers : l.buildTiers = l'.buildTiers := by
    funext current plan stop checks p tiers
    induction tiers generalizing checks p with
    | nil => rfl
    | cons tier tiers ih => rw [buildTiers, buildTiers, htier, ih]
  funext state changes stop
  rw [reload, reload, htiers]

theorem standing_buildTogether_eq (l : Loader) (current : Snapshot) (plan : Plan) (p : Progress)
    (ids : List ModuleId) (id : ModuleId) :
    (l.buildTogether current plan p ids).standing id =
      ((l.startAll current plan p ids).2.foldl (collect current)
        { (l.startAll current plan p ids).1 with
          footprint := (l.startAll current plan p ids).1.footprint.andThen
            (Footprint.together ((l.startAll current plan p ids).2.map (·.build.footprint))) }
        ).standing id := rfl

/-- Modules that are not built stay where they stand. -/
theorem standing_buildTogether_of_notMem
    (hkeyed : ∀ id a, plan.archives.find? id = some a → a.id = id) (hid : id ∉ ids) :
    (l.buildTogether current plan p ids).standing id = p.standing id := by
  rw [standing_buildTogether_eq, standing_foldl_collect_of_notMem fun hmem =>
    hid ((startAll_sublist hkeyed).subset hmem)]
  exact standing_startAll_of_notMem hid

/-- Modules that are built side by side are settled by the verdicts on them at the start. -/
theorem standing_buildTogether (h : SideBySide plan ids) (hid : id ∈ ids)
    (ha : plan.archives.find? id = some a) :
    (l.buildTogether current plan p ids).standing id =
      (p.standing id).settle (current.revision? id) a (l.verdict p a) := by
  rw [standing_buildTogether_eq]
  cases hstart : l.start p a with
  | error e =>
    obtain ⟨hstanding, hnot⟩ := standing_startAll_of_error h hid ha hstart
    rw [standing_foldl_collect_of_notMem hnot, verdict, hstart]
    exact hstanding
  | ok s =>
    obtain ⟨hstanding, hmem⟩ := standing_startAll_of_ok h hid ha hstart
    have harchive : s.archive = a := archive_of_start hstart
    have hsid : s.id = id := by rw [Started.id, harchive, h.keyed id a ha]
    have hnodup : ((l.startAll current plan p ids).2.map Started.id).Nodup :=
      h.nodup.sublist (startAll_sublist h.keyed)
    rw [← hsid, standing_foldl_collect hnodup hmem, hsid, harchive, verdict, hstart]
    exact congrArg (Standing.settle · _ _ _) hstanding

end Loader

end HotReload
