import HotReload.Proofs.Reload.Settled

/-!
# What a cycle does with a module

A cycle that is not cancelled has one of four things in store for every module: it is removed,
published, failed, or kept (`Fate`). Outcome, published entry and revision counter always tell the
same story (`fate_of_settled`), and they do so whether the cycle commits or not: if it does not,
no module was removed or published, so that the state before is what the fates describe
(`Finished`).
-/

namespace HotReload

/-- What is known of a module between two cycles. -/
def LoaderState.standing (state : LoaderState) (id : ModuleId) : Standing where
  outcome := none
  entry := state.snapshot.find? id
  counter := state.revisions.find? id

/-- What is known of a module after a cycle: its outcome and what the state then holds of it. -/
def Loader.Run.standing (run : Loader.Run) (id : ModuleId) : Standing where
  outcome := run.report.outcomes.find? id
  entry := run.state.snapshot.find? id
  counter := run.state.revisions.find? id

/-- The ways in which a cycle can end for a module. The verdict on a module is taken from the
progress at the end of the cycle. -/
inductive Fate (l : Loader) (state : LoaderState) (c : ChangeSet) (p : Progress) (id : ModuleId) :
    Standing → Prop
  | removed {m : CompiledModule} (found : state.snapshot.find? id = some m)
      (removed : id ∈ (state.plan c).removed) :
      Fate l state c p id
        { state.standing id with outcome := some (.removed m.revision), entry := none }
  | published {a : Archive} {r : Boundary × BuildOutput} (affected : id ∈ (state.plan c).affected)
      (accepted : id ∈ (state.plan c).graph.accepted)
      (planned : (state.plan c).archives.find? id = some a) (verdict : l.verdict p a = .ok r) :
      Fate l state c p id
        ((state.standing id).settle (state.snapshot.revision? id) a (.ok r))
  | failed {e : ReloadError} (affected : id ∈ (state.plan c).affected)
      (reason : (state.plan c).resolution.rejected.find? id = some e ∨
        id ∈ (state.plan c).graph.accepted ∧
          ∃ a, (state.plan c).archives.find? id = some a ∧ l.verdict p a = .error e) :
      Fate l state c p id ((state.standing id).fail (state.snapshot.revision? id) e)
  | kept (notAffected : id ∉ (state.plan c).affected) (notRemoved : id ∉ (state.plan c).removed) :
      Fate l state c p id (state.standing id)

section Settled

variable {l : Loader} {state : LoaderState} {c : ChangeSet} {p : Progress} {id : ModuleId}

theorem find?_withRemoved (current : Snapshot) (plan : Plan) (outcomes : Outcomes) (id : ModuleId) :
    (Loader.withRemoved current plan outcomes).find? id =
      if id ∈ plan.removed then ((current.revision? id).map .removed).or (outcomes.find? id)
      else outcomes.find? id := by
  unfold Loader.withRemoved
  generalize plan.removed = ids
  induction ids generalizing outcomes with
  | nil => simp
  | cons i ids ih =>
    rw [List.foldl_cons, ih]
    by_cases hi : id = i
    · subst hi
      cases current.revision? id with
      | none => simp
      | some revision => simp [SortedMap.find?_insert]
    · cases current.revision? i with
      | none => simp [hi]
      | some revision => simp [SortedMap.find?_insert, hi]

/-- Where a module stands at the end of a cycle, with the outcome that is reported. -/
def Progress.final (p : Progress) (current : Snapshot) (plan : Plan) (id : ModuleId) : Standing :=
  { p.standing id with outcome := (Loader.withRemoved current plan p.outcomes).find? id }

theorem Progress.final_of_notRemoved {plan : Plan} (h : id ∉ plan.removed) (p : Progress)
    (current : Snapshot) : p.final current plan id = p.standing id := by
  rw [final, find?_withRemoved, if_neg h]
  rfl

theorem standing_start_of_notRemoved (h : id ∉ (state.plan c).removed) :
    (Progress.start state (state.plan c)).standing id = state.standing id := by
  rw [standing_start, if_neg h]
  rfl

/-- Nothing is planned for a removed module. -/
theorem notAffected_of_removed (h : id ∈ (state.plan c).removed) :
    id ∉ (state.plan c).affected := by
  intro haffected
  obtain ⟨a, ha⟩ := (Plan.mem_affected_iff.mp haffected).1
  exact Plan.notMem_removed_of_planned ha h

theorem fate_of_removed (h : Settled l state c (state.plan c).graph.accepted p)
    (hremoved : id ∈ (state.plan c).removed) :
    Fate l state c p id (p.final state.snapshot (state.plan c) id) := by
  obtain ⟨⟨m, hm⟩, -⟩ := Plan.mem_removed_iff.mp hremoved
  have hnot := notAffected_of_removed hremoved
  have hstanding : p.standing id = { state.standing id with entry := none } := by
    rw [h.untouched id (.inr hnot), standing_opening_of_notAffected hnot, standing_start,
      if_pos hremoved]
    rfl
  have hrevision : state.snapshot.revision? id = some m.revision := by
    rw [Snapshot.revision?, hm]
    rfl
  rw [Progress.final, hstanding, find?_withRemoved, if_pos hremoved, hrevision]
  exact .removed hm hremoved

theorem fate_of_affected (h : Settled l state c (state.plan c).graph.accepted p)
    (haffected : id ∈ (state.plan c).affected) : Fate l state c p id (p.standing id) := by
  have hremoved : id ∉ (state.plan c).removed := fun hremoved =>
    notAffected_of_removed hremoved haffected
  obtain ⟨a, ha⟩ := (Plan.mem_affected_iff.mp haffected).1
  have hmem : id ∈ (state.plan c).graph.modules := (Plan.mem_graph_iff h.keyed).mpr ⟨a, ha⟩
  rcases DependencyGraph.mem_accepted_or_rejected hmem with haccepted | ⟨e, he⟩
  · have hnone := DependencyGraph.rejected_eq_none_of_mem_accepted haccepted
    rw [h.built id a haccepted haffected ha, standing_opening_of_notRejected hnone,
      standing_start_of_notRemoved hremoved]
    cases hverdict : l.verdict p a with
    | ok r => exact .published haffected haccepted ha hverdict
    | error e => exact .failed haffected (.inr ⟨haccepted, a, ha, hverdict⟩)
  · have hnot : id ∉ (state.plan c).graph.accepted := by
      intro haccepted
      rw [DependencyGraph.rejected_eq_none_of_mem_accepted haccepted] at he
      cases he
    rw [h.untouched id (.inl hnot), standing_opening_of_rejected haffected he,
      standing_start_of_notRemoved hremoved]
    exact .failed haffected (.inl he)

/-- Every module meets one of the four fates. -/
theorem fate_of_settled (h : Settled l state c (state.plan c).graph.accepted p) (id : ModuleId) :
    Fate l state c p id (p.final state.snapshot (state.plan c) id) := by
  by_cases hremoved : id ∈ (state.plan c).removed
  · exact fate_of_removed h hremoved
  · rw [Progress.final_of_notRemoved hremoved]
    by_cases haffected : id ∈ (state.plan c).affected
    · exact fate_of_affected h haffected
    · rw [h.untouched id (.inr haffected), standing_opening_of_notAffected haffected,
        standing_start_of_notRemoved hremoved]
      exact .kept haffected hremoved

end Settled

namespace Fate

variable {l : Loader} {state : LoaderState} {c : ChangeSet} {p : Progress} {id : ModuleId}
  {st : Standing}

/-- A module without an outcome that counts as a change stays as it is. -/
theorem entry_of_unchanged (h : Fate l state c p id st)
    (hunchanged : ∀ o, st.outcome = some o → o.isFailure = true) :
    st.entry = state.snapshot.find? id ∧ st.counter = state.revisions.find? id := by
  cases h with
  | removed found removed => exact absurd (hunchanged _ rfl) (by simp [Outcome.isFailure])
  | published affected accepted planned verdict =>
    exact absurd (hunchanged _ rfl) (by simp [Outcome.isFailure])
  | failed affected reason => exact ⟨rfl, rfl⟩
  | kept notAffected notRemoved => exact ⟨rfl, rfl⟩

/-- What is reported as published was accepted and built. -/
theorem exists_verdict_of_published (h : Fate l state c p id st) {revision : Nat}
    {previous : Option Nat} (houtcome : st.outcome = some (.published revision previous)) :
    id ∈ (state.plan c).affected ∧ id ∈ (state.plan c).graph.accepted ∧
      ∃ a r, l.verdict p a = .ok r ∧
        st = (state.standing id).settle (state.snapshot.revision? id) a (.ok r) := by
  cases h with
  | removed found removed => cases houtcome
  | published affected accepted planned verdict => exact ⟨affected, accepted, _, _, verdict, rfl⟩
  | failed affected reason => cases houtcome
  | kept notAffected notRemoved => cases houtcome

theorem eq_of_kept (h : Fate l state c p id st) (haffected : id ∉ (state.plan c).affected)
    (hremoved : id ∉ (state.plan c).removed) : st = state.standing id := by
  cases h with
  | removed found removed => exact absurd removed hremoved
  | published affected => exact absurd affected haffected
  | failed affected => exact absurd affected haffected
  | kept => rfl

/-- A module stands under its own id if it did before. -/
theorem id_of_entry (hs : state.snapshot.Keyed) (h : Fate l state c p id st) {m : CompiledModule}
    (hm : st.entry = some m) : m.id = id := by
  cases h with
  | removed found removed => cases hm
  | published affected accepted planned verdict =>
    cases hm
    exact Plan.id_of_archives_find? hs planned
  | failed affected reason => exact hs id m hm
  | kept notAffected notRemoved => exact hs id m hm

end Fate

/-! ## Finished cycles -/

/-- A cycle that came to its end without being cancelled, and the progress at its end. -/
structure Finished (l : Loader) (state : LoaderState) (c : ChangeSet) (p : Progress)
    (run : Loader.Run) : Prop where
  settled : Settled l state c (state.plan c).graph.accepted p
  eq : run = Loader.finishedRun state (state.plan c) p

theorem Loader.reload_eq (l : Loader) (state : LoaderState) (c : ChangeSet) (stop : Interruption) :
    l.reload state c stop =
      match l.buildTiers state.snapshot (state.plan c) stop 0 (state.opening c)
        (state.plan c).resolution.tiers with
      | (p, true) => cancelledRun state (state.plan c) p
      | (p, false) => finishedRun state (state.plan c) p := rfl

/-- A cycle is cancelled or finished. -/
theorem Loader.reload_cases (l : Loader) {state : LoaderState} (hs : state.snapshot.Keyed)
    (c : ChangeSet) (stop : Interruption) :
    (∃ p, l.reload state c stop = cancelledRun state (state.plan c) p) ∨
      ∃ p, Finished l state c p (l.reload state c stop) := by
  rw [reload_eq]
  cases hbuild : l.buildTiers state.snapshot (state.plan c) stop 0 (state.opening c)
      (state.plan c).resolution.tiers with
  | mk p cancelled =>
    cases cancelled with
    | true => exact .inl ⟨p, rfl⟩
    | false => exact .inr ⟨p, settled_of_buildTiers hs hbuild, rfl⟩

namespace Finished

variable {l : Loader} {state : LoaderState} {c : ChangeSet} {p : Progress} {run : Loader.Run}

/-- A cycle that is not cancelled builds all tiers and is finished then. -/
theorem exists_buildTiers (hs : state.snapshot.Keyed) {stop : Interruption}
    (hrun : (l.reload state c stop).report.cancelled = false) :
    ∃ p, l.buildTiers state.snapshot (state.plan c) stop 0 (state.opening c)
        (state.plan c).resolution.tiers = (p, false) ∧
      Finished l state c p (l.reload state c stop) := by
  rw [Loader.reload_eq] at hrun ⊢
  cases hbuild : l.buildTiers state.snapshot (state.plan c) stop 0 (state.opening c)
      (state.plan c).resolution.tiers with
  | mk p cancelled =>
    rw [hbuild] at hrun
    cases cancelled with
    | true => cases hrun
    | false => exact ⟨p, rfl, settled_of_buildTiers hs hbuild, rfl⟩

theorem of_not_cancelled (hs : state.snapshot.Keyed) {stop : Interruption}
    (hrun : (l.reload state c stop).report.cancelled = false) :
    ∃ p, Finished l state c p (l.reload state c stop) := by
  obtain ⟨p, -, hfinished⟩ := exists_buildTiers hs hrun
  exact ⟨p, hfinished⟩

theorem outcomes (h : Finished l state c p run) :
    run.report.outcomes = Loader.withRemoved state.snapshot (state.plan c) p.outcomes := by
  rw [h.eq]
  rfl

theorem cancelled (h : Finished l state c p run) : run.report.cancelled = false := by
  rw [h.eq]
  rfl

/-- A cycle commits if something changed. -/
theorem committed_iff (h : Finished l state c p run) :
    run.report.committed = true ↔
      ∃ id o, run.report.outcomes.find? id = some o ∧ o.isFailure = false := by
  have hcommitted : run.report.committed =
      run.report.outcomes.values.any fun outcome => !outcome.isFailure := by
    rw [h.eq]
    rfl
  rw [hcommitted, List.any_eq_true]
  constructor
  · rintro ⟨o, ho, hchange⟩
    obtain ⟨id, hid⟩ := SortedMap.mem_values_iff.mp ho
    exact ⟨id, o, hid, by simpa using hchange⟩
  · rintro ⟨id, o, hid, hchange⟩
    exact ⟨o, SortedMap.mem_values_iff.mpr ⟨id, hid⟩, by simpa using hchange⟩

theorem state_of_committed (h : Finished l state c p run)
    (hcommitted : run.report.committed = true) :
    run.state = {
      snapshot := { version := state.snapshot.version + 1, modules := p.candidate }
      revisions := p.revisions } := by
  rw [h.eq] at hcommitted ⊢
  exact if_pos hcommitted

theorem state_of_not_committed (h : Finished l state c p run)
    (hcommitted : run.report.committed = false) : run.state = state := by
  have hnot : ¬run.report.committed = true := by
    rw [hcommitted]
    exact Bool.false_ne_true
  rw [h.eq] at hnot ⊢
  exact if_neg hnot

/-- What a cycle leaves is what it has worked out, even if it does not commit. -/
theorem standing_eq (h : Finished l state c p run) (id : ModuleId) :
    run.standing id = p.final state.snapshot (state.plan c) id := by
  have hfate := fate_of_settled h.settled id
  cases hcommitted : run.report.committed with
  | true =>
    rw [Loader.Run.standing, h.state_of_committed hcommitted, h.outcomes]
    rfl
  | false =>
    have hunchanged : ∀ o, (p.final state.snapshot (state.plan c) id).outcome = some o →
        o.isFailure = true := by
      intro o ho
      by_contra hchange
      have hfind : run.report.outcomes.find? id = some o := by
        rw [h.outcomes]
        exact ho
      have htrue := h.committed_iff.mpr ⟨id, o, hfind, by simpa using hchange⟩
      rw [hcommitted] at htrue
      cases htrue
    obtain ⟨hentry, hcounter⟩ := hfate.entry_of_unchanged hunchanged
    rw [Loader.Run.standing, h.state_of_not_committed hcommitted, h.outcomes, ← hentry, ← hcounter]
    rfl

/-- A finished cycle reports and leaves of every module what its fate says. -/
theorem exists_fate (h : Finished l state c p run) (id : ModuleId) :
    ∃ st, Fate l state c p id st ∧ run.report.outcomes.find? id = st.outcome ∧
      run.state.snapshot.find? id = st.entry ∧ run.state.revisions.find? id = st.counter := by
  refine ⟨run.standing id, ?_, rfl, rfl, rfl⟩
  rw [h.standing_eq]
  exact fate_of_settled h.settled id

/-- Of a module that is neither affected nor removed nothing is reported, and it stays as it was. -/
theorem standing_of_kept (h : Finished l state c p run) {id : ModuleId}
    (haffected : id ∉ (state.plan c).affected) (hremoved : id ∉ (state.plan c).removed) :
    run.standing id = state.standing id := by
  rw [h.standing_eq]
  exact (fate_of_settled h.settled id).eq_of_kept haffected hremoved

/-- An affected module that resolving rejects is reported with the error that it gives. -/
theorem outcome_of_rejected (h : Finished l state c p run) {id : ModuleId} {e : ReloadError}
    (haffected : id ∈ (state.plan c).affected)
    (he : (state.plan c).resolution.rejected.find? id = some e) :
    run.report.outcomes.find? id = some (.failed e (state.snapshot.revision? id)) := by
  have hnot : id ∉ (state.plan c).graph.accepted := by
    intro haccepted
    have hnone := DependencyGraph.rejected_eq_none_of_mem_accepted haccepted
    cases he.symm.trans hnone
  obtain ⟨st, hfate, houtcome, -, -⟩ := h.exists_fate id
  rw [houtcome]
  cases hfate with
  | removed found removed => exact absurd haffected (notAffected_of_removed removed)
  | published affected accepted => exact absurd accepted hnot
  | failed affected reason =>
    rcases reason with he' | ⟨accepted, -⟩
    · rw [Option.some.inj (he.symm.trans he')]
      rfl
    · exact absurd accepted hnot
  | kept notAffected => exact absurd haffected notAffected

theorem modules_eq (h : Finished l state c p run) : run.state.snapshot.modules = p.candidate := by
  refine SortedMap.ext_find? fun id => ?_
  exact congrArg Standing.entry (h.standing_eq id)

/-- What failed is what the report says has failed. -/
theorem hasFailed_eq (h : Finished l state c p run) {id : ModuleId}
    (hremoved : id ∉ (state.plan c).removed) :
    p.hasFailed id = (run.report.outcomes.find? id).any (·.isFailure) := by
  have hstanding := h.standing_eq id
  rw [Progress.final_of_notRemoved hremoved] at hstanding
  rw [Progress.hasFailed_eq, ← hstanding]
  rfl

theorem keyed (h : Finished l state c p run) : run.state.snapshot.Keyed := by
  intro id m hm
  obtain ⟨st, hfate, -, hentry, -⟩ := h.exists_fate id
  rw [hentry] at hm
  exact hfate.id_of_entry h.settled.keyed hm

end Finished

/-- Modules stay under their own ids. -/
theorem keyed_reload (l : Loader) {state : LoaderState} (hs : state.snapshot.Keyed) (c : ChangeSet)
    (stop : Interruption) : (l.reload state c stop).state.snapshot.Keyed := by
  rcases l.reload_cases hs c stop with ⟨p, hcancelled⟩ | ⟨p, hfinished⟩
  · rw [hcancelled]
    exact hs
  · exact hfinished.keyed

end HotReload
