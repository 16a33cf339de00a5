import HotReload.Proofs.History.Publication

/-!
# Revision numbers

The revision counters are kept apart from the snapshots: a module that goes away keeps its counter,
and only a cycle that commits moves one, by a single step for each module that it publishes
(`Request.counter_step`). So the revisions of a module count its publications, whatever else happens
in between (`publications_eq`), and since every link goes back to a publication no link is ahead of
the count.
-/

namespace HotReload

/-- The revisions at which the requests of a history published a module, in order. -/
def History.publications (id : ModuleId) : History → List Nat
  | empty => []
  | serve h r => h.publications id ++ ((r.run h.state).report.publishedRevision? id).toList

/-- The highest revision that a module has had, or 0. -/
def LoaderState.counter (state : LoaderState) (id : ModuleId) : Nat :=
  (state.revisions.find? id).getD 0

theorem ReloadReport.publishedRevision?_eq_some_iff {report : ReloadReport} {id : ModuleId}
    {revision : Nat} :
    report.publishedRevision? id = some revision ↔
      ∃ previous, report.outcomes.find? id = some (.published revision previous) := by
  unfold publishedRevision?
  constructor
  · intro hrevision
    split at hrevision
    next revision' previous houtcome =>
      cases hrevision
      exact ⟨previous, houtcome⟩
    next => cases hrevision
  · rintro ⟨previous, houtcome⟩
    rw [houtcome]

section Numbering

variable {h g before : History} {r : Request} {id : ModuleId} {m : CompiledModule}

/-- A request publishes a module at the next revision, or leaves its counter alone. -/
theorem Request.counter_step (h : History) (r : Request) (id : ModuleId) :
    ((r.run h.state).report.publishedRevision? id = some (h.state.counter id + 1) ∧
        (h.serve r).state.counter id = h.state.counter id + 1) ∨
      (r.run h.state).report.publishedRevision? id = none ∧
        (h.serve r).state.counter id = h.state.counter id := by
  rcases r.run_cases h with ⟨p, hcancelled⟩ | ⟨p, hfinished⟩
  · refine .inr ⟨?_, ?_⟩
    · by_contra hsome
      obtain ⟨revision, hrevision⟩ := Option.ne_none_iff_exists'.mp hsome
      obtain ⟨previous, houtcome⟩ := ReloadReport.publishedRevision?_eq_some_iff.mp hrevision
      obtain ⟨p', hfinished⟩ := Request.finished_of_published houtcome
      have hnot := hfinished.cancelled
      rw [hcancelled] at hnot
      cases hnot
    · rw [(History.serve_of_cancelled hcancelled).1]
  · obtain ⟨st, hfate, houtcome, -, hcounter⟩ := hfinished.exists_fate id
    have hcounter : (h.serve r).state.counter id = st.counter.getD 0 :=
      congrArg (fun counter => counter.getD 0) hcounter
    rw [ReloadReport.publishedRevision?, houtcome, hcounter]
    cases hfate with
    | removed found removed => exact .inr ⟨rfl, rfl⟩
    | published affected accepted planned verdict => exact .inl ⟨rfl, rfl⟩
    | failed affected reason => exact .inr ⟨rfl, rfl⟩
    | kept notAffected notRemoved => exact .inr ⟨rfl, rfl⟩

/-- The publications of a module are numbered from 1 up to its counter. -/
theorem History.publications_eq_range (h : History) (id : ModuleId) :
    h.publications id = List.range' 1 (h.state.counter id) := by
  induction h with
  | empty => rfl
  | serve h r ih =>
    rw [publications, ih]
    rcases r.counter_step h id with ⟨hpublished, hcounter⟩ | ⟨hnone, hcounter⟩
    · rw [hpublished, hcounter, List.range'_1_concat, Nat.add_comm 1]
      rfl
    · rw [hnone, hcounter]
      exact List.append_nil _

theorem History.BeginsWith.publications (hbegins : h.BeginsWith g) (id : ModuleId) :
    g.publications id <+: h.publications id := by
  induction hbegins with
  | refl => exact List.prefix_rfl
  | serve _ ih => exact ih.trans (List.prefix_append _ _)

/-- The revision of a published module is that of one of its publications. -/
theorem History.mem_publications (hm : h.state.snapshot.find? id = some m) :
    m.revision ∈ h.publications id := by
  obtain ⟨before, r, hpublished⟩ := exists_publication hm
  obtain ⟨previous, houtcome⟩ := hpublished.outcome
  apply (hpublished.served.publications id).subset
  rw [publications, ReloadReport.publishedRevision?_eq_some_iff.mpr ⟨previous, houtcome⟩]
  exact List.mem_append_right _ (List.mem_singleton_self _)

/-- A link bears the revision of a publication of what is linked. -/
theorem History.mem_publications_of_link (hm : h.state.snapshot.find? id = some m)
    {x : LinkedModule} (hx : x ∈ m.links) : x.revision ∈ h.publications x.id := by
  -- The link may be stale by now, but it was current when the module was published.
  obtain ⟨before, r, hpublished⟩ := exists_publication hm
  have hcurrent := hpublished.upToDate.linksCurrent (before.serve r).keyed_state hpublished.entry
  obtain ⟨d, hd, hlinked⟩ := hcurrent.present x hx
  have hrevision : d.revision = x.revision := congrArg (fun x => x.revision) hlinked
  apply (hpublished.served.publications x.id).subset
  rw [← hrevision]
  exact mem_publications hd

/-- In every reachable state, the revisions at which a module was published are 1, 2 and so on up to
some number without a gap or a repetition; if the module is published then at that number, and no
published module is linked to it at a revision beyond. -/
theorem publications_eq (h : History) (id : ModuleId) :
    ∃ k, h.publications id = List.range' 1 k ∧
      (∀ m, h.state.snapshot.find? id = some m → m.revision = k) ∧
      ∀ j m, h.state.snapshot.find? j = some m → ∀ x ∈ m.links, x.id = id →
        1 ≤ x.revision ∧ x.revision ≤ k := by
  refine ⟨h.state.counter id, h.publications_eq_range id, ?_, ?_⟩
  · intro m hm
    rw [LoaderState.counter, History.counter_eq hm]
    rfl
  · rintro j m hm x hx rfl
    have hmem := History.mem_publications_of_link hm hx
    rw [h.publications_eq_range, List.mem_range'_1] at hmem
    omega

end Numbering

end HotReload
