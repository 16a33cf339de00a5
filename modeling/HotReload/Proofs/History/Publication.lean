import HotReload.Proofs.History.Acyclic

/-!
# What a publication links

A module is linked while the candidate is still being filled, yet its links are those of the
snapshot that its cycle commits (`links_of_published`): what it depends on was settled before it.
Once it is published a module stays the same until it is published again, so every published
module goes back to a request that published it (`exists_publication`).
-/

namespace HotReload

/-- The revision counter of a published module stands at its revision. -/
theorem History.counter_eq {h : History} {id : ModuleId} {m : CompiledModule}
    (hm : h.state.snapshot.find? id = some m) : h.state.revisions.find? id = some m.revision := by
  induction h generalizing m with
  | empty => cases hm
  | serve h r ih =>
    rcases r.run_cases h with ⟨p, hcancelled⟩ | ⟨p, hfinished⟩
    · rw [(History.serve_of_cancelled hcancelled).1] at hm ⊢
      exact ih hm
    · obtain ⟨st, hfate, -, hentry, hcounter⟩ := hfinished.exists_fate id
      rw [state, hentry] at hm
      rw [state, hcounter]
      cases hfate with
      | removed found removed => cases hm
      | published affected accepted planned verdict =>
        cases hm
        rfl
      | failed affected reason => exact ih hm
      | kept notAffected notRemoved => exact ih hm

/-! ## What one request publishes -/

section Request

variable {h : History} {r : Request} {id : ModuleId} {m : CompiledModule} {p : Progress}
  {revision : Nat} {previous : Option Nat}

theorem Request.finished_of_published
    (hpublished : (r.run h.state).report.outcomes.find? id = some (.published revision previous)) :
    ∃ p, Finished r.loader h.state r.changes p (r.run h.state) := by
  rcases r.run_cases h with ⟨p, hcancelled⟩ | hfinished
  · rw [hcancelled] at hpublished
    simp only [Loader.cancelledRun, SortedMap.find?_filter, Option.filter_eq_some_iff] at hpublished
    cases hpublished.2
  · exact hfinished

theorem Finished.accounts (hfinished : Finished r.loader h.state r.changes p (r.run h.state))
    (id : ModuleId) :
    r.Accounts h.state.snapshot (h.serve r).state.snapshot id
      ((r.run h.state).report.outcomes.find? id) := by
  obtain ⟨st, hfate, houtcome, hentry, -⟩ := hfinished.exists_fate id
  rw [houtcome]
  exact hfate.accounts hentry

/-- What is published was accepted, did not fail, and is up to date afterwards. -/
theorem Finished.sound_of_published
    (hfinished : Finished r.loader h.state r.changes p (r.run h.state))
    (hpublished : (r.run h.state).report.outcomes.find? id = some (.published revision previous))
    (hm : (h.serve r).state.snapshot.find? id = some m) :
    Sound h.state r.changes p id ∧ m.UpToDate r.loader (h.serve r).state.snapshot.modules := by
  obtain ⟨st, hfate, houtcome, hentry, -⟩ := hfinished.exists_fate id
  have hst := houtcome.symm.trans hpublished
  obtain ⟨haffected, haccepted, a, result, hverdict, rfl⟩ := hfate.exists_verdict_of_published hst
  constructor
  · apply hfinished.sound haffected haccepted
    rw [hpublished]
    rfl
  · rw [History.state, hentry] at hm
    exact hfinished.upToDate_of_published hverdict hm

theorem Finished.revision_lt (hfinished : Finished r.loader h.state r.changes p (r.run h.state))
    (hpublished : (r.run h.state).report.outcomes.find? id = some (.published revision previous))
    (hold : h.state.snapshot.find? id = some m) : m.revision < revision := by
  obtain ⟨st, hfate, houtcome, -, -⟩ := hfinished.exists_fate id
  have hst := houtcome.symm.trans hpublished
  obtain ⟨-, -, a, result, -, rfl⟩ := hfate.exists_verdict_of_published hst
  have hrevision : (h.state.revisions.find? id).getD 0 + 1 = revision := by
    cases hst
    rfl
  rw [← hrevision, History.counter_eq hold]
  exact Nat.lt_succ_self m.revision

/-- A sound module was published or is as it was before. -/
theorem Sound.published_or_kept
    (hfinished : Finished r.loader h.state r.changes p (r.run h.state))
    (hsound : Sound h.state r.changes p id) :
    (∃ revision previous,
      (r.run h.state).report.outcomes.find? id = some (.published revision previous)) ∨
        (r.run h.state).report.outcomes.find? id = none := by
  have hplanned := DependencyGraph.mem_modules_of_mem_accepted hsound.1
  obtain ⟨a, ha⟩ := (Plan.mem_graph_iff h.keyed_state).mp hplanned
  have hremoved := Plan.notMem_removed_of_planned ha
  have hfailed := hsound.2
  rw [hfinished.hasFailed_eq hremoved] at hfailed
  obtain ⟨st, hfate, houtcome, -, -⟩ := hfinished.exists_fate id
  rw [houtcome] at hfailed ⊢
  cases hfate with
  | removed found removed => exact absurd removed hremoved
  | published affected accepted planned verdict => exact .inl ⟨_, _, rfl⟩
  | failed affected reason => cases hfailed
  | kept notAffected notRemoved => exact .inr rfl

/-- What the outcome of a module says of a link to it that was made in the same cycle: it is a link
to what was just published and not to what was there before, or to what is there all the time. -/
def Snapshot.Relinks (before : Snapshot) (x : LinkedModule) : Option Outcome → Prop
  | some (.published revision _) =>
    x.revision = revision ∧ ∀ old, before.find? x.id = some old → old.revision < x.revision
  | some (.removed _) => False
  | some (.failed ..) => False
  | none => ∃ m, before.find? x.id = some m ∧ m.linked = x

/-- Links to sound modules, as they are after a cycle, are what the outcomes say. -/
theorem Sound.relinks (hfinished : Finished r.loader h.state r.changes p (r.run h.state))
    {x : LinkedModule} (hsound : Sound h.state r.changes p x.id)
    (hm : (h.serve r).state.snapshot.find? x.id = some m) (hx : m.linked = x) :
    h.state.snapshot.Relinks x ((r.run h.state).report.outcomes.find? x.id) := by
  have haccounts := hfinished.accounts x.id
  rcases hsound.published_or_kept hfinished with ⟨revision, previous, houtcome⟩ | houtcome
  · rw [houtcome] at haccounts ⊢
    obtain ⟨-, m', hm', hrevision, -, -⟩ := haccounts
    have hsame : x.revision = revision := by
      rw [← hx, ← hrevision, Option.some.inj (hm.symm.trans hm')]
      rfl
    refine ⟨hsame, fun old hold => ?_⟩
    rw [hsame]
    exact hfinished.revision_lt houtcome hold
  · rw [houtcome] at haccounts ⊢
    rw [haccounts] at hm
    exact ⟨m, hm, hx⟩

/-- In every reachable state, what a request publishes is linked to exactly the modules that it
depends on afterwards, to each of them as it is published afterwards, and not to itself. Each of
them was published by the same request or is as it was before. -/
theorem links_of_published (h : History) (r : Request) (id : ModuleId) (revision : Nat)
    (previous : Option Nat)
    (hpublished : (r.run h.state).report.outcomes.find? id = some (.published revision previous)) :
    ∃ m, (h.serve r).state.snapshot.find? id = some m ∧ m.revision = revision ∧
      (h.serve r).state.snapshot.LinksCurrent id m ∧ (∀ x ∈ m.links, x.id ≠ id) ∧
      ∀ x ∈ m.links, h.state.snapshot.Relinks x ((r.run h.state).report.outcomes.find? x.id) := by
  obtain ⟨p, hfinished⟩ := Request.finished_of_published hpublished
  have haccounts := hfinished.accounts id
  rw [hpublished] at haccounts
  obtain ⟨-, m, hm, hrevision, -, -⟩ := haccounts
  obtain ⟨hsound, hnew⟩ := hfinished.sound_of_published hpublished hm
  have hcurrent := hnew.linksCurrent (h.serve r).keyed_state hm
  have hdepends : ∀ x ∈ m.links, (h.serve r).state.snapshot.DependsOn id x.id := fun x hx =>
    (hcurrent.exact x.id).mp ⟨x, hx, rfl⟩
  refine ⟨m, hm, hrevision, hcurrent, fun x hx hself => ?_, fun x hx => ?_⟩
  · have hloop := hdepends x hx
    rw [hself] at hloop
    exact acyclic_state (h.serve r) id hloop
  · have hlinked := (hsound.dependsOn hfinished (hdepends x hx)).1
    obtain ⟨d, hd, hdx⟩ := hcurrent.present x hx
    exact hlinked.relinks hfinished hd hdx

end Request

namespace Sample

def load : Request :=
  request ((ChangeSet.add ∅ userArchive).add (libraryArchive "let x=1"))

def update : Request :=
  request (ChangeSet.update ∅ (libraryArchive "let x=2"))

end Sample

/-- The update of a library publishes the module that refers to it once more. -/
theorem links_of_user :
    (Sample.update.run (History.empty.serve Sample.load).state).report.outcomes.find? Sample.user =
        some (.published 2 (some 1)) ∧
      ∃ m, ((History.empty.serve Sample.load).serve Sample.update).state.snapshot.find?
          Sample.user = some m ∧ m.revision = 2 ∧
        ((History.empty.serve Sample.load).serve Sample.update).state.snapshot.LinksCurrent
          Sample.user m ∧
        (∀ x ∈ m.links, x.id ≠ Sample.user) ∧
        ∀ x ∈ m.links, (History.empty.serve Sample.load).state.snapshot.Relinks x
          ((Sample.update.run (History.empty.serve Sample.load).state).report.outcomes.find?
            x.id) := by
  have hpublished : (Sample.update.run
      (History.empty.serve Sample.load).state).report.outcomes.find? Sample.user =
        some (.published 2 (some 1)) := by cbv
  exact ⟨hpublished, links_of_published _ _ _ _ _ hpublished⟩

/-! ## The request that published a module -/

/-- A history begins with another one. -/
inductive History.BeginsWith : History → History → Prop
  | refl {h : History} : h.BeginsWith h
  | serve {h g : History} {r : Request} (before : h.BeginsWith g) : (h.serve r).BeginsWith g

/-- A request of a history that published a module, after the requests before it. -/
structure History.PublishedBy (h before : History) (r : Request) (id : ModuleId)
    (m : CompiledModule) : Prop where
  served : h.BeginsWith (before.serve r)
  outcome : ∃ previous,
    (r.run before.state).report.outcomes.find? id = some (.published m.revision previous)
  entry : (before.serve r).state.snapshot.find? id = some m

section PublishedBy

variable {h before : History} {r : Request} {id : ModuleId} {m : CompiledModule}

/-- Every published module was published by some request and was the same ever since. -/
theorem exists_publication (hm : h.state.snapshot.find? id = some m) :
    ∃ before r, h.PublishedBy before r id m := by
  induction h with
  | empty => cases hm
  | serve h r ih =>
    -- Unless this request published the module, an earlier one did.
    by_cases hkept : h.state.snapshot.find? id = some m
    · obtain ⟨before, r', hpublished⟩ := ih hkept
      exact ⟨before, r', hpublished.served.serve, hpublished.outcome, hpublished.entry⟩
    · rcases r.run_cases h with ⟨p, hcancelled⟩ | ⟨p, hfinished⟩
      · rw [(History.serve_of_cancelled hcancelled).1] at hm
        exact absurd hm hkept
      · have haccounts := hfinished.accounts id
        have hnew : ∃ previous,
            (r.run h.state).report.outcomes.find? id = some (.published m.revision previous) := by
          cases houtcome : (r.run h.state).report.outcomes.find? id with
          | none =>
            rw [houtcome] at haccounts
            exact absurd (haccounts.symm.trans hm) hkept
          | some o =>
            rw [houtcome] at haccounts
            cases o with
            | published revision previous =>
              obtain ⟨-, m', hm', hrevision, -, -⟩ := haccounts
              rw [← hrevision, Option.some.inj (hm'.symm.trans hm)]
              exact ⟨previous, rfl⟩
            | removed revision => cases haccounts.2.symm.trans hm
            | failed e retained => exact absurd (haccounts.1.symm.trans hm) hkept
        exact ⟨h, r, .refl, hnew, hm⟩

theorem History.PublishedBy.upToDate (hpublished : h.PublishedBy before r id m) :
    m.UpToDate r.loader (before.serve r).state.snapshot.modules := by
  obtain ⟨previous, houtcome⟩ := hpublished.outcome
  obtain ⟨p, hfinished⟩ := Request.finished_of_published houtcome
  exact (hfinished.sound_of_published houtcome hpublished.entry).2

end PublishedBy

end HotReload
