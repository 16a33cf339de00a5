import HotReload.Proofs.History.Basic
import HotReload.Proofs.Reload.Cancellation

/-!
# The number of builds at once

How many builds of a tier may run at once decides how the tier is cut into pieces, and later pieces
start from what earlier ones have left. No module of a tier depends on another one of it, so that none
of its starts reads what the tier changes (`Settled.start_congr`), and whichever way a tier is cut up,
it leads to the same progress (`Settled.sameCourse_buildTier`). Only the footprint of a cycle, the
wait for its builds, tells how many ran at once (`parallelism_unobservable`).
-/

namespace HotReload

/-- A loader that runs up to `n + 1` builds of a tier at once. -/
def Loader.withExtraBuilds (l : Loader) (n : ℕ) : Loader :=
  { l with extraBuilds := n }

/-- Two cycles have come to the same point, though they may have waited differently. -/
structure Progress.SameCourse (p q : Progress) : Prop where
  standing : ∀ id, p.standing id = q.standing id
  cancelled : p.cancelled = q.cancelled

/-- Two cycles at the same point differ in their footprints at most. -/
theorem Progress.SameCourse.exists_footprint {p q : Progress} (h : p.SameCourse q) :
    ∃ footprint, q = { p with footprint } := by
  obtain ⟨candidate, revisions, outcomes, cancelled, footprint⟩ := q
  have hcandidate : p.candidate = candidate :=
    SortedMap.ext_find? fun id => congrArg Standing.entry (h.standing id)
  have hrevisions : p.revisions = revisions :=
    SortedMap.ext_find? fun id => congrArg Standing.counter (h.standing id)
  have houtcomes : p.outcomes = outcomes :=
    SortedMap.ext_find? fun id => congrArg Standing.outcome (h.standing id)
  have hcancelled : p.cancelled = cancelled := h.cancelled
  refine ⟨footprint, ?_⟩
  rw [← hcandidate, ← hrevisions, ← houtcomes, ← hcancelled]

/-! ## Builds that cancel -/

namespace Loader

variable {l : Loader} {current : Snapshot} {plan : Plan} {p : Progress} {ids : List ModuleId}

/-- Whether the build of an archive, as a cycle stands, is started and asks for the cycle to be
cancelled. -/
def cancelsOn (l : Loader) (p : Progress) (a : Archive) : Bool :=
  (l.start p a).toOption.any (·.build.cancels)

/-- Whether building a module cancels the cycle. -/
def cancelsFor (l : Loader) (plan : Plan) (p : Progress) (id : ModuleId) : Bool :=
  (plan.archives.find? id).any (l.cancelsOn p)

theorem any_congr_of_mem {f g : ModuleId → Bool} (h : ∀ id ∈ ids, f id = g id) :
    ids.any f = ids.any g := by
  rw [Bool.eq_iff_iff, List.any_eq_true, List.any_eq_true]
  exact exists_congr fun id => and_congr_right fun hid => by rw [h id hid]

/-- Whether a build cancels does not depend on a failure among the modules beside it. -/
theorem cancelsFor_fail {id j : ModuleId} {e : ReloadError} (h : SideBySide plan ids)
    (hid : id ∈ ids) (hj : j ∈ ids) :
    l.cancelsFor plan (p.fail current id e) j = l.cancelsFor plan p j := by
  unfold cancelsFor
  cases ha : plan.archives.find? j with
  | none => rfl
  | some a =>
    have hdep : id ∉ a.spec.dependencies := fun hd => h.independent j hj a ha id hd hid
    rw [Option.any_some, Option.any_some, cancelsOn, cancelsOn, start_fail hdep]

/-- Of modules that are built side by side, each is started as if it were the first. -/
theorem any_cancels_startAll (h : SideBySide plan ids) :
    (l.startAll current plan p ids).2.any (·.build.cancels) = ids.any (l.cancelsFor plan p) := by
  induction ids generalizing p with
  | nil => rfl
  | cons id ids ih =>
    have hrest := h.of_sublist (List.sublist_cons_self id ids)
    rw [List.any_cons, startAll]
    cases ha : plan.archives.find? id with
    | none =>
      have hnot : l.cancelsFor plan p id = false := by rw [cancelsFor, ha, Option.any_none]
      rw [hnot, Bool.false_or]
      exact ih hrest
    | some a =>
      have hone : l.cancelsFor plan p id = l.cancelsOn p a := by
        rw [cancelsFor, ha, Option.any_some]
      rw [hone]
      cases hstart : l.start p a with
      | error e =>
        have hnot : l.cancelsOn p a = false := by
          rw [cancelsOn, hstart, Except.toOption, Option.any_none]
        have hsame : ∀ j ∈ ids, l.cancelsFor plan (p.fail current id e) j =
            l.cancelsFor plan p j := fun j hj =>
          cancelsFor_fail h List.mem_cons_self (List.mem_cons_of_mem _ hj)
        rw [hnot, Bool.false_or, ← any_congr_of_mem hsame]
        simp only [hstart]
        exact ih hrest
      | ok s =>
        have hasked : l.cancelsOn p a = s.build.cancels := by
          rw [cancelsOn, hstart, Except.toOption, Option.any_some]
        rw [hasked, ← ih hrest]
        simp only [hstart]
        exact List.any_cons

theorem cancelled_buildTogether_of_sideBySide (h : SideBySide plan ids) :
    (l.buildTogether current plan p ids).cancelled =
      (p.cancelled || ids.any (l.cancelsFor plan p)) := by
  rw [cancelled_buildTogether_eq, any_cancels_startAll h]

end Loader

/-! ## One tier -/

section Tier

variable {l : Loader} {state : LoaderState} {c : ChangeSet} {done tier : List ModuleId}
  {p q : Progress}

/-- Building modules of the next tier leaves alone what is settled. -/
theorem Plan.Next.standing_buildTogether (hs : state.snapshot.Keyed)
    (hnext : (state.plan c).Next done tier) {ids : List ModuleId} (hsub : ids.Sublist tier)
    {d : ModuleId} (hd : d ∈ done) :
    (l.buildTogether state.snapshot (state.plan c) q ids).standing d = q.standing d := by
  apply Loader.standing_buildTogether_of_notMem (hnext.sideBySide hs hsub).keyed
  intro hmem
  exact hnext.fresh d (hsub.subset hmem) hd

/-- Whether the build of a module of the next tier cancels is settled before the tier. -/
theorem Settled.cancelsFor_congr (h : Settled l state c done p)
    (hdone : (state.plan c).Prefix done) (hnext : (state.plan c).Next done tier)
    (hagree : ∀ d ∈ done, q.standing d = p.standing d) {id : ModuleId} (hid : id ∈ tier) :
    l.cancelsFor (state.plan c) q id = l.cancelsFor (state.plan c) p id := by
  unfold Loader.cancelsFor
  cases ha : (state.plan c).archives.find? id with
  | none => rfl
  | some a =>
    have hstart : l.start q a = l.start p a := h.start_congr hdone hagree fun d hd =>
      hnext.dependency h.keyed hid ha hd
    rw [Option.any_some, Option.any_some, Loader.cancelsOn, Loader.cancelsOn, hstart]

/-- However a tier is cut up, the same of its builds cancel. -/
theorem Settled.cancelled_foldl_buildTogether (h : Settled l state c done p)
    (hdone : (state.plan c).Prefix done) (hnext : (state.plan c).Next done tier)
    {chunks : List (List ModuleId)} (hsub : chunks.flatten.Sublist tier)
    (hagree : ∀ d ∈ done, q.standing d = p.standing d) :
    (chunks.foldl (l.buildTogether state.snapshot (state.plan c)) q).cancelled =
      (q.cancelled || chunks.flatten.any (l.cancelsFor (state.plan c) p)) := by
  induction chunks generalizing q with
  | nil => rw [List.foldl_nil, List.flatten_nil, List.any_nil, Bool.or_false]
  | cons chunk chunks ih =>
    rw [List.flatten_cons] at hsub
    have hchunk : chunk.Sublist tier := (List.sublist_append_left _ _).trans hsub
    have hrest : chunks.flatten.Sublist tier := (List.sublist_append_right _ _).trans hsub
    have hagree' : ∀ d ∈ done,
        (l.buildTogether state.snapshot (state.plan c) q chunk).standing d = p.standing d := by
      intro d hd
      rw [hnext.standing_buildTogether h.keyed hchunk hd, hagree d hd]
    have hsame : ∀ id ∈ chunk, l.cancelsFor (state.plan c) q id =
        l.cancelsFor (state.plan c) p id := fun id hid =>
      h.cancelsFor_congr hdone hnext hagree (hchunk.subset hid)
    rw [List.foldl_cons, ih hrest hagree',
      Loader.cancelled_buildTogether_of_sideBySide (hnext.sideBySide h.keyed hchunk),
      Loader.any_congr_of_mem hsame, List.flatten_cons, List.any_append, Bool.or_assoc]

/-- A tier leads to the same progress whichever way it is cut up. -/
theorem Settled.sameCourse_foldl_buildTogether (h : Settled l state c done p)
    (hdone : (state.plan c).Prefix done) (hnext : (state.plan c).Next done tier)
    (hplanned : ∀ id ∈ tier, ∃ a, (state.plan c).archives.find? id = some a)
    {chunks₁ chunks₂ : List (List ModuleId)} (hsub : chunks₁.flatten.Sublist tier)
    (heq : chunks₂.flatten = chunks₁.flatten) (hcourse : p.SameCourse q) :
    (chunks₁.foldl (l.buildTogether state.snapshot (state.plan c)) p).SameCourse
      (chunks₂.foldl (l.buildTogether state.snapshot (state.plan c)) q) := by
  have hagree : ∀ d ∈ done, q.standing d = p.standing d := fun d _ => (hcourse.standing d).symm
  have hsub₂ : chunks₂.flatten.Sublist tier := heq ▸ hsub
  constructor
  · intro id
    by_cases hid : id ∈ chunks₁.flatten
    · obtain ⟨a, ha⟩ := hplanned id (hsub.subset hid)
      rw [h.standing_foldl_buildTogether hdone hnext hsub (fun _ _ => rfl) hid ha,
        h.standing_foldl_buildTogether hdone hnext hsub₂ hagree (heq ▸ hid) ha,
        hcourse.standing id]
    · rw [standing_foldl_buildTogether_of_notMem h.keyed hid,
        standing_foldl_buildTogether_of_notMem h.keyed (heq ▸ hid), hcourse.standing id]
  · rw [h.cancelled_foldl_buildTogether hdone hnext hsub fun _ _ => rfl,
      h.cancelled_foldl_buildTogether hdone hnext hsub₂ hagree, heq, hcourse.cancelled]

theorem Loader.buildTier_withExtraBuilds (l : Loader) (n : ℕ) (current : Snapshot) (plan : Plan)
    (p : Progress) (tier : List ModuleId) :
    (l.withExtraBuilds n).buildTier current plan p tier =
      (pieces n (plan.workOf tier)).foldl (l.buildTogether current plan) p := by
  have hstart : (l.withExtraBuilds n).start = l.start := rfl
  rw [buildTier, buildTogether_congr hstart]
  rfl

theorem Settled.sameCourse_buildTier (h : Settled l state c done p)
    (hdone : (state.plan c).Prefix done) (hnext : (state.plan c).Next done tier)
    (hplanned : ∀ id ∈ tier, ∃ a, (state.plan c).archives.find? id = some a)
    (hcourse : p.SameCourse q) (m n : ℕ) :
    ((l.withExtraBuilds m).buildTier state.snapshot (state.plan c) p tier).SameCourse
      ((l.withExtraBuilds n).buildTier state.snapshot (state.plan c) q tier) := by
  have hsub : (Loader.pieces m ((state.plan c).workOf tier)).flatten.Sublist tier := by
    rw [flatten_pieces]
    exact List.filter_sublist
  have hsame : (Loader.pieces n ((state.plan c).workOf tier)).flatten =
      (Loader.pieces m ((state.plan c).workOf tier)).flatten := by
    rw [flatten_pieces, flatten_pieces]
  rw [Loader.buildTier_withExtraBuilds, Loader.buildTier_withExtraBuilds]
  exact h.sameCourse_foldl_buildTogether hdone hnext hplanned hsub hsame hcourse

end Tier

/-! ## Whole cycles -/

section Cycle

variable {l : Loader} {state : LoaderState} {c : ChangeSet} {done : List ModuleId} {p q : Progress}

theorem settled_withExtraBuilds_iff (n : ℕ) :
    Settled (l.withExtraBuilds n) state c done p ↔ Settled l state c done p :=
  ⟨fun h => ⟨h.keyed, h.built, h.untouched⟩, fun h => ⟨h.keyed, h.built, h.untouched⟩⟩

/-- Cycles that differ in the number of builds at once stop at the same check, or not at all. -/
theorem Settled.sameCourse_buildTiers {tiers : List (List ModuleId)}
    (h : Settled l state c done p) (hschedule : (state.plan c).Schedule done tiers)
    (hcourse : p.SameCourse q) (m n : ℕ) (stop : Interruption) (checks : ℕ) :
    let built₁ := (l.withExtraBuilds m).buildTiers state.snapshot (state.plan c) stop checks p tiers
    let built₂ := (l.withExtraBuilds n).buildTiers state.snapshot (state.plan c) stop checks q tiers
    built₁.1.SameCourse built₂.1 ∧ built₁.2 = built₂.2 := by
  induction tiers generalizing checks p q done with
  | nil =>
    rw [Loader.buildTiers, Loader.buildTiers, hcourse.cancelled]
    exact ⟨hcourse, rfl⟩
  | cons tier tiers ih =>
    have hplanned : ∀ id ∈ tier, ∃ a, (state.plan c).archives.find? id = some a := by
      intro id hid
      exact hschedule.tail.isPrefix.exists_archive h.keyed (List.mem_append_left _ hid)
    have htier := ((settled_withExtraBuilds_iff m).mpr h).buildTier hschedule.isPrefix
      hschedule.next
    have hsame := h.sameCourse_buildTier hschedule.isPrefix hschedule.next hplanned hcourse m n
    rw [Loader.buildTiers, Loader.buildTiers, hcourse.cancelled]
    split
    · exact ⟨hcourse, rfl⟩
    · exact ih ((settled_withExtraBuilds_iff m).mp htier) hschedule.tail hsame (checks + 1)

end Cycle

/-- In every reachable state and for every change-set, the number of builds that may run at once makes
no difference to the report, to the published modules with their revision counters, or to what
listeners are told, whether the cycle is cancelled or not. -/
theorem parallelism_unobservable (h : History) (l : Loader) (c : ChangeSet) (stop : Interruption)
    (m n : ℕ) :
    ((l.withExtraBuilds m).reload h.state c stop).report =
        ((l.withExtraBuilds n).reload h.state c stop).report ∧
      ((l.withExtraBuilds m).reload h.state c stop).state =
        ((l.withExtraBuilds n).reload h.state c stop).state ∧
      ((l.withExtraBuilds m).reload h.state c stop).events =
        ((l.withExtraBuilds n).reload h.state c stop).events := by
  have hopening : (h.state.opening c).SameCourse (h.state.opening c) := ⟨fun _ => rfl, rfl⟩
  have hcycle := (settled_opening l h.keyed_state c).sameCourse_buildTiers
    (schedule_tiers h.state c) hopening m n stop 0
  rw [Loader.reload_eq, Loader.reload_eq]
  revert hcycle
  generalize (l.withExtraBuilds m).buildTiers h.state.snapshot (h.state.plan c) stop 0
    (h.state.opening c) (h.state.plan c).resolution.tiers = built₁
  generalize (l.withExtraBuilds n).buildTiers h.state.snapshot (h.state.plan c) stop 0
    (h.state.opening c) (h.state.plan c).resolution.tiers = built₂
  obtain ⟨p, cancelled⟩ := built₁
  obtain ⟨q, cancelled'⟩ := built₂
  rintro ⟨hcourse, rfl⟩
  obtain ⟨footprint, rfl⟩ : ∃ footprint, q = { p with footprint } := hcourse.exists_footprint
  cases cancelled with
  | true => exact ⟨rfl, rfl, rfl⟩
  | false => exact ⟨rfl, rfl, rfl⟩

end HotReload
