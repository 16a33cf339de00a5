import HotReload.Proofs.Builds
import HotReload.Proofs.Reload.Fate

/-!
# Cycles that nobody cancels

A cycle is cancelled from outside, or by one of its builds. Plain plugins do not do the latter, so
a cycle of theirs that is not cancelled from outside is finished (`Finished.of_never`).
-/

namespace HotReload.Loader

variable {l : Loader} {current : Snapshot} {plan : Plan} {p : Progress} {ids : List ModuleId}

theorem cancelled_startAll :
    (l.startAll current plan p ids).1.cancelled = p.cancelled := by
  induction ids generalizing p with
  | nil => rfl
  | cons id ids ih =>
    unfold startAll
    split
    next => exact ih
    next a ha =>
      split
      next e he => exact ih
      next s hs => exact ih

theorem cancels_of_start (hl : l.plugins.Plain) {a : Archive} {s : Started}
    (h : l.start p a = .ok s) : s.build.cancels = false := by
  unfold start at h
  split at h
  next => cases h
  next =>
    cases hboundary : l.offer.boundary l.plugins p.candidate a.spec with
    | error e =>
      rw [hboundary] at h
      cases h
    | ok boundary =>
      rw [hboundary] at h
      cases h
      exact cancels_run hl l.settings a boundary

theorem cancels_of_mem_startAll (hl : l.plugins.Plain) {s : Started}
    (h : s ∈ (l.startAll current plan p ids).2) : s.build.cancels = false := by
  induction ids generalizing p with
  | nil => cases h
  | cons id ids ih =>
    unfold startAll at h
    split at h
    next => exact ih h
    next a ha =>
      split at h
      next e he => exact ih h
      next t ht =>
        rcases List.mem_cons.mp h with rfl | h
        · exact cancels_of_start hl ht
        · exact ih h

theorem cancelled_collect (current : Snapshot) (p : Progress) (s : Started) :
    (collect current p s).cancelled = (p.cancelled || s.build.cancels) := by
  unfold collect
  cases s.build.result with
  | ok output => rfl
  | error e => rfl

/-- Taking up builds cancels a cycle if one of them asks for it. -/
theorem cancelled_foldl_collect (current : Snapshot) (p : Progress) (started : List Started) :
    (started.foldl (collect current) p).cancelled =
      (p.cancelled || started.any (·.build.cancels)) := by
  induction started generalizing p with
  | nil => rw [List.foldl_nil, List.any_nil, Bool.or_false]
  | cons s started ih =>
    rw [List.foldl_cons, ih, cancelled_collect, List.any_cons, Bool.or_assoc]

theorem cancelled_buildTogether_eq (l : Loader) (current : Snapshot) (plan : Plan) (p : Progress)
    (ids : List ModuleId) :
    (l.buildTogether current plan p ids).cancelled =
      (p.cancelled || (l.startAll current plan p ids).2.any (·.build.cancels)) := by
  have hstarted : (l.startAll current plan p ids).1.cancelled = p.cancelled := cancelled_startAll
  rw [← hstarted]
  exact cancelled_foldl_collect _ _ _

theorem cancelled_buildTogether (hl : l.plugins.Plain) :
    (l.buildTogether current plan p ids).cancelled = p.cancelled := by
  have hnone : (l.startAll current plan p ids).2.any (·.build.cancels) = false := by
    rw [List.any_eq_false]
    intro s hs
    rw [cancels_of_mem_startAll hl hs]
    exact Bool.false_ne_true
  rw [cancelled_buildTogether_eq, hnone, Bool.or_false]

theorem cancelled_foldl_buildTogether (hl : l.plugins.Plain) (chunks : List (List ModuleId)) :
    (chunks.foldl (l.buildTogether current plan) p).cancelled = p.cancelled := by
  induction chunks generalizing p with
  | nil => rfl
  | cons chunk chunks ih => rw [List.foldl_cons, ih, cancelled_buildTogether hl]

theorem buildTiers_never (hl : l.plugins.Plain) {checks : Nat} {tiers : List (List ModuleId)}
    (hp : p.cancelled = false) :
    (l.buildTiers current plan .never checks p tiers).2 = false := by
  induction tiers generalizing checks p with
  | nil => exact hp
  | cons tier tiers ih =>
    have hgo : ¬(Interruption.never checks || p.cancelled) = true := by
      rw [hp]
      exact Bool.false_ne_true
    have htier : (l.buildTier current plan p tier).cancelled = false :=
      (cancelled_foldl_buildTogether hl _).trans hp
    rw [buildTiers, if_neg hgo]
    exact ih htier

theorem cancelled_rejectAffected (current : Snapshot) (plan : Plan) (p : Progress) :
    (rejectAffected current plan p).cancelled = p.cancelled := by
  unfold rejectAffected
  generalize plan.affected = ids
  induction ids generalizing p with
  | nil => rfl
  | cons id ids ih =>
    rw [List.foldl_cons, ih]
    cases plan.resolution.rejected.find? id with
    | none => rfl
    | some e => rfl

theorem cancelled_reload (l : Loader) (state : LoaderState) (c : ChangeSet) (stop : Interruption) :
    (l.reload state c stop).report.cancelled =
      (l.buildTiers state.snapshot (state.plan c) stop 0 (state.opening c)
        (state.plan c).resolution.tiers).2 := by
  rw [reload_eq]
  cases l.buildTiers state.snapshot (state.plan c) stop 0 (state.opening c)
      (state.plan c).resolution.tiers with
  | mk p cancelled =>
    cases cancelled with
    | true => rfl
    | false => rfl

end HotReload.Loader

namespace HotReload

/-- A cycle of plain plugins is finished unless it is cancelled from outside. -/
theorem Finished.of_never {l : Loader} {state : LoaderState} (hs : state.snapshot.Keyed)
    (hl : l.plugins.Plain) (c : ChangeSet) :
    ∃ p, Finished l state c p (l.reload state c .never) := by
  have hopening : (state.opening c).cancelled = false := Loader.cancelled_rejectAffected _ _ _
  have hnot : (l.reload state c .never).report.cancelled = false := by
    rw [Loader.cancelled_reload]
    exact Loader.buildTiers_never hl hopening
  exact Finished.of_not_cancelled hs hnot

end HotReload
