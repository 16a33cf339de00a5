import HotReload.Proofs.Reload.Plan
import HotReload.Proofs.Reload.Standing

/-!
# What building tier after tier settles

A cycle starts from an opening in which the rejected modules have failed. Tier after tier, every
affected module gets the standing that its own verdict gives it. The verdict is taken from the
progress of the moment, but nothing that it reads changes afterwards: it reads failures and
entries of modules of earlier tiers only. So the verdicts on all modules so far can be taken from
the present progress (`Settled`), and at the end from the progress that is published
(`settled_of_buildTiers`).
-/

namespace HotReload

/-- The plan of a change-set for what is published. -/
abbrev LoaderState.plan (state : LoaderState) (c : ChangeSet) : Plan :=
  .make state.snapshot c

/-- The progress of a cycle before the first build. -/
def LoaderState.opening (state : LoaderState) (c : ChangeSet) : Progress :=
  Loader.rejectAffected state.snapshot (state.plan c) (.start state (state.plan c))

section Opening

variable {state : LoaderState} {c : ChangeSet} {id : ModuleId}

theorem Standing.fail_fail (st : Standing) (previous : Option Nat) (e : ReloadError) :
    (st.fail previous e).fail previous e = st.fail previous e := rfl

theorem standing_start (state : LoaderState) (c : ChangeSet) (id : ModuleId) :
    (Progress.start state (state.plan c)).standing id = {
      outcome := none
      entry := if id ∈ (state.plan c).removed then none else state.snapshot.find? id
      counter := state.revisions.find? id } := by
  simp only [Progress.standing, Progress.start, SortedMap.find?_empty, SortedMap.find?_filter_key]
  by_cases hid : id ∈ (state.plan c).removed
  · simp [hid]
  · simp [hid, Snapshot.find?]

theorem standing_rejectAffected (current : Snapshot) (plan : Plan) (p : Progress) (id : ModuleId) :
    (Loader.rejectAffected current plan p).standing id =
      if id ∈ plan.affected then
        (plan.resolution.rejected.find? id).elim (p.standing id)
          ((p.standing id).fail (current.revision? id))
      else p.standing id := by
  unfold Loader.rejectAffected
  generalize plan.affected = ids
  induction ids generalizing p with
  | nil => simp
  | cons i ids ih =>
    rw [List.foldl_cons, ih]
    by_cases hi : id = i
    · subst hi
      cases hrejected : plan.resolution.rejected.find? id with
      | none => simp
      | some e => simp [Progress.standing_fail, Standing.fail_fail]
    · cases hrejected : plan.resolution.rejected.find? i with
      | none => simp [hi]
      | some e => simp [Progress.standing_fail, hi]

/-- Before the first build, a rejected module has failed. -/
theorem standing_opening_of_rejected {e : ReloadError} (haffected : id ∈ (state.plan c).affected)
    (he : (state.plan c).resolution.rejected.find? id = some e) :
    (state.opening c).standing id =
      ((Progress.start state (state.plan c)).standing id).fail (state.snapshot.revision? id) e := by
  rw [LoaderState.opening, standing_rejectAffected, if_pos haffected, he]
  rfl

theorem standing_opening_of_notRejected
    (h : (state.plan c).resolution.rejected.find? id = none) :
    (state.opening c).standing id = (Progress.start state (state.plan c)).standing id := by
  rw [LoaderState.opening, standing_rejectAffected, h]
  split <;> rfl

theorem standing_opening_of_notAffected (h : id ∉ (state.plan c).affected) :
    (state.opening c).standing id = (Progress.start state (state.plan c)).standing id := by
  rw [LoaderState.opening, standing_rejectAffected, if_neg h]

end Opening

/-! ## The invariant -/

/-- The modules of `done` are settled by the verdicts on them in the present progress, and all other
modules stand where they stood at the opening. -/
structure Settled (l : Loader) (state : LoaderState) (c : ChangeSet) (done : List ModuleId)
    (p : Progress) : Prop where
  keyed : state.snapshot.Keyed
  built : ∀ id a, id ∈ done → id ∈ (state.plan c).affected →
    (state.plan c).archives.find? id = some a →
      p.standing id =
        ((state.opening c).standing id).settle (state.snapshot.revision? id) a (l.verdict p a)
  untouched : ∀ id, id ∉ done ∨ id ∉ (state.plan c).affected →
    p.standing id = (state.opening c).standing id

/-- Accepted modules that no declared dependency leads out of. -/
structure Plan.Prefix (plan : Plan) (done : List ModuleId) : Prop where
  accepted : ∀ id ∈ done, id ∈ plan.graph.accepted
  closed : ∀ id ∈ done, ∀ d, plan.graph.Edge id d → d ∈ done

section Invariant

variable {l : Loader} {state : LoaderState} {c : ChangeSet} {done : List ModuleId} {p q : Progress}
  {id d : ModuleId} {a : Archive}

theorem settled_opening (l : Loader) (hs : state.snapshot.Keyed) (c : ChangeSet) :
    Settled l state c [] (state.opening c) where
  keyed := hs
  built _ _ hid := nomatch hid
  untouched _ _ := rfl

theorem Settled.congr {done' : List ModuleId} (h : Settled l state c done p)
    (hdone : ∀ id, id ∈ done' ↔ id ∈ done) : Settled l state c done' p where
  keyed := h.keyed
  built id a hid := h.built id a ((hdone id).mp hid)
  untouched id hid := h.untouched id (by rwa [hdone] at hid)

theorem Plan.Prefix.exists_archive (hs : state.snapshot.Keyed) (hdone : (state.plan c).Prefix done)
    (hid : id ∈ done) : ∃ a, (state.plan c).archives.find? id = some a :=
  (Plan.mem_graph_iff hs).mp (DependencyGraph.mem_modules_of_mem_accepted (hdone.accepted id hid))

theorem Standing.hasFailed_settle_error (st : Standing) (previous : Option Nat) (a : Archive)
    (e : ReloadError) : (st.settle previous a (.error e)).hasFailed = true := rfl

/-- A module of a prefix that has not failed stands in the candidate as planned, and neither has
anything failed that it declares as a dependency. -/
theorem Settled.sound (h : Settled l state c done p) (hdone : (state.plan c).Prefix done)
    (hid : id ∈ done) (hfailed : p.hasFailed id = false) :
    ∃ m, p.candidate.find? id = some m ∧ (state.plan c).archives.find? id = some m.archive ∧
      ∀ d ∈ m.spec.dependencies, d ∈ done ∧ p.hasFailed d = false := by
  have hs := h.keyed
  obtain ⟨a, ha⟩ := hdone.exists_archive hs hid
  have hclosed : ∀ d ∈ a.spec.dependencies, d ∈ done := fun d hd =>
    hdone.closed id hid d ((Plan.edge_iff hs ha).mpr hd)
  by_cases haffected : id ∈ (state.plan c).affected
  · have hstanding := h.built id a hid haffected ha
    cases hverdict : l.verdict p a with
    | error e =>
      rw [hverdict] at hstanding
      rw [Progress.hasFailed_eq, hstanding, Standing.hasFailed_settle_error] at hfailed
      cases hfailed
    | ok r =>
      rw [hverdict] at hstanding
      refine ⟨_, congrArg Standing.entry hstanding, ha, fun d hd => ⟨hclosed d hd, ?_⟩⟩
      exact (Loader.verdict_eq_ok_iff.mp hverdict).1 d hd
  · obtain ⟨m, hidle, rfl⟩ := Plan.exists_idle_of_planned ha haffected
    have hremoved := Plan.notMem_removed_of_planned ha
    have hkept : ∀ j, j ∉ (state.plan c).affected →
        p.standing j = (Progress.start state (state.plan c)).standing j := fun j hj =>
      (h.untouched j (.inr hj)).trans (standing_opening_of_notAffected hj)
    refine ⟨m, ?_, ha, fun d hd => ⟨hclosed d hd, ?_⟩⟩
    · have hentry := congrArg Standing.entry (hkept id haffected)
      rw [standing_start] at hentry
      simp only [if_neg hremoved, hidle.published] at hentry
      exact hentry
    · rw [Progress.hasFailed_eq, hkept d (hidle.edge hs hd).1, standing_start]
      rfl

/-- A start reads only settled modules of a region that no declared dependency leads out of. -/
theorem Settled.start_congr_within (h : Settled l state c done p)
    (hdone : (state.plan c).Prefix done) (region : ModuleId → Prop)
    (hclosed : ∀ d e, region d → (state.plan c).graph.Edge d e → region e)
    (hagree : ∀ d ∈ done, region d → q.standing d = p.standing d)
    (hdeps : ∀ d ∈ a.spec.dependencies, d ∈ done ∧ region d) : l.start q a = l.start p a := by
  have halike : AlikeWithin id (fun d => (d ∈ done ∧ region d) ∧ p.hasFailed d = false)
      p.candidate q.candidate := by
    constructor
    · intro m₁ m₂ heq
      exact congrArg (fun m : CompiledModule => m.spec.dependencies) heq
    · intro d hd
      have hstanding := hagree d hd.1.1 hd.1.2
      exact congrArg (Option.map id) (congrArg Standing.entry hstanding).symm
    · intro d m hd hm e he
      obtain ⟨m', hm', hplanned, hsound⟩ := h.sound hdone hd.1.1 hd.2
      rw [hm'] at hm
      cases hm
      have hedge := (Plan.edge_iff h.keyed hplanned).mpr he
      exact ⟨⟨(hsound e he).1, hclosed d e hd.1.2 hedge⟩, (hsound e he).2⟩
  symm
  apply Loader.start_congr
  · intro d hd
    have hstanding := hagree d (hdeps d hd).1 (hdeps d hd).2
    exact Progress.hasFailed_congr hstanding.symm
  · intro hnone
    exact Offer.boundary_congr halike _ _ fun d hd => ⟨hdeps d hd, hnone d hd⟩

/-- A verdict reads no more than a start. -/
theorem Settled.verdict_congr_within (h : Settled l state c done p)
    (hdone : (state.plan c).Prefix done) (region : ModuleId → Prop)
    (hclosed : ∀ d e, region d → (state.plan c).graph.Edge d e → region e)
    (hagree : ∀ d ∈ done, region d → q.standing d = p.standing d)
    (hdeps : ∀ d ∈ a.spec.dependencies, d ∈ done ∧ region d) : l.verdict q a = l.verdict p a := by
  rw [Loader.verdict, Loader.verdict, h.start_congr_within hdone region hclosed hagree hdeps]

/-- A start reads the settled modules only. -/
theorem Settled.start_congr (h : Settled l state c done p)
    (hdone : (state.plan c).Prefix done) (hagree : ∀ d ∈ done, q.standing d = p.standing d)
    (hdeps : ∀ d ∈ a.spec.dependencies, d ∈ done) : l.start q a = l.start p a := by
  apply h.start_congr_within hdone fun _ => True
  · intro d e _ _
    trivial
  · intro d hd _
    exact hagree d hd
  · intro d hd
    exact ⟨hdeps d hd, trivial⟩

/-- A verdict reads the settled modules only. -/
theorem Settled.verdict_congr (h : Settled l state c done p)
    (hdone : (state.plan c).Prefix done) (hagree : ∀ d ∈ done, q.standing d = p.standing d)
    (hdeps : ∀ d ∈ a.spec.dependencies, d ∈ done) : l.verdict q a = l.verdict p a := by
  rw [Loader.verdict, Loader.verdict, h.start_congr hdone hagree hdeps]

end Invariant

/-! ## One tier -/

section Tier

variable {l : Loader} {state : LoaderState} {c : ChangeSet} {done tier : List ModuleId}
  {p q : Progress} {id j : ModuleId} {a : Archive}

theorem flatten_pieces {α : Type*} (extra : Nat) (items : List α) :
    (Loader.pieces extra items).flatten = items := by
  fun_induction Loader.pieces extra items with
  | case1 => rfl
  | case2 a rest ih => rw [List.flatten_cons, ih, List.cons_append, List.take_append_drop]

theorem standing_foldl_buildTogether_of_notMem (hs : state.snapshot.Keyed)
    {chunks : List (List ModuleId)} (hj : j ∉ chunks.flatten) :
    (chunks.foldl (l.buildTogether state.snapshot (state.plan c)) q).standing j = q.standing j := by
  induction chunks generalizing q with
  | nil => rfl
  | cons chunk chunks ih =>
    rw [List.flatten_cons, List.mem_append, not_or] at hj
    rw [List.foldl_cons, ih hj.2]
    exact Loader.standing_buildTogether_of_notMem (fun _ _ => Plan.id_of_archives_find? hs) hj.1

/-- Modules that can be built next: no module twice, none that is settled, and none that depends
on a module that is not. -/
structure Plan.Next (plan : Plan) (done tier : List ModuleId) : Prop where
  nodup : tier.Nodup
  fresh : ∀ id ∈ tier, id ∉ done
  ready : ∀ id ∈ tier, ∀ d, plan.graph.Edge id d → d ∈ done

theorem Plan.Next.dependency (hs : state.snapshot.Keyed) (h : (state.plan c).Next done tier)
    (hid : id ∈ tier) (ha : (state.plan c).archives.find? id = some a) {d : ModuleId}
    (hd : d ∈ a.spec.dependencies) : d ∈ done :=
  h.ready id hid d ((Plan.edge_iff hs ha).mpr hd)

theorem Plan.Next.sideBySide (hs : state.snapshot.Keyed) (h : (state.plan c).Next done tier)
    {ids : List ModuleId} (hsub : ids.Sublist tier) : Loader.SideBySide (state.plan c) ids where
  keyed _ _ := Plan.id_of_archives_find? hs
  nodup := h.nodup.sublist hsub
  independent _ hid _ ha d hd hmem :=
    h.fresh d (hsub.subset hmem) (h.dependency hs (hsub.subset hid) ha hd)

/-- However a tier is cut up, the verdicts before the tier settle each of its modules. -/
theorem Settled.standing_foldl_buildTogether (h : Settled l state c done p)
    (hdone : (state.plan c).Prefix done) (hnext : (state.plan c).Next done tier)
    {chunks : List (List ModuleId)} (hsub : chunks.flatten.Sublist tier)
    (hagree : ∀ d ∈ done, q.standing d = p.standing d)
    (hid : id ∈ chunks.flatten) (ha : (state.plan c).archives.find? id = some a) :
    (chunks.foldl (l.buildTogether state.snapshot (state.plan c)) q).standing id =
      (q.standing id).settle (state.snapshot.revision? id) a (l.verdict p a) := by
  -- `p` is the progress before the tier and `q` the one before the next piece of it: they agree on
  -- everything that a verdict on a module of the tier can read.
  induction chunks generalizing q with
  | nil => simp at hid
  | cons chunk chunks ih =>
    rw [List.flatten_cons] at hsub hid
    have hchunk : chunk.Sublist tier := (List.sublist_append_left _ _).trans hsub
    have hrest : chunks.flatten.Sublist tier := (List.sublist_append_right _ _).trans hsub
    have hside := hnext.sideBySide h.keyed hchunk
    have hdisjoint := (List.nodup_append.mp (hnext.nodup.sublist hsub)).2.2
    rw [List.foldl_cons]
    by_cases hmem : id ∈ chunk
    · have hnot : id ∉ chunks.flatten := fun hin => hdisjoint id hmem id hin rfl
      have hverdict : l.verdict q a = l.verdict p a :=
        h.verdict_congr hdone hagree fun d hd =>
          hnext.dependency h.keyed (hchunk.subset hmem) ha hd
      rw [standing_foldl_buildTogether_of_notMem h.keyed hnot,
        Loader.standing_buildTogether hside hmem ha, hverdict]
    · have hid := (List.mem_append.mp hid).resolve_left hmem
      have hagree' : ∀ d ∈ done,
          (l.buildTogether state.snapshot (state.plan c) q chunk).standing d = p.standing d := by
        intro d hd
        have hd' : d ∉ chunk := fun hin => hnext.fresh d (hchunk.subset hin) hd
        rw [Loader.standing_buildTogether_of_notMem hside.keyed hd', hagree d hd]
      rw [ih hrest hagree' hid, Loader.standing_buildTogether_of_notMem hside.keyed hmem]

/-- Building a tier settles its modules. -/
theorem Settled.buildTier (h : Settled l state c done p) (hdone : (state.plan c).Prefix done)
    (hnext : (state.plan c).Next done tier) :
    Settled l state c (tier ++ done) (l.buildTier state.snapshot (state.plan c) p tier) := by
  have hpieces : (Loader.pieces l.extraBuilds ((state.plan c).workOf tier)).flatten =
      (state.plan c).workOf tier := flatten_pieces _ _
  have hwork : ∀ j, j ∈ (state.plan c).workOf tier ↔ j ∈ tier ∧ j ∈ (state.plan c).affected := by
    simp [Plan.workOf]
  have hkept : ∀ j, j ∉ (state.plan c).workOf tier →
      (l.buildTier state.snapshot (state.plan c) p tier).standing j = p.standing j := by
    intro j hj
    rw [← hpieces] at hj
    exact standing_foldl_buildTogether_of_notMem h.keyed hj
  have hagree : ∀ d ∈ done,
      (l.buildTier state.snapshot (state.plan c) p tier).standing d = p.standing d := by
    intro d hd
    exact hkept d fun hin => hnext.fresh d ((hwork d).mp hin).1 hd
  constructor
  · exact h.keyed
  · intro id a hid haffected ha
    by_cases htier : id ∈ tier
    · have hmem : id ∈ (state.plan c).workOf tier := (hwork id).mpr ⟨htier, haffected⟩
      have hbuilt : (l.buildTier state.snapshot (state.plan c) p tier).standing id =
          (p.standing id).settle (state.snapshot.revision? id) a (l.verdict p a) :=
        h.standing_foldl_buildTogether hdone hnext
          (hpieces.symm ▸ List.filter_sublist) (fun _ _ => rfl) (hpieces.symm ▸ hmem) ha
      rw [hbuilt, h.untouched id (.inl (hnext.fresh id htier)),
        h.verdict_congr hdone hagree fun d hd => hnext.dependency h.keyed htier ha hd]
    · have hid := (List.mem_append.mp hid).resolve_left htier
      rw [hagree id hid, h.built id a hid haffected ha,
        h.verdict_congr hdone hagree fun d hd =>
          hdone.closed id hid d ((Plan.edge_iff h.keyed ha).mpr hd)]
  · intro id hid
    have hnot : id ∉ (state.plan c).workOf tier := by
      rw [hwork]
      rintro ⟨htier, haffected⟩
      rcases hid with hid | hid
      · exact hid (List.mem_append_left _ htier)
      · exact hid haffected
    rw [hkept id hnot]
    refine h.untouched id (hid.imp_left fun hid hmem => hid ?_)
    exact List.mem_append_right _ hmem

end Tier

/-! ## All tiers -/

/-- Tiers that are yet to be built after the modules of `done`: each stands on what comes before it. -/
structure Plan.Schedule (plan : Plan) (done : List ModuleId) (tiers : List (List ModuleId)) :
    Prop where
  isPrefix : plan.Prefix done
  buildsOn : plan.graph.BuildsOn done tiers
  nodup : (tiers.flatten ++ done).Nodup
  accepted : ∀ id ∈ tiers.flatten, id ∈ plan.graph.accepted

section Schedule

variable {plan : Plan} {done tier : List ModuleId} {tiers : List (List ModuleId)}

/-- The tiers of a plan are the schedule of its cycle. -/
theorem schedule_tiers (state : LoaderState) (c : ChangeSet) :
    (state.plan c).Schedule [] (state.plan c).resolution.tiers where
  isPrefix := ⟨by simp, by simp⟩
  buildsOn := (state.plan c).graph.buildsOn_tiers
  nodup := by
    rw [List.append_nil]
    exact (state.plan c).graph.accepted_nodup
  accepted _ hid := hid

/-- The first tier of a schedule can be built next. -/
theorem Plan.Schedule.next (h : plan.Schedule done (tier :: tiers)) : plan.Next done tier := by
  have hnodup := h.nodup
  rw [List.flatten_cons, List.append_assoc, List.nodup_append] at hnodup
  refine ⟨hnodup.1, fun id hid hmem => ?_, h.buildsOn.1⟩
  exact hnodup.2.2 id hid id (List.mem_append_right _ hmem) rfl

/-- When the first tier of a schedule is built, the other tiers are what is left. -/
theorem Plan.Schedule.tail (h : plan.Schedule done (tier :: tiers)) :
    plan.Schedule (tier ++ done) tiers := by
  have haccepted := h.accepted
  rw [List.flatten_cons] at haccepted
  constructor
  · constructor
    · intro id hid
      rcases List.mem_append.mp hid with hid | hid
      · exact haccepted id (List.mem_append_left _ hid)
      · exact h.isPrefix.accepted id hid
    · intro id hid d hd
      rcases List.mem_append.mp hid with hid | hid
      · exact List.mem_append_right _ (h.buildsOn.1 id hid d hd)
      · exact List.mem_append_right _ (h.isPrefix.closed id hid d hd)
  · exact h.buildsOn.2
  · have hperm : (tiers.flatten ++ (tier ++ done)).Perm (tier ++ (tiers.flatten ++ done)) := by
      rw [← List.append_assoc, ← List.append_assoc]
      exact List.perm_append_comm.append_right done
    rw [hperm.nodup_iff, ← List.append_assoc]
    exact h.nodup
  · intro id hid
    exact haccepted id (List.mem_append_right _ hid)

end Schedule

section Tiers

variable {l : Loader} {state : LoaderState} {c : ChangeSet} {stop : Interruption}
  {done : List ModuleId} {p p' : Progress}

theorem Settled.buildTiers {tiers : List (List ModuleId)} {checks : Nat}
    (h : Settled l state c done p) (hschedule : (state.plan c).Schedule done tiers)
    (hbuild : l.buildTiers state.snapshot (state.plan c) stop checks p tiers = (p', false)) :
    Settled l state c (tiers.flatten ++ done) p' := by
  induction tiers generalizing checks p done with
  | nil =>
    rw [Loader.buildTiers, Prod.mk.injEq] at hbuild
    rw [← hbuild.1]
    exact h
  | cons tier tiers ih =>
    rw [Loader.buildTiers] at hbuild
    split at hbuild
    next => cases hbuild
    next =>
      have htier := h.buildTier hschedule.isPrefix hschedule.next
      have hsettled := ih htier hschedule.tail hbuild
      refine hsettled.congr fun id => ?_
      simp only [List.flatten_cons, List.mem_append]
      tauto

/-- At the end of a cycle that is not cancelled, every module that was accepted is settled. -/
theorem settled_of_buildTiers (hs : state.snapshot.Keyed)
    (hbuild : l.buildTiers state.snapshot (state.plan c) stop 0 (state.opening c)
      (state.plan c).resolution.tiers = (p', false)) :
    Settled l state c (state.plan c).graph.accepted p' := by
  have hsettled := (settled_opening l hs c).buildTiers (schedule_tiers state c) hbuild
  rw [List.append_nil] at hsettled
  exact hsettled

theorem Plan.prefix_accepted (plan : Plan) : plan.Prefix plan.graph.accepted where
  accepted _ hid := hid
  closed _ hid _ hd := DependencyGraph.mem_accepted_of_edge hid hd

end Tiers

end HotReload
