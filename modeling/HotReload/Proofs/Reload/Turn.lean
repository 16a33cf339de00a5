import HotReload.Proofs.Reload.Ending

/-!
# The turns of a cycle

A cycle comes to every accepted module that it affects, and then decides whether to build it
(`Loader.Turn`, `exists_turn`). At that moment all its dependencies are settled, and what it
reads of them is what the cycle ends with (`Loader.Turn.exists_grounds`). So the turn of a module ends
in the same way whether it is looked at when it comes or when the cycle is over
(`Loader.Turn.ending_eq`).
-/

namespace HotReload

namespace Loader

/-- The turn of a module in a cycle: the tiers `before` have been built and then the pieces `front` of
its own tier, and it has been decided for all modules `ahead` of it in its piece whether to build
them. -/
inductive Turn (l : Loader) (state : LoaderState) (c : ChangeSet) (stop : Interruption)
    (id : ModuleId) (a : Archive) : Progress → Prop
  | intro {before after front back : List (List ModuleId)} {tier ahead behind : List ModuleId}
      {p : Progress} (tiers : (state.plan c).resolution.tiers = before ++ tier :: after)
      (built : l.buildTiers state.snapshot (state.plan c) stop 0 (state.opening c) before =
        (p, false))
      (cut : pieces l.extraBuilds ((state.plan c).workOf tier) =
        front ++ (ahead ++ id :: behind) :: back)
      (planned : (state.plan c).archives.find? id = some a) :
      Turn l state c stop id a
        (l.startAll state.snapshot (state.plan c)
          (front.foldl (l.buildTogether state.snapshot (state.plan c)) p) ahead).1

section Tiers

variable {l : Loader} {current : Snapshot} {plan : Plan} {stop : Interruption} {checks : Nat}
  {p : Progress} {before after : List (List ModuleId)}

/-- A cycle builds some tiers and then, unless it was cancelled, the others. -/
theorem buildTiers_append :
    l.buildTiers current plan stop checks p (before ++ after) =
      match l.buildTiers current plan stop checks p before with
      | (q, true) => (q, true)
      | (q, false) => l.buildTiers current plan stop (checks + before.length) q after := by
  induction before generalizing checks p with
  | nil =>
    rw [List.nil_append, buildTiers]
    cases hgo : stop checks || p.cancelled with
    | false => rfl
    | true =>
      cases after with
      | nil => rw [buildTiers, hgo]
      | cons tier tiers => rw [buildTiers, if_pos hgo]
  | cons tier before ih =>
    rw [List.cons_append, buildTiers, buildTiers]
    split
    next => rfl
    next =>
      have hlength : checks + 1 + before.length = checks + (tier :: before).length := by
        rw [List.length_cons, Nat.add_assoc, Nat.add_comm 1]
      rw [ih, hlength]

end Tiers

end Loader

section Turn

variable {l : Loader} {state : LoaderState} {c : ChangeSet} {stop : Interruption}
  {done : List ModuleId} {p p' q : Progress} {id j : ModuleId} {a : Archive}

/-- Building tiers leaves alone what is in none of them. -/
theorem standing_of_buildTiers (hs : state.snapshot.Keyed) {tiers : List (List ModuleId)}
    {checks : Nat} {cancelled : Bool} (hj : j ∉ tiers.flatten)
    (hbuild : l.buildTiers state.snapshot (state.plan c) stop checks p tiers = (q, cancelled)) :
    q.standing j = p.standing j := by
  induction tiers generalizing checks p with
  | nil =>
    rw [Loader.buildTiers, Prod.mk.injEq] at hbuild
    rw [← hbuild.1]
  | cons tier tiers ih =>
    rw [List.flatten_cons, List.mem_append, not_or] at hj
    rw [Loader.buildTiers] at hbuild
    split at hbuild
    next =>
      rw [Prod.mk.injEq] at hbuild
      rw [← hbuild.1]
    next =>
      rw [ih hj.2 hbuild]
      apply standing_foldl_buildTogether_of_notMem hs
      rw [flatten_pieces]
      exact fun hmem => hj.1 (List.mem_of_mem_filter hmem)

/-- After some tiers of a schedule the modules before the other ones are settled. -/
theorem Settled.exists_schedule {before rest : List (List ModuleId)} {checks : Nat}
    (h : Settled l state c done p) (hschedule : (state.plan c).Schedule done (before ++ rest))
    (hbuild : l.buildTiers state.snapshot (state.plan c) stop checks p before = (q, false)) :
    ∃ done', (state.plan c).Schedule done' rest ∧ Settled l state c done' q := by
  induction before generalizing checks p done with
  | nil =>
    rw [Loader.buildTiers, Prod.mk.injEq] at hbuild
    rw [← hbuild.1]
    exact ⟨done, hschedule, h⟩
  | cons tier before ih =>
    rw [Loader.buildTiers] at hbuild
    split at hbuild
    next => cases hbuild
    next =>
      have htier := h.buildTier hschedule.isPrefix hschedule.next
      exact ih htier hschedule.tail hbuild

/-- What the turn of a module rests on: modules that were settled at the progress `p`, and that the
dependencies of the module are among. -/
structure Loader.Turn.Grounds (l : Loader) (state : LoaderState) (c : ChangeSet) (q : Progress)
    (a : Archive) (done : List ModuleId) (p : Progress) : Prop where
  settled : Settled l state c done p
  isPrefix : (state.plan c).Prefix done
  agree : ∀ d ∈ done, q.standing d = p.standing d
  ready : ∀ d ∈ a.spec.dependencies, d ∈ done

/-- When the turn of a module comes its dependencies are settled, and they stay as they are to the end
of the cycle. -/
theorem Loader.Turn.exists_grounds (hs : state.snapshot.Keyed) (h : l.Turn state c stop id a q) :
    ∃ done p, Loader.Turn.Grounds l state c q a done p ∧
      ∀ p', l.buildTiers state.snapshot (state.plan c) stop 0 (state.opening c)
          (state.plan c).resolution.tiers = (p', false) →
        ∀ d ∈ done, p'.standing d = p.standing d := by
  obtain @⟨before, after, front, back, tier, ahead, behind, p, htiers, hbuilt, hcut, hplanned⟩ := h
  have hschedule := schedule_tiers state c
  rw [htiers] at hschedule
  obtain ⟨done, hrest, hsettled⟩ :=
    (settled_opening l hs c).exists_schedule hschedule hbuilt
  have htier : ∀ j ∈ (front ++ (ahead ++ id :: behind) :: back).flatten, j ∈ tier := by
    intro j hj
    rw [← hcut, flatten_pieces] at hj
    exact List.mem_of_mem_filter hj
  refine ⟨done, p, ⟨hsettled, hrest.isPrefix, ?_, ?_⟩, ?_⟩
  · intro d hd
    have hnot : d ∉ tier := fun hmem => hrest.next.fresh d hmem hd
    have hfront : d ∉ front.flatten := fun hmem => hnot (htier d (by simp [hmem]))
    have hahead : d ∉ ahead := fun hmem => hnot (htier d (by simp [hmem]))
    rw [Loader.standing_startAll_of_notMem hahead,
      standing_foldl_buildTogether_of_notMem hs hfront]
  · intro d hd
    exact hrest.next.dependency hs (htier id (by simp)) hplanned hd
  · intro p' hbuild d hd
    rw [htiers, Loader.buildTiers_append, hbuilt] at hbuild
    have hnot : d ∉ (tier :: after).flatten := by
      intro hmem
      exact (List.nodup_append.mp hrest.nodup).2.2 d hmem d hd rfl
    exact standing_of_buildTiers hs hnot hbuild

/-- At the turn of a module none of whose dependencies has failed, the modules that it leads to are
there to be linked. -/
theorem Loader.Turn.exists_linkedModules (hs : state.snapshot.Keyed)
    (h : l.Turn state c stop id a q)
    (hnone : ∀ d ∈ a.spec.dependencies, q.hasFailed d = false) :
    ∃ ms, a.spec.linkedModules q.candidate = .ok ms := by
  obtain ⟨done, p, hgrounds, -⟩ := h.exists_grounds hs
  exact hgrounds.settled.exists_linkedModules hgrounds.isPrefix hgrounds.agree hgrounds.ready hnone

/-- The turn of a module ends as what has failed at the end of the cycle says. -/
theorem Loader.Turn.ending_eq (hs : state.snapshot.Keyed) (h : l.Turn state c stop id a q)
    (hbuild : l.buildTiers state.snapshot (state.plan c) stop 0 (state.opening c)
      (state.plan c).resolution.tiers = (p', false)) :
    l.ending q.hasFailed a = l.ending p'.hasFailed a := by
  obtain ⟨done, p, hgrounds, hkept⟩ := h.exists_grounds hs
  have hsame : ∀ d ∈ a.spec.dependencies, q.hasFailed d = p'.hasFailed d := by
    intro d hd
    have hdone := hgrounds.ready d hd
    apply Progress.hasFailed_congr
    rw [hgrounds.agree d hdone, hkept p' hbuild d hdone]
  rw [Loader.ending, Loader.ending, List.find?_congr hsame]

/-- Unless a cycle is cancelled, the turn of every accepted module that it affects comes. -/
theorem exists_turn (haccepted : id ∈ (state.plan c).graph.accepted)
    (haffected : id ∈ (state.plan c).affected)
    (hplanned : (state.plan c).archives.find? id = some a)
    (hbuild : l.buildTiers state.snapshot (state.plan c) stop 0 (state.opening c)
      (state.plan c).resolution.tiers = (p', false)) :
    ∃ q, l.Turn state c stop id a q := by
  obtain ⟨tier, htier, hid⟩ := List.mem_flatten.mp haccepted
  obtain ⟨before, after, htiers⟩ := List.append_of_mem htier
  have hwork : id ∈ (Loader.pieces l.extraBuilds ((state.plan c).workOf tier)).flatten := by
    rw [flatten_pieces, Plan.workOf, List.mem_filter, List.contains_iff_mem]
    exact ⟨hid, haffected⟩
  obtain ⟨piece, hpiece, hmem⟩ := List.mem_flatten.mp hwork
  obtain ⟨front, back, hcut⟩ := List.append_of_mem hpiece
  obtain ⟨ahead, behind, rfl⟩ := List.append_of_mem hmem
  have htiers : (state.plan c).resolution.tiers = before ++ tier :: after := htiers
  rw [htiers, Loader.buildTiers_append] at hbuild
  cases hbuilt : l.buildTiers state.snapshot (state.plan c) stop 0 (state.opening c) before with
  | mk p cancelled =>
    rw [hbuilt] at hbuild
    cases cancelled with
    | true => cases hbuild
    | false => exact ⟨_, .intro htiers hbuilt hcut hplanned⟩

end Turn

end HotReload
