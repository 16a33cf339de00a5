import HotReload.Proofs.Dependency.Locality
import HotReload.Proofs.History.Publication
import HotReload.Proofs.Relation

/-!
# Failures are contained

Whatever is submitted for one module, a working archive or a broken one, one that closes a cycle,
none at all or a removal, makes no difference to a module that does not depend on it
(`noninterference_of_apart`). A cycle works on all affected modules together, but whether a module is
affected, whether it is rejected and what its build reads are all settled by what it depends on.
-/

namespace HotReload

open Relation

/-- Two change-sets submit the same archives for a module, and both remove it or neither. -/
structure ChangeSet.AlikeFor (c₁ c₂ : ChangeSet) (id : ModuleId) : Prop where
  adds : c₁.adds.filter (·.id = id) = c₂.adds.filter (·.id = id)
  updates : c₁.updates.filter (·.id = id) = c₂.updates.filter (·.id = id)
  removes : id ∈ c₁.removes ↔ id ∈ c₂.removes

/-- Two change-sets differ at most in what they submit or remove for one module. -/
def ChangeSet.DifferAt (c₁ c₂ : ChangeSet) (n : ModuleId) : Prop :=
  ∀ id, id ≠ n → c₁.AlikeFor c₂ id

/-- A module other than `n` that does not depend on `n`, whichever of two change-sets is planned. -/
structure Snapshot.Apart (s : Snapshot) (c₁ c₂ : ChangeSet) (n id : ModuleId) : Prop where
  ne : id ≠ n
  first : ¬(Plan.make s c₁).graph.DependsOn id n
  second : ¬(Plan.make s c₂).graph.DependsOn id n

/-! ## Plans -/

section Plan

variable {s : Snapshot} {c₁ c₂ : ChangeSet} {n id : ModuleId}

namespace ChangeSet.AlikeFor

theorem incoming_find?_eq (h : c₁.AlikeFor c₂ id) :
    c₁.incoming.find? id = c₂.incoming.find? id := by
  simp only [incoming_find?, List.filter_append, h.adds, h.updates, h.removes]

theorem mem_removed_iff (h : c₁.AlikeFor c₂ id) (s : Snapshot) :
    id ∈ (Plan.make s c₁).removed ↔ id ∈ (Plan.make s c₂).removed := by
  rw [Plan.mem_removed_iff, Plan.mem_removed_iff, h.removes]

theorem archives_find?_eq (h : c₁.AlikeFor c₂ id) (s : Snapshot) :
    (Plan.make s c₁).archives.find? id = (Plan.make s c₂).archives.find? id := by
  simp only [Plan.archives_find?, h.incoming_find?_eq, h.removes]

theorem changes_iff (h : c₁.AlikeFor c₂ id) (s : Snapshot) :
    (Plan.make s c₁).Changes id ↔ (Plan.make s c₂).Changes id := by
  rw [Plan.Changes, Plan.Changes, Plan.incoming_make, Plan.incoming_make, h.incoming_find?_eq,
    h.mem_removed_iff]

end ChangeSet.AlikeFor

/-- The plans agree on all that does not depend on the module in which they differ. -/
theorem agreeWithin_apart (hs : s.Keyed) (hdiffer : c₁.DifferAt c₂ n) :
    DependencyGraph.AgreeWithin (s.Apart c₁ c₂ n) (Plan.make s c₁).graph
      (Plan.make s c₂).graph := by
  have hfind : ∀ a, s.Apart c₁ c₂ n a →
      (Plan.make s c₁).graph.edges.find? a = (Plan.make s c₂).graph.edges.find? a := by
    intro a ha
    rw [Plan.graph_edges_find? hs, Plan.graph_edges_find? hs, (hdiffer a ha.ne).archives_find?_eq]
  have hedges : ∀ a b, s.Apart c₁ c₂ n a →
      ((Plan.make s c₁).graph.Edge a b ↔ (Plan.make s c₂).graph.Edge a b) := by
    intro a b ha
    rw [DependencyGraph.Edge, DependencyGraph.Edge, DependencyGraph.dependencies,
      DependencyGraph.dependencies, hfind a ha]
  constructor
  · intro a ha
    rw [DependencyGraph.mem_modules_iff, DependencyGraph.mem_modules_iff, hfind a ha]
  · exact hedges
  · intro a b ha hab
    constructor
    · rintro rfl
      exact ha.first (.single hab)
    · intro hpath
      exact ha.first (.head hab hpath)
    · intro hpath
      exact ha.second (.head ((hedges a b ha).mp hab) hpath)

theorem mem_affected_iff_of_apart (hs : s.Keyed) (hdiffer : c₁.DifferAt c₂ n)
    (hid : s.Apart c₁ c₂ n id) :
    id ∈ (Plan.make s c₁).affected ↔ id ∈ (Plan.make s c₂).affected := by
  have hagree := agreeWithin_apart hs hdiffer
  have halike := hdiffer id hid.ne
  rw [Plan.mem_affected_iff, Plan.mem_affected_iff, halike.archives_find?_eq, Plan.incoming_make,
    Plan.incoming_make, halike.incoming_find?_eq]
  refine and_congr_right fun _ => or_congr_right ?_
  constructor
  · rintro ⟨root, hroot, hpath⟩
    obtain ⟨hapart, hpath₂⟩ := hagree.dependsOn hid hpath
    exact ⟨root, ((hdiffer root hapart.ne).changes_iff s).mp hroot, hpath₂⟩
  · rintro ⟨root, hroot, hpath⟩
    obtain ⟨hapart, hpath₁⟩ := hagree.symm.dependsOn hid hpath
    exact ⟨root, ((hdiffer root hapart.ne).changes_iff s).mpr hroot, hpath₁⟩

end Plan

/-! ## Cycles -/

section Cycle

variable {l : Loader} {state : LoaderState} {c₁ c₂ : ChangeSet} {p₁ p₂ : Progress}
  {run₁ run₂ : Loader.Run} {n id : ModuleId}

theorem standing_opening_eq_of_apart (hs : state.snapshot.Keyed)
    (hdiffer : c₁.DifferAt c₂ n) (hid : state.snapshot.Apart c₁ c₂ n id) :
    (state.opening c₁).standing id = (state.opening c₂).standing id := by
  have hrejected : (state.plan c₁).resolution.rejected.find? id =
      (state.plan c₂).resolution.rejected.find? id := (agreeWithin_apart hs hdiffer).rejected_eq hid
  simp only [LoaderState.opening, standing_rejectAffected, standing_start, hrejected,
    mem_affected_iff_of_apart hs hdiffer hid, (hdiffer id hid.ne).mem_removed_iff]

/-- A module ends up in the same way in both cycles if all that it depends on does. -/
theorem Settled.standing_eq_of_dependencies
    (h₁ : Settled l state c₁ (state.plan c₁).graph.accepted p₁)
    (h₂ : Settled l state c₂ (state.plan c₂).graph.accepted p₂)
    (hdiffer : c₁.DifferAt c₂ n) (hid : state.snapshot.Apart c₁ c₂ n id)
    (hdeps : id ∈ (state.plan c₁).graph.accepted →
      ∀ d, (state.plan c₁).graph.DependsOn id d → p₁.standing d = p₂.standing d) :
    p₁.standing id = p₂.standing id := by
  have hs := h₁.keyed
  have hopening := standing_opening_eq_of_apart hs hdiffer hid
  have haccepted := (agreeWithin_apart hs hdiffer).mem_accepted_iff hid
  have haffected := mem_affected_iff_of_apart hs hdiffer hid
  by_cases hbuilt : id ∈ (state.plan c₁).graph.accepted ∧ id ∈ (state.plan c₁).affected
  · obtain ⟨hacc₁, haff₁⟩ := hbuilt
    have hdone := (state.plan c₁).prefix_accepted
    obtain ⟨a, ha₁⟩ := hdone.exists_archive hs hacc₁
    have ha₂ : (state.plan c₂).archives.find? id = some a := by
      rw [← (hdiffer id hid.ne).archives_find?_eq]
      exact ha₁
    have hverdict : l.verdict p₂ a = l.verdict p₁ a := by
      apply h₁.verdict_congr_within hdone ((state.plan c₁).graph.DependsOn id)
      · intro d e hd hde
        exact hd.tail hde
      · intro d _ hd
        exact (hdeps hacc₁ d hd).symm
      · intro d hd
        have hedge := (Plan.edge_iff hs ha₁).mpr hd
        exact ⟨hdone.closed id hacc₁ d hedge, .single hedge⟩
    rw [h₁.built id a hacc₁ haff₁ ha₁,
      h₂.built id a (haccepted.mp hacc₁) (haffected.mp haff₁) ha₂, hopening, hverdict]
  · have hbuilt₂ : ¬(id ∈ (state.plan c₂).graph.accepted ∧ id ∈ (state.plan c₂).affected) := by
      rw [← haccepted, ← haffected]
      exact hbuilt
    rw [h₁.untouched id (not_and_or.mp hbuilt), h₂.untouched id (not_and_or.mp hbuilt₂), hopening]

theorem Settled.standing_eq_of_apart
    (h₁ : Settled l state c₁ (state.plan c₁).graph.accepted p₁)
    (h₂ : Settled l state c₂ (state.plan c₂).graph.accepted p₂)
    (hdiffer : c₁.DifferAt c₂ n) (hid : state.snapshot.Apart c₁ c₂ n id) :
    p₁.standing id = p₂.standing id := by
  have hagree := agreeWithin_apart h₁.keyed hdiffer
  -- Accepted modules depend on accepted ones only, and not on themselves.
  have key : ∀ a ∈ (state.plan c₁).graph.accepted, state.snapshot.Apart c₁ c₂ n a →
      p₁.standing a = p₂.standing a := by
    refine forall_mem_of_no_loop (r := (state.plan c₁).graph.DependsOn) ?_ ?_
    · intro a ha hloop
      have : IsTrans ModuleId (state.plan c₁).graph.DependsOn := ⟨fun _ _ _ => TransGen.trans⟩
      rw [transGen_eq_self] at hloop
      exact DependencyGraph.not_dependsOn_self_of_mem_accepted ha hloop
    · intro a _ ih ha
      apply h₁.standing_eq_of_dependencies h₂ hdiffer ha
      intro hacc d hd
      have hd' := DependencyGraph.mem_accepted_of_path hacc hd.to_reflTransGen
      exact ih d hd' hd (hagree.dependsOn ha hd).1
  by_cases hacc : id ∈ (state.plan c₁).graph.accepted
  · exact key id hacc hid
  · apply h₁.standing_eq_of_dependencies h₂ hdiffer hid
    intro hacc'
    exact absurd hacc' hacc

/-- Two finished cycles leave a module in the same way if their change-sets differ only for another
module, on which it does not depend. -/
theorem Finished.standing_eq_of_apart (h₁ : Finished l state c₁ p₁ run₁)
    (h₂ : Finished l state c₂ p₂ run₂) (hdiffer : c₁.DifferAt c₂ n)
    (hid : state.snapshot.Apart c₁ c₂ n id) : run₁.standing id = run₂.standing id := by
  have hstanding := h₁.settled.standing_eq_of_apart h₂.settled hdiffer hid
  have houtcome : p₁.outcomes.find? id = p₂.outcomes.find? id :=
    congrArg Standing.outcome hstanding
  rw [h₁.standing_eq, h₂.standing_eq]
  simp only [Progress.final, find?_withRemoved, hstanding, houtcome,
    (hdiffer id hid.ne).mem_removed_iff]

end Cycle

/-- In every reachable state, two change-sets that differ only in what they submit or remove for one
module have the same effect on every other module that does not depend on it, neither with the one
change-set nor with the other, if no cycle is cancelled: the same outcome, with the same revision or
the same error, and the same published module. -/
theorem noninterference_of_apart (h : History) (l : Loader) (c₁ c₂ : ChangeSet)
    (stop₁ stop₂ : Interruption) (n x : ModuleId)
    (hdiffer : c₁.DifferAt c₂ n) (hapart : h.state.snapshot.Apart c₁ c₂ n x)
    (hrun₁ : (l.reload h.state c₁ stop₁).report.cancelled = false)
    (hrun₂ : (l.reload h.state c₂ stop₂).report.cancelled = false) :
    (l.reload h.state c₁ stop₁).report.outcomes.find? x =
        (l.reload h.state c₂ stop₂).report.outcomes.find? x ∧
      (l.reload h.state c₁ stop₁).state.snapshot.find? x =
        (l.reload h.state c₂ stop₂).state.snapshot.find? x ∧
      (l.reload h.state c₁ stop₁).state.revisions.find? x =
        (l.reload h.state c₂ stop₂).state.revisions.find? x := by
  obtain ⟨p₁, hfinished₁⟩ := Finished.of_not_cancelled h.keyed_state hrun₁
  obtain ⟨p₂, hfinished₂⟩ := Finished.of_not_cancelled h.keyed_state hrun₂
  have hstanding := hfinished₁.standing_eq_of_apart hfinished₂ hdiffer hapart
  refine ⟨?_, ?_, ?_⟩
  · exact congrArg Standing.outcome hstanding
  · exact congrArg Standing.entry hstanding
  · exact congrArg Standing.counter hstanding

namespace Sample

/-- An update of both modules that breaks the one that refers to the library. -/
def breakUser : ChangeSet :=
  (ChangeSet.update ∅ (libraryArchive "let x=2")).update (archive (.empty user) "let")

/-- An update of the library that removes the module that refers to it. -/
def removeUser : ChangeSet :=
  (ChangeSet.update ∅ (libraryArchive "let x=2")).remove user

end Sample

/-- An update of a library has the same effect whether a module that refers to it breaks or goes. -/
theorem noninterference_library :
    let state := (History.empty.serve Sample.load).state
    let run₁ := Sample.loader.reload state Sample.breakUser .never
    let run₂ := Sample.loader.reload state Sample.removeUser .never
    Sample.breakUser.DifferAt Sample.removeUser Sample.user ∧
      state.snapshot.Apart Sample.breakUser Sample.removeUser Sample.user Sample.library ∧
      run₁.report.cancelled = false ∧ run₂.report.cancelled = false ∧
      run₁.report.outcomes.find? Sample.library = run₂.report.outcomes.find? Sample.library ∧
      run₁.state.snapshot.find? Sample.library = run₂.state.snapshot.find? Sample.library ∧
      run₁.state.revisions.find? Sample.library = run₂.state.revisions.find? Sample.library := by
  have hdiffer : Sample.breakUser.DifferAt Sample.removeUser Sample.user := by
    intro id hid
    have hbroken : (Sample.archive (.empty Sample.user) "let").id = Sample.user := rfl
    constructor
    · rfl
    · simp [Sample.breakUser, Sample.removeUser, ChangeSet.update, ChangeSet.remove,
        List.filter_cons, hbroken, Ne.symm hid]
    · simp [Sample.breakUser, Sample.removeUser, ChangeSet.update, ChangeSet.remove, hid,
        EmptyCollection.emptyCollection]
  have hfree : ∀ g : DependencyGraph, g.dependencies Sample.library = [] →
      ¬g.DependsOn Sample.library Sample.user := by
    intro g hnone hpath
    obtain ⟨d, hd, -⟩ := TransGen.head'_iff.mp hpath
    rw [DependencyGraph.Edge, hnone] at hd
    cases hd
  have hapart : (History.empty.serve Sample.load).state.snapshot.Apart Sample.breakUser
      Sample.removeUser Sample.user Sample.library := by
    constructor
    · decide
    · apply hfree
      cbv
    · apply hfree
      cbv
  have hrun₁ : (Sample.loader.reload (History.empty.serve Sample.load).state Sample.breakUser
      .never).report.cancelled = false := by cbv
  have hrun₂ : (Sample.loader.reload (History.empty.serve Sample.load).state Sample.removeUser
      .never).report.cancelled = false := by cbv
  exact ⟨hdiffer, hapart, hrun₁, hrun₂,
    noninterference_of_apart _ _ _ _ _ _ _ _ hdiffer hapart hrun₁ hrun₂⟩

end HotReload
