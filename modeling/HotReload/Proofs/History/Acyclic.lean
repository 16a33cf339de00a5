import HotReload.Proofs.History.Links
import Mathlib.Data.List.Chain

/-!
# No cycle is ever published

Resolution rejects cycles among the archives of a plan only, while a cycle of requests may publish
some of them next to old modules that failed. What carries the proof is that failures spread
against declared dependencies: a module that is planned and has not failed depends on such modules
only (`Sound.of_declares`). So a loop among the published modules lies either among those, where
resolution would have rejected it, or among modules that are as they were before
(`Finished.sound_or_dependsOn`).
-/

namespace HotReload

open Relation

/-- A module that was accepted for building and has not failed. -/
def Sound (state : LoaderState) (c : ChangeSet) (p : Progress) (id : ModuleId) : Prop :=
  id ∈ (state.plan c).graph.accepted ∧ p.hasFailed id = false

section Step

variable {l : Loader} {state : LoaderState} {c : ChangeSet} {p : Progress} {run : Loader.Run}
  {id d : ModuleId}

/-- What a sound module declares is sound and was planned. -/
theorem Sound.of_declares (h : Finished l state c p run)
    (hid : Sound state c p id) (hd : run.state.snapshot.Declares id d) :
    Sound state c p d ∧ (state.plan c).graph.Edge id d := by
  obtain ⟨m, hm, hdeclared⟩ := hd
  obtain ⟨m', hm', hplanned, hclosed⟩ :=
    h.settled.sound (state.plan c).prefix_accepted hid.1 hid.2
  have hsame : m = m' := by
    rw [Snapshot.find?, h.modules_eq, hm'] at hm
    exact (Option.some.inj hm).symm
  rw [hsame] at hdeclared
  have hedge : (state.plan c).graph.Edge id d :=
    (Plan.edge_iff h.settled.keyed hplanned).mpr hdeclared
  exact ⟨hclosed d hdeclared, hedge⟩

/-- What was built and is not reported as a failure is sound. -/
theorem Finished.sound (h : Finished l state c p run) (haffected : id ∈ (state.plan c).affected)
    (haccepted : id ∈ (state.plan c).graph.accepted)
    (hchange : (run.report.outcomes.find? id).any (·.isFailure) = false) :
    Sound state c p id := by
  have hremoved : id ∉ (state.plan c).removed := fun hremoved =>
    notAffected_of_removed hremoved haffected
  rw [← h.hasFailed_eq hremoved] at hchange
  exact ⟨haccepted, hchange⟩

/-- A module that is not sound has the dependencies that it had before, if it is published. -/
theorem Finished.declares_of_not_sound (h : Finished l state c p run)
    (hid : ¬Sound state c p id) (hd : run.state.snapshot.Declares id d) :
    state.snapshot.Declares id d := by
  obtain ⟨m, hm, hdeclared⟩ := hd
  refine ⟨m, ?_, hdeclared⟩
  obtain ⟨st, hfate, houtcome, hentry, -⟩ := h.exists_fate id
  rw [hentry] at hm
  cases hfate with
  | removed found removed => cases hm
  | published affected accepted planned verdict =>
    have hsound : Sound state c p id := by
      apply h.sound affected accepted
      rw [houtcome]
      rfl
    exact absurd hsound hid
  | failed affected reason => exact hm
  | kept notAffected notRemoved => exact hm

/-- A path of declared dependencies leads to a sound module, or it was there before. -/
theorem Finished.sound_or_dependsOn (h : Finished l state c p run)
    (hpath : run.state.snapshot.DependsOn id d) :
    Sound state c p d ∨ state.snapshot.DependsOn id d := by
  -- Once a path meets a sound module it stays among sound modules, so only its beginning is old.
  induction hpath with
  | single hd =>
    by_cases hid : Sound state c p id
    · exact .inl (hid.of_declares h hd).1
    · exact .inr (.single (h.declares_of_not_sound hid hd))
  | @tail b d _ hd ih =>
    by_cases hb : Sound state c p b
    · exact .inl (hb.of_declares h hd).1
    · have hold := ih.resolve_left hb
      exact .inr (hold.tail (h.declares_of_not_sound hb hd))

/-- Paths from a sound module are paths of the plan. -/
theorem Sound.dependsOn (h : Finished l state c p run)
    (hid : Sound state c p id) (hpath : run.state.snapshot.DependsOn id d) :
    Sound state c p d ∧ (state.plan c).graph.DependsOn id d := by
  induction hpath with
  | single hd =>
    obtain ⟨hsound, hedge⟩ := hid.of_declares h hd
    exact ⟨hsound, .single hedge⟩
  | tail _ hd ih =>
    obtain ⟨hsound, hedge⟩ := ih.1.of_declares h hd
    exact ⟨hsound, ih.2.tail hedge⟩

/-- A cycle closes no loop. -/
theorem Finished.not_dependsOn_self (h : Finished l state c p run)
    (hold : ∀ id, ¬state.snapshot.DependsOn id id) (id : ModuleId) :
    ¬run.state.snapshot.DependsOn id id := by
  intro hloop
  rcases h.sound_or_dependsOn hloop with hid | hloop
  · have hplanned := (hid.dependsOn h hloop).2
    exact DependencyGraph.not_dependsOn_self_of_mem_accepted hid.1 hplanned
  · exact hold id hloop

end Step

theorem acyclic_state (h : History) (id : ModuleId) : ¬h.state.snapshot.DependsOn id id := by
  induction h generalizing id with
  | empty =>
    intro hloop
    obtain ⟨d, ⟨m, hm, -⟩, -⟩ := TransGen.head'_iff.mp hloop
    cases hm
  | serve h r ih =>
    rcases r.run_cases h with ⟨p, hcancelled⟩ | ⟨p, hfinished⟩
    · rw [(History.serve_of_cancelled hcancelled).1]
      exact ih id
    · exact hfinished.not_dependsOn_self ih id

/-- In every reachable state, the dependencies that published modules declare form no cycle: a
sequence of modules each of which declares the next one never comes back to where it starts. -/
theorem no_published_cycle (h : History) (id : ModuleId) (path : List ModuleId) :
    ¬List.IsChain h.state.snapshot.Declares (id :: (path ++ [id])) := by
  intro hchain
  obtain ⟨d, rest, hpath⟩ := List.exists_cons_of_ne_nil (List.append_ne_nil_of_right_ne_nil path
    (List.cons_ne_nil id []))
  have hlast : (d :: rest).getLast (List.cons_ne_nil d rest) = id := by
    simp only [← hpath, List.getLast_concat]
  rw [hpath, List.isChain_cons_cons] at hchain
  have hback := List.relationReflTransGen_of_exists_isChain_cons rest hchain.2 hlast
  exact acyclic_state h id (TransGen.head' hchain.1 hback)

end HotReload
