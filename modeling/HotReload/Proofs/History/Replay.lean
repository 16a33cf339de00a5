import HotReload.Proofs.History.Links

/-!
# What listeners can reconstruct

The events of a cycle are read off its outcomes, while the registry is replaced by the candidate as a
whole. They agree because an outcome counts as a change for exactly the modules in which the
candidate differs from the snapshot before (`Finished.replay_events`). So a listener that applies
every update to a map of its own holds what is published, and is never told an old module other than
the one that it holds (`replay_heard`).
-/

namespace HotReload

namespace Event

/-- The module that an event reports a change of. -/
def changed? : Event → Option ModuleId
  | .updated (some new) _ => some new.id
  | .updated none old => old.map (·.id)
  | .rejected .. => none

/-- What is held after an event: a new module is stored, and without one the old module is dropped. -/
def replay (held : ModuleMap) : Event → ModuleMap
  | .updated (some new) _ => held.insert new.id new
  | .updated none (some old) => held.erase old.id
  | .updated none none => held
  | .rejected .. => held

/-- An update is about some module, of which it names what is held as the old one. -/
def Fits (held : ModuleMap) : Event → Prop
  | .updated new old => ∃ id, (updated new old).changed? = some id ∧ old = held.find? id
  | .rejected .. => True

/-- Each of some events fits what is held when it comes. -/
def AllFit (held : ModuleMap) : List Event → Prop
  | [] => True
  | event :: events => event.Fits held ∧ AllFit (event.replay held) events

theorem allFit_append {held : ModuleMap} {first second : List Event} :
    AllFit held (first ++ second) ↔ AllFit held first ∧ AllFit (first.foldl replay held) second := by
  induction first generalizing held with
  | nil => exact ⟨fun h => ⟨trivial, h⟩, fun h => h.2⟩
  | cons event first ih =>
    rw [List.cons_append, AllFit, AllFit, ih, List.foldl_cons, and_assoc]

/-! ## Updates -/

/-- The event of a change of a module. -/
def updateOf (before after : ModuleMap) (id : ModuleId) : Event :=
  .updated (after.find? id) (before.find? id)

section Updates

variable {before after held : ModuleMap} {id j : ModuleId} {ids : List ModuleId}
  (hbefore : ∀ id m, before.find? id = some m → m.id = id)
  (hafter : ∀ id m, after.find? id = some m → m.id = id)

include hbefore hafter

theorem changed?_updateOf (hknown : before.find? id ≠ none ∨ after.find? id ≠ none) :
    (updateOf before after id).changed? = some id := by
  unfold updateOf
  cases hnew : after.find? id with
  | some new => exact congrArg some (hafter id new hnew)
  | none =>
    have hold := hknown.resolve_right fun hne => hne hnew
    obtain ⟨old, hold⟩ := Option.ne_none_iff_exists'.mp hold
    rw [hold]
    exact congrArg some (hbefore id old hold)

/-- An update takes a module to its new state, if it is held in the old one. -/
theorem find?_replay_updateOf (hheld : held.find? id = before.find? id) :
    ((updateOf before after id).replay held).find? j =
      if j = id then after.find? id else held.find? j := by
  unfold updateOf
  cases hnew : after.find? id with
  | some new =>
    rw [replay, hafter id new hnew, SortedMap.find?_insert]
  | none =>
    cases hold : before.find? id with
    | some old => rw [replay, hbefore id old hold, SortedMap.find?_erase]
    | none =>
      rw [replay]
      split
      next hj => rw [hj, hheld, hold]
      next => rfl

/-- Updates of different modules, each held in its old state, take them all to their new states. -/
theorem replay_updates (hnodup : ids.Nodup)
    (hknown : ∀ id ∈ ids, before.find? id ≠ none ∨ after.find? id ≠ none)
    (hheld : ∀ id ∈ ids, held.find? id = before.find? id) :
    AllFit held (ids.map (updateOf before after)) ∧
      ∀ j, ((ids.map (updateOf before after)).foldl replay held).find? j =
        if j ∈ ids then after.find? j else held.find? j := by
  induction ids generalizing held with
  | nil => exact ⟨trivial, fun j => (if_neg List.not_mem_nil).symm⟩
  | cons id ids ih =>
    obtain ⟨hfresh, hnodup⟩ := List.nodup_cons.mp hnodup
    have hid := hheld id List.mem_cons_self
    have hnext : ∀ j, ((updateOf before after id).replay held).find? j =
        if j = id then after.find? id else held.find? j := fun j =>
      find?_replay_updateOf hbefore hafter hid
    have hheld' : ∀ j ∈ ids,
        ((updateOf before after id).replay held).find? j = before.find? j := by
      intro j hj
      have hne : j ≠ id := fun heq => hfresh (heq ▸ hj)
      rw [hnext, if_neg hne, hheld j (List.mem_cons_of_mem _ hj)]
    obtain ⟨hfit, hfind⟩ := ih hnodup (fun j hj => hknown j (List.mem_cons_of_mem _ hj)) hheld'
    constructor
    · refine ⟨⟨id, ?_, hid.symm⟩, hfit⟩
      exact changed?_updateOf hbefore hafter (hknown id List.mem_cons_self)
    · intro j
      rw [List.map_cons, List.foldl_cons, hfind, hnext]
      by_cases hj : j = id
      · subst hj
        simp [hfresh]
      · simp [hj]

end Updates

/-- Rejections fit anything that is held and leave it as it is. -/
theorem replay_rejections (held : ModuleMap) (failures : List (ModuleId × ReloadError)) :
    AllFit held (failures.map fun e => .rejected e.1 e.2) ∧
      (failures.map fun e => Event.rejected e.1 e.2).foldl replay held = held := by
  induction failures with
  | nil => exact ⟨trivial, rfl⟩
  | cons e failures ih => exact ⟨⟨trivial, ih.1⟩, ih.2⟩

end Event

/-! ## The events of a cycle -/

/-- The modules whose outcomes count as changes, in ascending order. -/
def Outcomes.changes (outcomes : Outcomes) : List ModuleId :=
  (outcomes.entries.filter fun e => !e.2.isFailure).map (·.1)

theorem Outcomes.mem_changes_iff {outcomes : Outcomes} {id : ModuleId} :
    id ∈ outcomes.changes ↔ ∃ o, outcomes.find? id = some o ∧ o.isFailure = false := by
  unfold changes
  rw [List.mem_map]
  constructor
  · rintro ⟨⟨id, o⟩, hmem, rfl⟩
    obtain ⟨hentry, hchange⟩ := List.mem_filter.mp hmem
    exact ⟨o, (SortedMap.mem_entries_iff ..).mp hentry, by simpa using hchange⟩
  · rintro ⟨o, ho, hchange⟩
    refine ⟨(id, o), List.mem_filter.mpr ⟨(SortedMap.mem_entries_iff ..).mpr ho, ?_⟩, rfl⟩
    simpa using hchange

theorem Outcomes.nodup_changes (outcomes : Outcomes) : outcomes.changes.Nodup :=
  outcomes.keys_nodup.sublist (List.filter_sublist.map _)

theorem Outcomes.ascending_failures (outcomes : Outcomes) :
    outcomes.failures.Pairwise fun a b => compare a.1 b.1 = .lt := by
  unfold failures
  apply outcomes.sorted.filterMap
  rintro ⟨i, o⟩ ⟨j, o'⟩ hlt a ha b hb
  obtain ⟨e, -, rfl⟩ := Option.map_eq_some_iff.mp ha
  obtain ⟨e', -, rfl⟩ := Option.map_eq_some_iff.mp hb
  exact hlt

theorem Loader.eventsOf_eq (current : Snapshot) (candidate : ModuleMap) (outcomes : Outcomes) :
    eventsOf current candidate outcomes =
      outcomes.changes.map (Event.updateOf current.modules candidate) ++
        outcomes.failures.map fun e => .rejected e.1 e.2 := by
  rw [eventsOf, Outcomes.changes, List.map_map]
  rfl

section Cycle

variable {l : Loader} {state : LoaderState} {c : ChangeSet} {p : Progress} {run : Loader.Run}
  {id : ModuleId}

theorem Finished.events_eq (h : Finished l state c p run) :
    run.events =
      run.report.outcomes.changes.map
          (Event.updateOf state.snapshot.modules run.state.snapshot.modules) ++
        run.report.failures.map fun e => .rejected e.1 e.2 := by
  have hevents : run.events = Loader.eventsOf state.snapshot p.candidate run.report.outcomes := by
    rw [h.eq]
    rfl
  rw [hevents, Loader.eventsOf_eq, h.modules_eq]
  rfl

/-- What changes was published before or is published afterwards. -/
theorem Finished.known_of_change (h : Finished l state c p run)
    (hid : id ∈ run.report.outcomes.changes) :
    state.snapshot.find? id ≠ none ∨ run.state.snapshot.find? id ≠ none := by
  obtain ⟨o, ho, hchange⟩ := Outcomes.mem_changes_iff.mp hid
  obtain ⟨st, hfate, houtcome, hentry, -⟩ := h.exists_fate id
  rw [houtcome] at ho
  rw [hentry]
  cases hfate with
  | removed found removed =>
    rw [found]
    exact .inl (Option.some_ne_none _)
  | published affected accepted planned verdict => exact .inr (Option.some_ne_none _)
  | failed affected reason =>
    cases ho
    cases hchange
  | kept notAffected notRemoved => cases ho

/-- The events of a cycle report each change once. -/
theorem Finished.changed_events (h : Finished l state c p run) :
    run.events.filterMap Event.changed? = run.report.outcomes.changes := by
  have hupdates : run.report.outcomes.changes.filterMap
      (Event.changed? ∘ Event.updateOf state.snapshot.modules run.state.snapshot.modules) =
        run.report.outcomes.changes := by
    refine (List.filterMap_congr ?_).trans List.filterMap_some
    intro id hid
    exact Event.changed?_updateOf h.settled.keyed h.keyed (h.known_of_change hid)
  have hrejections : run.report.failures.filterMap
      (Event.changed? ∘ fun e => .rejected e.1 e.2) = [] :=
    List.filterMap_eq_nil_iff.mpr fun _ _ => rfl
  rw [h.events_eq, List.filterMap_append, List.filterMap_map, List.filterMap_map, hupdates,
    hrejections, List.append_nil]

theorem Finished.entry_of_not_change (h : Finished l state c p run)
    (hid : id ∉ run.report.outcomes.changes) :
    run.state.snapshot.find? id = state.snapshot.find? id := by
  obtain ⟨st, hfate, houtcome, hentry, -⟩ := h.exists_fate id
  rw [hentry]
  refine (hfate.entry_of_unchanged ?_).1
  intro o ho
  by_contra hchange
  rw [Outcomes.mem_changes_iff] at hid
  exact hid ⟨o, houtcome.trans ho, by simpa using hchange⟩

/-- The events of a cycle lead from what was published before to what is published afterwards. -/
theorem Finished.replay_events (h : Finished l state c p run) :
    Event.AllFit state.snapshot.modules run.events ∧
      run.events.foldl Event.replay state.snapshot.modules = run.state.snapshot.modules := by
  have hheld : ∀ id ∈ run.report.outcomes.changes,
      state.snapshot.modules.find? id = state.snapshot.modules.find? id := fun _ _ => rfl
  obtain ⟨hfit, hfind⟩ := Event.replay_updates h.settled.keyed h.keyed
    run.report.outcomes.nodup_changes (fun id hid => h.known_of_change hid) hheld
  have hmodules : (run.report.outcomes.changes.map
      (Event.updateOf state.snapshot.modules run.state.snapshot.modules)).foldl Event.replay
        state.snapshot.modules = run.state.snapshot.modules := by
    refine SortedMap.ext_find? fun id => ?_
    rw [hfind]
    split
    next hid => rfl
    next hid => exact (h.entry_of_not_change hid).symm
  obtain ⟨hfit', hkeep⟩ := Event.replay_rejections run.state.snapshot.modules run.report.failures
  rw [h.events_eq, Event.allFit_append, List.foldl_append, hmodules]
  exact ⟨⟨hfit, hfit'⟩, hkeep⟩

end Cycle

/-- What is heard of a cycle is what is reported: at most one update for each module and then the
failures, in ascending order; or nothing, if the cycle is cancelled. -/
structure ReloadReport.HeardAs (report : ReloadReport) (events : List Event) : Prop where
  once : (events.filterMap Event.changed?).Nodup
  silent : report.cancelled = true → events = []
  complete : report.cancelled = false →
    ∃ updates, events = updates ++ report.failures.map (fun e => .rejected e.1 e.2) ∧
      ∀ event ∈ updates, ∃ new old, event = .updated new old
  ascending : report.failures.Pairwise fun a b => compare a.1 b.1 = .lt

theorem Request.heardAs (r : Request) (h : History) :
    (r.run h.state).report.HeardAs (r.run h.state).events := by
  rcases r.run_cases h with ⟨p, hcancelled⟩ | ⟨p, hfinished⟩
  · constructor
    · rw [hcancelled]
      exact List.nodup_nil
    · intro _
      rw [hcancelled]
      rfl
    · intro hnot
      rw [hcancelled] at hnot
      cases hnot
    · exact Outcomes.ascending_failures _
  · constructor
    · rw [hfinished.changed_events]
      exact Outcomes.nodup_changes _
    · intro hcancelled
      rw [hfinished.cancelled] at hcancelled
      cases hcancelled
    · intro _
      refine ⟨_, hfinished.events_eq, ?_⟩
      intro event hevent
      obtain ⟨id, -, rfl⟩ := List.mem_map.mp hevent
      exact ⟨_, _, rfl⟩
    · exact Outcomes.ascending_failures _

/-! ## Listeners -/

section Listeners

variable {α : Type*} [DecidableEq α] {listeners : List α} {listener : α}

/-- What one of several listeners is told. -/
def heardBy (listener : α) (told : List (α × Event)) : List Event :=
  (told.filter (·.1 = listener)).map (·.2)

/-- A listener that is registered once hears of every event once. -/
theorem heardBy_deliver (h : listeners.count listener = 1) (events : List Event) :
    heardBy listener (deliver listeners events) = events := by
  have hone : ∀ event : Event, heardBy listener (listeners.map (·, event)) = [event] := by
    intro event
    have hfilter : listeners.filter (· = listener) = [listener] := by
      rw [List.filter_eq, h]
      rfl
    rw [heardBy, List.filter_map, List.map_map]
    change (listeners.filter (· = listener)).map (fun _ => event) = [event]
    rw [hfilter]
    rfl
  induction events with
  | nil => rfl
  | cons event events ih =>
    rw [deliver, List.flatMap_cons, heardBy, List.filter_append, List.map_append]
    exact congrArg₂ (· ++ ·) (hone event) ih

/-- What a listener hears in a history, where `audience` tells which listeners are registered when
the last request of a history is served. -/
def History.heard (audience : History → List α) (listener : α) : History → List Event
  | empty => []
  | serve h r =>
    h.heard audience listener ++
      heardBy listener (deliver (audience (h.serve r)) (r.run h.state).events)

/-- A listener that applies every update to what it holds always holds what is published. -/
theorem History.allFit_heard {audience : History → List α}
    (honce : ∀ g, (audience g).count listener = 1) (h : History) :
    Event.AllFit ∅ (h.heard audience listener) ∧
      (h.heard audience listener).foldl Event.replay ∅ = h.state.snapshot.modules := by
  induction h with
  | empty => exact ⟨trivial, rfl⟩
  | serve h r ih =>
    obtain ⟨hfit, hmodules⟩ := ih
    rw [heard, heardBy_deliver (honce _), Event.allFit_append, List.foldl_append, hmodules]
    rcases r.run_cases h with ⟨p, hcancelled⟩ | ⟨p, hfinished⟩
    · rw [state, hcancelled]
      exact ⟨⟨hfit, trivial⟩, rfl⟩
    · obtain ⟨hfit', hmodules'⟩ := hfinished.replay_events
      exact ⟨⟨hfit, hfit'⟩, hmodules'⟩

/-- A listener that is registered before the first request and once only can follow the registry. The
updates that it hears of, applied one by one, lead to what is published after each request; each of
them names the module that it holds by then as the old one; and of each request it hears what is
reported. -/
theorem replay_heard (audience : History → List α) (listener : α)
    (honce : ∀ g, (audience g).count listener = 1) (h : History) :
    (h.heard audience listener).foldl Event.replay ∅ = h.state.snapshot.modules ∧
      (∀ before new old after, h.heard audience listener = before ++ .updated new old :: after →
        ∃ id, (Event.updated new old).changed? = some id ∧
          old = (before.foldl Event.replay ∅).find? id) ∧
      ∀ r : Request, (r.run h.state).report.HeardAs
        (heardBy listener (deliver (audience (h.serve r)) (r.run h.state).events)) := by
  obtain ⟨hfit, hmodules⟩ := h.allFit_heard honce
  refine ⟨hmodules, ?_, ?_⟩
  · intro before new old after hsplit
    rw [hsplit, Event.allFit_append] at hfit
    exact hfit.2.1
  · intro r
    rw [heardBy_deliver (honce _)]
    exact r.heardAs h

end Listeners

/-- One of two listeners follows the registry while a library is loaded and updated. -/
theorem replay_heard_sample :
    (∀ _ : History, [false, true].count true = 1) ∧
      (Sample.history.heard (fun _ => [false, true]) true).foldl Event.replay ∅ =
        Sample.history.state.snapshot.modules ∧
      (∀ before new old after,
        Sample.history.heard (fun _ => [false, true]) true =
          before ++ .updated new old :: after →
        ∃ id, (Event.updated new old).changed? = some id ∧
          old = (before.foldl Event.replay ∅).find? id) ∧
      ∀ r : Request, (r.run Sample.history.state).report.HeardAs
        (heardBy true (deliver [false, true] (r.run Sample.history.state).events)) :=
  ⟨fun _ => rfl, replay_heard (fun _ => [false, true]) true (fun _ => rfl) Sample.history⟩

end HotReload
