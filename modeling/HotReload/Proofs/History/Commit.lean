import HotReload.Proofs.History.Basic

/-!
# Commits are exact

A cycle either leaves the registry alone or leads to its next version, and then the report says of
every module what happened to it (`reload_accounts`).
-/

namespace HotReload

/-- A module is what the loader builds from its archive against its boundary. -/
def CompiledModule.BuiltBy (m : CompiledModule) (l : Loader) : Prop :=
  (Build.run l.settings l.plugins m.archive m.environment.boundary).result =
    .ok { symbols := m.symbols, compiler := m.compiler }

/-- What an outcome of a module, or the lack of one, says about the snapshots before and after. A
published module is built from the archive that was submitted for it, or else from the one that it
had. -/
def Request.Accounts (r : Request) (before after : Snapshot) (id : ModuleId) :
    Option Outcome → Prop
  | some (.published revision previous) =>
    previous = before.revision? id ∧
      ∃ m, after.find? id = some m ∧ m.revision = revision ∧ m.BuiltBy r.loader ∧
        (r.changes.incoming.find? id).or ((before.find? id).map (·.archive)) = some m.archive
  | some (.removed revision) => before.revision? id = some revision ∧ after.find? id = none
  | some (.failed _ retained) =>
    after.find? id = before.find? id ∧ retained = before.revision? id
  | none => after.find? id = before.find? id

/-- Each of the four fates is told truly. -/
theorem Fate.accounts {r : Request} {state : LoaderState} {p : Progress} {id : ModuleId}
    {st : Standing} {after : Snapshot} (h : Fate r.loader state r.changes p id st)
    (hafter : after.find? id = st.entry) :
    r.Accounts state.snapshot after id st.outcome := by
  cases h with
  | removed found removed =>
    refine ⟨?_, hafter⟩
    rw [Snapshot.revision?, found]
    rfl
  | @published a result affected accepted planned verdict =>
    obtain ⟨boundary, output⟩ := result
    refine ⟨rfl, _, hafter, rfl, (Loader.verdict_eq_ok_iff.mp verdict).2.2, ?_⟩
    rw [Plan.archives_find?] at planned
    rcases Option.or_eq_some_iff.mp planned with hin | ⟨hnone, hkept⟩
    · exact Option.or_eq_some_iff.mpr (.inl hin)
    · split at hkept
      next => cases hkept
      next => exact Option.or_eq_some_iff.mpr (.inr ⟨hnone, hkept⟩)
  | failed affected reason => exact ⟨hafter, rfl⟩
  | kept notAffected notRemoved => exact hafter

/-- In every reachable state, a request that does not commit changes neither the published modules
nor the revision counters, and one that commits leads to the next version and accounts for every
module. It commits if it is not cancelled and reports a change. -/
theorem reload_accounts (h : History) (r : Request) :
    ((r.run h.state).report.committed = false → (r.run h.state).state = h.state) ∧
      ((r.run h.state).report.committed = true →
        (r.run h.state).state.snapshot.version = h.state.snapshot.version + 1 ∧
          ∀ id, r.Accounts h.state.snapshot (r.run h.state).state.snapshot id
            ((r.run h.state).report.outcomes.find? id)) ∧
      ((r.run h.state).report.committed = true ↔
        (r.run h.state).report.cancelled = false ∧
          ∃ id o, (r.run h.state).report.outcomes.find? id = some o ∧ o.isFailure = false) ∧
      (r.run h.state).report.version = (r.run h.state).state.snapshot.version := by
  rcases r.run_cases h with ⟨p, hcancelled⟩ | ⟨p, hfinished⟩
  · rw [hcancelled]
    refine ⟨fun _ => rfl, fun hcommitted => ?_, ⟨fun hcommitted => ?_, fun hchange => ?_⟩, rfl⟩
    · cases hcommitted
    · cases hcommitted
    · cases hchange.1
  · refine ⟨hfinished.state_of_not_committed, fun hcommitted => ⟨?_, fun id => ?_⟩, ?_, ?_⟩
    · rw [hfinished.state_of_committed hcommitted]
    · obtain ⟨st, hfate, houtcome, hentry, -⟩ := hfinished.exists_fate id
      rw [houtcome]
      exact hfate.accounts hentry
    · rw [hfinished.committed_iff]
      exact ⟨fun hchange => ⟨hfinished.cancelled, hchange⟩, fun hchange => hchange.2⟩
    · rw [hfinished.eq]
      rfl

end HotReload
