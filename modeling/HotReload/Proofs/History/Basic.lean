import HotReload.Proofs.Reload.Fate

/-!
# Histories of requests

A request is a change-set together with everything that decides how its cycle goes: the checks at
which it is cancelled from outside, and the loader that serves it. Since every request brings its
own loader, the plugins of a history may answer one archive differently from request to request.
The states that a history can lead to are the reachable states of a registry.
-/

namespace HotReload

/-- A change-set with all that decides on its cycle. -/
structure Request where
  loader : Loader
  changes : ChangeSet
  stop : Interruption

/-- The cycle of a request. -/
def Request.run (r : Request) (state : LoaderState) : Loader.Run :=
  r.loader.reload state r.changes r.stop

/-- Requests that were served one after the other. -/
inductive History where
  | empty
  | serve (h : History) (r : Request)

namespace History

/-- The state after a history, which starts from an empty registry. -/
def state : History → LoaderState
  | empty => .initial
  | serve h r => (r.run h.state).state

/-- What the latest report that mentions a module says about it. Cancelled cycles do not count. -/
def lastOutcome? (id : ModuleId) : History → Option Outcome
  | empty => none
  | serve h r =>
    let report := (r.run h.state).report
    if report.cancelled then h.lastOutcome? id
    else (report.outcomes.find? id).or (h.lastOutcome? id)

/-- The loaders that served a history. -/
def loaders : History → List Loader
  | empty => []
  | serve h r => r.loader :: h.loaders

/-- Every cycle of a history was a success. -/
def Succeeds : History → Prop
  | empty => True
  | serve h r => h.Succeeds ∧ (r.run h.state).report.isSuccess = true

theorem keyed_initial : LoaderState.initial.snapshot.Keyed := by
  intro id m hm
  cases hm

theorem keyed_state (h : History) : h.state.snapshot.Keyed := by
  induction h with
  | empty => exact keyed_initial
  | serve h r ih => exact keyed_reload r.loader ih r.changes r.stop

end History

/-- A request is cancelled and leaves the state alone, or its cycle is finished. -/
theorem Request.run_cases (r : Request) (h : History) :
    (∃ p, r.run h.state = Loader.cancelledRun h.state (h.state.plan r.changes) p) ∨
      ∃ p, Finished r.loader h.state r.changes p (r.run h.state) :=
  r.loader.reload_cases h.keyed_state r.changes r.stop

theorem Request.finished_of_not_cancelled {r : Request} {h : History}
    (hrun : (r.run h.state).report.cancelled = false) :
    ∃ p, Finished r.loader h.state r.changes p (r.run h.state) :=
  Finished.of_not_cancelled h.keyed_state hrun

/-- A cancelled request does not count. -/
theorem History.serve_of_cancelled {h : History} {r : Request} {p : Progress}
    (hcancelled : r.run h.state = Loader.cancelledRun h.state (h.state.plan r.changes) p) :
    (h.serve r).state = h.state ∧ ∀ id, (h.serve r).lastOutcome? id = h.lastOutcome? id := by
  constructor
  · rw [state, hcancelled]
    rfl
  · intro id
    rw [lastOutcome?, hcancelled]
    rfl

end HotReload
