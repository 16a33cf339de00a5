import HotReload.Dependency.Components
import HotReload.Proofs.Dependency.Reachability
import Mathlib.Data.List.Pairwise

/-!
# The search for components

What is known while components are searched for (`ComponentSearch.Sound`) is kept when a module is
entered, when a dependency is followed and when a module is left. So a visit turns one sound state into
another in which the module was visited (`Visits`, `visits_visit`). At the end of the search the stack is
empty, and the components that were found are those of the graph (`componentsOf_components`).
-/

namespace HotReload.DependencyGraph

open Relation

variable {g : DependencyGraph} {a b node dependency : ModuleId}

/-- Whether two modules lead to each other along dependencies. -/
def Connected (g : DependencyGraph) (a b : ModuleId) : Prop :=
  ReflTransGen g.Edge a b ∧ ReflTransGen g.Edge b a

theorem Connected.symm (h : g.Connected a b) : g.Connected b a :=
  ⟨h.2, h.1⟩

theorem Connected.trans {c : ModuleId} (hab : g.Connected a b) (hbc : g.Connected b c) :
    g.Connected a c :=
  ⟨hab.1.trans hbc.1, hbc.2.trans hab.2⟩

/-- What leads to a module of the graph is a module of the graph. -/
theorem mem_modules_of_path (h : ReflTransGen g.Edge a b) (hb : b ∈ g.modules) : a ∈ g.modules := by
  rcases ReflTransGen.cases_head h with rfl | ⟨c, hedge, -⟩
  · exact hb
  · exact hedge.mem_modules

/-! ## States of the search -/

namespace ComponentSearch

variable {s t u : ComponentSearch} {pending : List ModuleId}

def Visited (s : ComponentSearch) (a : ModuleId) : Prop :=
  (s.index.find? a).isSome

/-- The number of a module that was visited. -/
def number (s : ComponentSearch) (a : ModuleId) : Nat :=
  (s.index.find? a).getD 0

/-- Whether a module belongs to a component that is complete. -/
def Complete (s : ComponentSearch) (a : ModuleId) : Prop :=
  ∃ c ∈ s.components, a ∈ c

/-- What is known of a state of the search while the visits of some modules are `pending`. -/
structure Sound (g : DependencyGraph) (s : ComponentSearch) (pending : List ModuleId) : Prop where
  visited_iff : ∀ a, s.Visited a ↔ a ∈ s.stack ∨ s.Complete a
  mem_modules : ∀ a, s.Visited a → a ∈ g.modules
  number_lt : ∀ a ∈ s.stack, s.number a < s.next
  descending : s.stack.Pairwise fun a b => s.number b < s.number a
  pending_subset : ∀ a ∈ pending, a ∈ s.stack
  /-- What a module depends on whose visit is over was visited. -/
  closed : ∀ a, s.Visited a → a ∉ pending → ∀ b ∈ g.modules, g.Edge a b → s.Visited b
  /-- On the stack the earlier modules lead to the later ones. -/
  leads : ∀ a ∈ s.stack, ∀ b ∈ s.stack, s.number a ≤ s.number b → ReflTransGen g.Edge a b
  /-- A module on the stack leads to one that is not later and whose visit is pending. -/
  leads_pending : ∀ a ∈ s.stack, ∃ b ∈ pending, s.number b ≤ s.number a ∧ ReflTransGen g.Edge a b
  connected : ∀ c ∈ s.components, ∀ a ∈ c, ∀ b, b ∈ c ↔ g.Connected a b
  nodup : ∀ c ∈ s.components, c ≠ [] ∧ c.Nodup
  notMem : ∀ a ∈ s.stack, ¬s.Complete a
  disjoint : s.components.Pairwise List.Disjoint

/-- A later state, in which what is known of the modules that were visited is the same. -/
structure Keeps (s t : ComponentSearch) : Prop where
  index : ∀ a, s.Visited a → t.index.find? a = s.index.find? a
  low : ∀ a, s.Visited a → t.low.find? a = s.low.find? a
  fresh : ∀ a, t.Visited a → ¬s.Visited a → s.next ≤ t.number a
  next_le : s.next ≤ t.next

theorem Keeps.refl (s : ComponentSearch) : s.Keeps s :=
  ⟨fun _ _ => rfl, fun _ _ => rfl, fun _ h hnew => absurd h hnew, Nat.le_refl _⟩

theorem Keeps.visited (h : s.Keeps t) (ha : s.Visited a) : t.Visited a := by
  rw [Visited, h.index a ha]
  exact ha

theorem Keeps.number_eq (h : s.Keeps t) (ha : s.Visited a) : t.number a = s.number a := by
  rw [number, h.index a ha, number]

theorem Keeps.trans (hst : s.Keeps t) (htu : t.Keeps u) : s.Keeps u := by
  constructor
  case index => exact fun a ha => (htu.index a (hst.visited ha)).trans (hst.index a ha)
  case low => exact fun a ha => (htu.low a (hst.visited ha)).trans (hst.low a ha)
  case fresh =>
    intro a ha hnew
    by_cases hvisited : t.Visited a
    · rw [htu.number_eq hvisited]
      exact hst.fresh a hvisited hnew
    · exact hst.next_le.trans (htu.fresh a ha hvisited)
  case next_le => exact hst.next_le.trans htu.next_le

namespace Sound

theorem visited_of_mem (h : s.Sound g pending) (ha : a ∈ s.stack) : s.Visited a :=
  (h.visited_iff a).mpr (.inl ha)

theorem stack_nodup (h : s.Sound g pending) : s.stack.Nodup := by
  refine h.descending.imp fun {a b} hlt heq => ?_
  rw [heq] at hlt
  exact Nat.lt_irrefl _ hlt

end Sound

/-! ## Noting what a module leads to -/

@[simp]
theorem lower_next (s : ComponentSearch) (node : ModuleId) (reached : Nat) :
    (s.lower node reached).next = s.next := by
  unfold lower
  split <;> rfl

@[simp]
theorem lower_index (s : ComponentSearch) (node : ModuleId) (reached : Nat) :
    (s.lower node reached).index = s.index := by
  unfold lower
  split <;> rfl

@[simp]
theorem lower_stack (s : ComponentSearch) (node : ModuleId) (reached : Nat) :
    (s.lower node reached).stack = s.stack := by
  unfold lower
  split <;> rfl

@[simp]
theorem lower_components (s : ComponentSearch) (node : ModuleId) (reached : Nat) :
    (s.lower node reached).components = s.components := by
  unfold lower
  split <;> rfl

theorem find?_low_lower {reached low : Nat} (h : s.low.find? node = some low) :
    (s.lower node reached).low.find? a =
      if a = node then some (min low reached) else s.low.find? a := by
  rw [lower, h]
  exact SortedMap.find?_insert ..

theorem visited_lower {reached : Nat} : (s.lower node reached).Visited a ↔ s.Visited a := by
  rw [Visited, lower_index, Visited]

theorem number_lower {reached : Nat} : (s.lower node reached).number a = s.number a := by
  rw [number, lower_index, number]

theorem Sound.lower (h : s.Sound g pending) (node : ModuleId) (reached : Nat) :
    (s.lower node reached).Sound g pending := by
  constructor
  all_goals
    simp only [visited_lower, number_lower, lower_next, lower_stack, lower_components, Complete]
  case visited_iff => exact h.visited_iff
  case mem_modules => exact h.mem_modules
  case number_lt => exact h.number_lt
  case descending => exact h.descending
  case pending_subset => exact h.pending_subset
  case closed => exact h.closed
  case leads => exact h.leads
  case leads_pending => exact h.leads_pending
  case connected => exact h.connected
  case nodup => exact h.nodup
  case notMem => exact h.notMem
  case disjoint => exact h.disjoint

/-- Noting what a module leads to does not touch the modules that were visited before it. -/
theorem Keeps.lower {reached low : Nat} (h : s.Keeps t) (hnode : ¬s.Visited node)
    (hlow : t.low.find? node = some low) : s.Keeps (t.lower node reached) := by
  constructor
  case index =>
    intro a ha
    rw [lower_index]
    exact h.index a ha
  case low =>
    intro a ha
    have hne : a ≠ node := by
      rintro rfl
      exact hnode ha
    rw [find?_low_lower hlow, if_neg hne]
    exact h.low a ha
  case fresh =>
    intro a ha hnew
    rw [number_lower]
    exact h.fresh a (visited_lower.mp ha) hnew
  case next_le =>
    rw [lower_next]
    exact h.next_le

/-! ## Entering a module -/

theorem visited_enter : (s.enter node).Visited a ↔ a = node ∨ s.Visited a := by
  rw [Visited, enter, SortedMap.find?_insert, Visited]
  by_cases h : a = node
  · simp [h]
  · simp [h]

theorem number_enter_self : (s.enter node).number node = s.next := by
  rw [number, enter, SortedMap.find?_insert, if_pos rfl]
  rfl

theorem number_enter_of_ne (h : a ≠ node) : (s.enter node).number a = s.number a := by
  rw [number, enter, SortedMap.find?_insert, if_neg h, number]

theorem keeps_enter (hnode : ¬s.Visited node) : s.Keeps (s.enter node) := by
  have hne : ∀ a, s.Visited a → a ≠ node := by
    rintro a ha rfl
    exact hnode ha
  constructor
  case index =>
    intro a ha
    rw [enter, SortedMap.find?_insert, if_neg (hne a ha)]
  case low =>
    intro a ha
    rw [enter, SortedMap.find?_insert, if_neg (hne a ha)]
  case fresh =>
    intro a ha hnew
    rw [(visited_enter.mp ha).resolve_right hnew, number_enter_self]
  case next_le => exact Nat.le_succ s.next

/-- A module that the pending ones lead to may be entered. -/
theorem Sound.enter (h : s.Sound g pending) (hnode : node ∈ g.modules) (hnew : ¬s.Visited node)
    (hpending : ∀ a ∈ pending, ReflTransGen g.Edge a node) :
    (s.enter node).Sound g (node :: pending) := by
  have hne : ∀ a ∈ s.stack, a ≠ node := by
    rintro a ha rfl
    exact hnew (h.visited_of_mem ha)
  have hnumber : ∀ a ∈ s.stack, (s.enter node).number a = s.number a := fun a ha =>
    number_enter_of_ne (hne a ha)
  have hstack : (s.enter node).stack = node :: s.stack := rfl
  constructor
  case visited_iff =>
    intro a
    rw [visited_enter, h.visited_iff, hstack, List.mem_cons, or_assoc]
    rfl
  case mem_modules =>
    intro a ha
    rcases visited_enter.mp ha with rfl | ha
    · exact hnode
    · exact h.mem_modules a ha
  case number_lt =>
    intro a ha
    rcases List.mem_cons.mp ha with rfl | ha
    · rw [number_enter_self]
      exact Nat.lt_succ_self s.next
    · rw [hnumber a ha]
      exact Nat.lt_succ_of_lt (h.number_lt a ha)
  case descending =>
    rw [hstack, List.pairwise_cons]
    constructor
    · intro a ha
      rw [hnumber a ha, number_enter_self]
      exact h.number_lt a ha
    · refine h.descending.imp_of_mem fun {a b} ha hb hlt => ?_
      rwa [hnumber a ha, hnumber b hb]
  case pending_subset =>
    intro a ha
    rcases List.mem_cons.mp ha with rfl | ha
    · exact List.mem_cons_self
    · exact List.mem_cons_of_mem _ (h.pending_subset a ha)
  case closed =>
    intro a ha hpending b hb hedge
    obtain ⟨hane, hpending⟩ := not_or.mp (List.mem_cons.not.mp hpending)
    exact visited_enter.mpr
      (.inr (h.closed a ((visited_enter.mp ha).resolve_left hane) hpending b hb hedge))
  case leads =>
    rw [hstack, List.forall_mem_cons]
    constructor
    · rw [List.forall_mem_cons]
      refine ⟨fun _ => .refl, fun b hb hle => ?_⟩
      rw [hnumber b hb, number_enter_self] at hle
      exact absurd (h.number_lt b hb) (Nat.not_lt_of_le hle)
    · intro a ha
      rw [List.forall_mem_cons]
      constructor
      · intro _
        obtain ⟨c, hc, -, hpath⟩ := h.leads_pending a ha
        exact hpath.trans (hpending c hc)
      · intro b hb hle
        rw [hnumber a ha, hnumber b hb] at hle
        exact h.leads a ha b hb hle
  case leads_pending =>
    intro a ha
    rcases List.mem_cons.mp ha with rfl | ha
    · exact ⟨a, List.mem_cons_self, Nat.le_refl _, .refl⟩
    · obtain ⟨b, hb, hle, hpath⟩ := h.leads_pending a ha
      refine ⟨b, List.mem_cons_of_mem _ hb, ?_, hpath⟩
      rwa [hnumber a ha, hnumber b (h.pending_subset b hb)]
  case connected => exact h.connected
  case nodup => exact h.nodup
  case notMem =>
    intro a ha
    rcases List.mem_cons.mp ha with rfl | ha
    · exact fun hcomplete => hnew ((h.visited_iff a).mpr (.inr hcomplete))
    · exact h.notMem a ha
  case disjoint => exact h.disjoint

/-! ## Visiting a module -/

/-- What a visit of a module amounts to that began in one state and ended in another, with the number on
the stack that the module is then known to lead to. -/
structure Visits (g : DependencyGraph) (s t : ComponentSearch) (pending : List ModuleId)
    (node : ModuleId) (least : Nat) : Prop where
  sound : t.Sound g pending
  keeps : s.Keeps t
  visited : t.Visited node
  stack : ∃ above, t.stack = above ++ s.stack
  low : t.low.find? node = some least
  reaches : s.next ≤ least ∨ ∃ a ∈ s.stack, s.number a = least ∧ ReflTransGen g.Edge node a
  /-- What the visit put on the stack depends on nothing below that number. -/
  le : ∀ a ∈ t.stack, a ∉ s.stack → ∀ b ∈ s.stack, g.Edge a b → least ≤ s.number b

/-- How far the visit of a module has come that began in one state: some dependencies are followed. -/
structure Exploring (g : DependencyGraph) (s t : ComponentSearch) (pending : List ModuleId)
    (node : ModuleId) (followed : List ModuleId) (least : Nat) : Prop where
  before : s.Sound g pending
  new : ¬s.Visited node
  sound : t.Sound g (node :: pending)
  keeps : s.Keeps t
  next_lt : s.next < t.next
  index : t.index.find? node = some s.next
  stack : ∃ above, t.stack = above ++ node :: s.stack
  visited : ∀ a ∈ followed, a ∈ g.modules → t.Visited a
  low : t.low.find? node = some least
  low_le : least ≤ s.next
  reaches : least = s.next ∨ ∃ a ∈ s.stack, s.number a = least ∧ ReflTransGen g.Edge node a
  le : ∀ a ∈ t.stack, a ≠ node → a ∉ s.stack → ∀ b ∈ s.stack, g.Edge a b → least ≤ s.number b
  le_followed : ∀ b ∈ followed, b ∈ s.stack → least ≤ s.number b

variable {followed : List ModuleId} {least reached : Nat}

theorem exploring_enter (h : s.Sound g pending) (hnode : node ∈ g.modules) (hnew : ¬s.Visited node)
    (hpending : ∀ a ∈ pending, ReflTransGen g.Edge a node) :
    Exploring g s (s.enter node) pending node [] s.next := by
  constructor
  case before => exact h
  case new => exact hnew
  case sound => exact h.enter hnode hnew hpending
  case keeps => exact keeps_enter hnew
  case next_lt => exact Nat.lt_succ_self s.next
  case index => rw [enter, SortedMap.find?_insert, if_pos rfl]
  case stack => exact ⟨[], rfl⟩
  case visited => exact List.forall_mem_nil _
  case low => rw [enter, SortedMap.find?_insert, if_pos rfl]
  case low_le => exact Nat.le_refl _
  case reaches => exact .inl rfl
  case le =>
    intro a ha hne hold
    exact absurd (List.mem_of_ne_of_mem hne ha) hold
  case le_followed => exact List.forall_mem_nil _

namespace Exploring

theorem visited_node (h : Exploring g s t pending node followed least) : t.Visited node := by
  rw [Visited, h.index]
  rfl

theorem number_node (h : Exploring g s t pending node followed least) : t.number node = s.next := by
  rw [number, h.index]
  rfl

theorem mem_stack (h : Exploring g s t pending node followed least) (ha : a ∈ s.stack) :
    a ∈ t.stack := by
  obtain ⟨above, hstack⟩ := h.stack
  rw [hstack]
  exact List.mem_append_right _ (List.mem_cons_of_mem _ ha)

/-- What is on the stack with a number below that of the module was there before. -/
theorem mem_stack_of_lt (h : Exploring g s t pending node followed least) (ha : a ∈ t.stack)
    (hlt : t.number a < s.next) : a ∈ s.stack ∧ s.number a = t.number a := by
  obtain ⟨above, hstack⟩ := h.stack
  have hnode := h.number_node
  have hdescending := h.sound.descending
  rw [hstack] at ha hdescending
  have hold : a ∈ s.stack := by
    rcases List.mem_append.mp ha with ha | ha
    · have habove := (List.pairwise_append.mp hdescending).2.2 a ha node List.mem_cons_self
      rw [hnode] at habove
      exact absurd habove (Nat.not_lt_of_lt hlt)
    · refine List.mem_of_ne_of_mem ?_ ha
      rintro rfl
      exact Nat.ne_of_lt hlt hnode
  exact ⟨hold, (h.keeps.number_eq (h.before.visited_of_mem hold)).symm⟩

/-- A dependency that is on no stack changes nothing. -/
theorem skip (h : Exploring g s t pending node followed least)
    (hvisited : dependency ∈ g.modules → t.Visited dependency) (hstack : dependency ∉ s.stack) :
    Exploring g s t pending node (followed ++ [dependency]) least := by
  constructor
  case before => exact h.before
  case new => exact h.new
  case sound => exact h.sound
  case keeps => exact h.keeps
  case next_lt => exact h.next_lt
  case index => exact h.index
  case stack => exact h.stack
  case visited =>
    rw [List.forall_mem_append, List.forall_mem_singleton]
    exact ⟨h.visited, hvisited⟩
  case low => exact h.low
  case low_le => exact h.low_le
  case reaches => exact h.reaches
  case le => exact h.le
  case le_followed =>
    rw [List.forall_mem_append, List.forall_mem_singleton]
    exact ⟨h.le_followed, fun hmem => absurd hmem hstack⟩

/-- After a dependency was visited, what it leads to is noted. -/
theorem note (h : Exploring g s t pending node followed least) (hsound : u.Sound g (node :: pending))
    (hkeeps : t.Keeps u) (hstack : ∃ above, u.stack = above ++ t.stack)
    (hvisited : u.Visited dependency)
    (hreaches : t.next ≤ reached ∨ ∃ a ∈ t.stack, t.number a = reached ∧ ReflTransGen g.Edge node a)
    (hle : ∀ a ∈ u.stack, a ∉ t.stack → ∀ b ∈ s.stack, g.Edge a b → reached ≤ s.number b)
    (hdependency : dependency ∈ s.stack → reached ≤ s.number dependency) :
    Exploring g s (u.lower node reached) pending node (followed ++ [dependency])
      (min least reached) := by
  have hlow : u.low.find? node = some least := (hkeeps.low node h.visited_node).trans h.low
  constructor
  case before => exact h.before
  case new => exact h.new
  case sound => exact hsound.lower node reached
  case keeps => exact (h.keeps.trans hkeeps).lower h.new hlow
  case next_lt =>
    rw [lower_next]
    exact Nat.lt_of_lt_of_le h.next_lt hkeeps.next_le
  case index =>
    rw [lower_index]
    exact (hkeeps.index node h.visited_node).trans h.index
  case stack =>
    obtain ⟨above, hbelow⟩ := h.stack
    obtain ⟨above', hstack⟩ := hstack
    refine ⟨above' ++ above, ?_⟩
    rw [lower_stack, hstack, hbelow, List.append_assoc]
  case visited =>
    simp only [visited_lower, List.forall_mem_append, List.forall_mem_singleton]
    exact ⟨fun a ha hmodule => hkeeps.visited (h.visited a ha hmodule), fun _ => hvisited⟩
  case low => rw [find?_low_lower hlow, if_pos rfl]
  case low_le => exact Nat.le_trans (Nat.min_le_left _ _) h.low_le
  case reaches =>
    rcases Nat.le_total least reached with hmin | hmin
    · rw [Nat.min_eq_left hmin]
      exact h.reaches
    · rw [Nat.min_eq_right hmin]
      rcases hreaches with hnext | ⟨a, ha, hnumber, hpath⟩
      · exact absurd (Nat.le_trans hnext (Nat.le_trans hmin h.low_le)) (Nat.not_le_of_lt h.next_lt)
      · rcases Nat.lt_or_eq_of_le (Nat.le_trans hmin h.low_le) with hlt | heq
        · rw [← hnumber] at hlt ⊢
          obtain ⟨hold, hsame⟩ := h.mem_stack_of_lt ha hlt
          exact .inr ⟨a, hold, hsame, hpath⟩
        · exact .inl heq
  case le =>
    rw [lower_stack]
    intro a ha hne hnew b hb hedge
    by_cases hold : a ∈ t.stack
    · exact Nat.le_trans (Nat.min_le_left _ _) (h.le a hold hne hnew b hb hedge)
    · exact Nat.le_trans (Nat.min_le_right _ _) (hle a ha hold b hb hedge)
  case le_followed =>
    rw [List.forall_mem_append, List.forall_mem_singleton]
    constructor
    · intro b hb hold
      exact Nat.le_trans (Nat.min_le_left _ _) (h.le_followed b hb hold)
    · intro hold
      exact Nat.le_trans (Nat.min_le_right _ _) (hdependency hold)

/-- A dependency is followed, given what its visit amounts to if it is visited. -/
theorem follow {visit : ComponentSearch → ModuleId → ComponentSearch}
    (h : Exploring g s t pending node followed least) (hedge : g.Edge node dependency)
    (hvisit : dependency ∈ g.modules → ¬t.Visited dependency →
      ∃ reached, Visits g t (visit t dependency) (node :: pending) dependency reached) :
    ∃ least', Exploring g s (g.follow visit node t dependency) pending node
      (followed ++ [dependency]) least' := by
  have hstacked : dependency ∈ s.stack → t.Visited dependency := fun hold =>
    h.keeps.visited (h.before.visited_of_mem hold)
  unfold DependencyGraph.follow
  by_cases hmodule : g.contains dependency
  · rw [if_pos hmodule]
    have hmem := contains_iff.mp hmodule
    cases hindex : t.index.find? dependency with
    | none =>
      have hnew : ¬t.Visited dependency := by
        rw [Visited, hindex]
        exact Bool.false_ne_true
      obtain ⟨reached, hvisits⟩ := hvisit hmem hnew
      simp only [hvisits.low]
      refine ⟨_, h.note hvisits.sound hvisits.keeps hvisits.stack hvisits.visited ?_ ?_ ?_⟩
      · refine hvisits.reaches.imp_right ?_
        rintro ⟨a, ha, hnumber, hpath⟩
        exact ⟨a, ha, hnumber, .head hedge hpath⟩
      · intro a ha hnew b hb hedge
        have hnumber := h.keeps.number_eq (h.before.visited_of_mem hb)
        rw [← hnumber]
        exact hvisits.le a ha hnew b (h.mem_stack hb) hedge
      · exact fun hold => absurd (hstacked hold) hnew
    | some reached =>
      have hvisited : t.Visited dependency := by
        rw [Visited, hindex]
        rfl
      have hnumber : t.number dependency = reached := by
        rw [number, hindex]
        rfl
      dsimp only
      by_cases hstack : dependency ∈ t.stack
      · rw [if_pos hstack]
        refine ⟨_, h.note h.sound (.refl t) ⟨[], rfl⟩ hvisited ?_ ?_ ?_⟩
        · exact .inr ⟨dependency, hstack, hnumber, .single hedge⟩
        · exact fun a ha hnew => absurd ha hnew
        · intro hold
          rw [← h.keeps.number_eq (h.before.visited_of_mem hold), hnumber]
      · rw [if_neg hstack]
        exact ⟨_, h.skip (fun _ => hvisited) fun hold => hstack (h.mem_stack hold)⟩
  · rw [if_neg hmodule]
    have habsent : dependency ∉ g.modules := fun hmem => hmodule (contains_iff.mpr hmem)
    refine ⟨_, h.skip (fun hmem => absurd hmem habsent) fun hold => habsent ?_⟩
    exact h.before.mem_modules dependency (h.before.visited_of_mem hold)

/-- All dependencies are followed one after the other. -/
theorem foldl_follow {visit : ComponentSearch → ModuleId → ComponentSearch}
    {dependencies : List ModuleId} (h : Exploring g s t pending node followed least)
    (hedges : ∀ d ∈ dependencies, g.Edge node d)
    (hvisit : ∀ t followed least, Exploring g s t pending node followed least →
      ∀ d ∈ g.modules, g.Edge node d → ¬t.Visited d →
        ∃ reached, Visits g t (visit t d) (node :: pending) d reached) :
    ∃ least', Exploring g s (dependencies.foldl (g.follow visit node) t) pending node
      (followed ++ dependencies) least' := by
  induction dependencies generalizing t followed least with
  | nil => exact ⟨least, by rwa [List.append_nil]⟩
  | cons d dependencies ih =>
    obtain ⟨hedge, hedges⟩ := List.forall_mem_cons.mp hedges
    obtain ⟨least', hnext⟩ := h.follow hedge fun hmem hnew => hvisit t followed least h d hmem hedge hnew
    obtain ⟨least'', hall⟩ := ih hnext hedges
    refine ⟨least'', ?_⟩
    rw [List.append_cons]
    exact hall

section Leave

variable {above : List ModuleId}

/-- What was put on the stack above a module is later than it, and it is not below it. -/
theorem of_mem_above (h : Exploring g s t pending node followed least)
    (hstack : t.stack = above ++ node :: s.stack) (ha : a ∈ above) :
    t.number node < t.number a ∧ a ≠ node ∧ a ∉ s.stack := by
  have hdescending := h.sound.descending
  have hnodup := h.sound.stack_nodup
  rw [hstack] at hdescending hnodup
  have hapart := (List.nodup_append.mp hnodup).2.2 a ha
  refine ⟨(List.pairwise_append.mp hdescending).2.2 a ha node List.mem_cons_self, ?_, ?_⟩
  · exact hapart node List.mem_cons_self
  · exact fun hold => hapart a (List.mem_cons_of_mem _ hold) rfl

/-- From a module with its own number everything above it on the stack is reached, and leads back. -/
theorem connected_of_mem (h : Exploring g s t pending node followed least)
    (hstack : t.stack = above ++ node :: s.stack) (ha : a ∈ above ++ [node]) :
    g.Connected node a := by
  have hnode : node ∈ t.stack := by
    rw [hstack]
    exact List.mem_append_right _ List.mem_cons_self
  rcases List.mem_append.mp ha with ha | ha
  · have hmem : a ∈ t.stack := by
      rw [hstack]
      exact List.mem_append_left _ ha
    have hlt := (h.of_mem_above hstack ha).1
    refine ⟨h.sound.leads node hnode a hmem (Nat.le_of_lt hlt), ?_⟩
    obtain ⟨b, hb, -, hpath⟩ := h.sound.leads_pending a hmem
    rcases List.mem_cons.mp hb with rfl | hb
    · exact hpath
    · have hold := h.before.pending_subset b hb
      have hbefore : t.number b ≤ t.number node := by
        rw [h.number_node, h.keeps.number_eq (h.before.visited_of_mem hold)]
        exact Nat.le_of_lt (h.before.number_lt b hold)
      exact hpath.trans (h.sound.leads b (h.mem_stack hold) node hnode hbefore)
  · rw [List.mem_singleton.mp ha]
    exact ⟨.refl, .refl⟩

/-- A module that leads to none below itself on the stack has its whole component above it. -/
theorem mem_of_connected (h : Exploring g s t pending node followed s.next)
    (hstack : t.stack = above ++ node :: s.stack)
    (hfollowed : ∀ d, g.Edge node d → d ∈ followed) (hb : g.Connected node b) :
    b ∈ above ++ [node] := by
  have hmodule : node ∈ g.modules := h.sound.mem_modules node h.visited_node
  obtain ⟨hpath, hback⟩ := hb
  induction hpath with
  | refl => exact List.mem_append_right _ (List.mem_singleton_self node)
  | @tail a b hpath hedge ih =>
    have ha := ih (.head hedge hback)
    have hmem := mem_modules_of_path hback hmodule
    have hvisited : t.Visited b := by
      rcases List.mem_append.mp ha with ha | ha
      · obtain ⟨-, hne, hnew⟩ := h.of_mem_above hstack ha
        have hmemStack : a ∈ t.stack := by
          rw [hstack]
          exact List.mem_append_left _ ha
        refine h.sound.closed a (h.sound.visited_of_mem hmemStack) ?_ b hmem hedge
        rintro hpending
        rcases List.mem_cons.mp hpending with heq | hpending
        · exact hne heq
        · exact hnew (h.before.pending_subset a hpending)
      · rw [List.mem_singleton.mp ha] at hedge
        exact h.visited b (hfollowed b hedge) hmem
    rcases (h.sound.visited_iff b).mp hvisited with hb | ⟨c, hc, hb⟩
    · rw [hstack, List.append_cons] at hb
      refine (List.mem_append.mp hb).resolve_right fun hold => ?_
      -- What is below the module has a number below its own.
      have hlow : s.next ≤ s.number b := by
        rcases List.mem_append.mp ha with ha | ha
        · obtain ⟨-, hne, hnew⟩ := h.of_mem_above hstack ha
          refine h.le a ?_ hne hnew b hold hedge
          rw [hstack]
          exact List.mem_append_left _ ha
        · rw [List.mem_singleton.mp ha] at hedge
          exact h.le_followed b (hfollowed b hedge) hold
      exact Nat.not_lt_of_le hlow (h.before.number_lt b hold)
    · have hnode : node ∈ t.stack := by
        rw [hstack]
        exact List.mem_append_right _ List.mem_cons_self
      have hconnected : g.Connected b node := ⟨hback, hpath.tail hedge⟩
      exact absurd ⟨c, hc, (h.sound.connected c hc b hb node).mpr hconnected⟩
        (h.sound.notMem node hnode)

/-- The state after the component of a module was taken off the stack. -/
def completed (s t : ComponentSearch) (component : List ModuleId) : ComponentSearch :=
  { t with stack := s.stack, components := component :: t.components }

theorem sound_completed (h : Exploring g s t pending node followed s.next)
    (hstack : t.stack = above ++ node :: s.stack)
    (hfollowed : ∀ d, g.Edge node d → d ∈ followed) :
    (completed s t (above ++ [node])).Sound g pending := by
  have hmem : ∀ a, a ∈ t.stack ↔ a ∈ above ++ [node] ∨ a ∈ s.stack := by
    intro a
    rw [hstack, List.append_cons, List.mem_append]
  have hcomplete : ∀ a, (completed s t (above ++ [node])).Complete a ↔
      a ∈ above ++ [node] ∨ t.Complete a := by
    intro a
    exact List.exists_mem_cons_iff ..
  constructor
  case visited_iff =>
    intro a
    refine (h.sound.visited_iff a).trans ?_
    rw [hmem, hcomplete, or_assoc, or_left_comm]
    rfl
  case mem_modules => exact h.sound.mem_modules
  case number_lt => exact fun a ha => h.sound.number_lt a (h.mem_stack ha)
  case descending =>
    have hdescending := h.sound.descending
    rw [hstack] at hdescending
    exact (List.pairwise_cons.mp (List.pairwise_append.mp hdescending).2.1).2
  case pending_subset => exact h.before.pending_subset
  case closed =>
    intro a ha hpending b hb hedge
    by_cases hne : a = node
    · rw [hne] at hedge
      exact h.visited b (hfollowed b hedge) hb
    · exact h.sound.closed a ha (List.not_mem_cons_of_ne_of_not_mem hne hpending) b hb hedge
  case leads => exact fun a ha b hb => h.sound.leads a (h.mem_stack ha) b (h.mem_stack hb)
  case leads_pending =>
    intro a ha
    obtain ⟨b, hb, hle, hpath⟩ := h.before.leads_pending a ha
    refine ⟨b, hb, ?_, hpath⟩
    have hnumber : ∀ c ∈ s.stack, t.number c = s.number c := fun c hc =>
      h.keeps.number_eq (h.before.visited_of_mem hc)
    change t.number b ≤ t.number a
    rwa [hnumber a ha, hnumber b (h.before.pending_subset b hb)]
  case connected =>
    refine List.forall_mem_cons.mpr ⟨fun a ha b => ?_, h.sound.connected⟩
    have hnode := h.connected_of_mem hstack ha
    constructor
    · intro hb
      exact hnode.symm.trans (h.connected_of_mem hstack hb)
    · intro hab
      exact h.mem_of_connected hstack hfollowed (hnode.trans hab)
  case nodup =>
    refine List.forall_mem_cons.mpr ⟨⟨List.append_ne_nil_of_right_ne_nil _ (List.cons_ne_nil _ _), ?_⟩,
      h.sound.nodup⟩
    have hnodup := h.sound.stack_nodup
    rw [hstack, List.append_cons] at hnodup
    exact (List.nodup_append.mp hnodup).1
  case notMem =>
    intro a ha hmemComplete
    rcases (hcomplete a).mp hmemComplete with hnew | hold
    · have hnodup := h.sound.stack_nodup
      rw [hstack, List.append_cons] at hnodup
      exact (List.nodup_append.mp hnodup).2.2 a hnew a ha rfl
    · exact h.sound.notMem a (h.mem_stack ha) hold
  case disjoint =>
    refine List.pairwise_cons.mpr ⟨fun c hc a ha hac => ?_, h.sound.disjoint⟩
    exact h.sound.notMem a ((hmem a).mpr (.inl ha)) ⟨c, hc, hac⟩

/-- A module that leads to one below itself on the stack stays there when its visit is over. -/
theorem sound_left (h : Exploring g s t pending node followed least) (hlt : least < s.next)
    (hfollowed : ∀ d, g.Edge node d → d ∈ followed) : t.Sound g pending := by
  constructor
  case visited_iff => exact h.sound.visited_iff
  case mem_modules => exact h.sound.mem_modules
  case number_lt => exact h.sound.number_lt
  case descending => exact h.sound.descending
  case pending_subset => exact fun a ha => h.sound.pending_subset a (List.mem_cons_of_mem _ ha)
  case closed =>
    intro a ha hpending b hb hedge
    by_cases hne : a = node
    · rw [hne] at hedge
      exact h.visited b (hfollowed b hedge) hb
    · exact h.sound.closed a ha (List.not_mem_cons_of_ne_of_not_mem hne hpending) b hb hedge
  case leads => exact h.sound.leads
  case leads_pending =>
    intro a ha
    obtain ⟨b, hb, hle, hpath⟩ := h.sound.leads_pending a ha
    rcases List.mem_cons.mp hb with rfl | hb
    · -- From the module itself the way goes on to an earlier one, and from there to a pending one.
      obtain ⟨c, hc, hnumber, hdown⟩ := h.reaches.resolve_left (Nat.ne_of_lt hlt)
      obtain ⟨d, hd, hle', hlast⟩ := h.before.leads_pending c hc
      refine ⟨d, hd, ?_, hpath.trans (hdown.trans hlast)⟩
      rw [h.number_node] at hle
      rw [h.keeps.number_eq (h.before.visited_of_mem (h.before.pending_subset d hd))]
      omega
    · exact ⟨b, hb, hle, hpath⟩
  case connected => exact h.sound.connected
  case nodup => exact h.sound.nodup
  case notMem => exact h.sound.notMem
  case disjoint => exact h.sound.disjoint

/-- A module is left when all its dependencies are followed, and its visit is over. -/
theorem leave (h : Exploring g s t pending node followed least)
    (hfollowed : ∀ d, g.Edge node d → d ∈ followed) :
    Visits g s (t.leave node) pending node least := by
  obtain ⟨above, hstack⟩ := h.stack
  by_cases hleast : least = s.next
  · subst hleast
    have habove : ∀ a ∈ above, (a != node) = true := fun a ha =>
      bne_iff_ne.mpr (h.of_mem_above hstack ha).2.1
    have hleave : t.leave node = completed s t (above ++ [node]) := by
      rw [ComponentSearch.leave, if_pos (h.low.trans h.index.symm), hstack,
        List.takeWhile_append_of_pos habove, List.dropWhile_append_of_pos habove]
      simp [completed]
    rw [hleave]
    constructor
    case sound => exact h.sound_completed hstack hfollowed
    case keeps => exact ⟨h.keeps.index, h.keeps.low, h.keeps.fresh, h.keeps.next_le⟩
    case visited => exact h.visited_node
    case stack => exact ⟨[], rfl⟩
    case low => exact h.low
    case reaches => exact .inl (Nat.le_refl _)
    case le => exact fun a ha hnew => absurd ha hnew
  · have hlt : least < s.next := Nat.lt_of_le_of_ne h.low_le hleast
    have hleave : t.leave node = t := by
      rw [ComponentSearch.leave, if_neg]
      rw [h.low, h.index]
      exact fun heq => hleast (Option.some.inj heq)
    rw [hleave]
    constructor
    case sound => exact h.sound_left hlt hfollowed
    case keeps => exact h.keeps
    case visited => exact h.visited_node
    case stack => exact ⟨above ++ [node], by rw [hstack, List.append_cons]⟩
    case low => exact h.low
    case reaches => exact .inr (h.reaches.resolve_left hleast)
    case le =>
      intro a ha hnew b hb hedge
      by_cases hne : a = node
      · rw [hne] at hedge
        exact h.le_followed b (hfollowed b hedge) hb
      · exact h.le a ha hne hnew b hb hedge

end Leave

end Exploring

/-! ## The whole search -/

/-- The number of modules that were not visited. -/
def unvisited (g : DependencyGraph) (s : ComponentSearch) : Nat :=
  (g.modules.filter fun a => !s.index.contains a).length

theorem contains_index_iff : s.index.contains a = true ↔ s.Visited a :=
  Iff.rfl

theorem unvisited_pos (hnode : node ∈ g.modules) (hnew : ¬s.Visited node) : 0 < unvisited g s := by
  refine List.length_pos_of_mem (List.mem_filter.mpr ⟨hnode, ?_⟩)
  rw [Bool.not_eq_true', ← Bool.not_eq_true, contains_index_iff]
  exact hnew

theorem Keeps.unvisited_lt (h : s.Keeps t) (hnode : node ∈ g.modules) (hnew : ¬s.Visited node)
    (hvisited : t.Visited node) : unvisited g t < unvisited g s := by
  have hfilter : (g.modules.filter fun a => !t.index.contains a) =
      (g.modules.filter fun a => !s.index.contains a).filter fun a => !t.index.contains a := by
    rw [List.filter_filter]
    refine List.filter_congr fun a _ => ?_
    cases hs : s.index.contains a with
    | false => rw [Bool.not_false, Bool.and_true]
    | true =>
      have ht : t.index.contains a = true := h.visited hs
      rw [ht, Bool.not_true, Bool.and_false]
  rw [unvisited, unvisited, hfilter, List.length_filter_lt_length_iff_exists]
  refine ⟨node, List.mem_filter.mpr ⟨hnode, ?_⟩, ?_⟩
  · rw [Bool.not_eq_true', ← Bool.not_eq_true, contains_index_iff]
    exact hnew
  · rw [contains_index_iff.mpr hvisited]
    exact Bool.false_ne_true

/-- A visit that may go as deep as there are modules to be visited is one. -/
theorem visits_visit {depth : Nat} (h : s.Sound g pending) (hnode : node ∈ g.modules)
    (hnew : ¬s.Visited node) (hpending : ∀ a ∈ pending, ReflTransGen g.Edge a node)
    (hdepth : unvisited g s ≤ depth) :
    ∃ least, Visits g s (g.visit depth s node) pending node least := by
  induction depth generalizing s pending node with
  | zero => exact absurd (unvisited_pos hnode hnew) (Nat.not_lt_of_le hdepth)
  | succ depth ih =>
    have hentered := exploring_enter h hnode hnew hpending
    obtain ⟨least, hexplored⟩ : ∃ least, Exploring g s
        ((g.sortedDependencies node).foldl (g.follow (g.visit depth) node) (s.enter node)) pending
        node ([] ++ g.sortedDependencies node) least := by
      refine hentered.foldl_follow (fun d hd => mem_inOrder.mp hd) ?_
      intro t followed least ht d hmem hedge hdnew
      refine ih ht.sound hmem hdnew ?_ ?_
      · rw [List.forall_mem_cons]
        exact ⟨.single hedge, fun a ha => (hpending a ha).tail hedge⟩
      · exact Nat.le_of_lt_succ
          (Nat.lt_of_lt_of_le (ht.keeps.unvisited_lt hnode hnew ht.visited_node) hdepth)
    refine ⟨least, hexplored.leave fun d hedge => ?_⟩
    rw [List.nil_append]
    exact mem_inOrder.mpr hedge

theorem sound_empty (g : DependencyGraph) : empty.Sound g [] := by
  have hnot : ∀ a, ¬empty.Visited a := fun a => Bool.false_ne_true
  constructor
  case visited_iff =>
    intro a
    refine iff_of_false (hnot a) ?_
    rintro (ha | ⟨c, hc, -⟩)
    · cases ha
    · cases hc
  case mem_modules => exact fun a ha => absurd ha (hnot a)
  case number_lt => exact List.forall_mem_nil _
  case descending => exact .nil
  case pending_subset => exact List.forall_mem_nil _
  case closed => exact fun a ha => absurd ha (hnot a)
  case leads => exact List.forall_mem_nil _
  case leads_pending => exact List.forall_mem_nil _
  case connected => exact List.forall_mem_nil _
  case nodup => exact List.forall_mem_nil _
  case notMem => exact List.forall_mem_nil _
  case disjoint => exact .nil

theorem visitNew_sound (h : s.Sound g []) (hnode : node ∈ g.modules) :
    (g.visitNew s node).Sound g [] ∧ s.Keeps (g.visitNew s node) ∧
      (g.visitNew s node).Visited node := by
  unfold visitNew
  by_cases hvisited : s.index.contains node
  · rw [if_pos hvisited]
    exact ⟨h, .refl s, hvisited⟩
  · rw [if_neg hvisited]
    have hdepth : unvisited g s ≤ g.size := by
      refine (List.length_filter_le _ _).trans (Nat.le_of_eq ?_)
      exact List.length_map _
    obtain ⟨least, hvisits⟩ := visits_visit h hnode hvisited (List.forall_mem_nil _) hdepth
    exact ⟨hvisits.sound, hvisits.keeps, hvisits.visited⟩

theorem foldl_visitNew_sound {ids : List ModuleId} (h : s.Sound g []) (hids : ∀ a ∈ ids, a ∈ g.modules) :
    (ids.foldl g.visitNew s).Sound g [] ∧ s.Keeps (ids.foldl g.visitNew s) ∧
      ∀ a ∈ ids, (ids.foldl g.visitNew s).Visited a := by
  induction ids generalizing s with
  | nil => exact ⟨h, .refl s, List.forall_mem_nil _⟩
  | cons id ids ih =>
    obtain ⟨hid, hids⟩ := List.forall_mem_cons.mp hids
    obtain ⟨hsound, hkeeps, hvisited⟩ := visitNew_sound h hid
    obtain ⟨hsounds, hkept, hall⟩ := ih hsound hids
    exact ⟨hsounds, hkeeps.trans hkept, List.forall_mem_cons.mpr ⟨hkept.visited hvisited, hall⟩⟩

/-- A search that is not within a visit has completed the components of all modules that it visited. -/
theorem Sound.complete_of_visited (h : s.Sound g []) (ha : s.Visited a) : s.Complete a := by
  refine ((h.visited_iff a).mp ha).resolve_left fun hstack => ?_
  obtain ⟨b, hb, -⟩ := h.leads_pending a hstack
  cases hb

end ComponentSearch

/-- Some lists of modules are the components of a graph. -/
structure ComponentsOf (g : DependencyGraph) (found : List (List ModuleId)) : Prop where
  connected : ∀ c ∈ found, ∀ a ∈ c, ∀ b, b ∈ c ↔ g.Connected a b
  nodup : ∀ c ∈ found, c ≠ [] ∧ c.Nodup
  subset : ∀ c ∈ found, ∀ a ∈ c, a ∈ g.modules
  covers : ∀ a ∈ g.modules, ∃ c ∈ found, a ∈ c
  disjoint : found.Pairwise List.Disjoint

/-- The search finds the components of a graph, each once. -/
theorem componentsOf_components (g : DependencyGraph) : g.ComponentsOf g.components := by
  obtain ⟨hsound, -, hvisited⟩ := ComponentSearch.foldl_visitNew_sound
    (ComponentSearch.sound_empty g) fun a (ha : a ∈ g.modules) => ha
  have hmem : ∀ c, c ∈ g.components ↔ c ∈ (g.modules.foldl g.visitNew .empty).components := fun c =>
    List.mem_reverse
  constructor
  case connected => exact fun c hc => hsound.connected c ((hmem c).mp hc)
  case nodup => exact fun c hc => hsound.nodup c ((hmem c).mp hc)
  case subset =>
    intro c hc a ha
    exact hsound.mem_modules a ((hsound.visited_iff a).mpr (.inr ⟨c, (hmem c).mp hc, ha⟩))
  case covers =>
    intro a ha
    obtain ⟨c, hc, hac⟩ := hsound.complete_of_visited (hvisited a ha)
    exact ⟨c, (hmem c).mpr hc, hac⟩
  case disjoint =>
    refine List.pairwise_reverse.mpr (hsound.disjoint.imp fun hdisjoint => ?_)
    exact hdisjoint.symm

end HotReload.DependencyGraph
