import HotReload.Proofs.Dependency.Components
import Mathlib.Data.List.Chain
import Mathlib.Data.List.Induction
import Mathlib.Data.List.Perm.Subperm

/-!
# Shortest loops

A search for a loop goes on level by level from its start: the queue holds what is left of one level
and what was found of the next. What is known in between (`Searching`) is kept when a module is
followed (`Searching.follow`) and from one level to the next (`Searching.nextLevel`). So the search
among the modules that share a component with its start ends at a loop, and no loop through the start
is shorter (`exists_shortestLoop?`).
-/

namespace HotReload.DependencyGraph

open Relation

variable {g : DependencyGraph} {a b start : ModuleId}

/-- A closed walk along dependencies: its modules one after the other, the last of which depends on the
first again. -/
def IsLoop (g : DependencyGraph) (start : ModuleId) (walk : List ModuleId) : Prop :=
  walk.head? = some start ∧ (walk ++ [start]).IsChain g.Edge

/-- A loop than which no other one with the same start is shorter. -/
structure IsShortestLoop (g : DependencyGraph) (start : ModuleId) (loop : List ModuleId) : Prop where
  isLoop : g.IsLoop start loop
  le : ∀ walk, g.IsLoop start walk → loop.length ≤ walk.length

theorem dependsOn_of_isChain {walk : List ModuleId} (h : (a :: walk ++ [b]).IsChain g.Edge) :
    g.DependsOn a b := by
  induction walk generalizing a with
  | nil => exact .single (List.isChain_pair.mp h)
  | cons c walk ih =>
    obtain ⟨hac, hwalk⟩ := List.isChain_cons_cons.mp h
    exact .head hac (ih hwalk)

/-- The modules of a loop depend on its start, and it depends on them. -/
theorem IsLoop.dependsOn {walk : List ModuleId} (h : g.IsLoop start walk) (ha : a ∈ walk) :
    g.DependsOn start a ∧ g.DependsOn a start := by
  obtain ⟨hhead, hchain⟩ := h
  obtain ⟨before, after, rfl⟩ := List.append_of_mem ha
  rw [List.append_assoc] at hchain
  have hback : g.DependsOn a start := dependsOn_of_isChain hchain.right_of_append
  refine ⟨?_, hback⟩
  cases before with
  | nil =>
    cases hhead
    exact hback
  | cons first before =>
    cases hhead
    have hsplit : start :: before ++ (a :: after ++ [start]) =
        (start :: before ++ [a]) ++ (after ++ [start]) := by simp
    rw [hsplit] at hchain
    exact dependsOn_of_isChain hchain.left_of_append

/-! ## The way back -/

section WayBack

open LoopSearch

variable {cameFrom : SortedMap ModuleId ModuleId} {steps : Nat} {way : List ModuleId}

/-- The start of a search and the modules that it came upon. -/
def Found (cameFrom : SortedMap ModuleId ModuleId) (start a : ModuleId) : Prop :=
  a = start ∨ cameFrom.contains a = true

theorem wayBack?_start : wayBack? cameFrom start (steps + 1) start = some [start] := by
  rw [wayBack?, if_pos rfl]

theorem wayBack?_cons (hne : b ≠ start) (hb : cameFrom.find? b = some a)
    (h : wayBack? cameFrom start steps a = some way) :
    wayBack? cameFrom start (steps + 1) b = some (b :: way) := by
  rw [wayBack?, if_neg hne, hb]
  dsimp only
  rw [h, Option.map_some]

/-- A way back consists of the module alone, or leads on from the module before it. -/
theorem wayBack?_eq_some (h : wayBack? cameFrom start (steps + 1) b = some way) :
    b = start ∧ way = [start] ∨ b ≠ start ∧ ∃ a rest, cameFrom.find? b = some a ∧
      wayBack? cameFrom start steps a = some rest ∧ way = b :: rest := by
  rw [wayBack?] at h
  by_cases hb : b = start
  · rw [if_pos hb] at h
    cases h
    exact .inl ⟨hb, hb ▸ rfl⟩
  · rw [if_neg hb] at h
    cases hfind : cameFrom.find? b with
    | none =>
      rw [hfind] at h
      cases h
    | some a =>
      rw [hfind] at h
      obtain ⟨rest, hrest, rfl⟩ := Option.map_eq_some_iff.mp h
      exact .inr ⟨hb, a, rest, rfl, hrest, rfl⟩

theorem wayBack?_of_le {more : Nat} (hle : steps ≤ more)
    (h : wayBack? cameFrom start steps a = some way) : wayBack? cameFrom start more a = some way := by
  induction steps generalizing a way more with
  | zero => cases h
  | succ steps ih =>
    obtain ⟨more, rfl⟩ := Nat.exists_eq_add_of_lt hle
    rcases wayBack?_eq_some h with ⟨rfl, rfl⟩ | ⟨hne, before, rest, hbefore, hrest, rfl⟩
    · exact wayBack?_start
    · exact wayBack?_cons hne hbefore (ih (Nat.le_add_right _ _) hrest)

/-- Ways back are the same when further modules are found. -/
theorem wayBack?_insert (hnew : cameFrom.find? b = none)
    (h : wayBack? cameFrom start steps a = some way) :
    wayBack? (cameFrom.insert b c) start steps a = some way := by
  induction steps generalizing a way with
  | zero => cases h
  | succ steps ih =>
    rcases wayBack?_eq_some h with ⟨rfl, rfl⟩ | ⟨hne, before, rest, hbefore, hrest, rfl⟩
    · exact wayBack?_start
    · refine wayBack?_cons hne ?_ (ih hrest)
      have hab : a ≠ b := by
        rintro rfl
        rw [hnew] at hbefore
        cases hbefore
      rw [SortedMap.find?_insert, if_neg hab, hbefore]

theorem found_of_mem_wayBack? (h : wayBack? cameFrom start steps a = some way) (hb : b ∈ way) :
    Found cameFrom start b := by
  induction steps generalizing a way with
  | zero => cases h
  | succ steps ih =>
    rcases wayBack?_eq_some h with ⟨rfl, rfl⟩ | ⟨hne, before, rest, hbefore, hrest, rfl⟩
    · exact .inl (List.mem_singleton.mp hb)
    · rcases List.mem_cons.mp hb with rfl | hb
      · exact .inr (SortedMap.contains_iff.mpr ⟨before, hbefore⟩)
      · exact ih hrest hb

end WayBack

/-! ## Following a module -/

section Finds

open LoopSearch

variable {members dependencies : List ModuleId} {current : ModuleId} {s t : LoopSearch}

/-- What became of a search that followed some dependencies of a module. -/
structure Finds (members : List ModuleId) (current : ModuleId) (dependencies : List ModuleId)
    (s t : LoopSearch) (new : List ModuleId) : Prop where
  queue : t.queue = s.queue ++ new
  found : ∀ a ∈ new, a ∈ members ∧ a ∈ dependencies ∧ s.cameFrom.find? a = none ∧
    t.cameFrom.find? a = some current
  contains_iff : ∀ a, t.cameFrom.contains a ↔ s.cameFrom.contains a ∨ a ∈ new
  complete : ∀ a ∈ dependencies, a ∈ members → t.cameFrom.contains a
  wayBack : ∀ {start a way steps}, wayBack? s.cameFrom start steps a = some way →
    wayBack? t.cameFrom start steps a = some way
  count : t.cameFrom.keys.length = s.cameFrom.keys.length + new.length

theorem finds_nil (s : LoopSearch) : Finds members current [] s s [] := by
  constructor
  case queue => exact (List.append_nil _).symm
  case found => exact nofun
  case contains_iff => simp
  case complete => exact nofun
  case wayBack => exact fun h => h
  case count => rfl

/-- A dependency that is no member or was found before changes nothing. -/
theorem Finds.keep {dependency : ModuleId} {new : List ModuleId}
    (h : Finds members current dependencies s t new)
    (hold : dependency ∈ members → t.cameFrom.contains dependency) :
    Finds members current (dependencies ++ [dependency]) s t new := by
  constructor
  case queue => exact h.queue
  case found =>
    intro a ha
    obtain ⟨hmember, hmem, hfinds⟩ := h.found a ha
    exact ⟨hmember, List.mem_append_left _ hmem, hfinds⟩
  case contains_iff => exact h.contains_iff
  case complete =>
    intro a ha hmember
    rcases List.mem_append.mp ha with ha | ha
    · exact h.complete a ha hmember
    · obtain rfl := List.mem_singleton.mp ha
      exact hold hmember
  case wayBack => exact h.wayBack
  case count => exact h.count

/-- A member that was not found before joins the queue. -/
theorem Finds.add {dependency : ModuleId} {new : List ModuleId}
    (h : Finds members current dependencies s t new) (hmember : dependency ∈ members)
    (hnew : t.cameFrom.find? dependency = none) :
    Finds members current (dependencies ++ [dependency]) s
      { queue := t.queue ++ [dependency], cameFrom := t.cameFrom.insert dependency current }
      (new ++ [dependency]) := by
  constructor
  case queue =>
    dsimp only
    rw [h.queue, List.append_assoc]
  case found =>
    intro a ha
    rw [SortedMap.find?_insert]
    rcases List.mem_append.mp ha with ha | ha
    · obtain ⟨ham, had, hbefore, hafter⟩ := h.found a ha
      refine ⟨ham, List.mem_append_left _ had, hbefore, ?_⟩
      split
      next => rfl
      next => exact hafter
    · obtain rfl := List.mem_singleton.mp ha
      refine ⟨hmember, List.mem_append_right _ ha, ?_, if_pos rfl⟩
      by_contra hsome
      obtain ⟨b, hb⟩ := Option.ne_none_iff_exists'.mp hsome
      have hcontains := (h.contains_iff a).mpr (.inl (SortedMap.contains_iff.mpr ⟨b, hb⟩))
      rw [SortedMap.contains_eq_false_iff.mpr hnew] at hcontains
      cases hcontains
  case contains_iff =>
    intro a
    rw [SortedMap.contains_insert, h.contains_iff, List.mem_append, List.mem_singleton]
    tauto
  case complete =>
    intro a ha ham
    rw [SortedMap.contains_insert]
    rcases List.mem_append.mp ha with ha | ha
    · exact .inr (h.complete a ha ham)
    · exact .inl (List.mem_singleton.mp ha)
  case wayBack => exact fun hway => wayBack?_insert hnew (h.wayBack hway)
  case count =>
    rw [SortedMap.length_keys_insert hnew, h.count, List.length_append, List.length_singleton,
      Nat.add_assoc]

/-- What became of a search that followed the dependencies of a module. -/
theorem exists_finds (members : List ModuleId) (current : ModuleId) (dependencies : List ModuleId)
    (s : LoopSearch) :
    ∃ new, Finds members current dependencies s (dependencies.foldl (find members current) s) new := by
  induction dependencies using List.reverseRecOn with
  | nil => exact ⟨[], finds_nil s⟩
  | append_singleton dependencies dependency ih =>
    obtain ⟨new, h⟩ := ih
    rw [List.foldl_append, List.foldl_cons, List.foldl_nil, find]
    split
    next hnew =>
      have hfind := SortedMap.contains_eq_false_iff.mp (Bool.not_eq_true' _ ▸ hnew.2)
      exact ⟨_, h.add hnew.1 hfind⟩
    next hold =>
      refine ⟨new, h.keep fun hmember => ?_⟩
      by_contra hcontains
      exact hold ⟨hmember, by rw [Bool.eq_false_iff.mpr hcontains]; rfl⟩

theorem foldl_findUntil_closed (dependencies : List ModuleId) (s : LoopSearch) :
    dependencies.foldl (findUntil start members current) (s, true) = (s, true) := by
  induction dependencies with
  | nil => rfl
  | cons _ _ ih => exact ih

/-- Where no loop is closed, all dependencies are found. -/
theorem foldl_findUntil_of_notMem (h : start ∉ dependencies) (s : LoopSearch) :
    dependencies.foldl (findUntil start members current) (s, false) =
      (dependencies.foldl (find members current) s, false) := by
  induction dependencies generalizing s with
  | nil => rfl
  | cons dependency dependencies ih =>
    obtain ⟨hne, hrest⟩ := not_or.mp (List.mem_cons.not.mp h)
    rw [List.foldl_cons, List.foldl_cons, ← ih hrest, findUntil, if_neg Bool.false_ne_true,
      if_neg (Ne.symm hne)]

/-- Where a loop is closed, only the dependencies before that are found. -/
theorem exists_foldl_findUntil (h : start ∈ dependencies) (s : LoopSearch) :
    ∃ before : List ModuleId, dependencies.foldl (findUntil start members current) (s, false) =
      (before.foldl (find members current) s, true) := by
  obtain ⟨before, after, rfl, hnot⟩ := List.eq_append_cons_of_mem h
  refine ⟨before, ?_⟩
  rw [List.foldl_append, foldl_findUntil_of_notMem hnot, List.foldl_cons, findUntil,
    if_neg Bool.false_ne_true, if_pos rfl, foldl_findUntil_closed]

end Finds

/-! ## The search -/

/-- A walk of so many steps leads from a start to a module without leaving some modules. -/
def StepsTo (g : DependencyGraph) (members : List ModuleId) (start : ModuleId) : Nat → ModuleId → Prop
  | 0, a => a = start
  | steps + 1, b => ∃ a, g.StepsTo members start steps a ∧ g.Edge a b ∧ b ∈ members

/-- The way back from a module that a search found after some steps. -/
structure Leads (g : DependencyGraph) (start : ModuleId) (cameFrom : SortedMap ModuleId ModuleId)
    (steps : Nat) (a : ModuleId) (way : List ModuleId) : Prop where
  wayBack : LoopSearch.wayBack? cameFrom start (steps + 1) a = some way
  length : way.length = steps + 1
  head? : way.head? = some a
  getLast? : way.getLast? = some start
  chain : way.IsChain fun a b => g.Edge b a
  nodup : way.Nodup

/-- What is known in the course of a search for a loop among some modules, when `front` is left of a
level and `back` was found of the next. -/
structure Searching (g : DependencyGraph) (members : List ModuleId) (start : ModuleId) (level : Nat)
    (front back : List ModuleId) (cameFrom : SortedMap ModuleId ModuleId) : Prop where
  leads_front : ∀ a ∈ front, ∃ way, g.Leads start cameFrom level a way
  leads_back : ∀ a ∈ back, ∃ way, g.Leads start cameFrom (level + 1) a way
  subset : ∀ a, Found cameFrom start a → a ∈ members
  fresh : cameFrom.find? start = none
  /-- Where the search passed, it found all dependencies, and the start was not among them. -/
  passed : ∀ a, Found cameFrom start a → a ∈ front ∨ a ∈ back ∨
    ¬g.Edge a start ∧ ∀ b ∈ members, g.Edge a b → Found cameFrom start b
  /-- No loop closes in fewer steps. -/
  early : ∀ steps < level, ∀ a, g.StepsTo members start steps a → ¬g.Edge a start
  reached : ∀ a, g.StepsTo members start level a → Found cameFrom start a ∧ a ∉ back

section Search

variable {members front back dependencies : List ModuleId} {level : Nat} {current : ModuleId}
  {cameFrom : SortedMap ModuleId ModuleId} {s t : LoopSearch} {new way : List ModuleId} {steps : Nat}

theorem Leads.found (h : g.Leads start cameFrom steps a way) (hb : b ∈ way) : Found cameFrom start b :=
  found_of_mem_wayBack? h.wayBack hb

theorem Finds.found_iff (h : Finds members current dependencies s t new) :
    Found t.cameFrom start a ↔ Found s.cameFrom start a ∨ a ∈ new := by
  rw [Found, Found, h.contains_iff, or_assoc]

theorem Finds.leads (h : Finds members current dependencies s t new)
    (hway : g.Leads start s.cameFrom steps a way) : g.Leads start t.cameFrom steps a way :=
  { hway with wayBack := h.wayBack hway.wayBack }

/-- A module that is newly found is one step further than the one that it was found from. -/
theorem Finds.leads_new (h : Finds members current dependencies s t new)
    (hway : g.Leads start s.cameFrom steps current way) (hb : b ∈ new) (hne : b ≠ start)
    (hedge : g.Edge current b) : g.Leads start t.cameFrom (steps + 1) b (b :: way) := by
  obtain ⟨-, -, hbefore, hafter⟩ := h.found b hb
  constructor
  case wayBack => exact wayBack?_cons hne hafter (h.wayBack hway.wayBack)
  case length => rw [List.length_cons, hway.length]
  case head? => rfl
  case getLast? =>
    rw [List.getLast?_cons, hway.getLast?, Option.getD_some]
  case chain =>
    refine List.isChain_cons.mpr ⟨fun a ha => ?_, hway.chain⟩
    rw [hway.head?] at ha
    cases ha
    exact hedge
  case nodup =>
    refine List.nodup_cons.mpr ⟨fun hmem => ?_, hway.nodup⟩
    rcases hway.found hmem with heq | hcontains
    · exact hne heq
    · rw [SortedMap.contains_eq_false_iff.mpr hbefore] at hcontains
      cases hcontains

theorem searching_start (hstart : start ∈ members) : g.Searching members start 0 [start] [] ∅ := by
  have hfound : ∀ a, Found ∅ start a → a = start := by
    rintro a (heq | hcontains)
    · exact heq
    · cases hcontains
  constructor
  case leads_front =>
    rw [List.forall_mem_singleton]
    exact ⟨[start], wayBack?_start, rfl, rfl, rfl, .singleton _, List.nodup_singleton _⟩
  case leads_back => exact nofun
  case subset =>
    intro a ha
    rw [hfound a ha]
    exact hstart
  case fresh => rfl
  case passed =>
    intro a ha
    rw [hfound a ha]
    exact .inl (List.mem_singleton_self _)
  case early => exact fun steps hsteps => absurd hsteps (Nat.not_lt_zero steps)
  case reached =>
    rintro a rfl
    exact ⟨.inl rfl, List.not_mem_nil⟩

/-- When nothing is left of a level, what was found of the next one is. -/
theorem Searching.nextLevel (h : g.Searching members start level [] back cameFrom) :
    g.Searching members start (level + 1) back [] cameFrom := by
  have hpassed : ∀ a, g.StepsTo members start level a →
      ¬g.Edge a start ∧ ∀ b ∈ members, g.Edge a b → Found cameFrom start b := by
    intro a ha
    obtain ⟨hfound, hnot⟩ := h.reached a ha
    exact ((h.passed a hfound).resolve_left List.not_mem_nil).resolve_left hnot
  constructor
  case leads_front => exact h.leads_back
  case leads_back => exact nofun
  case subset => exact h.subset
  case fresh => exact h.fresh
  case passed =>
    intro a ha
    rcases h.passed a ha with hnil | hback | hpassed
    · cases hnil
    · exact .inl hback
    · exact .inr (.inr hpassed)
  case early =>
    intro steps hsteps a ha
    rcases Nat.lt_succ_iff_lt_or_eq.mp hsteps with hsteps | rfl
    · exact h.early steps hsteps a ha
    · exact (hpassed a ha).1
  case reached =>
    rintro b ⟨a, ha, hedge, hb⟩
    exact ⟨(hpassed a ha).2 b hb hedge, List.not_mem_nil⟩

/-- Following a module that does not depend on the start leaves the rest of its level, and what is
newly found belongs to the next. -/
theorem Searching.follow (h : g.Searching members start level (current :: front) back s.cameFrom)
    (hopen : ¬g.Edge current start)
    (hfinds : Finds members current (g.sortedDependencies current) s t new) :
    g.Searching members start level front (back ++ new) t.cameFrom := by
  have hedge : ∀ b ∈ new, g.Edge current b := fun b hb => mem_inOrder.mp (hfinds.found b hb).2.1
  have hne : ∀ b ∈ new, b ≠ start := by
    rintro b hb rfl
    exact hopen (hedge b hb)
  have hold : ∀ a, Found s.cameFrom start a → Found t.cameFrom start a := fun a ha =>
    hfinds.found_iff.mpr (.inl ha)
  constructor
  case leads_front =>
    intro a ha
    obtain ⟨way, hway⟩ := h.leads_front a (List.mem_cons_of_mem _ ha)
    exact ⟨way, hfinds.leads hway⟩
  case leads_back =>
    intro b hb
    rcases List.mem_append.mp hb with hb | hb
    · obtain ⟨way, hway⟩ := h.leads_back b hb
      exact ⟨way, hfinds.leads hway⟩
    · obtain ⟨way, hway⟩ := h.leads_front current List.mem_cons_self
      exact ⟨b :: way, hfinds.leads_new hway hb (hne b hb) (hedge b hb)⟩
  case subset =>
    intro a ha
    rcases hfinds.found_iff.mp ha with ha | ha
    · exact h.subset a ha
    · exact (hfinds.found a ha).1
  case fresh =>
    rw [← SortedMap.contains_eq_false_iff, Bool.eq_false_iff]
    intro hcontains
    rcases (hfinds.contains_iff start).mp hcontains with hcontains | hmem
    · rw [SortedMap.contains_eq_false_iff.mpr h.fresh] at hcontains
      cases hcontains
    · exact hne start hmem rfl
  case passed =>
    intro a ha
    rcases hfinds.found_iff.mp ha with ha | ha
    · rcases h.passed a ha with hfront | hback | ⟨hclosed, hdependencies⟩
      · rcases List.mem_cons.mp hfront with rfl | hfront
        · refine .inr (.inr ⟨hopen, fun b hb hab => .inr ?_⟩)
          exact hfinds.complete b (mem_inOrder.mpr hab) hb
        · exact .inl hfront
      · exact .inr (.inl (List.mem_append_left _ hback))
      · exact .inr (.inr ⟨hclosed, fun b hb hab => hold b (hdependencies b hb hab)⟩)
    · exact .inr (.inl (List.mem_append_right _ ha))
  case early => exact h.early
  case reached =>
    intro a ha
    obtain ⟨hfound, hnot⟩ := h.reached a ha
    refine ⟨hold a hfound, fun hmem => ?_⟩
    have hnew := (List.mem_append.mp hmem).resolve_left hnot
    rcases hfound with heq | hcontains
    · exact hne a hnew heq
    · rw [SortedMap.contains_eq_false_iff.mpr (hfinds.found a hnew).2.2.1] at hcontains
      cases hcontains

/-- When nothing is left at all, no loop closes. -/
theorem Searching.not_closes (h : g.Searching members start level [] [] cameFrom)
    (ha : g.StepsTo members start steps a) : ¬g.Edge a start := by
  have hpassed : ∀ a, Found cameFrom start a →
      ¬g.Edge a start ∧ ∀ b ∈ members, g.Edge a b → Found cameFrom start b := fun a ha =>
    ((h.passed a ha).resolve_left List.not_mem_nil).resolve_left List.not_mem_nil
  have hfound : ∀ steps a, g.StepsTo members start steps a → Found cameFrom start a := by
    intro steps
    induction steps with
    | zero => exact fun a ha => .inl ha
    | succ steps ih =>
      rintro b ⟨a, ha, hedge, hb⟩
      exact (hpassed a (ih a ha)).2 b hb hedge
  exact (hpassed a (hfound steps a ha)).1

/-- Fewer modules than members were found after the start. -/
theorem Searching.length_keys_lt (h : g.Searching members start level front back cameFrom) :
    cameFrom.keys.length < members.length := by
  have hnot : start ∉ cameFrom.keys := by
    rw [SortedMap.mem_keys_iff, h.fresh]
    exact nofun
  have hsubset : start :: cameFrom.keys ⊆ members := by
    intro a ha
    rcases List.mem_cons.mp ha with rfl | ha
    · exact h.subset a (.inl rfl)
    · exact h.subset a (.inr ((SortedMap.mem_keys_iff _ a).mp ha))
  exact ((List.nodup_cons.mpr ⟨hnot, cameFrom.keys_nodup⟩).subperm hsubset).length_le

/-- If modules are left, one is left of a level. -/
theorem Searching.exists_level (h : g.Searching members start level front back cameFrom)
    {queue : List ModuleId} (hqueue : current :: queue = front ++ back) :
    ∃ level front back, g.Searching members start level (current :: front) back cameFrom ∧
      queue = front ++ back := by
  cases front with
  | nil =>
    rw [List.nil_append] at hqueue
    subst hqueue
    exact ⟨level + 1, queue, [], h.nextLevel, (List.append_nil _).symm⟩
  | cons first front =>
    rw [List.cons_append] at hqueue
    cases hqueue
    exact ⟨level, front, back, h, rfl⟩

/-- As long as a loop is not found, some modules are left. -/
theorem Searching.left (h : g.Searching members start level front back cameFrom)
    (ha : g.StepsTo members start steps a) (hcloses : g.Edge a start) : front ++ back ≠ [] := by
  intro hnil
  obtain ⟨rfl, rfl⟩ := List.append_eq_nil_iff.mp hnil
  exact h.not_closes ha hcloses

/-- A search that can follow as many modules as there are members ends at a loop, if there is one, and
then no loop closes in fewer steps. -/
theorem Searching.exists_shortestLoop? (h : g.Searching members start level front back s.cameFrom)
    (hqueue : s.queue = front ++ back) {limit : Nat}
    (hlimit : s.queue.length + members.length = s.cameFrom.keys.length + 1 + limit)
    (ha : g.StepsTo members start steps a) (hcloses : g.Edge a start) :
    ∃ last way cameFrom needed, g.shortestLoop? start members limit s = some way.reverse ∧
      g.Leads start cameFrom needed last way ∧ g.Edge last start ∧ (∀ b ∈ way, b ∈ members) ∧
      ∀ fewer < needed, ∀ b, g.StepsTo members start fewer b → ¬g.Edge b start := by
  induction limit generalizing level front back s with
  | zero =>
    have hless := h.length_keys_lt
    have hpos := List.length_pos_iff.mpr (h.left ha hcloses)
    rw [← hqueue] at hpos
    omega
  | succ limit ih =>
    cases hs : s.queue with
    | nil => exact absurd (hqueue.symm.trans hs) (h.left ha hcloses)
    | cons current queue =>
      rw [hs] at hqueue hlimit
      obtain ⟨level, front, back, h, rfl⟩ := h.exists_level hqueue
      rw [shortestLoop?, hs]
      dsimp only
      by_cases hclosed : g.Edge current start
      · obtain ⟨before, hbefore⟩ := exists_foldl_findUntil (mem_inOrder.mpr hclosed)
          { s with queue := front ++ back }
        obtain ⟨new, hfinds⟩ :=
          exists_finds members current before { s with queue := front ++ back }
        obtain ⟨way, hway⟩ := h.leads_front current List.mem_cons_self
        have hinside : ∀ b ∈ way, b ∈ members := fun b hb => h.subset b (hway.found hb)
        have hlength : level + 1 ≤ members.length := by
          rw [← hway.length]
          exact (hway.nodup.subperm hinside).length_le
        have hback := hfinds.leads hway
        rw [sortedDependencies, hbefore]
        dsimp only
        rw [wayBack?_of_le hlength hback.wayBack]
        exact ⟨current, way, _, level, rfl, hback, hclosed, hinside, h.early⟩
      · have hopen : start ∉ g.sortedDependencies current := mem_inOrder.not.mpr hclosed
        rw [foldl_findUntil_of_notMem hopen]
        obtain ⟨new, hfinds⟩ :=
          exists_finds members current (g.sortedDependencies current) { s with queue := front ++ back }
        refine ih (Searching.follow (s := { s with queue := front ++ back }) h hclosed hfinds) ?_ ?_
        · rw [hfinds.queue, List.append_assoc]
        · rw [hfinds.queue, hfinds.count, List.length_append]
          rw [List.length_cons] at hlimit
          dsimp only
          omega

end Search

/-! ## Loops through a component -/

/-- Every loop is walked in as many steps as it has modules after the first. -/
theorem stepsTo_of_isChain {members rest : List ModuleId}
    (hchain : (a :: rest).IsChain fun a b => g.Edge b a) (hlast : (a :: rest).getLast? = some start)
    (hmembers : ∀ b ∈ a :: rest, b ∈ members) : g.StepsTo members start rest.length a := by
  induction rest generalizing a with
  | nil =>
    cases hlast
    rfl
  | cons b rest ih =>
    obtain ⟨hedge, hrest⟩ := List.isChain_cons_cons.mp hchain
    rw [List.getLast?_cons_cons] at hlast
    obtain ⟨ha, hrestMembers⟩ := List.forall_mem_cons.mp hmembers
    exact ⟨b, ih hrest hlast hrestMembers, hedge, ha⟩

section Component

variable {members : List ModuleId}

/-- From a module that lies on a loop its whole component is reached without leaving it. -/
theorem exists_stepsTo (hmembers : ∀ a, a ∈ members ↔ g.DependsOn start a ∧ g.DependsOn a start)
    (ha : ReflTransGen g.Edge start a) (hback : g.DependsOn a start) :
    ∃ steps, g.StepsTo members start steps a := by
  induction ha with
  | refl => exact ⟨0, rfl⟩
  | tail hpath hedge ih =>
    obtain ⟨steps, hsteps⟩ := ih (.head hedge hback)
    exact ⟨steps + 1, _, hsteps, hedge, (hmembers _).mpr ⟨.tail' hpath hedge, hback⟩⟩

/-- A loop through a component is walked in as many steps as it has modules after the start. -/
theorem exists_stepsTo_of_isLoop {walk : List ModuleId}
    (hmembers : ∀ a, a ∈ members ↔ g.DependsOn start a ∧ g.DependsOn a start)
    (h : g.IsLoop start walk) :
    ∃ steps last, walk.length = steps + 1 ∧ g.StepsTo members start steps last ∧ g.Edge last start := by
  have hchain : (walk ++ [start]).reverse.IsChain fun a b => g.Edge b a :=
    List.isChain_reverse.mpr h.2
  have hend : walk.reverse.getLast? = some start := by rw [List.getLast?_reverse, h.1]
  have hinside : ∀ a ∈ walk.reverse, a ∈ members := fun a ha =>
    (hmembers a).mpr (h.dependsOn (List.mem_reverse.mp ha))
  rw [List.reverse_append, List.reverse_singleton, List.singleton_append] at hchain
  rw [← List.length_reverse]
  cases hback : walk.reverse with
  | nil =>
    rw [hback] at hend
    cases hend
  | cons last rest =>
    rw [hback] at hchain hend hinside
    obtain ⟨hlast, hrest⟩ := List.isChain_cons_cons.mp hchain
    exact ⟨rest.length, last, rfl, stepsTo_of_isChain hrest hend hinside, hlast⟩

/-- The search among the modules of a component finds a shortest loop. -/
theorem exists_shortestLoop? (hmembers : ∀ a, a ∈ members ↔ g.DependsOn start a ∧ g.DependsOn a start)
    (hstart : start ∈ members) :
    ∃ loop, g.shortestLoop? start members members.length (.ofStart start) = some loop ∧
      g.IsShortestLoop start loop ∧ loop.Nodup ∧ ∀ a ∈ loop, a ∈ members := by
  obtain ⟨b, hpath, hcloses⟩ := TransGen.tail'_iff.mp ((hmembers start).mp hstart).1
  obtain ⟨steps, hsteps⟩ := exists_stepsTo hmembers hpath (.single hcloses)
  have hbegin : g.Searching members start 0 [start] [] (LoopSearch.ofStart start).cameFrom :=
    searching_start hstart
  obtain ⟨last, way, cameFrom, needed, hfound, hleads, hlast, hinside, hfewer⟩ :=
    hbegin.exists_shortestLoop? rfl rfl hsteps hcloses
  refine ⟨way.reverse, hfound, ⟨⟨?_, ?_⟩, ?_⟩, List.nodup_reverse.mpr hleads.nodup, fun a ha => ?_⟩
  · rw [List.head?_reverse, hleads.getLast?]
  · rw [← List.reverse_cons, List.isChain_reverse]
    refine List.isChain_cons.mpr ⟨fun a ha => ?_, hleads.chain⟩
    rw [hleads.head?] at ha
    cases ha
    exact hlast
  · intro walk hwalk
    obtain ⟨others, last', hlength, hsteps', hlast'⟩ := exists_stepsTo_of_isLoop hmembers hwalk
    rw [List.length_reverse, hleads.length, hlength]
    by_contra hshorter
    exact hfewer others (by omega) last' hsteps' hlast'
  · exact hinside a (List.mem_reverse.mp ha)

end Component

end HotReload.DependencyGraph
