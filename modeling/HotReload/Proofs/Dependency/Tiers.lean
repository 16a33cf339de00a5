import HotReload.Proofs.Dependency.Order

/-!
# Tiers of accepted modules

The pass over the order gives every module a tier, and the number of the tier is the length of the
longest chain of dependencies that begins with the module (`longestChain_of_mem_tier`), since the
dependencies of a module have got their tiers before it. So a module of a tier depends on earlier tiers
only (`buildsOn_tiers`), the tiers hold the modules of the order (`accepted_perm`), and these are the
modules that are not rejected (`mem_accepted_iff_not_rejected`), none of which leads to a faulty one
(`mem_accepted_iff`). What the order and the tiers amount to is put together in `arranges_resolve`.
-/

namespace HotReload.DependencyGraph

open Relation

variable {g : DependencyGraph} {a b d id : ModuleId} {m n : Nat}

/-! ## Chains of dependencies -/

/-- The length of the longest chain of dependencies that begins with a module. -/
structure LongestChain (g : DependencyGraph) (id : ModuleId) (length : Nat) : Prop where
  attained : ∃ chain, (id :: chain).IsChain g.Edge ∧ chain.length = length
  le : ∀ chain, (id :: chain).IsChain g.Edge → chain.length ≤ length

theorem LongestChain.unique (hm : g.LongestChain id m) (hn : g.LongestChain id n) : m = n := by
  obtain ⟨first, hfirst, rfl⟩ := hm.attained
  obtain ⟨second, hsecond, rfl⟩ := hn.attained
  exact Nat.le_antisymm (hn.le first hfirst) (hm.le second hsecond)

/-- What depends on a module begins a longer chain than the module. -/
theorem exists_longer_chain (hab : g.DependsOn a b) {chain : List ModuleId}
    (hchain : (b :: chain).IsChain g.Edge) :
    ∃ longer, (a :: longer).IsChain g.Edge ∧ chain.length < longer.length := by
  induction hab using TransGen.head_induction_on with
  | single hedge => exact ⟨b :: chain, hchain.cons_cons hedge, Nat.lt_succ_self _⟩
  | head hedge _ ih =>
    obtain ⟨longer, hlonger, hlt⟩ := ih
    exact ⟨_ :: longer, hlonger.cons_cons hedge, Nat.lt_succ_of_lt hlt⟩

theorem LongestChain.lt_of_dependsOn (ha : g.LongestChain a m) (hb : g.LongestChain b n)
    (hab : g.DependsOn a b) : n < m := by
  obtain ⟨chain, hchain, rfl⟩ := hb.attained
  obtain ⟨longer, hlonger, hlt⟩ := exists_longer_chain hab hchain
  exact Nat.lt_of_lt_of_le hlt (ha.le longer hlonger)

/-- A longest chain goes on with a dependency whose longest chain is shorter by one. -/
theorem LongestChain.exists_edge (h : g.LongestChain id (n + 1)) :
    ∃ d, g.Edge id d ∧ g.LongestChain d n := by
  obtain ⟨chain, hchain, hlength⟩ := h.attained
  cases chain with
  | nil => cases hlength
  | cons d chain =>
    obtain ⟨hedge, hrest⟩ := List.isChain_cons_cons.mp hchain
    refine ⟨d, hedge, ⟨chain, hrest, Nat.succ.inj hlength⟩, fun other hother => ?_⟩
    exact Nat.le_of_succ_le_succ (h.le (d :: other) (hother.cons_cons hedge))

/-- The number of the tier of a module is the length of its longest chain, if those of its
dependencies are. -/
theorem longestChain_levelIn {level : SortedMap ModuleId Nat}
    (h : ∀ d, g.Edge id d → ∃ n, level.find? d = some n ∧ g.LongestChain d n) :
    g.LongestChain id (g.levelIn level id) := by
  unfold levelIn
  constructor
  · cases hmax : ((g.dependencies id).filterMap fun d => (level.find? d).map (· + 1)).max? with
    | none => exact ⟨[], .singleton _, rfl⟩
    | some m =>
      obtain ⟨d, hd, hm⟩ := List.mem_filterMap.mp (List.max?_mem hmax)
      obtain ⟨n, hn, hlongest⟩ := h d hd
      obtain ⟨chain, hchain, hlength⟩ := hlongest.attained
      rw [hn] at hm
      cases hm
      exact ⟨d :: chain, hchain.cons_cons hd, congrArg (· + 1) hlength⟩
  · intro chain hchain
    cases chain with
    | nil => exact Nat.zero_le _
    | cons d chain =>
      obtain ⟨hedge, hrest⟩ := List.isChain_cons_cons.mp hchain
      obtain ⟨n, hn, hlongest⟩ := h d hedge
      have hmem : n + 1 ∈ (g.dependencies id).filterMap fun d => (level.find? d).map (· + 1) :=
        List.mem_filterMap.mpr ⟨d, hedge, by rw [hn]; rfl⟩
      exact (Nat.succ_le_succ (hlongest.le chain hrest)).trans (List.le_max?_getD_of_mem hmem)

/-! ## The pass over the order -/

namespace Leveling

variable {s : Leveling} {done : List ModuleId}

/-- What is known of a pass after some modules: each of them stands in the tier that its longest chain
tells. -/
structure Sound (g : DependencyGraph) (s : Leveling) (done : List ModuleId) : Prop where
  level : ∀ a ∈ done, ∃ n, s.level.find? a = some n ∧ g.LongestChain a n
  tier : ∀ n tier, s.tiers[n]? = some tier → ∀ a ∈ tier, g.LongestChain a n
  perm : s.tiers.flatten.Perm done
  nonempty : ∀ tier ∈ s.tiers, tier ≠ []

theorem perm_flatten_modify {tiers : List (List ModuleId)} (h : n < tiers.length) :
    (tiers.modify n (· ++ [id])).flatten.Perm (tiers.flatten ++ [id]) := by
  induction tiers generalizing n with
  | nil => cases h
  | cons tier tiers ih =>
    cases n with
    | zero =>
      rw [List.modify_zero_cons, List.flatten_cons, List.flatten_cons, List.append_assoc,
        List.append_assoc]
      exact List.perm_append_comm.append_left tier
    | succ n =>
      rw [List.modify_succ_cons, List.flatten_cons, List.flatten_cons, List.append_assoc]
      exact (ih (Nat.lt_of_succ_lt_succ h)).append_left tier

theorem perm_put (s : Leveling) (id : ModuleId) (n : Nat) :
    (s.put id n).tiers.flatten.Perm (s.tiers.flatten ++ [id]) := by
  have hlength : n < (s.tiers.rightpad (n + 1) []).length := by
    rw [List.rightpad, List.length_append, List.length_replicate]
    omega
  have hflatten : (s.tiers.rightpad (n + 1) []).flatten = s.tiers.flatten := by
    rw [List.rightpad, List.flatten_append, List.flatten_replicate_nil, List.append_nil]
  rw [← hflatten]
  exact perm_flatten_modify hlength

/-- Where no tier is skipped, only the tier of the module is changed, or it is a new one. -/
theorem getElem?_put (h : n ≤ s.tiers.length) (k : Nat) :
    (s.put id n).tiers[k]? =
      if k = n then some (s.tiers[n]?.getD [] ++ [id]) else s.tiers[k]? := by
  rw [put, List.getElem?_modify, List.rightpad, List.getElem?_append]
  rcases Nat.lt_trichotomy k n with hk | rfl | hk
  · have hlt : k < s.tiers.length := Nat.lt_of_lt_of_le hk h
    rw [if_pos hlt, if_neg (Nat.ne_of_lt hk), List.getElem?_eq_getElem hlt]
    simp [Nat.ne_of_gt hk]
  · rcases Nat.lt_or_eq_of_le h with hlt | heq
    · rw [if_pos hlt, List.getElem?_eq_getElem hlt]
      simp
    · have hnone : s.tiers[k]? = none := List.getElem?_eq_none (Nat.le_of_eq heq.symm)
      rw [if_neg (Nat.not_lt_of_le (Nat.le_of_eq heq.symm)), hnone]
      simp [← heq]
  · rw [if_neg (Nat.ne_of_gt hk)]
    by_cases hlt : k < s.tiers.length
    · rw [if_pos hlt, List.getElem?_eq_getElem hlt]
      simp [Nat.ne_of_lt hk]
    · have hpast : n + 1 - s.tiers.length ≤ k - s.tiers.length := by omega
      have hnone : s.tiers[k]? = none := List.getElem?_eq_none (Nat.le_of_not_lt hlt)
      rw [if_neg hlt, hnone, List.getElem?_eq_none (by rwa [List.length_replicate])]
      rfl

/-- A module whose dependencies have their tiers is put into the next tier after theirs, and no tier
is skipped. -/
theorem Sound.put (h : s.Sound g done) (hready : ∀ d, g.Edge id d → d ∈ done) :
    (s.put id (g.levelIn s.level id)).Sound g (done ++ [id]) := by
  have hlongest : g.LongestChain id (g.levelIn s.level id) :=
    longestChain_levelIn fun d hd => h.level d (hready d hd)
  generalize g.levelIn s.level id = n at hlongest
  have hle : n ≤ s.tiers.length := by
    cases n with
    | zero => exact Nat.zero_le _
    | succ n =>
      obtain ⟨d, hedge, hd⟩ := hlongest.exists_edge
      obtain ⟨tier, htier, hmem⟩ := List.mem_flatten.mp (h.perm.mem_iff.mpr (hready d hedge))
      obtain ⟨k, hk⟩ := List.mem_iff_getElem?.mp htier
      rw [(h.tier k tier hk d hmem).unique hd] at hk
      exact (List.getElem?_eq_some_iff.mp hk).1
  constructor
  case level =>
    intro a ha
    rw [Leveling.put, SortedMap.find?_insert]
    by_cases haid : a = id
    · subst haid
      exact ⟨n, if_pos rfl, hlongest⟩
    · rw [if_neg haid]
      refine h.level a ((List.mem_append.mp ha).resolve_right ?_)
      rwa [List.mem_singleton]
  case tier =>
    intro k tier htier a ha
    rw [getElem?_put hle] at htier
    split at htier
    next hk =>
      subst hk
      cases htier
      rcases List.mem_append.mp ha with ha | ha
      · cases hold : s.tiers[k]? with
        | none => simp [hold] at ha
        | some old =>
          rw [hold, Option.getD_some] at ha
          exact h.tier k old hold a ha
      · rwa [List.mem_singleton.mp ha]
    next => exact h.tier k tier htier a ha
  case perm => exact (s.perm_put id n).trans (h.perm.append_right [id])
  case nonempty =>
    intro tier htier
    obtain ⟨k, hk⟩ := List.mem_iff_getElem?.mp htier
    rw [getElem?_put hle] at hk
    split at hk
    next =>
      cases hk
      exact List.append_ne_nil_of_right_ne_nil _ (List.cons_ne_nil _ _)
    next => exact h.nonempty tier (List.mem_iff_getElem?.mpr ⟨k, hk⟩)

theorem sound_foldl {order : List ModuleId} (h : g.DependenciesFirst order) :
    (order.foldl (fun s id => s.put id (g.levelIn s.level id)) empty).Sound g order := by
  induction h with
  | nil =>
    constructor
    case level => exact fun _ ha => nomatch ha
    case tier => exact fun _ _ htier => nomatch htier
    case perm => exact .nil
    case nonempty => exact fun _ htier => nomatch htier
  | append _ _ ready ih =>
    rw [List.foldl_concat]
    exact ih.put ready

end Leveling

/-! ## The tiers of a graph -/

theorem exists_leveling (g : DependencyGraph) :
    ∃ s : Leveling, s.Sound g g.resolve.order ∧ g.resolve.tiers = s.tiers.map inOrder :=
  ⟨_, Leveling.sound_foldl g.dependenciesFirst_order, tiersOf.eq_1 g g.resolve.order⟩

/-- The accepted modules. -/
def accepted (g : DependencyGraph) : List ModuleId :=
  g.resolve.tiers.flatten

/-- The tiers hold the modules of the order. -/
theorem accepted_perm (g : DependencyGraph) : g.accepted.Perm g.resolve.order := by
  obtain ⟨s, hs, htiers⟩ := g.exists_leveling
  rw [accepted, htiers]
  refine .trans (.flatten_congr ?_) hs.perm
  rw [List.forall₂_map_left_iff, List.forall₂_same]
  exact fun tier _ => List.mergeSort_perm tier _

/-- The number of a tier is the length of the longest chain of each of its modules. -/
theorem longestChain_of_mem_tier {tier : List ModuleId} (htier : g.resolve.tiers[n]? = some tier)
    (hid : id ∈ tier) : g.LongestChain id n := by
  obtain ⟨s, hs, htiers⟩ := g.exists_leveling
  rw [htiers, List.getElem?_map, Option.map_eq_some_iff] at htier
  obtain ⟨unsorted, hunsorted, rfl⟩ := htier
  exact hs.tier n unsorted hunsorted id (mem_inOrder.mp hid)

theorem tier_ne_nil {tier : List ModuleId} (htier : tier ∈ g.resolve.tiers) : tier ≠ [] := by
  obtain ⟨s, hs, htiers⟩ := g.exists_leveling
  rw [htiers] at htier
  obtain ⟨unsorted, hunsorted, rfl⟩ := List.mem_map.mp htier
  obtain ⟨a, ha⟩ := List.exists_mem_of_ne_nil _ (hs.nonempty unsorted hunsorted)
  exact List.ne_nil_of_mem (mem_inOrder.mpr ha)

theorem accepted_nodup (g : DependencyGraph) : g.accepted.Nodup :=
  g.accepted_perm.nodup_iff.mpr g.order_nodup

theorem ascending_tier {tier : List ModuleId} (htier : tier ∈ g.resolve.tiers) : Ascending tier := by
  have hnodup : tier.Nodup := (List.nodup_flatten.mp g.accepted_nodup).1 tier htier
  obtain ⟨s, -, htiers⟩ := g.exists_leveling
  rw [htiers] at htier
  obtain ⟨unsorted, -, rfl⟩ := List.mem_map.mp htier
  exact ascending_inOrder ((List.mergeSort_perm _ _).nodup_iff.mp hnodup)

/-! ## Which modules are accepted -/

theorem mem_order_iff : id ∈ g.resolve.order ↔ id ∈ g.accepted :=
  g.accepted_perm.mem_iff.symm

theorem mem_accepted_iff_mem_unrejected :
    id ∈ g.accepted ↔ id ∈ g.unrejected g.resolve.rejected :=
  mem_order_iff.symm.trans mem_order_iff_mem_unrejected

theorem mem_accepted_iff_not_rejected :
    id ∈ g.accepted ↔ id ∈ g.modules ∧ g.resolve.rejected.find? id = none :=
  mem_accepted_iff_mem_unrejected.trans mem_unrejected_iff

theorem mem_accepted_or_rejected (h : id ∈ g.modules) :
    id ∈ g.accepted ∨ ∃ fault, g.resolve.rejected.find? id = some fault := by
  rw [mem_accepted_iff_not_rejected, and_iff_right h]
  exact Option.eq_none_or_eq_some _

theorem mem_modules_of_mem_accepted (h : id ∈ g.accepted) : id ∈ g.modules :=
  (mem_accepted_iff_not_rejected.mp h).1

theorem rejected_eq_none_of_mem_accepted (h : id ∈ g.accepted) :
    g.resolve.rejected.find? id = none :=
  (mem_accepted_iff_not_rejected.mp h).2

theorem mem_accepted_of_edge (hid : id ∈ g.accepted) (hd : g.Edge id d) : d ∈ g.accepted := by
  rw [mem_accepted_iff_mem_unrejected] at hid ⊢
  exact mem_unrejected_of_edge hid hd

theorem mem_accepted_of_path (hid : id ∈ g.accepted) (hpath : ReflTransGen g.Edge id d) :
    d ∈ g.accepted :=
  mem_of_path (fun _ ha _ hab => mem_accepted_of_edge ha hab) hid hpath

/-- No accepted module lies on a loop. -/
theorem not_dependsOn_self_of_mem_accepted (h : id ∈ g.accepted) : ¬g.DependsOn id id :=
  not_dependsOn_self_of_mem_unrejected (mem_accepted_iff_mem_unrejected.mp h)

/-- The accepted modules are those that lead to no faulty one. -/
theorem mem_accepted_iff :
    id ∈ g.accepted ↔ id ∈ g.modules ∧ ∀ y, ReflTransGen g.Edge id y → ¬g.Faulty y := by
  rw [mem_accepted_iff_not_rejected, ← Option.not_isSome_iff_eq_none, rejected_isSome_iff]
  push Not
  rfl

/-- A graph that misses no module and has no loop is accepted as a whole. -/
theorem mem_accepted_of_no_loop (hclosed : ∀ a b, g.Edge a b → b ∈ g.modules)
    (hloop : ∀ a, ¬g.DependsOn a a) (hid : id ∈ g.modules) : id ∈ g.accepted := by
  refine mem_accepted_iff.mpr ⟨hid, ?_⟩
  rintro y - (hy | ⟨d, hd, hmissing⟩)
  · exact hloop y hy
  · exact hmissing (hclosed y d hd)

/-! ## What tiers stand on -/

/-- Every module of the tiers depends only on modules of `done` and of earlier tiers. -/
def BuildsOn (g : DependencyGraph) (done : List ModuleId) : List (List ModuleId) → Prop
  | [] => True
  | tier :: tiers =>
    (∀ id ∈ tier, ∀ d ∈ g.dependencies id, d ∈ done) ∧ g.BuildsOn (tier ++ done) tiers

theorem buildsOn_of_lower {done : List ModuleId} {tiers : List (List ModuleId)}
    (h : ∀ (n : Nat) (tier : List ModuleId), tiers[n]? = some tier → ∀ id ∈ tier, ∀ d, g.Edge id d →
      d ∈ done ∨ ∃ k < n, ∃ lower, tiers[k]? = some lower ∧ d ∈ lower) :
    g.BuildsOn done tiers := by
  induction tiers generalizing done with
  | nil => trivial
  | cons first tiers ih =>
    constructor
    · intro id hid d hd
      refine (h 0 first rfl id hid d hd).resolve_right ?_
      rintro ⟨k, hk, -⟩
      exact Nat.not_lt_zero k hk
    · refine ih fun n tier htier id hid d hd => ?_
      rcases h (n + 1) tier htier id hid d hd with hdone | ⟨k, hk, lower, hlower, hmem⟩
      · exact .inl (List.mem_append_right _ hdone)
      · cases k with
        | zero =>
          cases hlower
          exact .inl (List.mem_append_left _ hmem)
        | succ k => exact .inr ⟨k, Nat.lt_of_succ_lt_succ hk, lower, hlower, hmem⟩

/-- A module of a tier depends on earlier tiers only. -/
theorem buildsOn_tiers (g : DependencyGraph) : g.BuildsOn [] g.resolve.tiers := by
  refine buildsOn_of_lower fun n tier htier id hid d hd => .inr ?_
  have haccepted : id ∈ g.accepted :=
    List.mem_flatten.mpr ⟨tier, List.mem_iff_getElem?.mpr ⟨n, htier⟩, hid⟩
  obtain ⟨lower, hlower, hmem⟩ := List.mem_flatten.mp (mem_accepted_of_edge haccepted hd)
  obtain ⟨k, hk⟩ := List.mem_iff_getElem?.mp hlower
  have hlt : k < n := (longestChain_of_mem_tier htier hid).lt_of_dependsOn
    (longestChain_of_mem_tier hk hmem) (.single hd)
  exact ⟨k, hlt, lower, hk, hmem⟩

/-! ## The order and the tiers -/

/-- What the order and the tiers of a resolution amount to. -/
structure Arranges (g : DependencyGraph) (r : Resolution) : Prop where
  mem_order : ∀ id, id ∈ r.order ↔ id ∈ g.modules ∧ r.rejected.find? id = none
  nodup : r.order.Nodup
  /-- In the order, a module comes after its dependencies. -/
  after : ∀ before id rest, r.order = before ++ id :: rest → ∀ d, g.Edge id d → d ∈ before
  /-- The tiers hold the modules of the order. -/
  partition : r.tiers.flatten.Perm r.order
  /-- The tier of a module has the length of its longest chain of dependencies for a number. -/
  mem_tier : ∀ n id, (∃ tier, r.tiers[n]? = some tier ∧ id ∈ tier) ↔
    id ∈ r.order ∧ g.LongestChain id n
  nonempty : ∀ tier ∈ r.tiers, tier ≠ []
  ascending : ∀ tier ∈ r.tiers, Ascending tier
  /-- The modules of a tier do not depend on each other, directly or not. -/
  independent : ∀ tier ∈ r.tiers, ∀ a ∈ tier, ∀ b ∈ tier, ¬g.DependsOn a b

theorem mem_tier_iff : (∃ tier, g.resolve.tiers[n]? = some tier ∧ id ∈ tier) ↔
    id ∈ g.resolve.order ∧ g.LongestChain id n := by
  constructor
  · rintro ⟨tier, htier, hid⟩
    refine ⟨?_, longestChain_of_mem_tier htier hid⟩
    rw [mem_order_iff]
    exact List.mem_flatten.mpr ⟨tier, List.mem_iff_getElem?.mpr ⟨n, htier⟩, hid⟩
  · rintro ⟨hid, hlongest⟩
    obtain ⟨tier, htier, hmem⟩ := List.mem_flatten.mp (mem_order_iff.mp hid)
    obtain ⟨k, hk⟩ := List.mem_iff_getElem?.mp htier
    rw [(longestChain_of_mem_tier hk hmem).unique hlongest] at hk
    exact ⟨tier, hk, hmem⟩

/-- Resolving puts the modules that are not rejected into an order and into tiers as it should: in
the order each of them stands once and after its dependencies, and in the tiers by the length of its
longest chain of dependencies. -/
theorem arranges_resolve (g : DependencyGraph) : g.Arranges g.resolve where
  mem_order _ := mem_order_iff.trans mem_accepted_iff_not_rejected
  nodup := g.order_nodup
  after before id rest horder d hd := g.dependenciesFirst_order.mem_before horder hd
  partition := g.accepted_perm
  mem_tier _ _ := mem_tier_iff
  nonempty _ htier := tier_ne_nil htier
  ascending _ htier := ascending_tier htier
  independent tier htier a ha b hb hab := by
    obtain ⟨n, hn⟩ := List.mem_iff_getElem?.mp htier
    have hlt := (longestChain_of_mem_tier hn ha).lt_of_dependsOn (longestChain_of_mem_tier hn hb) hab
    exact Nat.lt_irrefl n hlt

end HotReload.DependencyGraph
