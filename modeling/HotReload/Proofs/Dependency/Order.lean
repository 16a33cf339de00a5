import HotReload.Proofs.Dependency.Rejection

/-!
# The order of accepted modules

The search for an order appends a module when all its dependencies are followed. No dependency of a
module that is not rejected is missing or rejected, so the order always is one in which dependencies
come first (`DependenciesFirst`), and in the end it holds the modules that are not rejected
(`mem_order_iff_mem_unrejected`). Nothing in the order depends on what follows it (`pairwise_order`).
-/

namespace HotReload.DependencyGraph

open Relation

variable {g : DependencyGraph} {order ids pending : List ModuleId} {id d : ModuleId}
  {s t u : OrderSearch}

/-! ## Modules that are not rejected -/

theorem mem_unrejected_iff :
    id ∈ g.unrejected g.resolve.rejected ↔
      id ∈ g.modules ∧ g.resolve.rejected.find? id = none := by
  rw [unrejected, List.mem_filter, Bool.not_eq_true', SortedMap.contains_eq_false_iff]

/-- A module that is not rejected leads to no faulty one. -/
theorem not_faulty_of_mem_unrejected (h : id ∈ g.unrejected g.resolve.rejected)
    (hpath : ReflTransGen g.Edge id d) : ¬g.Faulty d := by
  intro hfaulty
  have hrejected := rejected_isSome_iff.mpr ⟨d, hpath, hfaulty⟩
  rw [(mem_unrejected_iff.mp h).2] at hrejected
  cases hrejected

theorem mem_unrejected_of_edge (h : id ∈ g.unrejected g.resolve.rejected) (hd : g.Edge id d) :
    d ∈ g.unrejected g.resolve.rejected := by
  rw [mem_unrejected_iff]
  constructor
  · by_contra hmissing
    exact not_faulty_of_mem_unrejected h .refl (.inr ⟨d, hd, hmissing⟩)
  · rw [← Option.not_isSome_iff_eq_none]
    intro hrejected
    have hsome := rejected_of_edge hd hrejected
    rw [(mem_unrejected_iff.mp h).2] at hsome
    cases hsome

theorem mem_unrejected_of_path (h : id ∈ g.unrejected g.resolve.rejected)
    (hpath : ReflTransGen g.Edge id d) : d ∈ g.unrejected g.resolve.rejected :=
  mem_of_path (fun _ ha _ hab => mem_unrejected_of_edge ha hab) h hpath

theorem not_dependsOn_self_of_mem_unrejected (h : id ∈ g.unrejected g.resolve.rejected) :
    ¬g.DependsOn id id :=
  fun hloop => not_faulty_of_mem_unrejected h .refl (.inl hloop)

/-! ## Orders -/

/-- Modules that were appended one by one, none of them twice and each after its dependencies. -/
inductive DependenciesFirst (g : DependencyGraph) : List ModuleId → Prop
  | nil : DependenciesFirst g []
  | append {order : List ModuleId} {id : ModuleId} (before : DependenciesFirst g order)
      (new : id ∉ order) (ready : ∀ d, g.Edge id d → d ∈ order) :
      DependenciesFirst g (order ++ [id])

namespace DependenciesFirst

theorem nodup (h : g.DependenciesFirst order) : order.Nodup := by
  induction h with
  | nil => exact List.nodup_nil
  | append _ new _ ih =>
    rw [← List.concat_eq_append]
    exact ih.concat new

theorem mem_of_edge (h : g.DependenciesFirst order) (hid : id ∈ order) (hd : g.Edge id d) :
    d ∈ order := by
  induction h with
  | nil => cases hid
  | append _ _ ready ih =>
    apply List.mem_append_left
    rcases List.mem_append.mp hid with hid | hid
    · exact ih hid
    · rw [List.mem_singleton] at hid
      subst hid
      exact ready d hd

/-- A module comes after its dependencies. -/
theorem mem_before {before rest : List ModuleId} (h : g.DependenciesFirst order)
    (horder : order = before ++ id :: rest) (hd : g.Edge id d) : d ∈ before := by
  induction h generalizing rest with
  | nil => exact absurd horder.symm (by simp)
  | append _ _ ready ih =>
    rcases List.eq_nil_or_concat rest with rfl | ⟨rest, last, rfl⟩
    · obtain ⟨rfl, hlast⟩ := List.append_inj' horder rfl
      cases hlast
      exact ready d hd
    · rw [List.concat_eq_append, ← List.cons_append, ← List.append_assoc] at horder
      exact ih (List.append_inj' horder rfl).1

/-- No module depends on one that follows it, directly or not. -/
theorem pairwise (h : g.DependenciesFirst order) : order.Pairwise fun a b => ¬g.DependsOn a b := by
  induction h with
  | nil => exact .nil
  | @append order id before new ready ih =>
    rw [List.pairwise_append]
    refine ⟨ih, List.pairwise_singleton _ _, ?_⟩
    intro a ha b hb hpath
    rw [List.mem_singleton] at hb
    subst hb
    have hclosed : ∀ a ∈ order, ∀ b, g.Edge a b → b ∈ order := by
      intro a ha b hab
      exact before.mem_of_edge ha hab
    exact new (mem_of_path hclosed ha hpath.to_reflTransGen)

end DependenciesFirst

/-! ## The search for an order -/

/-- What is known of a search while the visits of some modules are pending. -/
structure OrderSearch.Sound (g : DependencyGraph) (s : OrderSearch) (pending : List ModuleId) :
    Prop where
  first : g.DependenciesFirst s.order
  met_iff : ∀ a, a ∈ s.met ↔ a ∈ s.order ∨ a ∈ pending
  nodup : pending.Nodup
  mem_modules : ∀ a ∈ pending, a ∈ g.modules

/-- A search that has gone on until some modules were in the order: what the order has gained is only
what they lead to. -/
structure Completes (g : DependencyGraph) (pending : List ModuleId) (s : OrderSearch)
    (ids : List ModuleId) (t : OrderSearch) : Prop where
  sound : t.Sound g pending
  keeps : ∀ a ∈ s.order, a ∈ t.order
  holds : ∀ a ∈ ids, a ∈ t.order
  gains : ∀ a ∈ t.order, a ∈ s.order ∨ ∃ i ∈ ids, ReflTransGen g.Edge i a

theorem completes_of_subset (h : s.Sound g pending) (hids : ∀ a ∈ ids, a ∈ s.order) :
    g.Completes pending s ids s where
  sound := h
  keeps _ ha := ha
  holds := hids
  gains _ ha := .inl ha

theorem Completes.cons (h₁ : g.Completes pending s [id] t) (h₂ : g.Completes pending t ids u) :
    g.Completes pending s (id :: ids) u := by
  constructor
  · exact h₂.sound
  · intro a ha
    exact h₂.keeps a (h₁.keeps a ha)
  · intro a ha
    rcases List.mem_cons.mp ha with rfl | ha
    · exact h₂.keeps a (h₁.holds a (List.mem_singleton_self a))
    · exact h₂.holds a ha
  · intro a ha
    rcases h₂.gains a ha with ha | ⟨i, hi, hpath⟩
    · rcases h₁.gains a ha with ha | ⟨i, hi, hpath⟩
      · exact .inl ha
      · rw [List.mem_singleton] at hi
        subst hi
        exact .inr ⟨i, List.mem_cons_self, hpath⟩
    · exact .inr ⟨i, List.mem_cons_of_mem _ hi, hpath⟩

theorem completes_foldl {visit : OrderSearch → ModuleId → OrderSearch}
    (hvisit : ∀ s, ∀ i ∈ ids, s.Sound g pending → g.Completes pending s [i] (visit s i))
    (h : s.Sound g pending) : g.Completes pending s ids (ids.foldl visit s) := by
  induction ids generalizing s with
  | nil => exact completes_of_subset h (fun _ ha => nomatch ha)
  | cons i ids ih =>
    have hfirst := hvisit s i List.mem_cons_self h
    have hrest := ih (fun s j hj => hvisit s j (List.mem_cons_of_mem _ hj)) hfirst.sound
    exact hfirst.cons hrest

/-- A module of the graph may be met whose visit is not pending. -/
theorem OrderSearch.Sound.meet (h : s.Sound g pending) (hid : id ∈ g.modules)
    (hnew : id ∉ pending) : (s.meet id).Sound g (id :: pending) := by
  constructor
  · exact h.first
  · intro a
    rw [OrderSearch.meet, List.mem_cons, List.mem_cons, h.met_iff, or_left_comm]
  · exact List.nodup_cons.mpr ⟨hnew, h.nodup⟩
  · exact List.forall_mem_cons.mpr ⟨hid, h.mem_modules⟩

/-- A search that was led through the dependencies of a module is completed by the module itself. -/
theorem Completes.append
    (h : g.Completes (id :: pending) (s.meet id) (g.sortedDependencies id) t)
    (hnew : id ∉ s.order) (hloop : ¬g.DependsOn id id) :
    g.Completes pending s [id] (t.append id) := by
  have hedge : ∀ d, d ∈ g.sortedDependencies id ↔ g.Edge id d := by
    intro d
    exact mem_inOrder
  have hfresh : id ∉ t.order := by
    intro hid
    rcases h.gains id hid with hid | ⟨d, hd, hpath⟩
    · exact hnew hid
    · exact hloop (.head' ((hedge d).mp hd) hpath)
  constructor
  · constructor
    · apply h.sound.first.append hfresh
      intro d hd
      exact h.holds d ((hedge d).mpr hd)
    · intro a
      rw [OrderSearch.append, h.sound.met_iff, List.mem_append, List.mem_singleton, List.mem_cons,
        or_assoc]
    · exact (List.nodup_cons.mp h.sound.nodup).2
    · exact (List.forall_mem_cons.mp h.sound.mem_modules).2
  · intro a ha
    exact List.mem_append_left _ (h.keeps a ha)
  · intro a ha
    exact List.mem_append_right _ ha
  · intro a ha
    rcases List.mem_append.mp ha with ha | ha
    · rcases h.gains a ha with ha | ⟨d, hd, hpath⟩
      · exact .inl ha
      · exact .inr ⟨id, List.mem_singleton_self id, .head ((hedge d).mp hd) hpath⟩
    · rw [List.mem_singleton] at ha
      subst ha
      exact .inr ⟨a, List.mem_singleton_self a, .refl⟩

/-- A module that is not rejected gets its place in the order. The pending modules depend on it, so
that its own visit is not among them, and there are no more of them than modules. -/
theorem completes_finish {depth : Nat} (hid : id ∈ g.unrejected g.resolve.rejected)
    (h : s.Sound g pending) (hpending : ∀ a ∈ pending, g.DependsOn a id)
    (hdepth : g.size < depth + pending.length) : g.Completes pending s [id] (g.finish depth s id) := by
  have hloop := not_dependsOn_self_of_mem_unrejected hid
  have hnew : id ∉ pending := fun hmem => hloop (hpending id hmem)
  induction depth generalizing s pending id with
  | zero =>
    have hle : pending.length ≤ g.modules.length := (h.nodup.subperm h.mem_modules).length_le
    rw [modules, SortedMap.keys, List.length_map] at hle
    rw [Nat.zero_add, size, SortedMap.size] at hdepth
    exact absurd hle (Nat.not_le_of_lt hdepth)
  | succ depth ih =>
    rw [finish]
    by_cases hmet : id ∈ s.met
    · rw [if_pos (List.contains_iff_mem.mpr hmet)]
      apply completes_of_subset h
      rw [List.forall_mem_singleton]
      exact ((h.met_iff id).mp hmet).resolve_right hnew
    · rw [if_neg (List.contains_iff_mem.not.mpr hmet)]
      refine Completes.append ?_ (fun hold => hmet ((h.met_iff id).mpr (.inl hold))) hloop
      apply completes_foldl _ (h.meet (mem_unrejected_iff.mp hid).1 hnew)
      intro s d hd hs
      have hedge : g.Edge id d := mem_inOrder.mp hd
      have hfree := mem_unrejected_of_edge hid hedge
      have hleads : ∀ a ∈ id :: pending, g.DependsOn a d :=
        List.forall_mem_cons.mpr ⟨.single hedge, fun a ha => (hpending a ha).tail hedge⟩
      have hself := not_dependsOn_self_of_mem_unrejected hfree
      refine ih hfree hs hleads ?_ hself (fun hmem => hself (hleads d hmem))
      rw [List.length_cons]
      omega

/-! ## The order of a graph -/

theorem completes_order (g : DependencyGraph) :
    ∃ t, g.Completes [] .empty (g.unrejected g.resolve.rejected) t ∧ t.order = g.resolve.order := by
  have hempty : OrderSearch.empty.Sound g [] :=
    ⟨.nil, fun _ => by simp [OrderSearch.empty], List.nodup_nil, fun _ ha => nomatch ha⟩
  refine ⟨_, completes_foldl (fun s id hid hs => ?_) hempty, (orderOf.eq_1 g g.rejections).symm⟩
  exact completes_finish hid hs (fun _ ha => nomatch ha) (Nat.lt_succ_self g.size)

theorem dependenciesFirst_order (g : DependencyGraph) : g.DependenciesFirst g.resolve.order := by
  obtain ⟨t, ht, horder⟩ := g.completes_order
  rw [← horder]
  exact ht.sound.first

/-- The order holds the modules that are not rejected. -/
theorem mem_order_iff_mem_unrejected :
    id ∈ g.resolve.order ↔ id ∈ g.unrejected g.resolve.rejected := by
  obtain ⟨t, ht, horder⟩ := g.completes_order
  rw [← horder]
  constructor
  · intro hid
    rcases ht.gains id hid with hid | ⟨i, hi, hpath⟩
    · cases hid
    · exact mem_unrejected_of_path hi hpath
  · intro hid
    exact ht.holds id hid

theorem order_nodup (g : DependencyGraph) : g.resolve.order.Nodup :=
  g.dependenciesFirst_order.nodup

theorem pairwise_order (g : DependencyGraph) :
    g.resolve.order.Pairwise fun a b => ¬g.DependsOn a b :=
  g.dependenciesFirst_order.pairwise

end HotReload.DependencyGraph
