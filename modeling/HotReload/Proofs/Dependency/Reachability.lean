import HotReload.Proofs.Dependency.Ascending
import HotReload.Proofs.SortedMap
import Mathlib.Logic.Relation

/-!
# Dependence

A module depends on another one if a path of one or more declared dependencies leads from it to
the other. The look-ups of a dependency graph are stated in these terms: what depends on some roots
(`transitiveDependents_exactly`), and what shares a component with a module (`mem_component_iff`).
-/

namespace HotReload.DependencyGraph

open Relation

variable {g : DependencyGraph} {a b c : ModuleId}

/-- Whether `a` declares `b` as a dependency. -/
def Edge (g : DependencyGraph) (a b : ModuleId) : Prop :=
  b ∈ g.dependencies a

/-- Whether `a` depends on `b`, directly or not. -/
def DependsOn (g : DependencyGraph) : ModuleId → ModuleId → Prop :=
  TransGen g.Edge

theorem dependencies_of_find? {deps : List ModuleId} (h : g.edges.find? a = some deps) :
    g.dependencies a = deps := by
  simp [dependencies, h]

theorem mem_modules_iff : a ∈ g.modules ↔ ∃ deps, g.edges.find? a = some deps := by
  rw [modules, SortedMap.mem_keys_iff, Option.isSome_iff_exists]

theorem mem_entries_of_mem_modules (h : a ∈ g.modules) : (a, g.dependencies a) ∈ g.edges.entries := by
  obtain ⟨deps, hfind⟩ := mem_modules_iff.mp h
  rw [SortedMap.mem_entries_iff, dependencies_of_find? hfind, hfind]

theorem contains_iff : g.contains a = true ↔ a ∈ g.modules := by
  rw [mem_modules_iff, contains, SortedMap.contains_iff]

theorem Edge.mem_modules (h : g.Edge a b) : a ∈ g.modules := by
  cases hfind : g.edges.find? a with
  | none => simp [Edge, dependencies, hfind] at h
  | some deps => exact mem_modules_iff.mpr ⟨deps, hfind⟩

theorem DependsOn.mem_modules (h : g.DependsOn a b) : a ∈ g.modules := by
  obtain ⟨c, hac, -⟩ := TransGen.head'_iff.mp h
  exact hac.mem_modules

/-- A path never leaves a collection that no dependency leads out of. -/
theorem mem_of_path {s : List ModuleId} (hclosed : ∀ a ∈ s, ∀ b, g.Edge a b → b ∈ s)
    (ha : a ∈ s) (h : ReflTransGen g.Edge a b) : b ∈ s := by
  induction h with
  | refl => exact ha
  | tail _ hstep ih => exact hclosed _ ih _ hstep

theorem mem_dependents_iff : a ∈ g.dependents b ↔ g.Edge a b := by
  constructor
  · intro h
    obtain ⟨⟨a', deps⟩, hmem, rfl⟩ := List.mem_map.mp h
    obtain ⟨hentry, hb⟩ := List.mem_filter.mp hmem
    have hfind := (SortedMap.mem_entries_iff ..).mp hentry
    rw [Edge, dependencies_of_find? hfind]
    simpa using hb
  · intro h
    obtain ⟨deps, hfind⟩ := mem_modules_iff.mp h.mem_modules
    rw [Edge, dependencies_of_find? hfind] at h
    refine List.mem_map.mpr ⟨(a, deps), List.mem_filter.mpr ⟨?_, by simpa using h⟩, rfl⟩
    exact (SortedMap.mem_entries_iff ..).mpr hfind

theorem dependents_nodup (g : DependencyGraph) (b : ModuleId) : (g.dependents b).Nodup :=
  g.edges.keys_nodup.sublist (List.filter_sublist.map _)

/-! ## Transitive dependents -/

section Dependents

variable {roots found stack : List ModuleId} {current : ModuleId}

/-- What is known while the transitive dependents of some roots are collected. -/
structure Collecting (g : DependencyGraph) (roots found stack : List ModuleId) : Prop where
  path : ∀ a ∈ found, ∃ root ∈ roots, g.DependsOn a root
  waiting : ∀ b ∈ stack, b ∈ roots ∨ b ∈ found
  /-- Roots and found modules are on the stack until their dependents are found. -/
  passed : ∀ b, b ∈ roots ∨ b ∈ found → b ∈ stack ∨ ∀ a, g.Edge a b → a ∈ found
  nodup : found.Nodup

theorem collecting_roots (g : DependencyGraph) (roots : List ModuleId) :
    g.Collecting roots [] roots.reverse := by
  constructor
  case path => exact nofun
  case waiting =>
    intro b hb
    exact .inl (List.mem_reverse.mp hb)
  case passed =>
    rintro b (hb | hb)
    · exact .inl (List.mem_reverse.mpr hb)
    · cases hb
  case nodup => exact List.nodup_nil

theorem mem_newDependents_iff : a ∈ (g.newDependents found b).reverse ↔ g.Edge a b ∧ a ∉ found := by
  rw [List.mem_reverse, newDependents, List.mem_filter, mem_dependents_iff, Bool.not_eq_true',
    ← Bool.not_eq_true, List.contains_iff_mem]

/-- The dependents of the next module are found, whether or not it is a root, and none of them twice. -/
theorem Collecting.step (h : g.Collecting roots found (current :: stack)) :
    g.Collecting roots ((g.newDependents found current).reverse ++ found)
      ((g.newDependents found current).reverse ++ stack) := by
  have hcurrent : ∃ root ∈ roots, ReflTransGen g.Edge current root := by
    rcases h.waiting current List.mem_cons_self with hroot | hfound
    · exact ⟨current, hroot, .refl⟩
    · obtain ⟨root, hroot, hpath⟩ := h.path current hfound
      exact ⟨root, hroot, hpath.to_reflTransGen⟩
  constructor
  case path =>
    intro a ha
    rcases List.mem_append.mp ha with ha | ha
    · obtain ⟨root, hroot, hpath⟩ := hcurrent
      exact ⟨root, hroot, .head' (mem_newDependents_iff.mp ha).1 hpath⟩
    · exact h.path a ha
  case waiting =>
    intro b hb
    rw [List.mem_append]
    rcases List.mem_append.mp hb with hb | hb
    · exact .inr (.inl hb)
    · exact (h.waiting b (List.mem_cons_of_mem _ hb)).imp_right .inr
  case passed =>
    intro b hb
    simp only [List.mem_append] at hb ⊢
    by_cases hfresh : b ∈ (g.newDependents found current).reverse
    · exact .inl (.inl hfresh)
    · have hold : b ∈ roots ∨ b ∈ found := hb.imp_right fun hb => hb.resolve_left hfresh
      rcases h.passed b hold with hstack | hpassed
      · rcases List.mem_cons.mp hstack with rfl | hstack
        · refine .inr fun a hab => ?_
          rw [mem_newDependents_iff, and_iff_right hab, or_comm]
          exact Decidable.em _
        · exact .inl (.inr hstack)
      · exact .inr fun a hab => .inr (hpassed a hab)
  case nodup =>
    refine List.Nodup.append ?_ h.nodup ?_
    · exact List.nodup_reverse.mpr ((g.dependents_nodup current).filter _)
    · intro a ha hfound
      exact (mem_newDependents_iff.mp ha).2 hfound

theorem Collecting.collectDependents (h : g.Collecting roots found stack) :
    g.Collecting roots (g.collectDependents found stack) [] := by
  fun_induction DependencyGraph.collectDependents g found stack with
  | case1 found => exact h
  | case2 found current stack new ih => exact ih h.step

/-- When nothing is left on the stack, what leads to a root was found. -/
theorem Collecting.mem_iff (h : g.Collecting roots found []) :
    a ∈ found ↔ ∃ root ∈ roots, g.DependsOn a root := by
  have hpassed : ∀ b, b ∈ roots ∨ b ∈ found → ∀ a, g.Edge a b → a ∈ found := by
    intro b hb
    exact (h.passed b hb).resolve_left List.not_mem_nil
  constructor
  · exact h.path a
  · rintro ⟨root, hroot, hpath⟩
    induction hpath using TransGen.head_induction_on with
    | single hedge => exact hpassed root (.inl hroot) _ hedge
    | head hedge _ ih => exact hpassed _ (.inr ih) _ hedge

theorem collecting_collected (g : DependencyGraph) (roots : List ModuleId) :
    g.Collecting roots (g.collectDependents [] roots.reverse) [] :=
  (g.collecting_roots roots).collectDependents

/-- The transitive dependents of some roots are the modules that depend on one of them. -/
theorem mem_transitiveDependents_iff :
    a ∈ g.transitiveDependents roots ↔ ∃ root ∈ roots, g.DependsOn a root := by
  rw [transitiveDependents, mem_inOrder, (g.collecting_collected roots).mem_iff]

theorem ascending_transitiveDependents (g : DependencyGraph) (roots : List ModuleId) :
    Ascending (g.transitiveDependents roots) :=
  ascending_inOrder (g.collecting_collected roots).nodup

/-- Whatever loops a graph has, and whatever roots are given, be they repeated or missing from the
graph, the transitive dependents are exactly the modules of the graph from which one or more
dependencies lead to a root, each listed once. A root is no exception. -/
theorem transitiveDependents_exactly (g : DependencyGraph) (roots : List ModuleId) :
    Ascending (g.transitiveDependents roots) ∧
      ∀ id, id ∈ g.transitiveDependents roots ↔
        id ∈ g.modules ∧ ∃ root ∈ roots, g.DependsOn id root := by
  refine ⟨g.ascending_transitiveDependents roots, fun id => ?_⟩
  rw [mem_transitiveDependents_iff, iff_and_self]
  rintro ⟨root, -, hpath⟩
  exact hpath.mem_modules

end Dependents

/-! ## Components -/

/-- The modules that a module depends on and that depend on it, in ascending order. The module itself
is among them if it depends on itself, directly or not, and otherwise there are none. -/
def component (g : DependencyGraph) (id : ModuleId) : List ModuleId :=
  (g.transitiveDependents [id]).filter fun b => (g.transitiveDependents [b]).contains id

/-- A component holds the modules that lie on a common loop with a module. -/
theorem mem_component_iff : b ∈ g.component a ↔ g.DependsOn a b ∧ g.DependsOn b a := by
  have hdependents : ∀ a b, a ∈ g.transitiveDependents [b] ↔ g.DependsOn a b := by
    intro a b
    simp [mem_transitiveDependents_iff]
  rw [component, List.mem_filter, List.contains_iff_mem, hdependents, hdependents, and_comm]

end HotReload.DependencyGraph
