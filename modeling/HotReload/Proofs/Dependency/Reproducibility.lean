import HotReload.Proofs.Dependency.Locality

/-!
# Resolution is reproducible

The dependencies of a module are gone over in many places: to find what is missing, the components and
their loops, what blame passes along, the order and the tiers. In ascending order the same dependencies
give the same result however they are declared, as long as one that comes up again makes no difference;
and a tier depends only on the highest tier below it. So graphs with the same modules and the same
dependencies for each resolve to the same (`resolve_eq_of_same_dependencies`).
-/

namespace HotReload.DependencyGraph

variable {g g₁ g₂ : DependencyGraph} {a id : ModuleId} {s : OrderSearch} {depth : Nat}

/-! ## The order -/

theorem mem_met_finish (h : a ∈ s.met) : a ∈ (g.finish depth s id).met := by
  induction depth generalizing s id with
  | zero => exact h
  | succ depth ih =>
    rw [finish]
    split
    · exact h
    · refine List.foldlRecOn (motive := fun s : OrderSearch => a ∈ s.met) _ _ ?_ fun s hs d _ => ih hs
      exact List.mem_cons_of_mem id h

theorem finish_of_met (h : id ∈ s.met) : g.finish depth s id = s := by
  cases depth with
  | zero => rfl
  | succ depth => rw [finish, if_pos (List.contains_iff_mem.mpr h)]

/-- A module that has just been visited is not visited again. -/
theorem finish_finish (g : DependencyGraph) (depth : Nat) (s : OrderSearch) (id : ModuleId) :
    g.finish depth (g.finish depth s id) id = g.finish depth s id := by
  cases depth with
  | zero => rfl
  | succ depth =>
    apply finish_of_met
    rw [finish]
    split
    next hmet => exact List.contains_iff_mem.mp hmet
    next =>
      refine List.foldlRecOn (motive := fun s : OrderSearch => id ∈ s.met) _ _ ?_
        fun s hs d _ => mem_met_finish hs
      exact List.mem_cons_self

theorem finish_eq (hedges : ∀ a b, g₁.Edge a b ↔ g₂.Edge a b) (depth : Nat) :
    g₁.finish depth = g₂.finish depth := by
  induction depth with
  | zero => rfl
  | succ depth ih =>
    funext s id
    have hbelow : (g₁.sortedDependencies id).foldl (g₂.finish depth) (s.meet id) =
        (g₂.sortedDependencies id).foldl (g₂.finish depth) (s.meet id) :=
      foldl_inOrder_congr (g₂.finish_finish depth) (hedges id) (s.meet id)
    rw [finish, finish, ih, hbelow]

theorem orderOf_eq (hmodules : g₁.modules = g₂.modules) (hedges : ∀ a b, g₁.Edge a b ↔ g₂.Edge a b)
    (rejected : SortedMap ModuleId ReloadError) : g₁.orderOf rejected = g₂.orderOf rejected := by
  have hsize : g₁.size = g₂.size := by
    have hlength := congrArg List.length hmodules
    rwa [modules, modules, SortedMap.keys, SortedMap.keys, List.length_map, List.length_map] at hlength
  rw [orderOf, orderOf, unrejected, unrejected, hmodules, hsize, finish_eq hedges]

/-! ## The tiers -/

/-- With more dependencies a module comes into no lower tier. -/
theorem levelIn_le {level : SortedMap ModuleId Nat} (hedges : ∀ d, g₁.Edge id d → g₂.Edge id d) :
    g₁.levelIn level id ≤ g₂.levelIn level id := by
  unfold levelIn
  cases hmax : ((g₁.dependencies id).filterMap fun d => (level.find? d).map (· + 1)).max? with
  | none => exact Nat.zero_le _
  | some n =>
    obtain ⟨d, hd, hn⟩ := List.mem_filterMap.mp (List.max?_mem hmax)
    exact List.le_max?_getD_of_mem (List.mem_filterMap.mpr ⟨d, hedges d hd, hn⟩)

theorem tiersOf_eq (hedges : ∀ a b, g₁.Edge a b ↔ g₂.Edge a b) (order : List ModuleId) :
    g₁.tiersOf order = g₂.tiersOf order := by
  have hlevel : g₁.levelIn = g₂.levelIn := by
    funext level id
    apply Nat.le_antisymm
    · exact levelIn_le fun d => (hedges id d).mp
    · exact levelIn_le fun d => (hedges id d).mpr
  rw [tiersOf, tiersOf, hlevel]

/-! ## The whole resolution -/

/-- Graphs with the same modules resolve to the same order, the same tiers and the same reasons for
rejection if each module has the same dependencies, in whatever order and however often they are
declared. -/
theorem resolve_eq_of_same_dependencies (hmodules : ∀ id, id ∈ g₁.modules ↔ id ∈ g₂.modules)
    (hdependencies : ∀ id ∈ g₁.modules, ∀ d, d ∈ g₁.dependencies id ↔ d ∈ g₂.dependencies id) :
    g₁.resolve = g₂.resolve := by
  have hedges : ∀ a b, g₁.Edge a b ↔ g₂.Edge a b := by
    intro a b
    by_cases ha : a ∈ g₁.modules
    · exact hdependencies a ha b
    · refine iff_of_false (fun hab => ha hab.mem_modules) fun hab => ha ?_
      exact (hmodules a).mpr hab.mem_modules
  have hagree : AgreeWithin (fun _ => True) g₁ g₂ := by
    constructor
    · exact fun a _ => hmodules a
    · exact fun a b _ => hedges a b
    · exact fun _ _ _ _ => trivial
  have hrejected : g₁.rejections = g₂.rejections :=
    SortedMap.ext_find? fun id => hagree.rejected_eq trivial
  have hsame : g₁.modules = g₂.modules :=
    g₁.ascending_modules.eq_of_mem_iff g₂.ascending_modules hmodules
  rw [resolve, resolve, hrejected, orderOf_eq hsame hedges, tiersOf_eq hedges]

namespace Sample

def app : ModuleId := ⟨"app", none, by decide⟩
def base : ModuleId := ⟨"base", none, by decide⟩
def lib : ModuleId := ⟨"lib", none, by decide⟩
def ring : ModuleId := ⟨"ring", none, by decide⟩
def torn : ModuleId := ⟨"torn", none, by decide⟩
def away : ModuleId := ⟨"away", none, by decide⟩

/-- A module that uses another one with what that one uses itself, and two that form a cycle, one of
which lacks a dependency. -/
def declared : DependencyGraph :=
  ((((DependencyGraph.insert ∅ app [lib, base]).insert base []).insert lib [base]).insert ring
    [torn, ring, torn]).insert torn [ring, away, app]

/-- The same dependencies, declared otherwise. -/
def redeclared : DependencyGraph :=
  ((((DependencyGraph.insert ∅ torn [app, away, ring, app]).insert ring [ring, torn]).insert lib
    [base, base]).insert base []).insert app [base, lib, base]

end Sample

theorem resolve_eq_redeclared :
    (∀ id, id ∈ Sample.declared.modules ↔ id ∈ Sample.redeclared.modules) ∧
      (∀ id ∈ Sample.declared.modules, ∀ d,
        d ∈ Sample.declared.dependencies id ↔ d ∈ Sample.redeclared.dependencies id) ∧
      Sample.declared.resolve = Sample.redeclared.resolve := by
  have hmodules : Sample.declared.modules = Sample.redeclared.modules := by decide
  have hsame : ∀ id ∈ Sample.declared.modules,
      Sample.declared.dependencies id ⊆ Sample.redeclared.dependencies id ∧
        Sample.redeclared.dependencies id ⊆ Sample.declared.dependencies id := by decide
  have hmem : ∀ id, id ∈ Sample.declared.modules ↔ id ∈ Sample.redeclared.modules := by
    intro id
    rw [hmodules]
  have hdependencies : ∀ id ∈ Sample.declared.modules, ∀ d,
      d ∈ Sample.declared.dependencies id ↔ d ∈ Sample.redeclared.dependencies id := by
    intro id hid d
    exact ⟨fun hd => (hsame id hid).1 hd, fun hd => (hsame id hid).2 hd⟩
  exact ⟨hmem, hdependencies, resolve_eq_of_same_dependencies hmem hdependencies⟩

end HotReload.DependencyGraph
