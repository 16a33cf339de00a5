import HotReload.Module.Linking
import HotReload.Proofs.Except
import HotReload.Proofs.SortedMap

/-!
# Dependencies are flattened in pre-order

The stack on which dependencies wait to be followed does no more than a recursion would: what a module
depends on is dealt with before anything that lay on the stack before (`flatten_append`), and that modules
met already may be left off the stack makes no difference (`flatten_filter`). The recursion itself is told
by `Descends`. It comes to one end from every start, and that is what the stack comes to
(`descends_iff`).
-/

namespace HotReload

variable {candidates : ModuleMap} {s t : Flattening} {first second stack : List (ModuleId × ModuleId)}
  {dependent d : ModuleId} {deps : List ModuleId} {m : CompiledModule}
  {r : Except ReloadError Flattening} {e : ReloadError}

/-! ## The stack -/

theorem flatten_cons_of_mem (h : d ∈ s.met) :
    flatten candidates s ((dependent, d) :: stack) = flatten candidates s stack := by
  rw [flatten, if_pos (List.contains_iff_mem.mpr h)]

theorem flatten_cons_of_none (hnew : d ∉ s.met) (hnone : candidates.find? d = none) :
    flatten candidates s ((dependent, d) :: stack) = .error (.unresolved dependent d) := by
  rw [flatten, if_neg (List.contains_iff_mem.not.mpr hnew)]
  split
  next => rfl
  next m hsome =>
    rw [hnone] at hsome
    cases hsome

theorem flatten_cons_of_some (hnew : d ∉ s.met) (hsome : candidates.find? d = some m) :
    flatten candidates s ((dependent, d) :: stack) =
      flatten candidates (s.meet d m)
        ((m.spec.dependencies.filter fun i => !(s.meet d m).met.contains i).map (d, ·) ++ stack) := by
  rw [flatten, if_neg (List.contains_iff_mem.not.mpr hnew)]
  split
  next hnone =>
    rw [hnone] at hsome
    cases hsome
  next m' hsome' =>
    rw [hsome'] at hsome
    cases hsome
    rfl

/-- What lies further down on a stack waits until all above it is dealt with. -/
theorem flatten_append (candidates : ModuleMap) (s : Flattening)
    (first second : List (ModuleId × ModuleId)) :
    flatten candidates s (first ++ second) =
      (flatten candidates s first).bind fun t => flatten candidates t second := by
  fun_induction flatten candidates s first with
  | case1 s => rfl
  | case2 s dependent d first hmet ih =>
    rw [List.cons_append, flatten_cons_of_mem (List.contains_iff_mem.mp hmet), ih]
  | case3 s dependent d first hmet hnone =>
    rw [List.cons_append, flatten_cons_of_none (List.contains_iff_mem.not.mp hmet) hnone]
    rfl
  | case4 s dependent d first hmet m hsome after next ih =>
    rw [List.cons_append, flatten_cons_of_some (List.contains_iff_mem.not.mp hmet) hsome,
      ← List.append_assoc]
    exact ih

theorem met_subset_of_flatten (h : flatten candidates s stack = .ok t) : s.met ⊆ t.met := by
  fun_induction flatten candidates s stack with
  | case1 s =>
    cases h
    exact List.Subset.refl _
  | case2 s dependent d stack hmet ih => exact ih h
  | case3 s dependent d stack hmet hnone => cases h
  | case4 s dependent d stack hmet m hsome after next =>
    rename_i ih
    exact List.Subset.trans (List.subset_cons_self d s.met) (ih h)

/-- It makes no difference if modules that were met before are left off the stack. -/
theorem flatten_filter {known : List ModuleId} (hknown : known ⊆ s.met) :
    flatten candidates s ((deps.filter fun i => !known.contains i).map (dependent, ·)) =
      flatten candidates s (deps.map (dependent, ·)) := by
  induction deps generalizing s with
  | nil => rfl
  | cons d deps ih =>
    by_cases hd : d ∈ known
    · rw [List.filter_cons_of_neg (by simp [hd]), List.map_cons, flatten_cons_of_mem (hknown hd)]
      exact ih hknown
    · have hsplit : ∀ rest, flatten candidates s ((dependent, d) :: rest) =
          (flatten candidates s [(dependent, d)]).bind fun t => flatten candidates t rest :=
        flatten_append candidates s [(dependent, d)]
      rw [List.filter_cons_of_pos (by simp [hd]), List.map_cons, List.map_cons,
        hsplit (List.map _ (List.filter _ deps)), hsplit (List.map _ deps)]
      cases hfirst : flatten candidates s [(dependent, d)] with
      | error e => rfl
      | ok t => exact ih (List.Subset.trans hknown (met_subset_of_flatten hfirst))

/-- A module that was not met before is followed by all its dependencies, and then by the rest of the
stack. -/
theorem flatten_cons_eq_bind (hnew : d ∉ s.met) (hsome : candidates.find? d = some m) :
    flatten candidates s ((dependent, d) :: stack) =
      (flatten candidates (s.meet d m) (m.spec.dependencies.map (d, ·))).bind fun t =>
        flatten candidates t stack := by
  rw [flatten_cons_of_some hnew hsome, flatten_append, flatten_filter (List.Subset.refl _)]

/-! ## The recursion -/

/-- Following dependencies recursively. They are visited in the order of their declaration: a module that
was not met before is listed, then its own dependencies are followed, and only then the remaining ones.
All ends at the first module that is no candidate, for which the module is blamed from which it was
reached. -/
inductive Descends (candidates : ModuleMap) :
    (dependent : ModuleId) → (deps : List ModuleId) → Flattening → Except ReloadError Flattening → Prop
  | done {dependent : ModuleId} {s : Flattening} : Descends candidates dependent [] s (.ok s)
  | again {dependent d : ModuleId} {deps : List ModuleId} {s : Flattening}
      {r : Except ReloadError Flattening} (old : d ∈ s.met)
      (rest : Descends candidates dependent deps s r) : Descends candidates dependent (d :: deps) s r
  | missing {dependent d : ModuleId} {deps : List ModuleId} {s : Flattening} (new : d ∉ s.met)
      (absent : candidates.find? d = none) :
      Descends candidates dependent (d :: deps) s (.error (.unresolved dependent d))
  | fail {dependent d : ModuleId} {deps : List ModuleId} {s : Flattening} {m : CompiledModule}
      {e : ReloadError} (new : d ∉ s.met) (found : candidates.find? d = some m)
      (below : Descends candidates d m.spec.dependencies (s.meet d m) (.error e)) :
      Descends candidates dependent (d :: deps) s (.error e)
  | visit {dependent d : ModuleId} {deps : List ModuleId} {s t : Flattening} {m : CompiledModule}
      {r : Except ReloadError Flattening} (new : d ∉ s.met) (found : candidates.find? d = some m)
      (below : Descends candidates d m.spec.dependencies (s.meet d m) (.ok t))
      (rest : Descends candidates dependent deps t r) : Descends candidates dependent (d :: deps) s r

theorem Descends.flatten_eq (h : Descends candidates dependent deps s r) :
    flatten candidates s (deps.map (dependent, ·)) = r := by
  induction h with
  | done => rw [List.map_nil, flatten]
  | again old _ ih => rw [List.map_cons, flatten_cons_of_mem old, ih]
  | missing new absent => rw [List.map_cons, flatten_cons_of_none new absent]
  | fail new found _ ih =>
    rw [List.map_cons, flatten_cons_eq_bind new found, ih]
    rfl
  | visit new found _ _ ihbelow ih =>
    rw [List.map_cons, flatten_cons_eq_bind new found, ihbelow]
    exact ih

theorem Descends.met_subset (h : Descends candidates dependent deps s (.ok t)) : s.met ⊆ t.met :=
  met_subset_of_flatten h.flatten_eq

/-- Induction over a recursion that does not fail. -/
@[elab_as_elim]
theorem Descends.induction_ok {motive : List ModuleId → Flattening → Flattening → Prop}
    (done : ∀ s, motive [] s s)
    (again : ∀ d deps s t, d ∈ s.met → s.met ⊆ t.met → motive deps s t → motive (d :: deps) s t)
    (visit : ∀ d deps m s t u, d ∉ s.met → candidates.find? d = some m → (s.meet d m).met ⊆ t.met →
      t.met ⊆ u.met → motive m.spec.dependencies (s.meet d m) t → motive deps t u →
      motive (d :: deps) s u)
    (h : Descends candidates dependent deps s (.ok t)) : motive deps s t := by
  generalize hr : Except.ok t = r at h
  induction h generalizing t with
  | done =>
    cases hr
    exact done _
  | again old rest ih =>
    subst hr
    exact again _ _ _ _ old rest.met_subset (ih rfl)
  | missing => cases hr
  | fail => cases hr
  | visit new found below rest ihbelow ih =>
    subst hr
    exact visit _ _ _ _ _ _ new found below.met_subset rest.met_subset (ihbelow rfl) (ih rfl)

/-- When a candidate was met, fewer are left. -/
theorem length_keysBut_met_lt (hnew : d ∉ s.met) (hsome : candidates.find? d = some m)
    (hsub : (s.meet d m).met ⊆ t.met) :
    (candidates.keysBut t.met).length < (candidates.keysBut s.met).length := by
  have hkey : d ∈ candidates.keys := by
    rw [SortedMap.mem_keys_iff, hsome]
    rfl
  have hmet : d ∈ t.met := hsub List.mem_cons_self
  have hmore : s.met ⊆ t.met := List.Subset.trans (List.subset_cons_self d s.met) hsub
  exact SortedMap.length_keysBut_lt hkey hnew hmet hmore

/-- The recursion comes to an end, since it goes deeper only at modules that were not met before. -/
theorem exists_descends (candidates : ModuleMap) (dependent : ModuleId) (deps : List ModuleId)
    (s : Flattening) : ∃ r, Descends candidates dependent deps s r := by
  induction hn : (candidates.keysBut s.met).length using Nat.strongRecOn
    generalizing dependent deps s with
  | ind n ih =>
    subst hn
    induction deps with
    | nil => exact ⟨_, .done⟩
    | cons d deps ihdeps =>
      by_cases hmet : d ∈ s.met
      · obtain ⟨r, hr⟩ := ihdeps
        exact ⟨r, .again hmet hr⟩
      · cases hfind : candidates.find? d with
        | none => exact ⟨_, .missing hmet hfind⟩
        | some m =>
          have hlt := length_keysBut_met_lt hmet hfind (List.Subset.refl _)
          obtain ⟨r, hbelow⟩ := ih _ hlt d m.spec.dependencies (s.meet d m) rfl
          cases r with
          | error e => exact ⟨_, .fail hmet hfind hbelow⟩
          | ok t =>
            have hlt' := length_keysBut_met_lt hmet hfind hbelow.met_subset
            obtain ⟨r, hrest⟩ := ih _ hlt' dependent deps t rfl
            exact ⟨r, .visit hmet hfind hbelow hrest⟩

/-- The recursion comes to what the stack comes to, and to nothing else. -/
theorem descends_iff :
    Descends candidates dependent deps s r ↔
      flatten candidates s (deps.map (dependent, ·)) = r := by
  constructor
  · exact Descends.flatten_eq
  · rintro rfl
    obtain ⟨r, hr⟩ := exists_descends candidates dependent deps s
    rw [hr.flatten_eq]
    exact hr

/-! ## What is listed -/

/-- The modules that are listed are the candidates that were met, each once. -/
structure Flattening.Lists (s : Flattening) (candidates : ModuleMap) : Prop where
  nodup : s.met.Nodup
  order : s.order.map some = s.met.reverse.map candidates.find?

namespace Flattening.Lists

theorem empty (candidates : ModuleMap) : Flattening.empty.Lists candidates where
  nodup := List.nodup_nil
  order := rfl

theorem meet (h : s.Lists candidates) (hnew : d ∉ s.met) (hsome : candidates.find? d = some m) :
    (s.meet d m).Lists candidates := by
  constructor
  · exact List.nodup_cons.mpr ⟨hnew, h.nodup⟩
  · rw [Flattening.meet, List.map_append, h.order, List.reverse_cons, List.map_append,
      List.map_singleton, List.map_singleton, hsome]

end Flattening.Lists

theorem Descends.lists (h : Descends candidates dependent deps s (.ok t)) :
    s.Lists candidates → t.Lists candidates := by
  refine Descends.induction_ok ?done ?again ?visit h
  case done =>
    intro s hs
    exact hs
  case again =>
    intro d deps s t _ _ ih hs
    exact ih hs
  case visit =>
    intro d deps m s t u new found _ _ ihbelow ih hs
    exact ih (ihbelow (hs.meet new found))

/-- The recursion fails only for want of a candidate. -/
theorem Descends.exists_missing (h : Descends candidates dependent deps s (.error e)) :
    ∃ needy missing, e = .unresolved needy missing ∧ candidates.find? missing = none := by
  generalize hr : Except.error e = r at h
  induction h with
  | done => cases hr
  | again _ _ ih => exact ih hr
  | missing new absent =>
    cases hr
    exact ⟨_, _, rfl, absent⟩
  | fail _ _ _ ih =>
    cases hr
    exact ih rfl
  | visit _ _ _ _ _ ih => exact ih hr

/-- For every specification and all candidates, whatever cycles or gaps there are, dependencies are
flattened as the recursion has it. It comes to exactly one end: either the modules are linked in the order
in which it lists them, each once, or it comes upon a module that is no candidate, and then the error is
its own. -/
theorem linkedModules_recursive (spec : ModuleSpec) (candidates : ModuleMap) :
    (∃! r, Descends candidates spec.id spec.dependencies .empty r) ∧
      (∀ ms, spec.linkedModules candidates = .ok ms ↔
        ∃ t, Descends candidates spec.id spec.dependencies .empty (.ok t) ∧ t.order = ms) ∧
      (∀ e, spec.linkedModules candidates = .error e ↔
        Descends candidates spec.id spec.dependencies .empty (.error e)) ∧
      (∀ t, Descends candidates spec.id spec.dependencies .empty (.ok t) → t.Lists candidates) ∧
      ∀ e, Descends candidates spec.id spec.dependencies .empty (.error e) →
        ∃ needy missing, e = .unresolved needy missing ∧ candidates.find? missing = none := by
  refine ⟨⟨_, descends_iff.mpr rfl, fun r hr => hr.flatten_eq.symm⟩, ?_, ?_, ?_, ?_⟩
  · intro ms
    simp only [descends_iff, ModuleSpec.linkedModules]
    constructor
    · exact except_map_eq_ok
    · rintro ⟨t, ht, rfl⟩
      rw [ht]
      rfl
  · intro e
    rw [descends_iff, ModuleSpec.linkedModules]
    constructor
    · exact except_map_eq_error
    · intro he
      rw [he]
      rfl
  · intro t ht
    exact ht.lists (.empty candidates)
  · intro e he
    exact he.exists_missing

end HotReload
