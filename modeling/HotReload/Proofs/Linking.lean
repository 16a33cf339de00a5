import HotReload.Proofs.Flattening
import Mathlib.Logic.Relation

/-!
# Which modules are linked

The modules linked to a module are exactly the candidates that can be reached from it along
declared dependencies (`mem_linkedModules_iff`), all of which are there
(`exists_of_reaches`), and they stand in depth-first pre-order (`preOrder_linkedModules`). What gets
linked depends on nothing else: candidates that look alike wherever declared dependencies lead give
links that look alike (`AlikeWithin.spec_linkedModules_map`).
-/

namespace HotReload

open Relation

/-- The dependencies that the candidate under an id declares. -/
def declared (candidates : ModuleMap) (id : ModuleId) : List ModuleId :=
  ((candidates.find? id).map (·.spec.dependencies)).getD []

section Declared

variable {candidates : ModuleMap} {id d : ModuleId} {m : CompiledModule}

theorem declared_of_find? (h : candidates.find? id = some m) :
    declared candidates id = m.spec.dependencies := by
  simp [declared, h]

theorem exists_of_mem_declared (h : d ∈ declared candidates id) :
    ∃ m, candidates.find? id = some m ∧ d ∈ m.spec.dependencies := by
  cases hfind : candidates.find? id with
  | none => simp [declared, hfind] at h
  | some m => exact ⟨m, rfl, declared_of_find? hfind ▸ h⟩

end Declared

/-! ## What is met -/

section Leads

variable {candidates : ModuleMap} {s t : Flattening} {dependent : ModuleId} {deps : List ModuleId}

/-- What was met from some dependencies on: only what they lead to, and nothing was left out. -/
structure Leads (candidates : ModuleMap) (deps : List ModuleId) (s t : Flattening) : Prop where
  holds : ∀ d ∈ deps, d ∈ t.met
  closed : ∀ a ∈ t.met, a ∈ s.met ∨ ∀ d ∈ declared candidates a, d ∈ t.met
  gains : ∀ a ∈ t.met, a ∈ s.met ∨
    ∃ d ∈ deps, ReflTransGen (fun a b => b ∈ declared candidates a) d a

theorem Descends.leads (h : Descends candidates dependent deps s (.ok t)) :
    Leads candidates deps s t := by
  refine Descends.induction_ok ?done ?again ?visit h
  case done =>
    intro s
    exact ⟨nofun, fun _ ha => .inl ha, fun _ ha => .inl ha⟩
  case again =>
    intro d deps s t old hkept ih
    refine ⟨List.forall_mem_cons.mpr ⟨hkept old, ih.holds⟩, ih.closed, fun a ha => ?_⟩
    refine (ih.gains a ha).imp_right ?_
    rintro ⟨i, hi, hpath⟩
    exact ⟨i, List.mem_cons_of_mem _ hi, hpath⟩
  case visit =>
    intro d deps m s t u new found hbelow hrest ihbelow ih
    have hdeclared : declared candidates d = m.spec.dependencies := declared_of_find? found
    constructor
    · exact List.forall_mem_cons.mpr ⟨hrest (hbelow List.mem_cons_self), ih.holds⟩
    · intro a ha
      rcases ih.closed a ha with hmet | hclosed
      · rcases ihbelow.closed a hmet with hmet | hclosed
        · rcases List.mem_cons.mp hmet with rfl | hmet
          · refine .inr fun i hi => hrest (ihbelow.holds i ?_)
            rwa [hdeclared] at hi
          · exact .inl hmet
        · exact .inr fun i hi => hrest (hclosed i hi)
      · exact .inr hclosed
    · intro a ha
      rcases ih.gains a ha with hmet | ⟨i, hi, hpath⟩
      · rcases ihbelow.gains a hmet with hmet | ⟨i, hi, hpath⟩
        · rcases List.mem_cons.mp hmet with rfl | hmet
          · exact .inr ⟨a, List.mem_cons_self, .refl⟩
          · exact .inl hmet
        · refine .inr ⟨d, List.mem_cons_self, .head ?_ hpath⟩
          rwa [hdeclared]
      · exact .inr ⟨i, List.mem_cons_of_mem _ hi, hpath⟩

/-- The recursion does not fail in a region of candidates that no declared dependency leads out of. -/
theorem Descends.exists_ok (region : ModuleId → Prop)
    (hregion : ∀ d, region d → ∃ m, candidates.find? d = some m ∧ ∀ e ∈ m.spec.dependencies, region e)
    {r : Except ReloadError Flattening} (h : Descends candidates dependent deps s r)
    (hdeps : ∀ d ∈ deps, region d) : ∃ t, r = .ok t := by
  induction h with
  | done => exact ⟨_, rfl⟩
  | again _ _ ih => exact ih (List.forall_mem_cons.mp hdeps).2
  | missing _ absent =>
    obtain ⟨m, hm, -⟩ := hregion _ (List.forall_mem_cons.mp hdeps).1
    rw [absent] at hm
    cases hm
  | fail _ found _ ih =>
    obtain ⟨m, hm, hclosed⟩ := hregion _ (List.forall_mem_cons.mp hdeps).1
    rw [found] at hm
    cases hm
    obtain ⟨t, ht⟩ := ih hclosed
    cases ht
  | visit _ _ _ _ _ ih => exact ih (List.forall_mem_cons.mp hdeps).2

end Leads

/-! ## Depth-first pre-order -/

section PreOrder

variable {α : Type*} {next : α → List α}

/-- Depth-first pre-order, told recursively: an item that was not met before is listed, then what its
successors lead to, and only then what the remaining items lead to. -/
inductive PreOrder (next : α → List α) : (met work order : List α) → Prop
  | nil {met : List α} : PreOrder next met [] []
  | again {met work order : List α} {a : α} (old : a ∈ met) (rest : PreOrder next met work order) :
      PreOrder next met (a :: work) order
  | visit {met work below order : List α} {a : α} (new : a ∉ met)
      (descent : PreOrder next (a :: met) (next a) below)
      (rest : PreOrder next (below ++ a :: met) work order) :
      PreOrder next met (a :: work) (a :: (below ++ order))

/-- Only which items were met before counts, not how they are listed. -/
theorem PreOrder.congr {met met' work order : List α} (h : PreOrder next met work order)
    (hmet : ∀ a, a ∈ met ↔ a ∈ met') : PreOrder next met' work order := by
  induction h generalizing met' with
  | nil => exact .nil
  | again old _ ih => exact .again ((hmet _).mp old) (ih hmet)
  | visit new _ _ ihdescent ihrest =>
    refine .visit ((hmet _).not.mp new) (ihdescent fun a => ?_) (ihrest fun a => ?_)
    · rw [List.mem_cons, List.mem_cons, hmet]
    · rw [List.mem_append, List.mem_append, List.mem_cons, List.mem_cons, hmet]

/-- What the recursion meets, it meets in depth-first pre-order. -/
theorem Descends.preOrder {candidates : ModuleMap} {s t : Flattening} {dependent : ModuleId}
    {deps : List ModuleId} (h : Descends candidates dependent deps s (.ok t)) :
    ∃ order, PreOrder (declared candidates) s.met deps order ∧ t.met = order.reverse ++ s.met := by
  refine Descends.induction_ok ?done ?again ?visit h
  case done =>
    intro s
    exact ⟨[], .nil, rfl⟩
  case again =>
    rintro d deps s t old - ⟨order, horder, hmet⟩
    exact ⟨order, .again old horder, hmet⟩
  case visit =>
    intro d deps m s t u new found hbelow hrest ihbelow ih
    obtain ⟨first, hfirst, hmetFirst⟩ := ihbelow
    obtain ⟨order, horder, hmet⟩ := ih
    have hdeclared : declared candidates d = m.spec.dependencies := declared_of_find? found
    refine ⟨d :: (first ++ order), .visit new ?_ (horder.congr fun a => ?_), ?_⟩
    · rw [hdeclared]
      exact hfirst
    · rw [hmetFirst, Flattening.meet, List.mem_append, List.mem_append, List.mem_reverse]
    · rw [hmet, hmetFirst, Flattening.meet, List.reverse_cons, List.reverse_append]
      simp

end PreOrder

/-! ## The links of a specification -/

section Specification

variable {candidates : ModuleMap} {spec : ModuleSpec} {ms : List CompiledModule} {d : ModuleId}

/-- Whether declared dependencies lead from a specification to a module. -/
def ModuleSpec.Reaches (spec : ModuleSpec) (candidates : ModuleMap) (d : ModuleId) : Prop :=
  ∃ a ∈ spec.dependencies, ReflTransGen (fun a b => b ∈ declared candidates a) a d

theorem ModuleSpec.Reaches.of_dependency (h : d ∈ spec.dependencies) :
    spec.Reaches candidates d :=
  ⟨d, h, .refl⟩

theorem ModuleSpec.Reaches.tail {e : ModuleId} (h : spec.Reaches candidates d)
    (he : e ∈ declared candidates d) : spec.Reaches candidates e := by
  obtain ⟨a, ha, hpath⟩ := h
  exact ⟨a, ha, hpath.tail he⟩

/-- Links are made by the recursion. -/
theorem descends_of_linkedModules (h : spec.linkedModules candidates = .ok ms) :
    ∃ t, Descends candidates spec.id spec.dependencies .empty (.ok t) ∧ t.Lists candidates ∧
      t.order = ms := by
  obtain ⟨t, ht, horder⟩ := except_map_eq_ok h
  have hdescends := descends_iff.mpr ht
  exact ⟨t, hdescends, hdescends.lists (.empty candidates), horder⟩

/-- The modules that were met are those that the specification reaches. -/
theorem Descends.mem_met_iff {t : Flattening}
    (h : Descends candidates spec.id spec.dependencies .empty (.ok t)) :
    d ∈ t.met ↔ spec.Reaches candidates d := by
  have hleads := h.leads
  constructor
  · intro hd
    exact (hleads.gains d hd).resolve_left List.not_mem_nil
  · rintro ⟨a, ha, hpath⟩
    induction hpath with
    | refl => exact hleads.holds a ha
    | tail _ hstep ih => exact (hleads.closed _ ih).resolve_left List.not_mem_nil _ hstep

theorem Flattening.Lists.find?_of_mem {t : Flattening} (h : t.Lists candidates) (hd : d ∈ t.met) :
    ∃ m ∈ t.order, candidates.find? d = some m := by
  have hmem : candidates.find? d ∈ t.order.map some := by
    rw [h.order]
    exact List.mem_map_of_mem (List.mem_reverse.mpr hd)
  obtain ⟨m, hm, hfind⟩ := List.mem_map.mp hmem
  exact ⟨m, hm, hfind.symm⟩

/-- Where candidates stand under their own ids, these are the ids of what is listed. -/
theorem Flattening.Lists.map_id {t : Flattening} (h : t.Lists candidates)
    (hid : ∀ id m, candidates.find? id = some m → m.id = id) : t.order.map (·.id) = t.met.reverse := by
  have horder := h.order
  generalize t.met.reverse = ids at horder
  generalize t.order = ms at horder
  induction ms generalizing ids with
  | nil =>
    cases ids with
    | nil => rfl
    | cons i ids => cases horder
  | cons m ms ih =>
    cases ids with
    | nil => cases horder
    | cons i ids =>
      rw [List.map_cons, List.map_cons, List.cons.injEq] at horder
      rw [List.map_cons, hid i m horder.1.symm, ih ids horder.2]

/-- The linked modules are the candidates that the specification reaches. -/
theorem mem_linkedModules_iff (h : spec.linkedModules candidates = .ok ms) {m : CompiledModule} :
    m ∈ ms ↔ ∃ d, candidates.find? d = some m ∧ spec.Reaches candidates d := by
  obtain ⟨t, ht, hlists, rfl⟩ := descends_of_linkedModules h
  have hmem : m ∈ t.order ↔ some m ∈ t.order.map some := by simp
  rw [hmem, hlists.order, List.mem_map]
  refine exists_congr fun d => ?_
  rw [List.mem_reverse, ht.mem_met_iff, and_comm]

/-- Everything that a specification reaches is a candidate, if its links can be made. -/
theorem exists_of_reaches (h : spec.linkedModules candidates = .ok ms)
    (hd : spec.Reaches candidates d) : ∃ m, candidates.find? d = some m := by
  obtain ⟨t, ht, hlists, -⟩ := descends_of_linkedModules h
  obtain ⟨m, -, hm⟩ := hlists.find?_of_mem (ht.mem_met_iff.mpr hd)
  exact ⟨m, hm⟩

/-- Links can be made in a region of candidates that no declared dependency leads out of. -/
theorem exists_linkedModules (region : ModuleId → Prop)
    (hregion : ∀ d, region d → ∃ m, candidates.find? d = some m ∧ ∀ e ∈ m.spec.dependencies, region e)
    (hdeps : ∀ d ∈ spec.dependencies, region d) : ∃ ms, spec.linkedModules candidates = .ok ms := by
  obtain ⟨r, hr⟩ := exists_descends candidates spec.id spec.dependencies .empty
  obtain ⟨t, rfl⟩ := hr.exists_ok region hregion hdeps
  refine ⟨t.order, ?_⟩
  rw [ModuleSpec.linkedModules, hr.flatten_eq]
  rfl

/-- Where candidates stand under their own ids, no module is linked twice. -/
theorem nodup_linkedModules (hid : ∀ id m, candidates.find? id = some m → m.id = id)
    (h : spec.linkedModules candidates = .ok ms) : (ms.map (·.id)).Nodup := by
  obtain ⟨t, -, hlists, rfl⟩ := descends_of_linkedModules h
  rw [hlists.map_id hid]
  exact List.nodup_reverse.mpr hlists.nodup

/-- The links of a specification stand in depth-first pre-order of the declared dependencies. -/
theorem preOrder_linkedModules (hid : ∀ id m, candidates.find? id = some m → m.id = id)
    (h : spec.linkedModules candidates = .ok ms) :
    PreOrder (declared candidates) [] spec.dependencies (ms.map (·.id)) := by
  obtain ⟨t, ht, hlists, rfl⟩ := descends_of_linkedModules h
  obtain ⟨order, horder, hmet⟩ := ht.preOrder
  rw [hlists.map_id hid, hmet, List.reverse_append, List.reverse_reverse]
  exact horder

end Specification

/-! ## Dependencies among published modules -/

namespace Snapshot

/-- Whether the module published under an id declares a dependency. -/
def Declares (s : Snapshot) (id d : ModuleId) : Prop :=
  ∃ m, s.find? id = some m ∧ d ∈ m.spec.dependencies

/-- Whether declared dependencies of published modules lead from one id to another. -/
def DependsOn (s : Snapshot) : ModuleId → ModuleId → Prop :=
  TransGen s.Declares

variable {s : Snapshot} {id d : ModuleId} {m : CompiledModule}

theorem declares_iff : s.Declares id d ↔ d ∈ declared s.modules id := by
  constructor
  · rintro ⟨m, hm, hd⟩
    rw [declared_of_find? hm]
    exact hd
  · intro hd
    exact exists_of_mem_declared hd

/-- A published module reaches what it depends on. -/
theorem reaches_iff (hm : s.find? id = some m) :
    m.spec.Reaches s.modules d ↔ s.DependsOn id d := by
  have hdeclares : (fun a b => b ∈ declared s.modules a) = s.Declares := by
    funext a b
    exact propext declares_iff.symm
  rw [DependsOn, TransGen.head'_iff, ModuleSpec.Reaches, hdeclares]
  refine exists_congr fun a => and_congr_left fun _ => ?_
  rw [declares_iff, declared_of_find? hm]

end Snapshot

/-! ## Links depend on what is reached only -/

section Congruence

variable {β : Type*} {f : CompiledModule → β} {c₁ c₂ : ModuleMap} {region : ModuleId → Prop}

/-- Two collections of candidates look alike to `f` in a region that no declared dependency leads
out of, and what looks alike declares the same dependencies. -/
structure AlikeWithin (f : CompiledModule → β) (region : ModuleId → Prop) (c₁ c₂ : ModuleMap) :
    Prop where
  dependencies : ∀ m₁ m₂, f m₁ = f m₂ → m₁.spec.dependencies = m₂.spec.dependencies
  alike : ∀ d, region d → (c₁.find? d).map f = (c₂.find? d).map f
  closed : ∀ d m, region d → c₁.find? d = some m → ∀ e ∈ m.spec.dependencies, region e

theorem AlikeWithin.exists_alike (h : AlikeWithin f region c₁ c₂) {d : ModuleId} (hd : region d)
    {m₁ : CompiledModule} (hm₁ : c₁.find? d = some m₁) :
    ∃ m₂, c₂.find? d = some m₂ ∧ f m₂ = f m₁ := by
  have halike := h.alike d hd
  rw [hm₁, Option.map_some, eq_comm] at halike
  exact Option.map_eq_some_iff.mp halike

/-- What is left of a search when its modules are looked at through `f`. -/
def Flattening.view (f : CompiledModule → β) (s : Flattening) : List ModuleId × List β :=
  (s.met, s.order.map f)

theorem Flattening.met_eq_of_view {s₁ s₂ : Flattening} (hs : s₁.view f = s₂.view f) :
    s₁.met = s₂.met :=
  congrArg Prod.fst hs

theorem Flattening.view_meet {s₁ s₂ : Flattening} (hs : s₁.view f = s₂.view f) (d : ModuleId)
    {m₁ m₂ : CompiledModule} (hm : f m₁ = f m₂) : (s₁.meet d m₁).view f = (s₂.meet d m₂).view f := by
  obtain ⟨hmet, horder⟩ := Prod.mk.inj hs
  rw [view, view, meet, meet, hmet, List.map_append, List.map_append, horder, List.map_singleton,
    List.map_singleton, hm]

/-- The recursion goes the same way wherever candidates look alike. -/
theorem AlikeWithin.exists_descends (h : AlikeWithin f region c₁ c₂) {dependent : ModuleId}
    {deps : List ModuleId} {s₁ s₂ : Flattening} {r₁ : Except ReloadError Flattening}
    (hdescends : Descends c₁ dependent deps s₁ r₁) (hdeps : ∀ d ∈ deps, region d)
    (hs : s₁.view f = s₂.view f) :
    ∃ r₂, Descends c₂ dependent deps s₂ r₂ ∧ r₁.map (·.view f) = r₂.map (·.view f) := by
  induction hdescends generalizing s₂ with
  | done => exact ⟨_, .done, congrArg Except.ok hs⟩
  | again old _ ih =>
    obtain ⟨r₂, hr₂, hview⟩ := ih (List.forall_mem_cons.mp hdeps).2 hs
    exact ⟨r₂, .again (Flattening.met_eq_of_view hs ▸ old) hr₂, hview⟩
  | @missing _ d _ _ new absent =>
    have halike := h.alike d (List.forall_mem_cons.mp hdeps).1
    rw [absent, Option.map_none, eq_comm, Option.map_eq_none_iff] at halike
    exact ⟨_, .missing (Flattening.met_eq_of_view hs ▸ new) halike, rfl⟩
  | @fail _ d _ _ m _ new found _ ih =>
    have hd := (List.forall_mem_cons.mp hdeps).1
    obtain ⟨m₂, hfound₂, hm₂⟩ := h.exists_alike hd found
    have hsame := h.dependencies m₂ m hm₂
    obtain ⟨r₂, hbelow, hview⟩ := ih (h.closed d m hd found) (Flattening.view_meet hs d hm₂.symm)
    rw [← hsame] at hbelow
    cases r₂ with
    | ok t₂ => cases hview
    | error e₂ => exact ⟨_, .fail (Flattening.met_eq_of_view hs ▸ new) hfound₂ hbelow, hview⟩
  | @visit _ d _ _ _ m _ new found _ _ ihbelow ih =>
    obtain ⟨hd, hrest⟩ := List.forall_mem_cons.mp hdeps
    obtain ⟨m₂, hfound₂, hm₂⟩ := h.exists_alike hd found
    have hsame := h.dependencies m₂ m hm₂
    obtain ⟨r₂, hbelow, hview⟩ := ihbelow (h.closed d m hd found) (Flattening.view_meet hs d hm₂.symm)
    rw [← hsame] at hbelow
    cases r₂ with
    | error e₂ => cases hview
    | ok t₂ =>
      obtain ⟨r₂, hr₂, hview₂⟩ := ih hrest (Except.ok.inj hview)
      exact ⟨r₂, .visit (Flattening.met_eq_of_view hs ▸ new) hfound₂ hbelow hr₂, hview₂⟩

/-- The links of a specification look alike wherever the candidates that it reaches do. -/
theorem AlikeWithin.spec_linkedModules_map (h : AlikeWithin f region c₁ c₂) {spec : ModuleSpec}
    (hdeps : ∀ d ∈ spec.dependencies, region d) :
    (spec.linkedModules c₁).map (List.map f) = (spec.linkedModules c₂).map (List.map f) := by
  obtain ⟨r₁, hr₁⟩ := HotReload.exists_descends c₁ spec.id spec.dependencies .empty
  obtain ⟨r₂, hr₂, hview⟩ := h.exists_descends hr₁ hdeps rfl
  rw [ModuleSpec.linkedModules, ModuleSpec.linkedModules, hr₁.flatten_eq, hr₂.flatten_eq]
  cases r₁ with
  | error e₁ =>
    cases r₂ with
    | error e₂ => exact congrArg Except.error (Except.error.inj hview)
    | ok t₂ => cases hview
  | ok t₁ =>
    cases r₂ with
    | error e₂ => cases hview
    | ok t₂ => exact congrArg Except.ok (Prod.mk.inj (Except.ok.inj hview)).2

/-- The boundary of a module depends only on the candidates that the module reaches. -/
theorem Offer.boundary_congr (h : AlikeWithin id region c₁ c₂) (offer : Offer)
    (plugins : PluginTable) {spec : ModuleSpec} (hdeps : ∀ d ∈ spec.dependencies, region d) :
    offer.boundary plugins c₁ spec = offer.boundary plugins c₂ spec := by
  have hlinks : spec.linkedModules c₁ = spec.linkedModules c₂ := by
    have hmap := h.spec_linkedModules_map hdeps
    have hid : ∀ x : Except ReloadError (List CompiledModule), x.map (List.map id) = x := by
      rintro (e | l)
      · rfl
      · exact congrArg Except.ok (List.map_id l)
    rwa [hid, hid] at hmap
  rw [boundary, boundary, hlinks]

end Congruence

/-! ## Boundaries -/

/-- The runtime symbols of a specification are those of the plugins that it declares, in order. -/
theorem ModuleSpec.runtimes_eq_ok_iff {spec : ModuleSpec} {plugins : PluginTable}
    {runtimes : List (PluginId × SymbolTable)} :
    spec.runtimes plugins = .ok runtimes ↔
      List.Forall₂ (fun id e => ∃ p, plugins.find? id = some p ∧ (id, p.runtime) = e) spec.plugins
        runtimes := by
  rw [ModuleSpec.runtimes, mapM_eq_ok_iff]
  constructor
  · intro h
    refine h.imp fun id e he => ?_
    cases hfind : plugins.find? id with
    | none =>
      rw [hfind] at he
      cases he
    | some p =>
      rw [hfind] at he
      exact ⟨p, rfl, Except.ok.inj he⟩
  · intro h
    refine h.imp fun id e he => ?_
    obtain ⟨p, hfind, rfl⟩ := he
    rw [hfind]

/-- The runtimes cannot be had if a declared plugin is not registered, the first of which is named. -/
theorem ModuleSpec.exists_of_runtimes_eq_error {spec : ModuleSpec} {plugins : PluginTable}
    {e : ReloadError} (h : spec.runtimes plugins = .error e) :
    ∃ i, spec.plugins.find? (fun i => (plugins.find? i).isNone) = some i ∧
      e = .unknownPlugin spec.id i := by
  obtain ⟨before, i, after, hsplit, hbefore, hi⟩ := exists_of_mapM_eq_error h
  have hnone : plugins.find? i = none := by
    cases hfind : plugins.find? i with
    | none => rfl
    | some p =>
      rw [hfind] at hi
      cases hi
  refine ⟨i, ?_, ?_⟩
  · rw [List.find?_eq_some_iff_append]
    refine ⟨by rw [hnone]; rfl, before, after, hsplit, ?_⟩
    intro j hj
    obtain ⟨r, hr⟩ := hbefore j hj
    cases hfind : plugins.find? j with
    | none =>
      rw [hfind] at hr
      cases hr
    | some p => rfl
  · rw [hnone] at hi
    exact (Except.error.inj hi).symm

/-- What a boundary is made of, if it can be made. -/
theorem Offer.boundary_eq_ok_iff {offer : Offer} {plugins : PluginTable} {candidates : ModuleMap}
    {spec : ModuleSpec} {b : Boundary} :
    offer.boundary plugins candidates spec = .ok b ↔
      ∃ ms runtimes, spec.linkedModules candidates = .ok ms ∧ spec.runtimes plugins = .ok runtimes ∧
        b = {
          module := spec.id
          core := offer.core
          dependencies := ms.map (·.linked)
          plugins := runtimes
          host := offer.host.filter (admits offer.exposed spec.imports) } := by
  unfold boundary
  cases hms : spec.linkedModules candidates with
  | error e => simp [bind, Except.bind]
  | ok ms =>
    cases hruntimes : spec.runtimes plugins with
    | error e => simp [bind, Except.bind]
    | ok runtimes => simp [bind, Except.bind, pure, Except.pure, eq_comm]

end HotReload
