import HotReload.Proofs.Linking

/-!
# Which plugin builds an archive

A plugin table is looked into by id only, and its ids are distinct, so that the order of registration
makes no difference (`PluginTable.find?_of_perm`). If all plugins that an archive declares are
registered, then the first of them that claims it is selected, if there is one (`select_eq_ok`).
-/

namespace HotReload

namespace PluginTable

variable {t t' : PluginTable} {i : PluginId} {p : Plugin} {a : Archive}

/-- What is found under an id is registered under it. -/
theorem id_of_find? (h : t.find? i = some p) : p ∈ t.plugins ∧ p.id = i := by
  rw [find?] at h
  have hid := List.find?_some h
  exact ⟨List.mem_of_find?_eq_some h, of_decide_eq_true hid⟩

theorem find?_eq_some_iff : t.find? i = some p ↔ p ∈ t.plugins ∧ p.id = i := by
  refine ⟨id_of_find?, ?_⟩
  rintro ⟨hp, rfl⟩
  have hsome : (t.find? p.id).isSome := by
    rw [find?, List.find?_isSome]
    exact ⟨p, hp, decide_eq_true rfl⟩
  obtain ⟨q, hq⟩ := Option.isSome_iff_exists.mp hsome
  obtain ⟨hmem, hid⟩ := id_of_find? hq
  rw [hq, List.inj_on_of_nodup_map t.distinct hmem hp hid]

/-- The order of registration does not matter to a look-up. -/
theorem find?_of_perm (h : t.plugins.Perm t'.plugins) : t.find? = t'.find? := by
  funext i
  ext p
  rw [find?_eq_some_iff, find?_eq_some_iff, h.mem_iff]

/-- The first plugin that an archive declares and that claims it. -/
def claimant? (t : PluginTable) (a : Archive) : Option Plugin :=
  (a.spec.plugins.filterMap t.find?).find? (·.backend.claims a)

theorem declared_eq_ok (h : ∀ i ∈ a.spec.plugins, ∃ p, t.find? i = some p) :
    t.declared a = .ok (a.spec.plugins.filterMap t.find?) := by
  rw [declared]
  generalize a.spec.plugins = ids at h
  induction ids with
  | nil => rfl
  | cons i ids ih =>
    obtain ⟨p, hp⟩ := h i List.mem_cons_self
    have hrest := ih fun j hj => h j (List.mem_cons_of_mem _ hj)
    rw [List.mapM_cons, hrest, hp, List.filterMap_cons_some hp]
    rfl

theorem select_eq_ok (h : ∀ i ∈ a.spec.plugins, ∃ p, t.find? i = some p) :
    t.select a = .ok (t.claimant? a) := by
  rw [select, declared_eq_ok h]
  rfl

theorem select_congr (h : t.find? = t'.find?) : t.select = t'.select := by
  funext a
  rw [select, select, declared, declared, h]

end PluginTable

namespace ModuleSpec

variable {spec : ModuleSpec} {t t' : PluginTable} {runtimes : List (PluginId × SymbolTable)}

/-- The runtimes can be had only if all declared plugins are registered. -/
theorem exists_find?_of_runtimes (h : spec.runtimes t = .ok runtimes) :
    ∀ i ∈ spec.plugins, ∃ p, t.find? i = some p := by
  intro i hi
  obtain ⟨e, -, p, hp, -⟩ := exists_of_forall₂ (runtimes_eq_ok_iff.mp h).flip hi
  exact ⟨p, hp⟩

/-- The first declared plugin that is not registered, if there is one. -/
def unknownPlugin? (spec : ModuleSpec) (t : PluginTable) : Option PluginId :=
  spec.plugins.find? fun i => (t.find? i).isNone

theorem runtimes_of_unknownPlugin {i : PluginId} (h : spec.unknownPlugin? t = some i) :
    spec.runtimes t = .error (.unknownPlugin spec.id i) := by
  cases hruntimes : spec.runtimes t with
  | ok runtimes =>
    have hnone := List.find?_some h
    obtain ⟨p, hp⟩ := exists_find?_of_runtimes hruntimes i (List.mem_of_find?_eq_some h)
    rw [hp] at hnone
    cases hnone
  | error e =>
    obtain ⟨j, hj, rfl⟩ := exists_of_runtimes_eq_error hruntimes
    rw [Option.some.inj (h.symm.trans hj)]

theorem exists_runtimes (h : spec.unknownPlugin? t = none) :
    ∃ runtimes, spec.runtimes t = .ok runtimes := by
  cases hruntimes : spec.runtimes t with
  | ok runtimes => exact ⟨runtimes, rfl⟩
  | error e =>
    obtain ⟨j, hj, -⟩ := exists_of_runtimes_eq_error hruntimes
    cases h.symm.trans hj

theorem runtimes_congr (h : t.find? = t'.find?) : spec.runtimes t = spec.runtimes t' := by
  rw [runtimes, runtimes, h]

end ModuleSpec

theorem Offer.boundary_congr_plugins {t t' : PluginTable} (h : t.find? = t'.find?) (offer : Offer) :
    offer.boundary t = offer.boundary t' := by
  funext candidates spec
  rw [boundary, boundary, ModuleSpec.runtimes_congr h]

end HotReload
