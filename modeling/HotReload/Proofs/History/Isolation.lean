import HotReload.Proofs.History.Publication
import HotReload.Proofs.Lookup

/-!
# Isolation

What a published module can name was fixed when it was published: its own symbols, the core, the
modules that it depended on then, the runtimes of the plugins it declares, and the host symbols that
the loader exposes and the module imports (`isolated_of_published`). Later requests do not change
it, whatever they do to the modules around it.
-/

namespace HotReload

namespace CompiledModule

/-- What the boundary of a module consists of when a loader publishes the module in a snapshot. -/
structure BoundedBy (m : CompiledModule) (l : Loader) (s : Snapshot) (id : ModuleId) : Prop where
  module : m.environment.module = id
  core : m.environment.boundary.core = l.offer.core
  links : s.LinksCurrent id m
  linkOrder : PreOrder (declared s.modules) [] m.spec.dependencies (m.links.map (·.id))
  plugins : List.Forall₂ (fun id e => ∃ p, l.plugins.find? id = some p ∧ (id, p.runtime) = e)
    m.spec.plugins m.environment.boundary.plugins
  host : ∀ name body, m.environment.boundary.host.find? name = some body ↔
    l.offer.host.find? name = some body ∧
      (∃ package ∈ l.offer.exposed, within name package = true) ∧
      ∃ space ∈ m.spec.imports, within name space = true

/-- The places where a name may be defined for a module that a loader publishes in a snapshot. -/
inductive Sees (m : CompiledModule) (l : Loader) (s : Snapshot) (id : ModuleId) (name : String) :
    Prop
  | own {body : Body} (found : m.symbols.find? name = some body)
  | core {body : Body} (found : l.offer.core.find? name = some body)
  | linked {d : ModuleId} {other : CompiledModule} {body : Body} (depends : s.DependsOn id d)
      (published : s.find? d = some other) (found : other.symbols.find? name = some body)
  | plugin {p : PluginId} {plugin : Plugin} {body : Body} (declares : p ∈ m.spec.plugins)
      (registered : l.plugins.find? p = some plugin)
      (found : plugin.runtime.find? name = some body)
  | host {package space : String} {body : Body} (exposed : package ∈ l.offer.exposed)
      (inPackage : within name package = true) (imported : space ∈ m.spec.imports)
      (inSpace : within name space = true) (found : l.offer.host.find? name = some body)

/-- A module can name exactly what it sees, and a name stands for the first thing that it may stand
for. A name that stands for something of a linked module is called as that module calls it. -/
structure Isolated (m : CompiledModule) (l : Loader) (s : Snapshot) (id : ModuleId) : Prop where
  bounded : m.BoundedBy l s id
  sees : ∀ name, (∃ found, m.resolve name = .ok found) ↔ m.Sees l s id name
  finds : ∀ name found, m.resolve name = .ok found ↔ m.environment.Finds name found
  hidden : ∀ name, ¬m.Sees l s id name →
    m.resolve name = .error (.hidden id name) ∧ ∀ args, m.invoke name args = .error (.hidden id name)
  owner : ∀ name found owner, m.resolve name = .ok found → found.owner = some owner →
    ∀ args, m.invoke name args = owner.invoke name args

variable {m : CompiledModule} {l : Loader} {s : Snapshot} {id : ModuleId} {name : String}

theorem UpToDate.boundedBy (hs : s.Keyed) (hm : s.find? id = some m)
    (h : m.UpToDate l s.modules) : m.BoundedBy l s id := by
  have hid : m.spec.id = id := hs id m hm
  have hlinks := h.linksCurrent hs hm
  obtain ⟨ms, runtimes, hms, hruntimes, hboundary⟩ := Offer.boundary_eq_ok_iff.mp h.boundary
  have horder := preOrder_linkedModules hs hms
  have hids : m.links.map (·.id) = ms.map (·.id) := by
    rw [CompiledModule.links, hboundary, List.map_map]
    rfl
  constructor
  · rw [Environment.module, hboundary]
    exact hid
  · rw [hboundary]
  · exact hlinks
  · rw [hids]
    exact horder
  · rw [hboundary]
    exact ModuleSpec.runtimes_eq_ok_iff.mp hruntimes
  · intro name body
    rw [hboundary, SymbolTable.find?_filter, Option.ite_none_right_eq_some, admits,
      Bool.and_eq_true, List.any_eq_true, List.any_eq_true, and_comm]

namespace BoundedBy

/-- Some place in the environment of a module defines a name if the module sees the name. -/
theorem exists_finds_iff (h : m.BoundedBy l s id) :
    (∃ found, m.environment.Finds name found) ↔ m.Sees l s id name := by
  rw [Environment.exists_finds_iff]
  constructor
  · rintro (⟨body, hown⟩ | ⟨body, hcore⟩ | ⟨x, hx, body, hlinked⟩ | ⟨e, he, body, hplugin⟩ |
      ⟨body, hhost⟩)
    · exact .own hown
    · rw [h.core] at hcore
      exact .core hcore
    · obtain ⟨d, hd, hdx⟩ := h.links.present x hx
      have hdepends := (h.links.exact x.id).mp ⟨x, hx, rfl⟩
      rw [← hdx] at hlinked
      exact .linked hdepends hd hlinked
    · obtain ⟨p, hp, plugin, hregistered, rfl⟩ := exists_of_forall₂ h.plugins he
      exact .plugin hp hregistered hplugin
    · obtain ⟨hfound, ⟨package, hpackage, hin⟩, space, hspace, hin'⟩ := (h.host name body).mp hhost
      exact .host hpackage hin hspace hin' hfound
  · intro hsees
    cases hsees with
    | own found => exact .inl ⟨_, found⟩
    | core found =>
      rw [h.core]
      exact .inr (.inl ⟨_, found⟩)
    | @linked d other body depends published found =>
      obtain ⟨x, hx, rfl⟩ := (h.links.exact d).mpr depends
      obtain ⟨other', hother', hlinked⟩ := h.links.present x hx
      rw [Option.some.inj (published.symm.trans hother')] at found
      rw [← hlinked] at hx
      exact .inr (.inr (.inl ⟨_, hx, _, found⟩))
    | plugin declares registered found =>
      obtain ⟨e, he, plugin, hregistered, rfl⟩ := exists_of_forall₂ h.plugins.flip declares
      rw [Option.some.inj (registered.symm.trans hregistered)] at found
      exact .inr (.inr (.inr (.inl ⟨_, he, _, found⟩)))
    | host exposed inPackage imported inSpace found =>
      have hhost := (h.host name _).mpr ⟨found, ⟨_, exposed, inPackage⟩, _, imported, inSpace⟩
      exact .inr (.inr (.inr (.inr ⟨_, hhost⟩)))

theorem isolated (h : m.BoundedBy l s id) : m.Isolated l s id := by
  have hfinds : ∀ name found, m.resolve name = .ok found ↔ m.environment.Finds name found :=
    fun name found => Environment.resolve_eq_ok_iff
  have hsees : ∀ name, (∃ found, m.resolve name = .ok found) ↔ m.Sees l s id name := by
    intro name
    simp only [hfinds]
    exact h.exists_finds_iff
  refine ⟨h, hsees, hfinds, ?_, ?_⟩
  · intro name hnot
    have hresolve : m.resolve name = .error (.hidden id name) := by
      rw [← h.module]
      apply Environment.resolve_eq_error
      intro found hfound
      exact hnot ((hsees name).mp ⟨found, hfound⟩)
    refine ⟨hresolve, fun args => ?_⟩
    have htarget : m.environment.target name args = .answered (.error (.hidden id name)) := by
      rw [Environment.target]
      unfold resolve at hresolve
      rw [hresolve]
    rw [invoke, Environment.invoke, Environment.call, htarget]
    rfl
  · intro name found owner hfound howner args
    rw [invoke, Environment.invoke, Environment.call_eq_of_owner hfound howner]
    rfl

end BoundedBy

end CompiledModule

/-- In every reachable state, a published module is isolated: it can name exactly what it saw in the
snapshot in which the request that published it left it. -/
theorem isolated_of_published (h : History) (id : ModuleId) (m : CompiledModule)
    (hm : h.state.snapshot.find? id = some m) :
    ∃ before r, h.PublishedBy before r id m ∧
      m.Isolated r.loader (before.serve r).state.snapshot id := by
  obtain ⟨before, r, hpublished⟩ := exists_publication hm
  refine ⟨before, r, hpublished, ?_⟩
  have hbounded := hpublished.upToDate.boundedBy (before.serve r).keyed_state hpublished.entry
  exact hbounded.isolated

/-- A module that refers to a library is isolated after the library was updated. -/
theorem isolated_user :
    ∃ m, Sample.history.state.snapshot.find? Sample.user = some m ∧
      ∃ before r, Sample.history.PublishedBy before r Sample.user m ∧
        m.Isolated r.loader (before.serve r).state.snapshot Sample.user := by
  have hsome : (Sample.history.state.snapshot.find? Sample.user).isSome = true := by cbv
  obtain ⟨m, hm⟩ := Option.isSome_iff_exists.mp hsome
  exact ⟨m, hm, isolated_of_published Sample.history Sample.user m hm⟩

end HotReload
