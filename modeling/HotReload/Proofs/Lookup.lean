import HotReload.Environment.Call
import HotReload.Proofs.SortedMap
import Mathlib.Tactic.Tauto

/-!
# What a name stands for

A name stands for what the first place that defines it says: the module's own symbols, the core, the
linked modules, the plugins and the host, in this order (`resolve?_eq_some_iff`). A linked module's
symbol is called as that module would call it itself (`call_eq_of_owner`). What holds of all tables that
an environment can come to holds of the one in which a name is found (`Everywhere.of_resolve`).
-/

namespace HotReload

theorem SymbolTable.mem_names_iff {t : SymbolTable} {name : String} :
    name ∈ t.names ↔ ∃ body, t.find? name = some body := by
  rw [← Option.isSome_iff_exists]
  exact SortedMap.mem_keys_iff t.bodies name

theorem SymbolTable.find?_filter (t : SymbolTable) (keep : String → Bool) (name : String) :
    (t.filter keep).find? name = if keep name then t.find? name else none :=
  SortedMap.find?_filter_key t.bodies keep name

/-- What the first place in a boundary that defines a name has for it. -/
inductive BoundaryOf.Finds (b : Boundary) (name : String) : Resolved → Prop
  | core {body : Body} (found : b.core.find? name = some body) :
      Finds b name ⟨name, body, .core, none⟩
  | linked {before after : List LinkedModule} {d : LinkedModule} {body : Body}
      (notCore : b.core.find? name = none) (place : b.dependencies = before ++ d :: after)
      (first : ∀ x ∈ before, x.environment.own.find? name = none)
      (found : d.environment.own.find? name = some body) :
      Finds b name ⟨name, body, .dependency d.id d.revision, some d.environment⟩
  | plugin {before after : List (PluginId × SymbolTable)} {id : PluginId} {runtime : SymbolTable}
      {body : Body} (notCore : b.core.find? name = none)
      (notLinked : ∀ d ∈ b.dependencies, d.environment.own.find? name = none)
      (place : b.plugins = before ++ (id, runtime) :: after)
      (first : ∀ p ∈ before, p.2.find? name = none) (found : runtime.find? name = some body) :
      Finds b name ⟨name, body, .plugin id, none⟩
  | host {body : Body} (notCore : b.core.find? name = none)
      (notLinked : ∀ d ∈ b.dependencies, d.environment.own.find? name = none)
      (notPlugin : ∀ p ∈ b.plugins, p.2.find? name = none)
      (found : b.host.find? name = some body) : Finds b name ⟨name, body, .host, none⟩

/-- What the first place in an environment that defines a name has for it. -/
inductive Environment.Finds (env : Environment) (name : String) : Resolved → Prop
  | own {body : Body} (found : env.own.find? name = some body) :
      Finds env name ⟨name, body, .own, none⟩
  | boundary {r : Resolved} (notOwn : env.own.find? name = none)
      (found : env.boundary.Finds name r) : Finds env name r

/-- A property that all tables of an environment have, and those of the linked modules too. -/
inductive Environment.Everywhere (p : SymbolTable → Prop) : Environment → Prop
  | mk {env : Environment} (own : p env.own) (core : p env.boundary.core)
      (dependencies : ∀ d ∈ env.boundary.dependencies, Everywhere p d.environment)
      (plugins : ∀ e ∈ env.boundary.plugins, p e.2) (host : p env.boundary.host) :
      Everywhere p env

section Lookup

variable {env home : Environment} {b : Boundary} {name symbol : String} {r : Resolved}
  {args given : List Value} {expr : Expr} {run : HostRun}

theorem BoundaryOf.resolve?_eq_some_iff : b.resolve? name = some r ↔ b.Finds name r := by
  simp only [resolve?, sources, List.findSome?_append, List.findSome?_map,
    List.findSome?_singleton, Function.comp_def, Source.find?, Option.or_eq_some_iff,
    Option.or_eq_none_iff, Option.map_eq_none_iff, Option.map_eq_some_iff,
    List.findSome?_eq_some_iff, List.findSome?_eq_none_iff]
  constructor
  · rintro (((⟨body, hfound, rfl⟩ | ⟨hcore, before, d, after, hplace, ⟨body, hfound, rfl⟩, hfirst⟩) |
      ⟨⟨hcore, hlinked⟩, before, ⟨id, runtime⟩, after, hplace, ⟨body, hfound, rfl⟩, hfirst⟩) |
      ⟨⟨⟨hcore, hlinked⟩, hplugin⟩, body, hfound, rfl⟩)
    · exact .core hfound
    · exact .linked hcore hplace hfirst hfound
    · exact .plugin hcore hlinked hplace hfirst hfound
    · exact .host hcore hlinked hplugin hfound
  · intro h
    cases h with
    | core hfound => exact .inl (.inl (.inl ⟨_, hfound, rfl⟩))
    | linked hcore hplace hfirst hfound =>
      exact .inl (.inl (.inr ⟨hcore, _, _, _, hplace, ⟨_, hfound, rfl⟩, hfirst⟩))
    | plugin hcore hlinked hplace hfirst hfound =>
      exact .inl (.inr ⟨⟨hcore, hlinked⟩, _, _, _, hplace, ⟨_, hfound, rfl⟩, hfirst⟩)
    | host hcore hlinked hplugin hfound =>
      exact .inr ⟨⟨⟨hcore, hlinked⟩, hplugin⟩, _, hfound, rfl⟩

namespace Environment

theorem resolve?_eq_some_iff : env.resolve? name = some r ↔ env.Finds name r := by
  unfold resolve?
  constructor
  · intro h
    cases hown : env.own.find? name with
    | some body =>
      rw [hown] at h
      cases h
      exact .own hown
    | none =>
      rw [hown] at h
      exact .boundary hown (BoundaryOf.resolve?_eq_some_iff.mp h)
  · intro h
    cases h with
    | own hfound => rw [hfound]
    | boundary hown hfound =>
      rw [hown]
      exact BoundaryOf.resolve?_eq_some_iff.mpr hfound

theorem resolve_eq_ok_iff : env.resolve name = .ok r ↔ env.Finds name r := by
  rw [← resolve?_eq_some_iff, resolve]
  cases env.resolve? name with
  | none => simp
  | some found => simp

theorem resolve_eq_error (h : ∀ r, env.resolve name ≠ .ok r) :
    env.resolve name = .error (.hidden env.module name) := by
  unfold resolve at h ⊢
  cases hfound : env.resolve? name with
  | none => rfl
  | some r =>
    rw [hfound] at h
    exact absurd rfl (h r)

/-- A name has a meaning if any place defines it. -/
theorem exists_finds_iff :
    (∃ r, env.Finds name r) ↔
      (∃ body, env.own.find? name = some body) ∨ (∃ body, env.boundary.core.find? name = some body) ∨
        (∃ d ∈ env.boundary.dependencies, ∃ body, d.environment.own.find? name = some body) ∨
        (∃ p ∈ env.boundary.plugins, ∃ body, p.2.find? name = some body) ∨
        ∃ body, env.boundary.host.find? name = some body := by
  have hnone : (∀ r, ¬env.Finds name r) ↔
      env.own.find? name = none ∧ env.boundary.core.find? name = none ∧
        (∀ d ∈ env.boundary.dependencies, d.environment.own.find? name = none) ∧
        (∀ p ∈ env.boundary.plugins, p.2.find? name = none) ∧
        env.boundary.host.find? name = none := by
    simp only [← resolve?_eq_some_iff, ← Option.eq_none_iff_forall_ne_some]
    unfold resolve?
    cases env.own.find? name with
    | some body => simp
    | none =>
      simp only [BoundaryOf.resolve?, BoundaryOf.sources, List.findSome?_append, List.findSome?_map,
        List.findSome?_singleton, Function.comp_def, Source.find?, Option.or_eq_none_iff,
        Option.map_eq_none_iff, List.findSome?_eq_none_iff]
      tauto
  rw [← not_iff_not, not_exists, hnone]
  simp only [not_or, not_exists, not_and, ← Option.eq_none_iff_forall_ne_some]

theorem Everywhere.own {p : SymbolTable → Prop} (h : env.Everywhere p) : p env.own := by
  cases h with
  | mk own => exact own

theorem Everywhere.mono {p q : SymbolTable → Prop} (hpq : ∀ t, p t → q t) (h : env.Everywhere p) :
    env.Everywhere q := by
  induction h with
  | mk own core dependencies plugins host ih =>
    exact ⟨hpq _ own, hpq _ core, ih, fun e he => hpq _ (plugins e he), hpq _ host⟩

theorem Everywhere.along {p : SymbolTable → Prop} (h : env.Everywhere p) (way : List Nat) :
    (env.along way).Everywhere p := by
  induction way generalizing env with
  | nil => exact h
  | cons place way ih =>
    unfold Environment.along
    split
    next d hd =>
      obtain ⟨-, -, dependencies, -, -⟩ := h
      exact ih (dependencies d (List.mem_of_getElem? hd))
    next => exact h

/-- What is found stands in a table with the property, and the environment that it runs in has no other
ones. -/
theorem Everywhere.of_resolve {p : SymbolTable → Prop} (h : env.Everywhere p)
    (hresolve : env.resolve name = .ok r) :
    (∃ t, p t ∧ t.find? name = some r.body) ∧ (r.owner.getD env).Everywhere p := by
  have henv := h
  obtain ⟨own, core, dependencies, plugins, host⟩ := h
  cases resolve_eq_ok_iff.mp hresolve with
  | own hfound => exact ⟨⟨_, own, hfound⟩, henv⟩
  | boundary notOwn hfound =>
    cases hfound with
    | core hfound => exact ⟨⟨_, core, hfound⟩, henv⟩
    | @linked before after d body notCore place first hfound =>
      have hd : d.environment.Everywhere p := by
        apply dependencies d
        rw [place]
        exact List.mem_append_right _ List.mem_cons_self
      exact ⟨⟨_, hd.own, hfound⟩, hd⟩
    | @plugin before after id runtime body notCore notLinked place first hfound =>
      have hruntime : p runtime := by
        apply plugins (id, runtime)
        rw [place]
        exact List.mem_append_right _ List.mem_cons_self
      exact ⟨⟨_, hruntime, hfound⟩, henv⟩
    | host notCore notLinked notPlugin hfound => exact ⟨⟨_, host, hfound⟩, henv⟩

theorem target_eq_scripted (h : env.target name args = .scripted home symbol expr given) :
    ∃ r, env.resolve name = .ok r ∧ r.body = .function (.script symbol expr) ∧
      home = r.owner.getD env ∧ given = args := by
  unfold target at h
  cases hresolve : env.resolve name with
  | error e =>
    rw [hresolve] at h
    cases h
  | ok r =>
    rw [hresolve] at h
    refine ⟨r, rfl, ?_⟩
    rcases hbody : r.body with v | (⟨symbol', expr'⟩ | run)
    · simp only [hbody, follow] at h
      cases h
    · simp only [hbody, follow] at h
      cases h
      exact ⟨rfl, rfl, rfl⟩
    · simp only [hbody, follow] at h
      cases h

theorem target_eq_hosted (h : env.target name args = .hosted home run) :
    ∃ r f, env.resolve name = .ok r ∧ r.body = .function (.host f) ∧ home = r.owner.getD env ∧
      run = f home.view args := by
  unfold target at h
  cases hresolve : env.resolve name with
  | error e =>
    rw [hresolve] at h
    cases h
  | ok r =>
    rw [hresolve] at h
    rcases hbody : r.body with v | (⟨symbol', expr'⟩ | f)
    · simp only [hbody, follow] at h
      cases h
    · simp only [hbody, follow] at h
      cases h
    · simp only [hbody, follow] at h
      cases h
      exact ⟨r, f, rfl, hbody, rfl, rfl⟩

/-- A script that a call comes down to is in a table with the property. -/
theorem Everywhere.of_scripted {p : SymbolTable → Prop} (h : env.Everywhere p)
    (htarget : env.target name args = .scripted home symbol expr given) :
    (∃ t key, p t ∧ t.find? key = some (.function (.script symbol expr))) ∧ home.Everywhere p := by
  obtain ⟨r, hresolve, hbody, rfl, -⟩ := target_eq_scripted htarget
  obtain ⟨⟨t, ht, hfound⟩, hhome⟩ := h.of_resolve hresolve
  rw [hbody] at hfound
  exact ⟨⟨t, name, ht, hfound⟩, hhome⟩

/-- A host function that a call comes down to is in a table with the property. -/
theorem Everywhere.of_hosted {p : SymbolTable → Prop} (h : env.Everywhere p)
    (htarget : env.target name args = .hosted home run) :
    (∃ t key f, p t ∧ t.find? key = some (.function (.host f)) ∧ run = f home.view args) ∧
      home.Everywhere p := by
  obtain ⟨r, f, hresolve, hbody, rfl, hrun⟩ := target_eq_hosted htarget
  obtain ⟨⟨t, ht, hfound⟩, hhome⟩ := h.of_resolve hresolve
  rw [hbody] at hfound
  exact ⟨⟨t, name, f, ht, hfound, hrun⟩, hhome⟩

/-- A symbol that has another owner is called as its owner calls it. -/
theorem call_eq_of_owner {owner : Environment} (h : env.resolve name = .ok r)
    (howner : r.owner = some owner) (args : List Value) :
    env.call name args = owner.call name args := by
  have hfinds := resolve_eq_ok_iff.mp h
  have hown : owner.resolve name = .ok ⟨name, r.body, .own, none⟩ := by
    refine resolve_eq_ok_iff.mpr (.own ?_)
    cases hfinds with
    | own hfound => cases howner
    | boundary hnotOwn hfound =>
      cases hfound with
      | core hfound => cases howner
      | linked hcore hplace hfirst hfound =>
        cases howner
        exact hfound
      | plugin hcore hlinked hplace hfirst hfound => cases howner
      | host hcore hlinked hplugin hfound => cases howner
  have hname : r.name = name := by
    cases hfinds with
    | own hfound => rfl
    | boundary hnotOwn hfound => cases hfound <;> rfl
  rw [call, call, target, target, h, hown]
  simp only [howner, hname, Option.getD_some, Option.getD_none]

end Environment

end Lookup

end HotReload
