import HotReload.Plugin.Reference
import HotReload.Proofs.Lookup
import HotReload.Proofs.Script.Compilation

/-!
# The tables of this library

The core, the script runtime and all tables that the backends of this library build hold constants,
scripts that count arguments from one, and the functions of the core and of the script runtime
(`SymbolTable.IsReference.sound`).
-/

namespace HotReload

/-- The functions of the core and of the script runtime. -/
inductive Builtin.Function where
  | concat
  | upper
  | lower
  | length
  | join
  | repetition

/-- What a function answers. -/
def Builtin.Function.run : Builtin.Function → List Value → Except CallError Value
  | concat => Builtin.concat
  | upper => Builtin.upper
  | lower => Builtin.lower
  | length => Builtin.length
  | join => Builtin.join
  | repetition => Builtin.repeatText

/-- A body that stands in a table of this library. -/
inductive Body.IsReference : Body → Prop
  | constant (v : Value) : IsReference (.constant v)
  | script {symbol : String} {body : Expr} (counts : body.CountsFromOne) :
      IsReference (.function (.script symbol body))
  | function (f : Builtin.Function) : IsReference (Builtin.pureFunction f.run)

/-- The tables that come from the core, the script runtime and the backends of this library. -/
inductive SymbolTable.IsReference : SymbolTable → Prop
  | ofCore : IsReference Builtin.core
  | ofRuntime (kind : BackendKind) : IsReference kind.runtime
  | built {kind : BackendKind} {linkCheck : Bool} {archive : Archive} {boundary : Boundary}
      {table : SymbolTable}
      (outcome : ((kind.backend linkCheck).build archive boundary).outcome = .built table) :
      IsReference table

/-- An environment whose tables all come from this library, and those of the linked modules too. -/
abbrev Environment.IsReference (env : Environment) : Prop :=
  env.Everywhere SymbolTable.IsReference

section Tables

variable {t table preloaded : SymbolTable} {name : String} {body : Body}

theorem exists_of_find?_ofSymbols {symbols : List Symbol}
    (h : (SymbolTable.ofSymbols symbols).find? name = some body) :
    ∃ s ∈ symbols, s.body = body := by
  induction symbols using List.reverseRecOn with
  | nil => cases h
  | append_singleton symbols s ih =>
    rw [SymbolTable.ofSymbols, List.foldl_append] at h
    change SortedMap.find? (SortedMap.insert _ s.name s.body) name = some body at h
    rw [SortedMap.find?_insert] at h
    split at h
    next => exact ⟨s, List.mem_append_right _ (List.mem_singleton_self s), Option.some.inj h⟩
    next =>
      obtain ⟨s', hs', hbody⟩ := ih h
      exact ⟨s', List.mem_append_left _ hs', hbody⟩

theorem isReference_of_core (h : Builtin.core.find? name = some body) : body.IsReference := by
  obtain ⟨s, hs, rfl⟩ := exists_of_find?_ofSymbols h
  simp only [List.mem_cons, List.not_mem_nil, or_false] at hs
  rcases hs with rfl | rfl | rfl | rfl | rfl
  · exact .constant _
  · exact .function .concat
  · exact .function .upper
  · exact .function .lower
  · exact .function .length

theorem isReference_of_runtime (kind : BackendKind) (h : kind.runtime.find? name = some body) :
    body.IsReference := by
  have hscript : Builtin.scriptRuntime.find? name = some body → body.IsReference := by
    intro h
    obtain ⟨s, hs, rfl⟩ := exists_of_find?_ofSymbols h
    simp only [List.mem_cons, List.not_mem_nil, or_false] at hs
    rcases hs with rfl | rfl
    · exact .function .join
    · exact .function .repetition
  cases kind with
  | script => exact hscript h
  | symbols => cases h
  | mixed => exact hscript h

/-- A table all of whose bodies may stand in tables of this library. -/
def SymbolTable.Sound (t : SymbolTable) : Prop :=
  ∀ name body, t.find? name = some body → body.IsReference

theorem SymbolTable.Sound.of_defineBody (h : t.Sound) (hbody : body.IsReference)
    (hdefine : t.defineBody name body = .ok table) : table.Sound := by
  intro key found hfound
  rw [(Backend.Script.find?_of_defineBody hdefine key).2] at hfound
  split at hfound
  next =>
    cases hfound
    exact hbody
  next => exact h key found hfound

theorem sound_of_load {archive : Archive} (h : Backend.Symbols.load archive = .ok table) :
    table.Sound := by
  refine foldlM_induction (p := SymbolTable.Sound) h (fun _ _ h => nomatch h) ?_
  intro entry _ before after hbefore hentry
  obtain ⟨found, -, hfold⟩ := except_bind_eq_ok hentry
  refine foldlM_induction (p := SymbolTable.Sound) hfold hbefore ?_
  rintro ⟨key, v⟩ _ before after hbefore hdefine
  exact hbefore.of_defineBody (.constant v) (except_mapError_eq_ok hdefine)

theorem sound_of_compileWith {linkCheck : Bool} {archive : Archive} {boundary : Boundary}
    (h : Backend.Script.compileWith linkCheck archive boundary preloaded = .ok table)
    (hpreloaded : preloaded.Sound) : table.Sound := by
  obtain ⟨definitions, hdefinitions, -, hdefined⟩ := Backend.Script.exists_definitions h
  have hsound := Backend.Script.sound_of_definitionsOf hdefinitions
  intro name body hbody
  rw [Backend.Script.find?_of_compiled hsound hdefined name] at hbody
  cases hp : definitions.find? name with
  | none =>
    rw [hp] at hbody
    exact hpreloaded name body hbody
  | some p =>
    rw [hp] at hbody
    cases hbody
    exact .script (hsound name p hp).counts

theorem sound_of_build {kind : BackendKind} {linkCheck : Bool} {archive : Archive}
    {boundary : Boundary}
    (h : ((kind.backend linkCheck).build archive boundary).outcome = .built table) :
    table.Sound := by
  have hresult : ∀ result : Except BuildFailure SymbolTable,
      (BuildRun.ofResult result).outcome = .built table → result = .ok table := by
    intro result hresult
    cases result with
    | ok t =>
      cases hresult
      rfl
    | error failure => cases hresult
  cases kind with
  | script => exact sound_of_compileWith (hresult _ h) fun _ _ h => nomatch h
  | symbols => exact sound_of_load (hresult _ h)
  | mixed =>
    obtain ⟨preloaded, hload, hcompile⟩ := except_bind_eq_ok (hresult _ h)
    exact sound_of_compileWith hcompile (sound_of_load hload)

theorem SymbolTable.IsReference.sound (h : t.IsReference) : t.Sound := by
  intro name body hbody
  cases h with
  | ofCore => exact isReference_of_core hbody
  | ofRuntime kind => exact isReference_of_runtime kind hbody
  | built outcome => exact sound_of_build outcome name body hbody

end Tables

end HotReload
