import HotReload.Backend.Mixed
import HotReload.Proofs.Script.Compilation

/-!
# Scripts on top of symbol tables

The definitions of an archive are those that stand in the lines of its scripts, each under a name of its
own (`find?_of_definitionsOf`). Compiled on top of constants they become functions beside these, and
neither part changes the other (`unites_of_compileWith`). `mixed_exact` puts this together with the two
other backends: on an archive that has nothing for one of them, the mixed backend is the other one.
-/

namespace HotReload.Backend

/-! ## Definitions of an archive -/

namespace Script

/-- A definition stands in a line of a script of an archive. -/
def Placed.StandsIn (p : Placed) (archive : Archive) : Prop :=
  ∃ content source, (p.entry, content) ∈ archive.withSuffix suffix ∧
    Text.decode content = .ok source ∧
    p.definition.StandsIn archive.id.name 1 (source.toList.splitOn '\n')

/-- Some definitions stand under their names, and nothing else does. -/
def Definitions.Holds (definitions : Definitions) (placed : List Placed) : Prop :=
  ∀ name p, definitions.find? name = some p ↔ p ∈ placed ∧ p.definition.name = name

section Definitions

variable {preloaded : SymbolTable} {definitions definitions' : Definitions} {p : Placed}
  {earlier placed : List Placed} {space : String} {archive : Archive}

theorem Definitions.holds_empty : Definitions.Holds ∅ [] := by
  intro name p
  constructor
  · nofun
  · rintro ⟨hp, -⟩
    cases hp

theorem Definitions.Holds.addDefinition (h : definitions.Holds earlier)
    (hadd : addDefinition preloaded definitions p = .ok definitions') :
    definitions'.Holds (earlier ++ [p]) := by
  obtain ⟨-, hnew, rfl⟩ := addDefinition_eq_ok hadd
  intro name q
  rw [SortedMap.find?_insert, List.mem_append, List.mem_singleton]
  by_cases hname : name = p.definition.name
  · rw [if_pos hname, Option.some.injEq]
    constructor
    · rintro rfl
      exact ⟨.inr rfl, hname.symm⟩
    · rintro ⟨hq | rfl, hq'⟩
      -- An earlier definition of this name would be there already.
      · cases hnew.symm.trans ((h _ q).mpr ⟨hq, hq'.trans hname⟩)
      · rfl
  · rw [if_neg hname, h]
    refine and_congr_left fun hq => (or_iff_left ?_).symm
    rintro rfl
    exact hname hq.symm

theorem Definitions.Holds.foldlM_addDefinition (h : definitions.Holds earlier)
    (hadd : placed.foldlM (Script.addDefinition preloaded) definitions = .ok definitions') :
    definitions'.Holds (earlier ++ placed) := by
  induction placed generalizing definitions earlier with
  | nil =>
    cases hadd
    rwa [List.append_nil]
  | cons p placed ih =>
    rw [List.foldlM_cons] at hadd
    obtain ⟨between, hp, hplaced⟩ := except_bind_eq_ok hadd
    rw [List.append_cons]
    exact ih (h.addDefinition hp) hplaced

/-- Each of some entries is read, and its definitions are added. -/
theorem Definitions.Holds.foldlM_addEntry {entries : List (String × ByteArray)}
    (h : definitions.Holds earlier)
    (hadd : entries.foldlM (addEntry space preloaded) definitions = .ok definitions') :
    ∃ found, List.Forall₂ (fun e ps => readEntry space e.1 e.2 = .ok ps) entries found ∧
      definitions'.Holds (earlier ++ found.flatten) := by
  induction entries generalizing definitions earlier with
  | nil =>
    cases hadd
    exact ⟨[], .nil, by rwa [List.flatten_nil, List.append_nil]⟩
  | cons entry entries ih =>
    rw [List.foldlM_cons] at hadd
    obtain ⟨between, hentry, hentries⟩ := except_bind_eq_ok hadd
    obtain ⟨ps, hread, hps⟩ := except_bind_eq_ok hentry
    obtain ⟨found, hfound, hholds⟩ := ih (h.foldlM_addDefinition hps) hentries
    refine ⟨ps :: found, .cons hread hfound, ?_⟩
    rwa [List.flatten_cons, ← List.append_assoc]

/-- The definitions of an archive are those that stand in its scripts. -/
theorem find?_of_definitionsOf (h : definitionsOf archive preloaded = .ok definitions)
    (name : String) (p : Placed) :
    definitions.find? name = some p ↔ p.StandsIn archive ∧ p.definition.name = name := by
  obtain ⟨found, hread, hholds⟩ := Definitions.holds_empty.foldlM_addEntry h
  rw [hholds, List.nil_append]
  refine and_congr_left fun _ => ?_
  rw [List.mem_flatten]
  constructor
  · rintro ⟨ps, hps, hp⟩
    obtain ⟨⟨entry, content⟩, hentry, hentryRead⟩ := exists_of_forall₂ hread hps
    obtain ⟨source, ds, hdecode, hds, rfl⟩ := readEntry_eq_ok hentryRead
    obtain ⟨d, hd, rfl⟩ := List.mem_map.mp hp
    exact ⟨content, source, hentry, hdecode, (mem_ofSource_iff hds).mp hd⟩
  · rintro ⟨content, source, hentry, hdecode, hstands⟩
    obtain ⟨ps, hps, hentryRead⟩ := exists_of_forall₂ hread.flip hentry
    obtain ⟨source', ds, hdecode', hds, rfl⟩ := readEntry_eq_ok hentryRead
    cases hdecode.symm.trans hdecode'
    exact ⟨_, hps, List.mem_map.mpr ⟨p.definition, (mem_ofSource_iff hds).mpr hstands, rfl⟩⟩

/-- Every line of a script says something in the name space that it stands in. -/
def Reads (space : String) (content : ByteArray) : Prop :=
  ∃ source, Text.decode content = .ok source ∧
    ∀ before line after, source.toList.splitOn '\n' = before ++ line :: after →
      ∃ ts s, Token.scan (Text.trim line) = .ok ts ∧
        Statement.Says (spaceAfter space before) ts s

theorem reads_of_definitionsOf (h : definitionsOf archive preloaded = .ok definitions)
    {entry : String × ByteArray} (hentry : entry ∈ archive.withSuffix suffix) :
    Reads archive.id.name entry.2 := by
  obtain ⟨found, hread, -⟩ := Definitions.holds_empty.foldlM_addEntry h
  obtain ⟨ps, -, hentryRead⟩ := exists_of_forall₂ hread.flip hentry
  obtain ⟨source, ds, hdecode, hds, -⟩ := readEntry_eq_ok hentryRead
  refine ⟨source, hdecode, ?_⟩
  intro before line after hlines
  rw [Definition.ofSource, hlines] at hds
  exact exists_says_of_ofLines hds

end Definitions

end Script

/-! ## Constants and functions -/

/-- A table unites constants with the definitions of an archive. -/
structure Unites (archive : Archive) (constants table : SymbolTable) : Prop where
  /-- The constants stay as they are. -/
  constant : ∀ name body, constants.find? name = some body → table.find? name = some body
  /-- Every definition makes a function under its complete name. -/
  function : ∀ p : Script.Placed, p.StandsIn archive → table.find? p.definition.name = some p.body
  /-- No name stands for two definitions. -/
  unique : ∀ p q : Script.Placed, p.StandsIn archive → q.StandsIn archive →
    p.definition.name = q.definition.name → p = q
  /-- No name stands for a definition and a constant. -/
  disjoint : ∀ p : Script.Placed, p.StandsIn archive → constants.find? p.definition.name = none
  /-- There is nothing else. -/
  only : ∀ name body, table.find? name = some body → constants.find? name = some body ∨
    ∃ p : Script.Placed, p.StandsIn archive ∧ p.definition.name = name ∧ p.body = body
  /-- No line of a script is passed over, even if it defines nothing. -/
  reads : ∀ entry ∈ archive.withSuffix Script.suffix, Script.Reads archive.id.name entry.2

theorem unites_of_compileWith {linkCheck : Bool} {archive : Archive} {boundary : Boundary}
    {constants table : SymbolTable}
    (h : Script.compileWith linkCheck archive boundary constants = .ok table) :
    Unites archive constants table := by
  obtain ⟨definitions, hdefinitions, -, hdefined⟩ := Script.exists_definitions h
  have hsound := Script.sound_of_definitionsOf hdefinitions
  have hfind := Script.find?_of_compiled hsound hdefined
  have hstands := Script.find?_of_definitionsOf hdefinitions
  have hdisjoint : ∀ p : Script.Placed, p.StandsIn archive →
      constants.find? p.definition.name = none := fun p hp =>
    (hsound _ p ((hstands _ p).mpr ⟨hp, rfl⟩)).fresh
  constructor
  case constant =>
    intro name body hbody
    -- A definition that is added has a fresh name.
    have hnone : definitions.find? name = none := by
      rw [Option.eq_none_iff_forall_ne_some]
      intro p hp
      cases (hsound name p hp).fresh.symm.trans hbody
    rw [hfind, hnone]
    exact hbody
  case function =>
    intro p hp
    rw [hfind, (hstands _ p).mpr ⟨hp, rfl⟩]
    rfl
  case unique =>
    intro p q hp hq hname
    have hp' := (hstands _ p).mpr ⟨hp, hname⟩
    have hq' := (hstands _ q).mpr ⟨hq, rfl⟩
    exact Option.some.inj (hp'.symm.trans hq')
  case disjoint => exact hdisjoint
  case only =>
    intro name body hbody
    rw [hfind] at hbody
    cases hp : definitions.find? name with
    | none =>
      rw [hp] at hbody
      exact .inl hbody
    | some p =>
      rw [hp] at hbody
      obtain ⟨hp, hname⟩ := (hstands name p).mp hp
      exact .inr ⟨p, hp, hname, Option.some.inj hbody⟩
  case reads =>
    intro entry hentry
    exact Script.reads_of_definitionsOf hdefinitions hentry

/-- What the mixed backend does in terms of the two others. -/
structure Mixed.Exact (linkCheck : Bool) (archive : Archive) (boundary : Boundary) : Prop where
  /-- What it gives are the constants of the archive united with the definitions. -/
  unites : ∀ table, compile linkCheck archive boundary = .ok table →
    ∃ constants, Symbols.load archive = .ok constants ∧ Unites archive constants table
  /-- It fails if two definitions have the same name. -/
  twice : ∀ p q : Script.Placed, p.StandsIn archive → q.StandsIn archive → p ≠ q →
    p.definition.name = q.definition.name →
      ∃ failure, compile linkCheck archive boundary = .error failure
  /-- It fails if a definition has the name of a constant. -/
  taken : ∀ p : Script.Placed, p.StandsIn archive → ∀ constants,
    Symbols.load archive = .ok constants → constants.contains p.definition.name = true →
      ∃ failure, compile linkCheck archive boundary = .error failure
  /-- Without symbol tables it does what the script backend does. -/
  scripts : archive.hasSuffix Symbols.suffix = false →
    (mixed linkCheck).build archive boundary = (script linkCheck).build archive boundary
  /-- Without scripts it does what the symbol table backend does. -/
  tables : archive.hasSuffix Script.suffix = false →
    (mixed linkCheck).build archive boundary = symbols.build archive boundary

theorem withSuffix_eq_nil {archive : Archive} {suffix : String}
    (h : archive.hasSuffix suffix = false) : archive.withSuffix suffix = [] := by
  rwa [Archive.hasSuffix, Bool.not_eq_false', List.isEmpty_iff] at h

/-- The mixed backend is the union of the two others. -/
theorem mixed_exact (linkCheck : Bool) (archive : Archive) (boundary : Boundary) :
    Mixed.Exact linkCheck archive boundary := by
  have hunites : ∀ table, Mixed.compile linkCheck archive boundary = .ok table →
      ∃ constants, Symbols.load archive = .ok constants ∧ Unites archive constants table := by
    intro table h
    obtain ⟨constants, hload, hcompile⟩ := except_bind_eq_ok h
    exact ⟨constants, hload, unites_of_compileWith hcompile⟩
  constructor
  case unites => exact hunites
  case twice =>
    intro p q hp hq hne hname
    cases hcompile : Mixed.compile linkCheck archive boundary with
    | error failure => exact ⟨failure, rfl⟩
    | ok table =>
      obtain ⟨constants, -, hunited⟩ := hunites table hcompile
      exact absurd (hunited.unique p q hp hq hname) hne
  case taken =>
    intro p hp constants hload htaken
    cases hcompile : Mixed.compile linkCheck archive boundary with
    | error failure => exact ⟨failure, rfl⟩
    | ok table =>
      obtain ⟨constants', hload', hunited⟩ := hunites table hcompile
      cases hload.symm.trans hload'
      rw [SymbolTable.contains, SortedMap.contains_eq_false_iff.mpr (hunited.disjoint p hp)] at htaken
      cases htaken
  case scripts =>
    intro hnone
    have hload : Symbols.load archive = .ok ∅ := by
      rw [Symbols.load, withSuffix_eq_nil hnone]
      rfl
    refine congrArg BuildRun.ofResult ?_
    rw [Mixed.compile, hload]
    rfl
  case tables =>
    intro hnone
    have hcompile : ∀ constants,
        Script.compileWith linkCheck archive boundary constants = .ok constants := by
      intro constants
      rw [Script.compileWith, Script.definitionsOf, withSuffix_eq_nil hnone]
      cases linkCheck <;> rfl
    refine congrArg BuildRun.ofResult ?_
    rw [Mixed.compile]
    cases Symbols.load archive with
    | error failure => rfl
    | ok constants => exact hcompile constants

/-- A symbol table and a script that refers to its constant without the name space. -/
def united : Archive where
  spec := .empty .anonymous
  entries := .ofList [("a.symbols.toml", "[symbols]\n\"m.b\"=1".toUTF8),
    ("m.rls", "namespace m\nlet x=b".toUTF8)]
  legal := by decide

example : (Mixed.compile true united (.ofCore .anonymous ∅)).toOption.map (·.names) =
    some ["m.b", "m.x"] := by cbv

end HotReload.Backend
