import HotReload.Proofs.Backend.Mixed
import HotReload.Proofs.Script.Naming
import Mathlib

/-!
# What builds of scripts fail for

A build of scripts fails for what stands in them or for what they refer to (`IsFaultOfScripts`), with one
exception: the name of a module need not be a dotted name, and then no symbol can be made for what is
defined in it before a line enters a name space (`namesSoundly`, `names_unsound`).
-/

namespace HotReload.Backend.Script

/-- A cause that lies in the text of scripts, in two definitions of one name, or in a reference. -/
inductive IsFaultOfScripts : BuildCause → Prop
  | encoding (fault : Text.Utf8Fault) : IsFaultOfScripts (.encoding fault)
  | malformed (fault : SyntaxFault) : IsFaultOfScripts (.malformed fault)
  | redefined (name entry : String) (line : Nat) : IsFaultOfScripts (.redefined name entry line)
  | precompiled (name : String) : IsFaultOfScripts (.precompiled name)
  | arity (name : String) (expected actual : Nat) : IsFaultOfScripts (.arity name expected actual)
  | constantCalled (name : String) : IsFaultOfScripts (.constantCalled name)
  | unresolved (name : String) : IsFaultOfScripts (.unresolved name)

section Faults

variable {linkCheck : Bool} {archive : Archive} {boundary : Boundary} {preloaded table : SymbolTable}
  {definitions : Definitions} {placed : List Placed} {p : Placed} {failure : BuildFailure}
  {space entry name : String} {content : ByteArray} {cause : BuildCause} {count : Nat}

/-! ## Reading and adding definitions -/

theorem isFault_of_readEntry (h : readEntry space entry content = .error failure) :
    IsFaultOfScripts failure.cause := by
  unfold readEntry at h
  split at h
  next fault _ =>
    cases h
    exact .encoding fault
  next =>
    split at h
    next e _ =>
      cases h
      exact .malformed e.fault
    next => cases h

theorem isFault_of_addDefinition (h : addDefinition preloaded definitions p = .error failure) :
    IsFaultOfScripts failure.cause := by
  unfold addDefinition at h
  dsimp only at h
  split at h
  next =>
    cases h
    exact .precompiled _
  next =>
    split at h
    next =>
      cases h
      exact .redefined _ _ _
    next => cases h

theorem isFault_of_definitionsOf (h : definitionsOf archive preloaded = .error failure) :
    IsFaultOfScripts failure.cause := by
  obtain ⟨entry, -, earlier, hentry⟩ := exists_of_foldlM_eq_error h
  rcases except_bind_eq_error hentry with hread | ⟨placed, -, hadd⟩
  · exact isFault_of_readEntry hread
  · obtain ⟨p, -, before, hp⟩ := exists_of_foldlM_eq_error hadd
    exact isFault_of_addDefinition hp

/-! ## References -/

theorem isFault_of_linkFault? (h : linkFault? definitions preloaded boundary name count = some cause) :
    IsFaultOfScripts cause := by
  unfold linkFault? at h
  split at h
  next =>
    dsimp only at h
    split at h
    next => cases h
    next =>
      cases h
      exact .arity _ _ _
  next =>
    split at h
    next =>
      split at h
      next => cases h
      next =>
        cases h
        exact .constantCalled _
    next =>
      split at h
      next => cases h
      next =>
        cases h
        exact .unresolved _

theorem isFault_of_firstLinkFault?
    (h : firstLinkFault? definitions preloaded boundary = some failure) :
    IsFaultOfScripts failure.cause := by
  obtain ⟨p, -, hp⟩ := List.exists_of_findSome?_eq_some h
  obtain ⟨cause, hcause, rfl⟩ := Option.map_eq_some_iff.mp hp
  obtain ⟨r, -, hr⟩ := List.exists_of_findSome?_eq_some hcause
  exact isFault_of_linkFault? hr

/-! ## Making symbols -/

/-- No two definitions of an archive have the same name. -/
theorem Definitions.Sound.nodup_names (h : definitions.Sound preloaded) :
    (definitions.values.map (·.definition.name)).Nodup := by
  have hkeys : definitions.values.map (·.definition.name) = definitions.keys := by
    rw [SortedMap.values, SortedMap.keys, List.map_map]
    refine List.map_congr_left fun e he => ?_
    exact (h e.1 e.2 ((SortedMap.mem_entries_iff ..).mp he)).name_eq
  rw [hkeys]
  exact definitions.keys_nodup

/-- Symbols of different names that are not taken can only fail to be made for an illegal name. -/
theorem exists_badName_of_foldlM_define (h : placed.foldlM define table = .error failure)
    (hnames : (placed.map (·.definition.name)).Nodup)
    (hfresh : ∀ p ∈ placed, table.find? p.definition.name = none) :
    ∃ p ∈ placed, ∃ fault, NameFault.of? p.definition.name = some fault ∧
      failure = p.failure (.symbol (.badName p.definition.name fault)) := by
  induction placed generalizing table with
  | nil => cases h
  | cons p placed ih =>
    rw [List.foldlM_cons] at h
    rw [List.map_cons, List.nodup_cons] at hnames
    rw [List.forall_mem_cons] at hfresh
    rcases except_bind_eq_error h with hp | ⟨table', hp, hrest⟩
    · refine ⟨p, List.mem_cons_self, ?_⟩
      rw [define] at hp
      rcases table.defineBody_cases p.definition.name p.body with
        ⟨fault, hfault, hdefine⟩ | ⟨-, htaken, -⟩ | ⟨_, -, hdefine⟩
      · rw [hdefine] at hp
        cases hp
        exact ⟨fault, hfault, rfl⟩
      · rw [SymbolTable.contains, SortedMap.contains_eq_false_iff.mpr hfresh.1] at htaken
        cases htaken
      · rw [hdefine] at hp
        cases hp
    · have hfresh' : ∀ q ∈ placed, table'.find? q.definition.name = none := by
        intro q hq
        have hne : q.definition.name ≠ p.definition.name := fun heq =>
          hnames.1 (heq ▸ List.mem_map_of_mem hq)
        rw [(find?_of_define hp _).2, if_neg hne]
        exact hfresh.2 q hq
      obtain ⟨q, hq, hfault⟩ := ih hrest hnames.2 hfresh'
      exact ⟨q, List.mem_cons_of_mem p hq, hfault⟩

/-- A name that stands in a script has no other fault than a segment without characters. -/
theorem Placed.StandsIn.fault_eq {fault : NameFault} (hp : p.StandsIn archive)
    (h : NameFault.of? p.definition.name = some fault) : fault = .emptySegment := by
  obtain ⟨content, source, -, -, before, line, after, -, -, x, body, hwritten⟩ := hp
  have hspace : ∀ c ∈ (spaceAfter archive.id.name before).toList,
      NameFault.isSegmentChar c = true ∨ c = '.' := by
    rcases spaceAfter_cases archive.id.name before with ⟨-, hname⟩ | ⟨-, hstays⟩
    · exact hname.isSegmentChar_or_dot
    · intro c hc
      rw [hstays] at hc
      have hmodule : isModuleNameChar c = true := List.all_eq_true.mp archive.id.legal.2 c hc
      simpa [isModuleNameChar, NameFault.isSegmentChar] using hmodule
  rw [hwritten.name_eq] at h
  refine fault_eq_emptySegment ?_ ?_ h
  · intro hempty
    have hchars := congrArg String.toList hempty
    simp at hchars
  · intro c hc
    rw [String.toList_append, String.toList_append, List.mem_append, List.mem_append] at hc
    rcases hc with (hc | hc) | hc
    · exact hspace c hc
    · exact .inr (List.mem_singleton.mp hc)
    · exact hwritten.isScriptName.isSegmentChar_or_dot c hc

/-- A build fails for the scripts, or for the name of a definition. -/
theorem isFault_or_badName (h : compileWith linkCheck archive boundary preloaded = .error failure) :
    IsFaultOfScripts failure.cause ∨ ∃ p : Placed, p.StandsIn archive ∧ ∃ fault,
      NameFault.of? p.definition.name = some fault ∧
        failure = p.failure (.symbol (.badName p.definition.name fault)) := by
  rcases except_bind_eq_error h with hdefinitions | ⟨definitions, hdefinitions, h⟩
  · exact .inl (isFault_of_definitionsOf hdefinitions)
  have hdefine : definitions.values.foldlM define preloaded = .error failure →
      ∃ p : Placed, p.StandsIn archive ∧ ∃ fault, NameFault.of? p.definition.name = some fault ∧
        failure = p.failure (.symbol (.badName p.definition.name fault)) := by
    intro h
    have hsound := sound_of_definitionsOf hdefinitions
    have hfresh : ∀ p ∈ definitions.values, preloaded.find? p.definition.name = none := by
      intro p hp
      obtain ⟨name, hname⟩ := SortedMap.mem_values_iff.mp hp
      obtain ⟨rfl, hnone, -⟩ := hsound name p hname
      exact hnone
    obtain ⟨p, hp, hfault⟩ := exists_badName_of_foldlM_define h hsound.nodup_names hfresh
    obtain ⟨name, hname⟩ := SortedMap.mem_values_iff.mp hp
    exact ⟨p, ((find?_of_definitionsOf hdefinitions name p).mp hname).1, hfault⟩
  cases linkCheck with
  | false => exact .inr (hdefine h)
  | true =>
    dsimp only at h
    rw [if_pos rfl] at h
    cases hfault : firstLinkFault? definitions preloaded boundary with
    | none =>
      rw [hfault] at h
      exact .inr (hdefine h)
    | some first =>
      rw [hfault] at h
      cases h
      exact .inl (isFault_of_firstLinkFault? hfault)

end Faults

/-- How the symbols that scripts of an archive define are named, and what its builds fail for. -/
structure NamesSoundly (linkCheck : Bool) (archive : Archive) (boundary : Boundary)
    (preloaded : SymbolTable) : Prop where
  /-- All names in a definition of a source are dotted, unless the module has no dotted name and no line
  before the definition enters a name space. -/
  legal_iff : ∀ source definitions, Definition.ofSource archive.id.name source = .ok definitions →
    ∀ d ∈ definitions, d.HasLegalNames ↔ IsDottedName archive.id.name ∨
      EntersSpace ((source.toList.splitOn '\n').take (d.line - 1))
  /-- A build fails for the scripts, or because a definition gets no dotted name from the module. -/
  causes : ∀ failure, compileWith linkCheck archive boundary preloaded = .error failure →
    IsFaultOfScripts failure.cause ∨ ¬IsDottedName archive.id.name ∧ ∃ p : Placed,
      p.StandsIn archive ∧ ¬p.definition.HasLegalNames ∧
        failure = p.failure (.symbol (.badName p.definition.name .emptySegment))
  /-- Such a definition is never built. -/
  refuses : ∀ p : Placed, p.StandsIn archive → ¬p.definition.HasLegalNames →
    ∃ failure, compileWith linkCheck archive boundary preloaded = .error failure

/-- Symbols of scripts are named soundly wherever the name of their module allows it. -/
theorem namesSoundly (linkCheck : Bool) (archive : Archive) (boundary : Boundary)
    (preloaded : SymbolTable) : NamesSoundly linkCheck archive boundary preloaded := by
  constructor
  case legal_iff =>
    intro source definitions h d hd
    have hstands := (mem_ofSource_iff h).mp hd
    rw [hstands.hasLegalNames_iff, hstands.isDottedName_iff]
  case causes =>
    intro failure h
    refine (isFault_or_badName h).imp_right ?_
    rintro ⟨p, hp, fault, hfault, rfl⟩
    have hnot : ¬IsDottedName p.definition.name := by
      rw [IsDottedName, hfault]
      exact Option.some_ne_none fault
    obtain ⟨content, source, -, -, hstands⟩ := id hp
    refine ⟨fun hdotted => hnot (hstands.isDottedName_iff.mpr (.inl hdotted)), p, hp, ?_, ?_⟩
    · rwa [hstands.hasLegalNames_iff]
    · rw [hp.fault_eq hfault]
  case refuses =>
    intro p hp hnot
    cases h : compileWith linkCheck archive boundary preloaded with
    | error failure => exact ⟨failure, rfl⟩
    | ok table =>
      have hfind := (unites_of_compileWith h).function p hp
      have hdotted : IsDottedName p.definition.name :=
        table.legal _ ((SortedMap.mem_keys_iff ..).mpr (Option.isSome_of_mem hfind))
      obtain ⟨content, source, -, -, hstands⟩ := hp
      exact absurd (hstands.hasLegalNames_iff.mpr hdotted) hnot

/-- A module whose name has two dots side by side, with a script. -/
def twoDots : Archive where
  spec := .empty ⟨"a..b", none, by decide⟩
  entries := .ofList [("m.rls", "let x=1".toUTF8)]
  legal := by decide

/-- The name is legal and so is the script, but no symbol can be made for its definition. -/
theorem names_unsound :
    ModuleId.parse "a..b" = .ok twoDots.id ∧
      (∃ d, Definition.ofSource twoDots.id.name "let x=1" = .ok [d] ∧ d.name = "a..b.x" ∧
        ¬IsDottedName d.name) ∧
      ∃ cause, compileWith true twoDots (.ofCore .anonymous ∅) ∅ =
        .error (.atLine "m.rls" 1 cause) ∧ ¬IsFaultOfScripts cause := by
  -- The equations by which `cbv` evaluates texts and bytes are spread over the whole library.
  have hread : Definition.ofSource "a..b" "let x=1" = .ok [⟨"a..b.x", .int 1, 1⟩] := by cbv
  refine ⟨by rfl, ⟨_, hread, rfl, by decide⟩, .symbol (.badName "a..b.x" .emptySegment), by cbv, ?_⟩
  rintro ⟨⟩

end HotReload.Backend.Script
