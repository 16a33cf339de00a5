import HotReload.Backend.Script
import HotReload.Proofs.Script.Numbering
import HotReload.Proofs.SortedMap

/-!
# What scripts are compiled to

A compiled table holds what the module had before and a function for each definition of its scripts,
and no name stands for both (`find?_of_compiled`). Where references are checked, each of them has been
found to fit (`exists_compiled`).
-/

namespace HotReload.Backend.Script

/-- A definition stands under its name, which was not taken, and counts arguments from one. -/
structure Placed.Defines (p : Placed) (preloaded : SymbolTable) (name : String) : Prop where
  name_eq : p.definition.name = name
  fresh : preloaded.find? name = none
  counts : p.definition.body.CountsFromOne

section Definitions

variable {preloaded table table' : SymbolTable} {definitions definitions' : Definitions}
  {p : Placed} {space entry : String} {content : ByteArray} {archive : Archive}

/-- All definitions stand where they should. -/
def Definitions.Sound (definitions : Definitions) (preloaded : SymbolTable) : Prop :=
  ∀ name p, definitions.find? name = some p → p.Defines preloaded name

/-- A definition is added if nothing has its name. -/
theorem addDefinition_eq_ok (h : addDefinition preloaded definitions p = .ok definitions') :
    preloaded.find? p.definition.name = none ∧ definitions.find? p.definition.name = none ∧
      definitions' = definitions.insert p.definition.name p := by
  simp only [addDefinition] at h
  split at h
  next => cases h
  next hfresh =>
    split at h
    next => cases h
    next hnew =>
      rw [Bool.not_eq_true] at hfresh
      exact ⟨SortedMap.contains_eq_false_iff.mp hfresh, hnew, (Except.ok.inj h).symm⟩

theorem sound_of_addDefinition (h : addDefinition preloaded definitions p = .ok definitions')
    (hp : p.definition.body.CountsFromOne) (hdefinitions : definitions.Sound preloaded) :
    definitions'.Sound preloaded := by
  obtain ⟨hfresh, -, rfl⟩ := addDefinition_eq_ok h
  intro name q hq
  rw [SortedMap.find?_insert] at hq
  split at hq
  next heq =>
    cases hq
    subst heq
    exact ⟨rfl, hfresh, hp⟩
  next => exact hdefinitions name q hq

/-- An entry is read if it holds a text and all lines of this are sound. -/
theorem readEntry_eq_ok {placed : List Placed} (h : readEntry space entry content = .ok placed) :
    ∃ source found, Text.decode content = .ok source ∧ Definition.ofSource space source = .ok found ∧
      placed = found.map fun definition => ⟨entry, definition⟩ := by
  unfold readEntry at h
  split at h
  next => cases h
  next source hdecode =>
    split at h
    next => cases h
    next found hfound => exact ⟨source, found, hdecode, hfound, (Except.ok.inj h).symm⟩

theorem counts_of_readEntry {placed : List Placed} (h : readEntry space entry content = .ok placed) :
    ∀ p ∈ placed, p.definition.body.CountsFromOne := by
  obtain ⟨source, found, -, hfound, rfl⟩ := readEntry_eq_ok h
  intro p hp
  obtain ⟨d, hd, rfl⟩ := List.mem_map.mp hp
  exact countsFromOne_of_ofSource hfound d hd

theorem sound_of_definitionsOf (h : definitionsOf archive preloaded = .ok definitions) :
    definitions.Sound preloaded := by
  refine foldlM_induction (p := fun d : Definitions => d.Sound preloaded) h ?_ ?_
  · intro name p hp
    cases hp
  · intro entry _ before after hbefore hentry
    obtain ⟨placed, hread, hfold⟩ := except_bind_eq_ok hentry
    refine foldlM_induction (p := fun d : Definitions => d.Sound preloaded) hfold hbefore ?_
    intro q hq before after hbefore hadd
    exact sound_of_addDefinition hadd (counts_of_readEntry hread q hq) hbefore

/-! ## The table -/

/-- A body is defined in a table that does not have its name. -/
theorem find?_of_defineBody {name : String} {body : Body}
    (h : table.defineBody name body = .ok table') (key : String) :
    table.find? name = none ∧
      table'.find? key = if key = name then some body else table.find? key := by
  rcases table.defineBody_cases name body with
    ⟨fault, -, hdefine⟩ | ⟨-, -, hdefine⟩ | ⟨hlegal, hfree, hdefine⟩
  · cases hdefine.symm.trans h
  · cases hdefine.symm.trans h
  · cases hdefine.symm.trans h
    exact ⟨SortedMap.contains_eq_false_iff.mp hfree, SortedMap.find?_insert ..⟩

/-- A definition is added to a table that does not have its name. -/
theorem find?_of_define (h : define table p = .ok table') (name : String) :
    table.find? p.definition.name = none ∧
      table'.find? name = if name = p.definition.name then some p.body else table.find? name :=
  find?_of_defineBody (except_mapError_eq_ok h) name

/-- What a table has stays as it is when definitions are added. -/
theorem find?_of_defined {ps : List Placed} {name : String} {body : Body}
    (h : ps.foldlM define table = .ok table') (hbody : table.find? name = some body) :
    table'.find? name = some body := by
  refine foldlM_induction (p := fun t : SymbolTable => t.find? name = some body) h hbody ?_
  intro p _ before after hbefore hdefine
  obtain ⟨hfresh, hafter⟩ := find?_of_define hdefine name
  have hne : name ≠ p.definition.name := by
    rintro rfl
    cases hfresh.symm.trans hbefore
  rw [hafter, if_neg hne]
  exact hbefore

/-- A table to which definitions are added has all of them, and otherwise what it had. -/
theorem find?_of_foldlM_define {ps : List Placed} (h : ps.foldlM define table = .ok table') :
    (∀ p ∈ ps, table'.find? p.definition.name = some p.body) ∧
      ∀ name, (∀ p ∈ ps, p.definition.name ≠ name) → table'.find? name = table.find? name := by
  induction ps generalizing table with
  | nil =>
    cases h
    refine ⟨?_, fun name _ => rfl⟩
    intro p hp
    cases hp
  | cons p ps ih =>
    rw [List.foldlM_cons] at h
    obtain ⟨between, hp, hps⟩ := except_bind_eq_ok h
    obtain ⟨hall, hkept⟩ := ih hps
    constructor
    · intro q hq
      rcases List.mem_cons.mp hq with rfl | hq
      · apply find?_of_defined hps
        rw [(find?_of_define hp _).2, if_pos rfl]
      · exact hall q hq
    · intro name hname
      have hne : name ≠ p.definition.name := (hname p List.mem_cons_self).symm
      rw [hkept name fun q hq => hname q (List.mem_cons_of_mem _ hq), (find?_of_define hp name).2,
        if_neg hne]

end Definitions

/-! ## References -/

/-- What compiling with a check of the references amounts to. -/
structure Compiled (boundary : Boundary) (preloaded : SymbolTable) (definitions : Definitions)
    (table : SymbolTable) : Prop where
  sound : definitions.Sound preloaded
  /-- The table has the definitions and otherwise what there was before. -/
  find?_eq : ∀ name, table.find? name =
    ((definitions.find? name).map (·.body)).or (preloaded.find? name)
  fits : ∀ name p, definitions.find? name = some p → ∀ r ∈ p.definition.body.references,
    linkFault? definitions preloaded boundary r.1 r.2 = none

section Compiled

variable {boundary : Boundary} {preloaded table : SymbolTable} {definitions : Definitions}

theorem fits_of_firstLinkFault? (h : firstLinkFault? definitions preloaded boundary = none)
    {name : String} {p : Placed} (hp : definitions.find? name = some p) :
    ∀ r ∈ p.definition.body.references,
      linkFault? definitions preloaded boundary r.1 r.2 = none := by
  unfold firstLinkFault? at h
  rw [List.findSome?_eq_none_iff] at h
  have hnone := h p (SortedMap.mem_values_iff.mpr ⟨name, hp⟩)
  rw [Option.map_eq_none_iff, List.findSome?_eq_none_iff] at hnone
  exact hnone

theorem find?_of_compiled (hsound : definitions.Sound preloaded)
    (h : definitions.values.foldlM define preloaded = .ok table) (name : String) :
    table.find? name = ((definitions.find? name).map (·.body)).or (preloaded.find? name) := by
  obtain ⟨hall, hkept⟩ := find?_of_foldlM_define h
  cases hp : definitions.find? name with
  | some p =>
    have hname := (hsound name p hp).name_eq
    have hmem : p ∈ definitions.values := SortedMap.mem_values_iff.mpr ⟨name, hp⟩
    rw [← hname]
    exact hall p hmem
  | none =>
    apply hkept
    rintro q hq rfl
    obtain ⟨key, hkey⟩ := SortedMap.mem_values_iff.mp hq
    have hname := (hsound key q hkey).name_eq
    rw [hname, hkey] at hp
    cases hp

/-- Every successful compilation adds the definitions of the scripts to what there was before. -/
theorem exists_definitions {linkCheck : Bool} {archive : Archive}
    (h : compileWith linkCheck archive boundary preloaded = .ok table) :
    ∃ definitions, definitionsOf archive preloaded = .ok definitions ∧
      (linkCheck = true → firstLinkFault? definitions preloaded boundary = none) ∧
      definitions.values.foldlM define preloaded = .ok table := by
  obtain ⟨definitions, hdefinitions, h⟩ := except_bind_eq_ok h
  refine ⟨definitions, hdefinitions, ?_⟩
  cases linkCheck with
  | false => exact ⟨nofun, h⟩
  | true =>
    dsimp only at h
    rw [if_pos rfl] at h
    cases hfault : firstLinkFault? definitions preloaded boundary with
    | some failure =>
      rw [hfault] at h
      cases h
    | none =>
      rw [hfault] at h
      exact ⟨fun _ => rfl, h⟩

theorem exists_compiled {archive : Archive}
    (h : compileWith true archive boundary preloaded = .ok table) :
    ∃ definitions, definitionsOf archive preloaded = .ok definitions ∧
      Compiled boundary preloaded definitions table := by
  obtain ⟨definitions, hdefinitions, hfault, hdefined⟩ := exists_definitions h
  have hsound := sound_of_definitionsOf hdefinitions
  refine ⟨definitions, hdefinitions, hsound, find?_of_compiled hsound hdefined, ?_⟩
  intro name p hp
  exact fits_of_firstLinkFault? (hfault rfl) hp

end Compiled

end HotReload.Backend.Script
