import HotReload.Proofs.Name
import HotReload.Proofs.Script.Lines

/-!
# Names in scripts

Every name that may stand in a script is a dotted name (`isDottedName_of_isScriptName`). So all names in
a definition are dotted if its own is (`Definition.StandsIn.hasLegalNames_iff`), and this is so where a
line before it has entered a name space, or where the first name space is named so
(`Definition.StandsIn.isDottedName_iff`).
-/

namespace HotReload

/-- A name that may stand in a script holds legal characters and dots. -/
theorem IsScriptName.isSegmentChar_or_dot {s : String} (h : IsScriptName s) :
    ∀ c ∈ s.toList, NameFault.isSegmentChar c = true ∨ c = '.' := by
  intro c hc
  rcases h.others c hc with halnum | rfl | rfl | rfl
  · exact .inl (by simp [NameFault.isSegmentChar, halnum])
  · exact .inl rfl
  · exact .inl rfl
  · exact .inr rfl

/-- A name that may stand in a script is a dotted name. -/
theorem isDottedName_of_isScriptName {s : String} (h : IsScriptName s) : IsDottedName s := by
  obtain ⟨first, hfirst, hstart⟩ := h.first
  rw [isDottedName_iff]
  intro segment hsegment
  constructor
  · rintro rfl
    rcases nil_mem_splitOn hsegment with hempty | hhead | hlast | hmeet
    · rw [hempty] at hfirst
      cases hfirst
    · cases hhead.symm.trans hfirst
      exact absurd hstart (by decide)
    · exact h.closed hlast
    · exact h.apart hmeet
  · intro c hc
    obtain ⟨hc, hdot⟩ := mem_of_mem_splitOn hsegment hc
    exact (h.isSegmentChar_or_dot c hc).resolve_right hdot

/-! ## References -/

section References

variable {space : String}

mutual

/-- Every reference of what is derived is a name among its tokens, completed. -/
theorem Grammar.Sum.exists_name {around : List Nat} {n : Nat} {ts : List Token} {e : Expr} :
    Grammar.Sum space around n ts e → ∀ r ∈ e.references, ∃ s, .name s ∈ ts ∧ StandsFor space s r.1
  | .first _ term, r, hr => term.exists_name r hr
  | .next left _ right, r, hr => by
    rcases List.mem_append.mp hr with hr | hr
    · obtain ⟨s, hs, hname⟩ := left.exists_name r hr
      exact ⟨s, List.mem_append_left _ hs, hname⟩
    · obtain ⟨s, hs, hname⟩ := right.exists_name r hr
      exact ⟨s, List.mem_append_right _ (List.mem_cons_of_mem _ hs), hname⟩

theorem Grammar.Term.exists_name {around : List Nat} {ts : List Token} {e : Expr} :
    Grammar.Term space around ts e → ∀ r ∈ e.references, ∃ s, .name s ∈ ts ∧ StandsFor space s r.1
  | .text _, _, hr => nomatch hr
  | .int _, _, hr => nomatch hr
  | .arg _, _, hr => nomatch hr
  | .group inner, r, hr => by
    obtain ⟨s, hs, hname⟩ := inner.exists_name r hr
    exact ⟨s, List.mem_append_left _ (List.mem_cons_of_mem _ hs), hname⟩
  | .ref name, r, hr => by
    cases List.mem_singleton.mp hr
    exact ⟨_, List.mem_singleton_self _, name⟩
  | .callAlone name, r, hr => by
    cases List.mem_singleton.mp hr
    exact ⟨_, List.mem_cons_self, name⟩
  | .call name given, r, hr => by
    rcases List.mem_cons.mp hr with rfl | hr
    · exact ⟨_, List.mem_cons_self, name⟩
    · obtain ⟨s, hs, hname⟩ := given.exists_name r hr
      exact ⟨s, List.mem_append_left _ (List.mem_cons_of_mem _ (List.mem_cons_of_mem _ hs)), hname⟩

theorem Grammar.Arguments.exists_name {around : List Nat} {ts : List Token} {es : List Expr} :
    Grammar.Arguments space around ts es →
      ∀ r ∈ Expr.listReferences es, ∃ s, .name s ∈ ts ∧ StandsFor space s r.1
  | .last arg, r, hr => by
    rw [Expr.listReferences, Expr.listReferences, List.append_nil] at hr
    exact arg.exists_name r hr
  | .more arg others, r, hr => by
    rcases List.mem_append.mp hr with hr | hr
    · obtain ⟨s, hs, hname⟩ := arg.exists_name r hr
      exact ⟨s, List.mem_append_left _ hs, hname⟩
    · obtain ⟨s, hs, hname⟩ := others.exists_name r hr
      exact ⟨s, List.mem_append_right _ (List.mem_cons_of_mem _ hs), hname⟩

end

end References

/-! ## Definitions -/

/-- A definition has a dotted name and refers to dotted names only. -/
structure Definition.HasLegalNames (d : Definition) : Prop where
  name : IsDottedName d.name
  references : ∀ r ∈ d.body.references, IsDottedName r.1

/-- One of some lines enters a name space. -/
def EntersSpace (lines : List (List Char)) : Prop :=
  ∃ line ∈ lines, (Statement.entered? line).isSome = true

section Definitions

variable {space x : String} {line : List Char} {lines : List (List Char)} {body : List Token}
  {d : Definition}

/-- The name that a definition has in its line may stand in a script. -/
theorem Definition.WrittenAs.isScriptName (h : d.WrittenAs line space x body) : IsScriptName x := by
  cases Token.spellable_of_scan h.scanned _ (List.mem_cons_of_mem _ List.mem_cons_self) with
  | name legal => exact legal

/-- The name of a definition is dotted if and only if that of its name space is. -/
theorem Definition.WrittenAs.isDottedName_iff (h : d.WrittenAs line space x body) :
    IsDottedName d.name ↔ IsDottedName space := by
  rw [h.name_eq, isDottedName_append_iff]
  exact and_iff_left (isDottedName_of_isScriptName h.isScriptName)

/-- If its own name is dotted, all names of a definition are. -/
theorem Definition.WrittenAs.hasLegalNames_iff (h : d.WrittenAs line space x body) :
    d.HasLegalNames ↔ IsDottedName d.name := by
  refine ⟨(·.name), fun hd => ⟨hd, fun r hr => ?_⟩⟩
  have hspace : IsDottedName space := h.isDottedName_iff.mp hd
  have hspellable := Token.spellable_of_scan h.scanned
  simp only [Definition.tokensOf, List.forall_mem_cons] at hspellable
  obtain ⟨-, -, -, hbody⟩ := hspellable
  obtain ⟨n, derived⟩ := h.derived
  obtain ⟨s, hs, hname⟩ := derived.exists_name r hr
  have hdotted : IsDottedName s := by
    cases hbody _ hs with
    | name legal => exact isDottedName_of_isScriptName legal
  generalize r.1 = complete at hname
  cases hname with
  | dotted _ => exact hdotted
  | plain _ => exact isDottedName_append_iff.mpr ⟨hspace, hdotted⟩

/-- Only names that may stand in a script are entered. -/
theorem isScriptName_of_entered {s : String} (h : Statement.entered? line = some s) :
    IsScriptName s := by
  unfold Statement.entered? at h
  split at h
  next keyword s' hscan =>
    split at h
    next =>
      cases h
      cases Token.spellable_of_scan hscan _ (List.mem_cons_of_mem _ List.mem_cons_self) with
      | name legal => exact legal
    next => cases h
  next => cases h

/-- Lines enter a name space with a name that may stand in a script, or stay in the first one. -/
theorem spaceAfter_cases (space : String) (lines : List (List Char)) :
    (EntersSpace lines ∧ IsScriptName (spaceAfter space lines)) ∨
      (¬EntersSpace lines ∧ spaceAfter space lines = space) := by
  unfold spaceAfter
  cases hfound : lines.reverse.findSome? Statement.entered? with
  | none =>
    refine .inr ⟨?_, rfl⟩
    rintro ⟨line, hline, hentered⟩
    rw [List.findSome?_eq_none_iff] at hfound
    rw [hfound line (List.mem_reverse.mpr hline)] at hentered
    cases hentered
  | some s =>
    obtain ⟨line, hline, hentered⟩ := List.exists_of_findSome?_eq_some hfound
    refine .inl ⟨⟨line, List.mem_reverse.mp hline, ?_⟩, isScriptName_of_entered hentered⟩
    rw [hentered]
    rfl

theorem isDottedName_spaceAfter_iff :
    IsDottedName (spaceAfter space lines) ↔ IsDottedName space ∨ EntersSpace lines := by
  rcases spaceAfter_cases space lines with ⟨henters, hname⟩ | ⟨hstays, hspace⟩
  · exact iff_of_true (isDottedName_of_isScriptName hname) (.inr henters)
  · rw [hspace, or_iff_left hstays]

theorem Definition.StandsIn.hasLegalNames_iff {number : Nat} (h : d.StandsIn space number lines) :
    d.HasLegalNames ↔ IsDottedName d.name := by
  obtain ⟨_, _, _, -, -, _, _, hwritten⟩ := h
  exact hwritten.hasLegalNames_iff

/-- The name of a definition is dotted if and only if the name space of the first line is named so, or a
line before the definition enters another one. -/
theorem Definition.StandsIn.isDottedName_iff (h : d.StandsIn space 1 lines) :
    IsDottedName d.name ↔ IsDottedName space ∨ EntersSpace (lines.take (d.line - 1)) := by
  obtain ⟨before, line, after, rfl, hnumber, x, body, hwritten⟩ := h
  have hbefore : (before ++ line :: after).take (d.line - 1) = before := by
    rw [hnumber, Nat.add_sub_cancel_left]
    exact List.take_left
  rw [hwritten.isDottedName_iff, isDottedName_spaceAfter_iff, hbefore]

end Definitions

end HotReload
