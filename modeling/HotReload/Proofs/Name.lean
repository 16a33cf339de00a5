import HotReload.Name
import Mathlib.Data.List.Infix

/-!
# Segments of names

A dotted name is one whose segments are not empty and hold legal characters (`isDottedName_iff`). So a
name in a name space is dotted if and only if both are (`isDottedName_append_iff`), and a text of legal
characters and dots has no other fault than a segment without characters
(`fault_eq_emptySegment`). A name lies in a name space if its segments start with those of the name
space, whatever characters the two have in common beyond that (`within_iff`).
-/

namespace HotReload

section Pieces

variable {α : Type} [BEq α] [LawfulBEq α] {a b : α} {l piece : List α}

/-- What stands in a piece of a list stands in the list and is not the mark between the pieces. -/
theorem mem_of_mem_splitOn (hpiece : piece ∈ l.splitOn a) (hb : b ∈ piece) : b ∈ l ∧ b ≠ a := by
  induction l generalizing piece with
  | nil =>
    rw [List.splitOn_nil, List.mem_singleton] at hpiece
    rw [hpiece] at hb
    cases hb
  | cons c l ih =>
    have hlater : ∀ piece ∈ l.splitOn a, b ∈ piece → b ∈ c :: l ∧ b ≠ a := by
      intro piece hpiece hb
      exact (ih hpiece hb).imp_left (List.mem_cons_of_mem c)
    rw [List.splitOn_cons_eq_if_modifyHead] at hpiece
    split at hpiece
    next =>
      rcases List.mem_cons.mp hpiece with rfl | hpiece
      · cases hb
      · exact hlater piece hpiece hb
    next hmark =>
      obtain ⟨first, rest, hsplit⟩ := List.exists_cons_of_ne_nil (List.splitOn_ne_nil a l)
      rw [hsplit, List.modifyHead_cons] at hpiece
      rw [hsplit] at hlater
      rcases List.mem_cons.mp hpiece with rfl | hpiece
      · rcases List.mem_cons.mp hb with rfl | hb
        · exact ⟨List.mem_cons_self, fun heq => hmark (beq_iff_eq.mpr heq)⟩
        · exact hlater first List.mem_cons_self hb
      · exact hlater piece (List.mem_cons_of_mem first hpiece) hb

/-- A later piece is empty only if the list ends with its mark or two marks meet. -/
theorem nil_mem_tail_splitOn (h : [] ∈ (l.splitOn a).tail) :
    l.getLast? = some a ∨ [a, a] <:+: l := by
  induction l with
  | nil => cases h
  | cons c l ih =>
    rw [List.splitOn_cons_eq_if_modifyHead] at h
    have hcons : l.getLast? = some a ∨ [a, a] <:+: l →
        (c :: l).getLast? = some a ∨ [a, a] <:+: c :: l := by
      rintro (hlast | hmeet)
      · left
        rw [List.getLast?_cons, hlast]
        rfl
      · exact .inr (List.infix_cons hmeet)
    split at h
    next hmark =>
      obtain rfl := eq_of_beq hmark
      cases l with
      | nil => exact .inl rfl
      | cons d l =>
        by_cases hd : (d == c) = true
        · obtain rfl := eq_of_beq hd
          exact .inr ⟨[], l, rfl⟩
        · -- The first piece after the mark starts with `d`, so the empty one comes later.
          apply hcons
          apply ih
          rw [List.tail_cons, List.splitOn_cons_eq_if_modifyHead, if_neg hd] at h
          rw [List.splitOn_cons_eq_if_modifyHead, if_neg hd]
          cases hsplit : l.splitOn c with
          | nil =>
            rw [hsplit] at h
            cases h
          | cons first rest =>
            rw [hsplit, List.modifyHead_cons] at h
            exact (List.mem_cons.mp h).resolve_left (List.cons_ne_nil d first).symm
    next =>
      rw [List.tail_modifyHead] at h
      exact hcons (ih h)

/-- A list has an empty piece only if it is empty, starts or ends with the mark, or two marks meet. -/
theorem nil_mem_splitOn (h : [] ∈ l.splitOn a) :
    l = [] ∨ l.head? = some a ∨ l.getLast? = some a ∨ [a, a] <:+: l := by
  cases l with
  | nil => exact .inl rfl
  | cons c l =>
    by_cases hc : (c == a) = true
    · exact .inr (.inl (congrArg some (eq_of_beq hc)))
    · refine .inr (.inr (nil_mem_tail_splitOn ?_))
      rw [List.splitOn_cons_eq_if_modifyHead, if_neg hc] at h ⊢
      cases hsplit : l.splitOn a with
      | nil => exact absurd hsplit (List.splitOn_ne_nil a l)
      | cons first rest =>
        rw [hsplit, List.modifyHead_cons] at h
        exact (List.mem_cons.mp h).resolve_left (List.cons_ne_nil c first).symm

omit [BEq α] [LawfulBEq α] in
theorem intercalate_append_cons {pieces later : List (List α)} (hne : pieces ≠ []) :
    [a].intercalate (pieces ++ piece :: later) =
      [a].intercalate pieces ++ a :: [a].intercalate (piece :: later) := by
  induction pieces with
  | nil => exact absurd rfl hne
  | cons first pieces ih =>
    by_cases hpieces : pieces = []
    · subst hpieces
      simp
    · have hmore : pieces ++ piece :: later ≠ [] := List.append_ne_nil_of_left_ne_nil hpieces _
      rw [List.cons_append, List.intercalate_cons_of_ne_nil hmore, ih hpieces,
        List.intercalate_cons_of_ne_nil hpieces]
      simp only [List.append_assoc]

/-- The pieces of a list start with those of another one if and only if the list is the other one or
goes on after it with the mark. -/
theorem splitOn_prefix_iff {start : List α} :
    start.splitOn a <+: l.splitOn a ↔ l = start ∨ ∃ rest, l = start ++ a :: rest := by
  constructor
  · rintro ⟨pieces, hpieces⟩
    have hl : l = [a].intercalate (start.splitOn a ++ pieces) := by
      rw [hpieces, List.intercalate_splitOn]
    cases pieces with
    | nil =>
      left
      rw [hl, List.append_nil, List.intercalate_splitOn]
    | cons piece later =>
      right
      refine ⟨[a].intercalate (piece :: later), ?_⟩
      rw [hl, intercalate_append_cons (List.splitOn_ne_nil a start), List.intercalate_splitOn]
  · rintro (rfl | ⟨rest, rfl⟩)
    · exact List.prefix_rfl
    · rw [List.splitOn_append_cons_self]
      exact List.prefix_append _ _

end Pieces

section Names

variable {text space name : String} {fault : NameFault}

theorem ofSegment?_eq_none_iff {segment : List Char} : NameFault.ofSegment? segment = none ↔
    segment ≠ [] ∧ ∀ c ∈ segment, NameFault.isSegmentChar c = true := by
  unfold NameFault.ofSegment?
  cases segment with
  | nil => simp
  | cons c segment => simp

theorem isDottedName_iff : IsDottedName text ↔ ∀ segment ∈ text.toList.splitOn '.',
    segment ≠ [] ∧ ∀ c ∈ segment, NameFault.isSegmentChar c = true := by
  have hsegments : (text.toList.splitOn '.').findSome? NameFault.ofSegment? = none ↔
      ∀ segment ∈ text.toList.splitOn '.',
        segment ≠ [] ∧ ∀ c ∈ segment, NameFault.isSegmentChar c = true := by
    rw [List.findSome?_eq_none_iff]
    exact forall₂_congr fun _ _ => ofSegment?_eq_none_iff
  unfold IsDottedName NameFault.of?
  split
  next hempty =>
    rw [List.isEmpty_iff.mp hempty]
    simp
  next => exact hsegments

/-- A name in a name space is dotted if and only if both are. -/
theorem isDottedName_append_iff :
    IsDottedName (space ++ "." ++ name) ↔ IsDottedName space ∧ IsDottedName name := by
  have hsplit : (space ++ "." ++ name).toList.splitOn '.' =
      space.toList.splitOn '.' ++ name.toList.splitOn '.' := by
    rw [String.toList_append, String.toList_append, List.append_assoc]
    exact List.splitOn_append_cons_self _ _
  rw [isDottedName_iff, isDottedName_iff, isDottedName_iff, hsplit, List.forall_mem_append]

/-- A text of legal characters and dots can only have a segment without characters. -/
theorem fault_eq_emptySegment (hne : text ≠ "")
    (hchars : ∀ c ∈ text.toList, NameFault.isSegmentChar c = true ∨ c = '.')
    (h : NameFault.of? text = some fault) : fault = .emptySegment := by
  have hnonempty : ¬text.toList.isEmpty = true := by simpa using hne
  rw [NameFault.of?, if_neg hnonempty] at h
  obtain ⟨segment, hsegment, hfault⟩ := List.exists_of_findSome?_eq_some h
  unfold NameFault.ofSegment? at hfault
  split at hfault
  next => exact (Option.some.inj hfault).symm
  next =>
    obtain ⟨c, hfind, -⟩ := Option.map_eq_some_iff.mp hfault
    have hillegal : ¬NameFault.isSegmentChar c = true := by simpa using List.find?_some hfind
    obtain ⟨hc, hdot⟩ := mem_of_mem_splitOn hsegment (List.mem_of_find?_eq_some hfind)
    exact absurd (hchars c hc) (not_or.mpr ⟨hillegal, hdot⟩)

/-- What stands between the dots of a name. -/
def segments (text : String) : List (List Char) :=
  text.toList.splitOn '.'

/-- A name lies in a name space if and only if its segments start with those of the name space. -/
theorem within_iff : within name space = true ↔ segments space <+: segments name := by
  rw [segments, segments, splitOn_prefix_iff, within]
  cases hstart : space.toList.isPrefixOf? name.toList with
  | none =>
    -- The name would be a continuation of the name space in either case.
    have hnot : ∀ rest, name.toList ≠ space.toList ++ rest := by
      intro rest heq
      have hsome := List.isPrefixOf?_eq_some_iff_append_eq.mpr heq.symm
      rw [hstart] at hsome
      cases hsome
    simp only [Bool.false_eq_true, false_iff, not_or, not_exists]
    refine ⟨?_, fun rest => hnot ('.' :: rest)⟩
    simpa using hnot []
  | some rest =>
    have hname := List.isPrefixOf?_eq_some_iff_append_eq.mp hstart
    rw [← hname]
    cases rest with
    | nil => simp
    | cons c rest => simp

example : within "pkg.allowed.X" "pkg.allowed" = true ∧ within "pkg.allowedX" "pkg.allowed" = false := by
  decide

end Names

end HotReload
