import HotReload.Proofs.Archive.Identity
import HotReload.Proofs.Except
import HotReload.Version.Parser
import Mathlib.Data.List.TakeWhile

/-!
# Reading versions back

Every version has one text, and reading accepts no other (`Version.parse_eq_ok_iff`): a number without
leading zeros is the decimal of its value, the longest run of identifier characters and dots is cut at
its dots only, and the marks stand in no identifier. A version whose pre-release has a number with a
leading zero has no text that is read.
-/

namespace HotReload

section Digits

variable {c : Char} {digits : List Char}

theorem toDigits_sub_of_isDigit (h : c.isDigit = true) :
    c.toNat - 48 < 10 ∧ Nat.toDigits 10 (c.toNat - 48) = [c] := by
  obtain ⟨hlower, hupper⟩ : 48 ≤ c.toNat ∧ c.toNat ≤ 57 := Char.isDigit_iff_toNat.mp h
  have hlt : c.toNat - 48 < 10 := by omega
  have hchar : (c.toNat - 48).digitChar = c := by
    apply Char.toNat_inj.mp
    rw [Nat.toNat_digitChar_of_lt_ten hlt]
    omega
  exact ⟨hlt, (Nat.toDigits_of_lt_base hlt).trans (congrArg ([·]) hchar)⟩

/-- Further digits go on with the decimal of a number that is not zero. -/
theorem toDigits_ofDigitChars_of_pos {n : Nat} (hn : 0 < n) (hdigits : ∀ c ∈ digits, c.isDigit = true) :
    Nat.toDigits 10 (Nat.ofDigitChars 10 digits n) = Nat.toDigits 10 n ++ digits := by
  induction digits generalizing n with
  | nil => rw [Nat.ofDigitChars_nil, List.append_nil]
  | cons c digits ih =>
    obtain ⟨hlt, hc⟩ := toDigits_sub_of_isDigit (hdigits c List.mem_cons_self)
    have hpos : 0 < 10 * n + (c.toNat - 48) := by omega
    calc Nat.toDigits 10 (Nat.ofDigitChars 10 (c :: digits) n)
        = Nat.toDigits 10 (10 * n + (c.toNat - 48)) ++ digits :=
          ih hpos fun d hd => hdigits d (List.mem_cons_of_mem c hd)
      _ = Nat.toDigits 10 n ++ [c] ++ digits := by
          rw [← Nat.toDigits_append_toDigits (by decide) hn hlt, hc]
      _ = Nat.toDigits 10 n ++ c :: digits := by rw [List.append_assoc, List.singleton_append]

/-- Digits without a leading zero are the decimal of their value. -/
theorem toDigits_ofDigitChars (hne : digits ≠ []) (hdigits : ∀ c ∈ digits, c.isDigit = true)
    (hlead : ∀ d rest, digits ≠ '0' :: d :: rest) :
    Nat.toDigits 10 (Nat.ofDigitChars 10 digits 0) = digits := by
  cases digits with
  | nil => exact absurd rfl hne
  | cons c digits =>
    obtain ⟨hlt, hc⟩ := toDigits_sub_of_isDigit (hdigits c List.mem_cons_self)
    rw [Nat.ofDigitChars_cons, Nat.mul_zero, Nat.zero_add]
    by_cases hzero : c = '0'
    · cases digits with
      | nil => exact hc
      | cons d digits => exact absurd (congrArg (· :: d :: digits) hzero) (hlead d digits)
    · have hpos : 0 < c.toNat - 48 := by
        obtain ⟨hlower, -⟩ : 48 ≤ c.toNat ∧ c.toNat ≤ 57 :=
          Char.isDigit_iff_toNat.mp (hdigits c List.mem_cons_self)
        have hne : c.toNat ≠ 48 := fun heq => hzero (Char.toNat_inj.mp heq)
        omega
      calc Nat.toDigits 10 (Nat.ofDigitChars 10 digits (c.toNat - 48))
          = Nat.toDigits 10 (c.toNat - 48) ++ digits :=
            toDigits_ofDigitChars_of_pos hpos fun d hd => hdigits d (List.mem_cons_of_mem c hd)
        _ = c :: digits := by rw [hc, List.singleton_append]

theorem head?_toDigits_ne_zero {n : Nat} (hn : 0 < n) :
    (Nat.toDigits 10 n).head? ≠ some '0' := by
  induction n using Nat.strongRecOn with
  | ind n ih =>
    rw [Nat.toDigits_eq_if (by decide)]
    split
    next =>
      rw [List.head?_cons, Ne, Option.some.injEq, Nat.digitChar_eq_zero]
      exact Nat.ne_of_gt hn
    next hten =>
      rw [List.head?_append_of_ne_nil _ Nat.toDigits_ne_nil]
      exact ih (n / 10) (by omega) (by omega)

/-- A decimal of several digits does not start with a zero. -/
theorem toDigits_ne_zero_cons (n : Nat) (c : Char) (rest : List Char) :
    Nat.toDigits 10 n ≠ '0' :: c :: rest := by
  intro h
  rcases Nat.eq_zero_or_pos n with rfl | hn
  · rw [Nat.toDigits_zero] at h
    cases h
  · exact head?_toDigits_ne_zero hn (congrArg List.head? h)

end Digits

/-- A number of several digits that starts with zero. -/
def Identifier.HasLeadingZero (i : Identifier) : Prop :=
  i.isNumeric = true ∧ 1 < i.text.toList.length ∧ i.text.toList.head? = some '0'

instance (i : Identifier) : Decidable i.HasLeadingZero :=
  inferInstanceAs (Decidable (_ ∧ _))

namespace Version

/-- A version keeps to the rule for numbers: none in its pre-release has a leading zero. -/
def IsStrict (v : Version) : Prop :=
  ∀ i ∈ v.preRelease, ¬i.HasLeadingZero

instance (v : Version) : Decidable v.IsStrict :=
  inferInstanceAs (Decidable (∀ i ∈ v.preRelease, _))

variable {part : Part} {cs rest : List Char}

/-! ## Numbers -/

/-- What is read of a number is the decimal of its value. -/
theorem eq_repr_append_of_number {n : UInt64} (h : number part cs = .ok (n, rest)) :
    cs = n.toNat.repr.toList ++ rest := by
  have hcs : cs.takeWhile Char.isDigit ++ cs.dropWhile Char.isDigit = cs :=
    List.takeWhile_append_dropWhile
  have hdigits : ∀ c ∈ cs.takeWhile Char.isDigit, c.isDigit = true := fun c => List.mem_takeWhile_imp
  simp only [number] at h
  split at h
  next =>
    split at h
    next => cases h
    next => cases h
  next => cases h
  next hne hlead =>
    split at h
    next hlt =>
      obtain ⟨rfl, rfl⟩ := Prod.mk.inj (Except.ok.inj h)
      rw [Nat.toList_repr, UInt64.toNat_ofNat_of_lt' hlt, toDigits_ofDigitChars hne hdigits hlead, hcs]
    next => cases h

theorem number_repr_append (n : UInt64) (hrest : ∀ c ∈ rest.head?, c.isDigit = false) :
    number part (n.toNat.repr.toList ++ rest) = .ok (n, rest) := by
  have hdigits : ∀ c ∈ Nat.toDigits 10 n.toNat, c.isDigit = true := fun _ =>
    Nat.isDigit_of_mem_toDigits (by decide) (by decide)
  obtain ⟨htake, hdrop⟩ := cut_of_stops hdigits hrest
  simp only [number]
  rw [Nat.toList_repr, htake, hdrop]
  split
  next hnil => exact absurd hnil Nat.toDigits_ne_nil
  next hzero => exact absurd hzero (toDigits_ne_zero_cons n.toNat _ _)
  next =>
    rw [Nat.ofDigitChars_ten_toDigits, if_pos n.toNat_lt, UInt64.ofNat_toNat]

theorem dot_eq_ok_iff : dot part cs = .ok rest ↔ cs = '.' :: rest := by
  constructor
  · intro h
    unfold dot at h
    split at h
    next => cases h
    next =>
      cases h
      rfl
    next => cases h
  · rintro rfl
    rfl

/-! ## Identifiers -/

variable {is : List Identifier}

/-- A segment is read as the identifier that it writes. -/
theorem identifier_eq_ok_iff {segment : List Char} {i : Identifier} :
    identifier part segment = .ok i ↔
      segment = i.text.toList ∧ (part ≠ .build → ¬i.HasLeadingZero) := by
  have hzero : ∀ i : Identifier, (i.text.toList.all Char.isDigit && part != .build &&
      i.text.toList.length > 1 && i.text.toList.head? == some '0') = true ↔
      part ≠ .build ∧ i.HasLeadingZero := by
    intro i
    simp only [Identifier.HasLeadingZero, Identifier.isNumeric, Bool.and_eq_true, bne_iff_ne,
      decide_eq_true_eq, beq_iff_eq]
    tauto
  constructor
  · intro h
    unfold identifier at h
    split at h
    next => cases h
    next hlead =>
      split at h
      next legal =>
        cases h
        rw [← String.toList_ofList (l := segment)] at hlead
        exact ⟨String.toList_ofList.symm, fun hpart hzeros =>
          hlead ((hzero ⟨.ofList segment, legal⟩).mpr ⟨hpart, hzeros⟩)⟩
      next => cases h
  · rintro ⟨rfl, hplain⟩
    have hlead := (hzero i).not.mpr fun ⟨hpart, hzeros⟩ => hplain hpart hzeros
    rw [identifier, if_neg hlead, dif_pos (by rw [String.ofList_toList]; exact i.legal)]
    exact congrArg _ (Identifier.ext String.ofList_toList)

/-- Segments are read as the identifiers that they write. -/
theorem mapM_identifier_eq_ok_iff {segments : List (List Char)} :
    segments.mapM (identifier part) = .ok is ↔
      segments = is.map (fun i => i.text.toList) ∧ (part ≠ .build → ∀ i ∈ is, ¬i.HasLeadingZero) := by
  rw [mapM_eq_ok_iff]
  constructor
  · intro h
    induction h with
    | nil => exact ⟨rfl, fun _ => List.forall_mem_nil _⟩
    | cons hi _ ih =>
      obtain ⟨rfl, hplain⟩ := identifier_eq_ok_iff.mp hi
      obtain ⟨rfl, hrest⟩ := ih
      exact ⟨rfl, fun hpart => List.forall_mem_cons.mpr ⟨hplain hpart, hrest hpart⟩⟩
  · rintro ⟨rfl, hplain⟩
    rw [List.forall₂_map_left_iff, List.forall₂_same]
    exact fun i hi => identifier_eq_ok_iff.mpr ⟨rfl, fun hpart => hplain hpart i hi⟩

/-- What is read of identifiers is the longest run of their characters and dots. -/
theorem eq_dotted_append_of_identifiers (h : identifiers part cs = .ok (is, rest)) :
    is ≠ [] ∧ cs = (dotted is).toList ++ rest ∧ (part ≠ .build → ∀ i ∈ is, ¬i.HasLeadingZero) := by
  unfold identifiers at h
  obtain ⟨is', hread, heq⟩ := except_bind_eq_ok h
  obtain ⟨rfl, rfl⟩ := Prod.mk.inj (Except.ok.inj heq)
  obtain ⟨hsegments, hplain⟩ := mapM_identifier_eq_ok_iff.mp hread
  refine ⟨?_, ?_, hplain⟩
  · rintro rfl
    exact List.splitOn_ne_nil _ _ hsegments
  · rw [toList_dotted, ← hsegments, List.intercalate_splitOn, List.takeWhile_append_dropWhile]

theorem identifiers_dotted_append (hne : is ≠ [])
    (hplain : part ≠ .build → ∀ i ∈ is, ¬i.HasLeadingZero)
    (hrest : ∀ c ∈ rest.head?, (isIdentifierChar c || c == '.') = false) :
    identifiers part ((dotted is).toList ++ rest) = .ok (is, rest) := by
  have hrun : ∀ c ∈ (dotted is).toList, (isIdentifierChar c || c == '.') = true := by
    intro c hc
    rw [Bool.or_eq_true, beq_iff_eq]
    exact isIdentifierChar_or_dot hc
  obtain ⟨htake, hdrop⟩ := cut_of_stops hrun hrest
  simp only [identifiers]
  rw [htake, hdrop, splitOn_dotted hne, mapM_identifier_eq_ok_iff.mpr ⟨rfl, hplain⟩]
  rfl

/-- What is read after a mark is a part with its mark, or nothing where the mark is missing. -/
theorem eq_marked_append_of_identifiersAfter {mark : Char}
    (h : identifiersAfter mark part cs = .ok (is, rest)) :
    cs = marked mark is ++ rest ∧ (part ≠ .build → ∀ i ∈ is, ¬i.HasLeadingZero) := by
  unfold identifiersAfter at h
  split at h
  next =>
    cases h
    exact ⟨rfl, fun _ => List.forall_mem_nil _⟩
  next =>
    split at h
    next hmark =>
      obtain ⟨hne, rfl, hplain⟩ := eq_dotted_append_of_identifiers h
      rw [marked, if_neg (List.isEmpty_iff.not.mpr hne), hmark]
      exact ⟨rfl, hplain⟩
    next =>
      cases h
      exact ⟨rfl, fun _ => List.forall_mem_nil _⟩

theorem identifiersAfter_marked_append {mark : Char}
    (hplain : part ≠ .build → ∀ i ∈ is, ¬i.HasLeadingZero)
    (hrest : ∀ c ∈ rest.head?, c ≠ mark ∧ (isIdentifierChar c || c == '.') = false) :
    identifiersAfter mark part (marked mark is ++ rest) = .ok (is, rest) := by
  unfold marked
  split
  next hempty =>
    rw [List.isEmpty_iff.mp hempty, List.nil_append]
    cases rest with
    | nil => rfl
    | cons c rest => exact if_neg (hrest c rfl).1
  next hne =>
    rw [List.cons_append, identifiersAfter, if_pos rfl]
    exact identifiers_dotted_append (List.isEmpty_iff.not.mp hne) hplain fun c hc => (hrest c hc).2

/-! ## Versions -/

variable {text : String} {v : Version}

theorem isStrict_and_eq_of_parse (h : parse text = .ok v) :
    v.IsStrict ∧ text = v.toString := by
  unfold parse at h
  simp only [bind] at h
  split at h
  next => cases h
  next =>
    obtain ⟨⟨major, _⟩, hmajor, h⟩ := except_bind_eq_ok h
    obtain ⟨_, hdot, h⟩ := except_bind_eq_ok h
    obtain ⟨⟨minor, _⟩, hminor, h⟩ := except_bind_eq_ok h
    obtain ⟨_, hdot', h⟩ := except_bind_eq_ok h
    obtain ⟨⟨patch, _⟩, hpatch, h⟩ := except_bind_eq_ok h
    obtain ⟨⟨pre, _⟩, hpre, h⟩ := except_bind_eq_ok h
    obtain ⟨⟨build, _⟩, hbuild, h⟩ := except_bind_eq_ok h
    dsimp only at hdot hdot' hpre hbuild h
    split at h
    next =>
      obtain rfl := Except.ok.inj h
      obtain ⟨heq, hplain⟩ := eq_marked_append_of_identifiersAfter hpre
      obtain ⟨heq', -⟩ := eq_marked_append_of_identifiersAfter hbuild
      refine ⟨hplain (by decide), String.toList_inj.mp ?_⟩
      rw [toList_toString, eq_repr_append_of_number hmajor, dot_eq_ok_iff.mp hdot,
        eq_repr_append_of_number hminor, dot_eq_ok_iff.mp hdot', eq_repr_append_of_number hpatch,
        heq, heq', List.append_nil]
    next => cases h

theorem parse_toString (h : v.IsStrict) : parse v.toString = .ok v := by
  have hplus : ∀ c ∈ (marked '+' v.build).head?,
      c ≠ '-' ∧ (isIdentifierChar c || c == '.') = false := by
    intro c hc
    rw [head?_marked hc]
    decide
  have hbuild : identifiersAfter '+' .build (marked '+' v.build) = .ok (v.build, []) := by
    rw [← List.append_nil (marked '+' v.build)]
    exact identifiersAfter_marked_append (fun hne => absurd rfl hne) fun _ hc => nomatch hc
  have hdot : ∀ (part : Part) (rest : List Char), dot part ('.' :: rest) = .ok rest :=
    fun _ _ => dot_eq_ok_iff.mpr rfl
  have hnonempty : ¬v.toString.toList.isEmpty = true := by
    rw [toList_toString]
    simp
  unfold parse
  simp only [bind]
  rw [if_neg hnonempty, toList_toString, number_repr_append _ fun _ => isDigit_of_mem_head?_dot]
  simp only [Except.bind, hdot]
  rw [number_repr_append _ fun _ => isDigit_of_mem_head?_dot]
  simp only [hdot]
  rw [number_repr_append _ fun _ => isDigit_of_mem_head?_marked]
  simp only [identifiersAfter_marked_append (fun _ => h) hplus, hbuild]
  rfl

/-- A version is read from its own text and from no other. -/
theorem parse_eq_ok_iff : parse text = .ok v ↔ v.IsStrict ∧ text = v.toString := by
  constructor
  · exact isStrict_and_eq_of_parse
  · rintro ⟨hstrict, rfl⟩
    exact parse_toString hstrict

end Version
end HotReload
