import HotReload.Identity
import Mathlib.Data.List.Basic
import Mathlib.Logic.Function.Basic

/-!
# Written identities

Versions and module ids are told apart by how they are written (`Version.toString_injective`,
`ModuleId.toString_injective`): every part is followed by a mark that it cannot hold itself.
-/

namespace HotReload

/-- A text that goes on until a character comes that it cannot hold is cut off there. -/
theorem cut_of_stops {p : Char → Bool} {l r : List Char} (hl : ∀ c ∈ l, p c = true)
    (hr : ∀ c ∈ r.head?, p c = false) :
    (l ++ r).takeWhile p = l ∧ (l ++ r).dropWhile p = r := by
  rw [List.takeWhile_append_of_pos hl, List.dropWhile_append_of_pos hl]
  cases r with
  | nil => simp
  | cons c r => simp [hr c rfl]

/-- Two texts that both go on until a character comes that they cannot hold are the same if they start
the same longer text. -/
theorem append_inj_of_stops {p : Char → Bool} {l m r s : List Char} (hl : ∀ c ∈ l, p c = true)
    (hm : ∀ c ∈ m, p c = true) (hr : ∀ c ∈ r.head?, p c = false) (hs : ∀ c ∈ s.head?, p c = false)
    (h : l ++ r = m ++ s) : l = m ∧ r = s := by
  obtain ⟨htakeL, hdropL⟩ := cut_of_stops hl hr
  obtain ⟨htakeM, hdropM⟩ := cut_of_stops hm hs
  rw [h] at htakeL hdropL
  exact ⟨htakeL.symm.trans htakeM, hdropL.symm.trans hdropM⟩

theorem bne_of_notMem {mark : Char} {l : List Char} (h : mark ∉ l) : ∀ c ∈ l, (c != mark) = true := by
  intro c hc
  rw [bne_iff_ne]
  rintro rfl
  exact h hc

namespace Version

/-- The mark and the identifiers of a part that may be missing. -/
def marked (mark : Char) (identifiers : List Identifier) : List Char :=
  if identifiers.isEmpty then [] else mark :: (dotted identifiers).toList

theorem toList_toString (v : Version) :
    v.toString.toList = v.major.toNat.repr.toList ++ '.' :: (v.minor.toNat.repr.toList ++
      '.' :: (v.patch.toNat.repr.toList ++ (marked '-' v.preRelease ++ marked '+' v.build))) := by
  have hmarked : ∀ (mark : Char) (identifiers : List Identifier),
      (if identifiers.isEmpty then "" else String.singleton mark ++ dotted identifiers).toList =
        marked mark identifiers := by
    intro mark identifiers
    unfold marked
    split
    next => rfl
    next => simp
  simp only [Version.toString, String.toList_append, ← hmarked, List.append_assoc]
  rfl

theorem head?_marked {mark c : Char} {identifiers : List Identifier}
    (h : c ∈ (marked mark identifiers).head?) : c = mark := by
  unfold marked at h
  split at h
  next => cases h
  next =>
    cases h
    rfl

theorem isIdentifierChar_of_mem {i : Identifier} {c : Char} (h : c ∈ i.text.toList) :
    isIdentifierChar c = true :=
  List.all_eq_true.mp i.legal.2 c h

theorem toList_dotted (identifiers : List Identifier) :
    (dotted identifiers).toList = ['.'].intercalate (identifiers.map fun i => i.text.toList) := by
  rw [dotted, String.toList_intercalate, List.map_map]
  rfl

/-- The dots stand between the identifiers only. -/
theorem splitOn_dotted {identifiers : List Identifier} (hne : identifiers ≠ []) :
    (dotted identifiers).toList.splitOn '.' = identifiers.map fun i => i.text.toList := by
  rw [toList_dotted]
  refine List.splitOn_intercalate '.' ?_ (List.map_eq_nil_iff.not.mpr hne)
  intro word hword hdot
  obtain ⟨i, -, rfl⟩ := List.mem_map.mp hword
  exact absurd (isIdentifierChar_of_mem hdot) (by decide)

theorem marked_injective (mark : Char) : Function.Injective (marked mark) := by
  intro is js h
  have htext : Function.Injective fun i : Identifier => i.text.toList := by
    intro i j hij
    exact Identifier.ext (String.toList_inj.mp hij)
  cases is with
  | nil =>
    cases js with
    | nil => rfl
    | cons j js => cases h
  | cons i is =>
    cases js with
    | nil => cases h
    | cons j js =>
      have hdotted := (List.cons.inj h).2
      apply List.map_injective_iff.mpr htext
      rw [← splitOn_dotted (List.cons_ne_nil i is), hdotted, splitOn_dotted (List.cons_ne_nil j js)]

theorem isIdentifierChar_or_dot {identifiers : List Identifier} {c : Char}
    (h : c ∈ (dotted identifiers).toList) : isIdentifierChar c = true ∨ c = '.' := by
  rw [toList_dotted] at h
  induction identifiers with
  | nil => cases h
  | cons i identifiers ih =>
    cases identifiers with
    | nil =>
      rw [List.map_singleton, List.intercalate_singleton] at h
      exact .inl (isIdentifierChar_of_mem h)
    | cons j identifiers =>
      rw [List.map_cons, List.map_cons, List.intercalate_cons_cons, List.append_assoc] at h
      rcases List.mem_append.mp h with h | h
      · exact .inl (isIdentifierChar_of_mem h)
      · rcases List.mem_append.mp h with h | h
        · exact .inr (List.mem_singleton.mp h)
        · exact ih h

/-- A pre-release does not hold the mark of build metadata. -/
theorem ne_plus_of_mem_marked {identifiers : List Identifier} {c : Char}
    (h : c ∈ marked '-' identifiers) : c ≠ '+' := by
  unfold marked at h
  split at h
  next => cases h
  next =>
    rintro rfl
    rcases List.mem_cons.mp h with h | h
    · exact absurd h (by decide)
    · rcases isIdentifierChar_or_dot h with h | h
      · exact absurd h (by decide)
      · exact absurd h (by decide)

theorem marked_append_inj {pre pre' build build' : List Identifier}
    (h : marked '-' pre ++ marked '+' build = marked '-' pre' ++ marked '+' build') :
    pre = pre' ∧ build = build' := by
  have hplus : ∀ identifiers : List Identifier, ∀ c ∈ (marked '+' identifiers).head?,
      (c != '+') = false := by
    intro identifiers c hc
    rw [head?_marked hc, bne_self_eq_false]
  obtain ⟨hpre, hbuild⟩ := append_inj_of_stops (p := (· != '+'))
    (fun _ hc => bne_iff_ne.mpr (ne_plus_of_mem_marked hc))
    (fun _ hc => bne_iff_ne.mpr (ne_plus_of_mem_marked hc)) (hplus build) (hplus build') h
  exact ⟨marked_injective '-' hpre, marked_injective '+' hbuild⟩

/-- A number ends where no digit follows. -/
theorem repr_append_inj {m n : UInt64} {r s : List Char} (hr : ∀ c ∈ r.head?, c.isDigit = false)
    (hs : ∀ c ∈ s.head?, c.isDigit = false)
    (h : m.toNat.repr.toList ++ r = n.toNat.repr.toList ++ s) : m = n ∧ r = s := by
  have hdigits : ∀ n : UInt64, ∀ c ∈ Nat.toDigits 10 n.toNat, c.isDigit = true :=
    fun _ _ => Nat.isDigit_of_mem_toDigits (by decide) (by decide)
  rw [Nat.toList_repr, Nat.toList_repr] at h
  obtain ⟨hnumber, hrest⟩ :=
    append_inj_of_stops (p := Char.isDigit) (hdigits m) (hdigits n) hr hs h
  refine ⟨UInt64.toNat_inj.mp ?_, hrest⟩
  rw [← Nat.ofDigitChars_toDigits (b := 10) (n := m.toNat) (by decide) (by decide), hnumber,
    Nat.ofDigitChars_toDigits (by decide) (by decide)]

/-- No digit stands at the start of what follows the first two numbers. -/
theorem isDigit_of_mem_head?_dot {rest : List Char} {c : Char} (h : c ∈ ('.' :: rest).head?) :
    c.isDigit = false := by
  cases h
  rfl

/-- No digit stands at the start of what follows the last number. -/
theorem isDigit_of_mem_head?_marked {v : Version} {c : Char}
    (h : c ∈ (marked '-' v.preRelease ++ marked '+' v.build).head?) : c.isDigit = false := by
  rw [List.head?_append, Option.mem_def, Option.or_eq_some_iff] at h
  rcases h with h | ⟨-, h⟩
  · rw [head?_marked h]
    rfl
  · rw [head?_marked h]
    rfl

theorem toString_injective : Function.Injective Version.toString := by
  intro v w h
  have hchars := congrArg String.toList h
  rw [toList_toString, toList_toString] at hchars
  obtain ⟨hmajor, hchars⟩ :=
    repr_append_inj (fun _ => isDigit_of_mem_head?_dot) (fun _ => isDigit_of_mem_head?_dot) hchars
  obtain ⟨hminor, hchars⟩ := repr_append_inj (fun _ => isDigit_of_mem_head?_dot)
    (fun _ => isDigit_of_mem_head?_dot) (List.cons.inj hchars).2
  obtain ⟨hpatch, hchars⟩ := repr_append_inj (fun _ => isDigit_of_mem_head?_marked)
    (fun _ => isDigit_of_mem_head?_marked) (List.cons.inj hchars).2
  obtain ⟨hpre, hbuild⟩ := marked_append_inj hchars
  exact Version.ext hmajor hminor hpatch hpre hbuild

end Version

namespace ModuleId

/-- The version of an id with the mark in front of it. -/
def versionChars (id : ModuleId) : List Char :=
  match id.version with
  | none => []
  | some version => '@' :: version.toString.toList

theorem toList_toString (id : ModuleId) :
    id.toString.toList = id.name.toList ++ id.versionChars := by
  unfold ModuleId.toString versionChars
  cases id.version with
  | none => simp
  | some version => simp [String.toList_append]

theorem notMem_name {id : ModuleId} {c : Char} (hc : isModuleNameChar c = false) :
    c ∉ id.name.toList := by
  intro hmem
  have hlegal := List.all_eq_true.mp id.legal.2 c hmem
  rw [hc] at hlegal
  cases hlegal

theorem toString_injective : Function.Injective ModuleId.toString := by
  intro a b h
  have hname : ∀ id : ModuleId, ∀ c ∈ id.name.toList, (c != '@') = true :=
    fun _ => bne_of_notMem (notMem_name (by decide))
  have hversion : ∀ id : ModuleId, ∀ c ∈ id.versionChars.head?, (c != '@') = false := by
    intro id c hc
    unfold versionChars at hc
    split at hc
    next => cases hc
    next =>
      cases hc
      rfl
  have hchars := congrArg String.toList h
  rw [toList_toString, toList_toString] at hchars
  obtain ⟨hnames, hversions⟩ :=
    append_inj_of_stops (hname a) (hname b) (hversion a) (hversion b) hchars
  refine ModuleId.ext (String.toList_inj.mp hnames) ?_
  unfold versionChars at hversions
  cases ha : a.version with
  | none =>
    cases hb : b.version with
    | none => rfl
    | some w =>
      rw [ha, hb] at hversions
      cases hversions
  | some v =>
    cases hb : b.version with
    | none =>
      rw [ha, hb] at hversions
      cases hversions
    | some w =>
      rw [ha, hb] at hversions
      have htext := String.toList_inj.mp (List.cons.inj hversions).2
      rw [Version.toString_injective htext]

end ModuleId

end HotReload
