import HotReload.Value.Parser
import HotReload.Value.Printer
import Mathlib.Data.List.Basic

/-!
# Written texts

A JSON string is read back as the text that was written (`string?_flatMap_escaped`). So values that
are built from texts alone (`Textual`) are told apart by their JSON text (`Textual.eq_of_json_eq`),
and its end can be seen from it (`Textual.chars_append_inj`).
-/

namespace HotReload.Value

/-! ## Strings -/

/-- The escape of a control character is read back. -/
theorem hexQuad?_eq_some : ∀ n < 0x20,
    hexQuad? '0' '0' (Nat.digitChar (n / 16)) (Nat.digitChar (n % 16)) = some n := by
  decide

/-- What is written for a character is read back as that character. -/
theorem string?_escaped (c : Char) (rest acc : List Char) :
    string? (escaped c ++ rest) acc = string? rest (c :: acc) := by
  unfold escaped
  split_ifs with hquote hbackslash hbackspace hfeed hline hreturn htab hcontrol
  · subst hquote
    rfl
  · subst hbackslash
    rfl
  · subst hbackspace
    rfl
  · subst hfeed
    rfl
  · subst hline
    rfl
  · subst hreturn
    rfl
  · subst htab
    rfl
  · simp only [List.cons_append, List.nil_append, string?, hexQuad?_eq_some _ hcontrol]
    rw [if_neg (by omega), if_neg (by omega), Char.ofNat_toNat]
  · have hplain : ¬(c.toNat < 0x20 ∨ c = '\\') := not_or_intro hcontrol hbackslash
    rw [List.singleton_append, string?, if_neg hplain]
    · exact hquote
    · rintro a b d e rest' rfl -
      exact hbackslash rfl
    · rintro d rest' rfl -
      exact hbackslash rfl

theorem string?_flatMap_escaped (cs rest acc : List Char) :
    string? (cs.flatMap escaped ++ '"' :: rest) acc =
      some (.ofList (acc.reverse ++ cs), rest) := by
  induction cs generalizing acc with
  | nil =>
    rw [List.append_nil]
    rfl
  | cons c cs ih =>
    rw [List.flatMap_cons, List.append_assoc, string?_escaped, ih, List.reverse_cons,
      List.append_assoc]
    rfl

/-- A text is told apart by its JSON string, and where that ends can be seen from it. -/
theorem quoted_append_inj {s t : String} {rest rest' : List Char}
    (h : quoted s ++ rest = quoted t ++ rest') : s = t ∧ rest = rest' := by
  have hread : ∀ (s : String) (rest : List Char),
      string? ((quoted s ++ rest).drop 1) [] = some (s, rest) := by
    intro s rest
    have hchars := string?_flatMap_escaped s.toList rest []
    rw [List.reverse_nil, List.nil_append, String.ofList_toList] at hchars
    simpa [quoted] using hchars
  have hboth := hread t rest'
  rw [← h, hread s rest] at hboth
  exact Prod.mk.inj (Option.some.inj hboth)

/-! ## Values -/

/-- A value that is built from texts alone. -/
inductive Textual : Value → Prop
  | text (s : String) : Textual (.text s)
  | array {items : List Value} (each : ∀ item ∈ items, Textual item) : Textual (.array items)
  | object {fields : List (String × Value)} (each : ∀ field ∈ fields, Textual field.2) :
      Textual (.object fields)

/-- The name of a field and its value. -/
def fieldChars (field : String × Value) : List Char :=
  quoted field.1 ++ ':' :: chars field.2

theorem itemsChars_eq_flatMap (items : List Value) :
    itemsChars items = items.flatMap fun item => ',' :: item.chars := by
  induction items with
  | nil => rfl
  | cons item items ih => rw [itemsChars, ih, List.flatMap_cons]

theorem fieldsChars_eq_flatMap (fields : List (String × Value)) :
    fieldsChars fields = fields.flatMap fun field => ',' :: fieldChars field := by
  induction fields with
  | nil => rfl
  | cons field fields ih =>
    obtain ⟨name, value⟩ := field
    rw [fieldsChars, ih, List.flatMap_cons]
    rfl

/-- The comma in front of the first item is left out. -/
theorem chars_array_append (items : List Value) (rest : List Char) :
    (Value.array items).chars ++ rest =
      '[' :: ((items.flatMap fun item => ',' :: item.chars).tail ++ ']' :: rest) := by
  cases items with
  | nil => rfl
  | cons item items =>
    rw [chars, itemsChars_eq_flatMap, List.append_assoc]
    rfl

/-- The comma in front of the first field is left out. -/
theorem chars_object_append (fields : List (String × Value)) (rest : List Char) :
    (Value.object fields).chars ++ rest =
      '\x7b' :: ((fields.flatMap fun field => ',' :: fieldChars field).tail ++ '\x7d' :: rest) := by
  cases fields with
  | nil => rfl
  | cons field fields =>
    obtain ⟨name, value⟩ := field
    rw [chars, fieldsChars_eq_flatMap, List.append_assoc]
    rfl

section Sequences

variable {α : Type*} {f : α → List Char} {stop : Char} {l m : List α} {r s : List Char}

/-- Words can be told apart in a sequence of them if that can be done one by one and none can be
mistaken for the end. -/
theorem flatMap_append_inj (hstop : ∀ a rest rest', f a ++ rest ≠ stop :: rest')
    (hf : ∀ a ∈ l, ∀ b ∈ m, ∀ rest rest', f a ++ rest = f b ++ rest' → a = b ∧ rest = rest')
    (h : l.flatMap f ++ stop :: r = m.flatMap f ++ stop :: s) : l = m ∧ r = s := by
  induction l generalizing m with
  | nil =>
    cases m with
    | nil => exact ⟨rfl, (List.cons.inj h).2⟩
    | cons b m =>
      rw [List.flatMap_cons, List.append_assoc] at h
      exact absurd h.symm (hstop b _ _)
  | cons a l ih =>
    cases m with
    | nil =>
      rw [List.flatMap_cons, List.append_assoc] at h
      exact absurd h (hstop a _ _)
    | cons b m =>
      rw [List.flatMap_cons, List.flatMap_cons, List.append_assoc, List.append_assoc] at h
      obtain ⟨hab, hrest⟩ := hf a List.mem_cons_self b List.mem_cons_self _ _ h
      obtain ⟨hlm, hend⟩ := ih (fun a ha b hb =>
        hf a (List.mem_cons_of_mem _ ha) b (List.mem_cons_of_mem _ hb)) hrest
      exact ⟨by rw [hab, hlm], hend⟩

/-- The same for words with a comma between each two. -/
theorem separated_append_inj (hcomma : ',' ≠ stop)
    (hl : ∀ a ∈ l, ∀ rest rest', f a ++ rest ≠ stop :: rest')
    (hm : ∀ a ∈ m, ∀ rest rest', f a ++ rest ≠ stop :: rest')
    (hf : ∀ a ∈ l, ∀ b ∈ m, ∀ rest rest', f a ++ rest = f b ++ rest' → a = b ∧ rest = rest')
    (h : (l.flatMap fun a => ',' :: f a).tail ++ stop :: r =
      (m.flatMap fun a => ',' :: f a).tail ++ stop :: s) : l = m ∧ r = s := by
  cases l with
  | nil =>
    cases m with
    | nil => exact ⟨rfl, (List.cons.inj h).2⟩
    | cons b m =>
      rw [List.flatMap_cons, List.cons_append, List.tail_cons, List.append_assoc] at h
      exact absurd h.symm (hm b List.mem_cons_self _ _)
  | cons a l =>
    cases m with
    | nil =>
      rw [List.flatMap_cons, List.cons_append, List.tail_cons, List.append_assoc] at h
      exact absurd h (hl a List.mem_cons_self _ _)
    | cons b m =>
      refine flatMap_append_inj (f := fun a => ',' :: f a) ?_ ?_ (congrArg (',' :: ·) h)
      · intro a rest rest' hstop
        exact hcomma (List.cons.inj hstop).1
      · intro a ha b hb rest rest' hab
        exact hf a ha b hb rest rest' (List.cons.inj hab).2

end Sequences

theorem fieldChars_append_ne (field : String × Value) (rest rest' : List Char) :
    fieldChars field ++ rest ≠ '\x7d' :: rest' := by
  intro h
  exact absurd (List.cons.inj h).1 (by decide)

namespace Textual

variable {v w : Value} {r s : List Char}

theorem chars_append_ne (h : v.Textual) : v.chars ++ r ≠ ']' :: s := by
  intro hclosed
  cases h with
  | text t => exact absurd (List.cons.inj hclosed).1 (by decide)
  | array each =>
    rw [chars_array_append] at hclosed
    exact absurd (List.cons.inj hclosed).1 (by decide)
  | object each =>
    rw [chars_object_append] at hclosed
    exact absurd (List.cons.inj hclosed).1 (by decide)

/-- A value that is built from texts is told apart by its JSON text, and where that ends can be seen
from it. -/
theorem chars_append_inj (hv : v.Textual) (hw : w.Textual) (h : v.chars ++ r = w.chars ++ s) :
    v = w ∧ r = s := by
  induction hv generalizing w r s with
  | text t =>
    cases hw with
    | text t' =>
      obtain ⟨htext, hrest⟩ := quoted_append_inj h
      exact ⟨congrArg Value.text htext, hrest⟩
    | array each =>
      rw [chars_array_append] at h
      exact absurd (List.cons.inj h).1 (by decide)
    | object each =>
      rw [chars_object_append] at h
      exact absurd (List.cons.inj h).1 (by decide)
  | @array items each ih =>
    rw [chars_array_append] at h
    cases hw with
    | text t => exact absurd (List.cons.inj h).1 (by decide)
    | @array items' each' =>
      rw [chars_array_append] at h
      obtain ⟨hitems, hrest⟩ := separated_append_inj (by decide)
        (fun item hitem _ _ => (each item hitem).chars_append_ne)
        (fun item hitem _ _ => (each' item hitem).chars_append_ne)
        (fun item hitem item' hitem' _ _ => ih item hitem (each' item' hitem')) (List.cons.inj h).2
      exact ⟨congrArg Value.array hitems, hrest⟩
    | object each' =>
      rw [chars_object_append] at h
      exact absurd (List.cons.inj h).1 (by decide)
  | @object fields each ih =>
    rw [chars_object_append] at h
    cases hw with
    | text t => exact absurd (List.cons.inj h).1 (by decide)
    | array each' =>
      rw [chars_array_append] at h
      exact absurd (List.cons.inj h).1 (by decide)
    | @object fields' each' =>
      rw [chars_object_append] at h
      have hfield : ∀ field ∈ fields, ∀ field' ∈ fields', ∀ rest rest',
          fieldChars field ++ rest = fieldChars field' ++ rest' → field = field' ∧ rest = rest' := by
        intro field hfield field' hfield' rest rest' hchars
        rw [fieldChars, fieldChars, List.append_assoc, List.append_assoc] at hchars
        obtain ⟨hname, hchars⟩ := quoted_append_inj hchars
        obtain ⟨hvalue, hrest⟩ := ih field hfield (each' field' hfield') (List.cons.inj hchars).2
        exact ⟨Prod.ext hname hvalue, hrest⟩
      obtain ⟨hfields, hrest⟩ := separated_append_inj (by decide)
        (fun field _ => fieldChars_append_ne field) (fun field _ => fieldChars_append_ne field)
        hfield (List.cons.inj h).2
      exact ⟨congrArg Value.object hfields, hrest⟩

theorem eq_of_json_eq (hv : v.Textual) (hw : w.Textual) (h : v.json = w.json) : v = w := by
  have hchars : v.chars ++ [] = w.chars ++ [] := by rw [String.ofList_injective h]
  exact (hv.chars_append_inj hw hchars).1

end Textual

end HotReload.Value
