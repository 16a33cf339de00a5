import Mathlib.Data.Fintype.Card
import Mathlib.Data.Set.Finite.Basic
import Mathlib.Logic.Relation
import Mathlib.Order.WellFounded

/-!
# Relations on finitely many items

Where every item of a list has a successor in the list, some item lies on a loop
(`exists_loop_of_list`). So without loops, what passes from the successors of an item to the item holds
of all items (`forall_mem_of_no_loop`).
-/

namespace HotReload

open Relation

variable {α : Type*} {r : α → α → Prop} {l : List α}

/-- In a finite collection in which every item has a successor, some item lies on a loop. -/
theorem exists_loop [Finite α] [Nonempty α] (h : ∀ a, ∃ b, r a b) : ∃ a, TransGen r a a := by
  by_contra hloop
  have : Std.Irrefl (flip (TransGen r)) := ⟨fun a ha => hloop ⟨a, ha⟩⟩
  have : IsTrans α (flip (TransGen r)) := ⟨fun _ _ _ hab hbc => hbc.trans hab⟩
  have hwf : WellFounded (flip (TransGen r)) := Finite.wellFounded_of_trans_of_irrefl _
  obtain ⟨a, -, hmin⟩ := hwf.has_min Set.univ Set.univ_nonempty
  obtain ⟨b, hab⟩ := h a
  exact hmin b trivial (.single hab)

/-- Where every item of a list has a successor in the list, some item lies on a loop. -/
theorem exists_loop_of_list (hne : l ≠ []) (h : ∀ a ∈ l, ∃ b ∈ l, r a b) :
    ∃ a ∈ l, TransGen r a a := by
  obtain ⟨a₀, ha₀⟩ := List.exists_mem_of_ne_nil l hne
  have : Finite {a // a ∈ l} := l.finite_toSet
  have : Nonempty {a // a ∈ l} := ⟨⟨a₀, ha₀⟩⟩
  obtain ⟨a, hloop⟩ := exists_loop (r := fun a b : {a // a ∈ l} => r a.1 b.1) fun a => by
    obtain ⟨b, hb, hab⟩ := h a.1 a.2
    exact ⟨⟨b, hb⟩, hab⟩
  exact ⟨a.1, a.2, hloop.lift Subtype.val fun _ _ hab => hab⟩

/-- Without loops, what passes from the successors of an item to the item holds of all items. -/
theorem forall_mem_of_no_loop {P : α → Prop} (hloop : ∀ a ∈ l, ¬TransGen r a a)
    (h : ∀ a ∈ l, (∀ b ∈ l, r a b → P b) → P a) : ∀ a ∈ l, P a := by
  classical
  by_contra hex
  let bad := l.filter fun a => ¬P a
  have hbad : ∀ a, a ∈ bad ↔ a ∈ l ∧ ¬P a := fun a => by simp [bad]
  have hne : bad ≠ [] := by
    intro hnil
    refine hex fun a ha => by_contra fun hPa => ?_
    simpa [hnil] using (hbad a).mpr ⟨ha, hPa⟩
  obtain ⟨a, ha, hcycle⟩ := exists_loop_of_list (r := r) hne fun a ha => by
    obtain ⟨hal, hPa⟩ := (hbad a).mp ha
    by_contra hno
    refine hPa (h a hal fun b hb hab => by_contra fun hPb => hno ⟨b, ?_, hab⟩)
    exact (hbad b).mpr ⟨hb, hPb⟩
  exact hloop a ((hbad a).mp ha).1 hcycle

end HotReload
