import HotReload.SortedMap
import Mathlib.Data.List.Nodup

/-!
# More on maps in key order

What traversals and repeated insertions do to a look-up. In a list of entries that are inserted
one after the other the last entry of a key counts (`find?_foldl_insert`), which for the entries
of a map is the only one (`lookup_reverse_entries`).
-/

namespace HotReload.SortedMap

/-- Where a key stands with one value only, if at all, the order of the entries does not matter. -/
theorem lookup_reverse_eq {κ : Type u} {α : Type v} [DecidableEq κ] {l : List (κ × α)} {k : κ}
    {o : Option α} (h : ∀ a, (k, a) ∈ l ↔ o = some a) : l.reverse.lookup k = o := by
  cases hlookup : l.reverse.lookup k with
  | none =>
    rw [eq_comm, Option.eq_none_iff_forall_ne_some]
    intro a ha
    have hne := List.lookup_eq_none_iff.mp hlookup (k, a) (List.mem_reverse.mpr ((h a).mpr ha))
    rw [bne_self_eq_false] at hne
    cases hne
  | some a =>
    obtain ⟨l₁, l₂, hsplit, -⟩ := List.lookup_eq_some_iff.mp hlookup
    have hmem : (k, a) ∈ l := by
      rw [← List.mem_reverse, hsplit]
      exact List.mem_append_right _ List.mem_cons_self
    exact ((h a).mp hmem).symm

variable {κ : Type u} {α : Type v} [Ord κ]

theorem contains_iff {m : SortedMap κ α} {k : κ} :
    m.contains k = true ↔ ∃ a, m.find? k = some a :=
  Option.isSome_iff_exists

theorem contains_eq_false_iff {m : SortedMap κ α} {k : κ} :
    m.contains k = false ↔ m.find? k = none := by
  simp [contains]

variable [Std.TransOrd κ] [Std.LawfulEqOrd κ]

omit [Std.LawfulEqOrd κ] in
theorem keys_nodup (m : SortedMap κ α) : m.keys.Nodup := by
  refine List.pairwise_map.mpr (m.sorted.imp fun {a b} hlt hab => ?_)
  have heq : compare b.1 b.1 = .eq := Std.ReflCmp.compare_self
  rw [hab, heq] at hlt
  exact absurd hlt (by decide)

theorem mem_values_iff {m : SortedMap κ α} {a : α} :
    a ∈ m.values ↔ ∃ k, m.find? k = some a := by
  simp [values, ← mem_entries_iff]

/-- A new key adds its entry to those that are there. -/
theorem entries_insert_perm [DecidableEq κ] {m : SortedMap κ α} {k : κ} {a : α}
    (h : m.find? k = none) : (m.insert k a).entries.Perm ((k, a) :: m.entries) := by
  have hnodup : ∀ m : SortedMap κ α, m.entries.Nodup := fun m => m.keys_nodup.of_map
  have hnew : (k, a) ∉ m.entries := by
    rw [mem_entries_iff, h]
    exact nofun
  refine (List.perm_ext_iff_of_nodup (hnodup _) (List.nodup_cons.mpr ⟨hnew, hnodup m⟩)).mpr ?_
  rintro ⟨j, b⟩
  rw [mem_entries_iff, find?_insert, List.mem_cons, mem_entries_iff, Prod.mk.injEq]
  by_cases hj : j = k
  · subst hj
    simp [h, eq_comm]
  · simp [hj]

theorem length_keys_insert [DecidableEq κ] {m : SortedMap κ α} {k : κ} {a : α}
    (h : m.find? k = none) : (m.insert k a).keys.length = m.keys.length + 1 := by
  rw [keys, keys, List.length_map, List.length_map, (entries_insert_perm h).length_eq, List.length_cons]

theorem find?_mapValues {β : Type*} (f : κ → α → β) (m : SortedMap κ α) (k : κ) :
    (m.mapValues f).find? k = (m.find? k).map (f k) := by
  ext b
  rw [← mem_entries_iff, Option.map_eq_some_iff]
  constructor
  · intro h
    obtain ⟨⟨k', a⟩, hmem, heq⟩ := List.mem_map.mp h
    cases heq
    exact ⟨a, (mem_entries_iff ..).mp hmem, rfl⟩
  · rintro ⟨a, ha, rfl⟩
    exact List.mem_map.mpr ⟨(k, a), (mem_entries_iff ..).mpr ha, rfl⟩

omit [Std.TransOrd κ] in
theorem find?_filter_key (m : SortedMap κ α) (p : κ → Bool) (k : κ) :
    (m.filter fun k _ => p k).find? k = if p k then m.find? k else none := by
  rw [find?_filter]
  cases hfind : m.find? k with
  | none => simp
  | some a => cases p k <;> simp

/-- Of the entries that are inserted one after the other, the last one for a key counts. -/
theorem find?_foldl_insert [DecidableEq κ] (l : List (κ × α)) (m : SortedMap κ α) (k : κ) :
    (l.foldl (fun m e => m.insert e.1 e.2) m).find? k =
      (l.reverse.lookup k).or (m.find? k) := by
  induction l generalizing m with
  | nil => simp
  | cons e l ih =>
    obtain ⟨k', a⟩ := e
    rw [List.foldl_cons, ih, find?_insert, List.reverse_cons, List.lookup_append]
    by_cases hk : k = k'
    · simp [hk]
    · simp [List.lookup_cons, hk, beq_eq_false_iff_ne.mpr hk]

theorem lookup_reverse_entries [DecidableEq κ] (m : SortedMap κ α) (k : κ) :
    m.entries.reverse.lookup k = m.find? k :=
  lookup_reverse_eq fun a => mem_entries_iff m k a

/-- What is inserted comes before what was there, if every key is inserted with one value only. -/
theorem find?_foldl_insert_eq [DecidableEq κ] {l : List (κ × α)} (m : SortedMap κ α) {k : κ}
    {o : Option α} (h : ∀ a, (k, a) ∈ l ↔ o = some a) :
    (l.foldl (fun m e => m.insert e.1 e.2) m).find? k = o.or (m.find? k) := by
  rw [find?_foldl_insert, lookup_reverse_eq h]

end HotReload.SortedMap
