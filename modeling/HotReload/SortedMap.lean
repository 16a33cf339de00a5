/-!
# Maps in key order

A `SortedMap κ α` holds at most one entry for each key and lists its entries in ascending key order.
The order is part of the type, so two maps with the same entries are equal and every traversal of a
map is reproducible. `find?_insert`, `find?_erase` and `find?_filter` say what the operations do to a
look-up, and `ext_find?` that look-ups determine the map.
-/

namespace HotReload

/-- A finite map whose entries stand in strictly ascending key order. -/
@[ext]
structure SortedMap (κ : Type u) (α : Type v) [Ord κ] where
  /-- The entries in ascending key order. -/
  entries : List (κ × α)
  /-- Keys ascend strictly, so no key occurs twice. -/
  sorted : entries.Pairwise fun a b => compare a.1 b.1 = .lt

/-- A condition that is met by fewer items of a list leaves fewer of them. -/
theorem length_filter_lt {α : Type u} {l : List α} {p q : α → Bool} {a : α}
    (hqp : ∀ b ∈ l, q b = true → p b = true) (ha : a ∈ l) (hp : p a = true) (hq : q a = false) :
    (l.filter q).length < (l.filter p).length := by
  have hsplit : l.filter q = (l.filter p).filter q := by
    rw [List.filter_filter]
    refine List.filter_congr fun b hb => ?_
    cases hqb : q b with
    | false => rfl
    | true => rw [hqp b hb hqb, Bool.and_self]
  rw [hsplit]
  exact List.length_filter_lt_length_iff_exists.2 ⟨a, List.mem_filter.2 ⟨ha, hp⟩, by simp [hq]⟩

namespace SortedMap

/-! ## Entry lists -/

section Entries

variable {κ : Type u} {α : Type v} [Ord κ]

/-- The value stored under `k` in a list of entries. -/
def lookupEntry (k : κ) : List (κ × α) → Option α
  | [] => none
  | (k', a) :: rest => if compare k k' = .eq then some a else lookupEntry k rest

/-- Puts an entry into its place, replacing an entry with the same key. -/
def insertEntry (k : κ) (a : α) : List (κ × α) → List (κ × α)
  | [] => [(k, a)]
  | (k', a') :: rest =>
    match compare k k' with
    | .lt => (k, a) :: (k', a') :: rest
    | .eq => (k, a) :: rest
    | .gt => (k', a') :: insertEntry k a rest

theorem mem_insertEntry {k : κ} {a : α} {l : List (κ × α)} {e : κ × α}
    (h : e ∈ insertEntry k a l) : e = (k, a) ∨ e ∈ l := by
  induction l with
  | nil => simpa [insertEntry] using h
  | cons hd tl ih =>
    obtain ⟨k', a'⟩ := hd
    rw [insertEntry] at h
    split at h
    · simpa using h
    · rcases List.mem_cons.1 h with h | h
      · exact .inl h
      · exact .inr (List.mem_cons_of_mem _ h)
    · rcases List.mem_cons.1 h with h | h
      · exact .inr (h ▸ List.mem_cons_self)
      · exact (ih h).imp id (List.mem_cons_of_mem _)

variable [Std.TransOrd κ] [Std.LawfulEqOrd κ]

theorem insertEntry_sorted (k : κ) (a : α) {l : List (κ × α)}
    (h : l.Pairwise fun x y => compare x.1 y.1 = .lt) :
    (insertEntry k a l).Pairwise fun x y => compare x.1 y.1 = .lt := by
  induction l with
  | nil => simp [insertEntry]
  | cons hd tl ih =>
    obtain ⟨k', a'⟩ := hd
    have hhd : ∀ e ∈ tl, compare k' e.1 = .lt := fun e he => List.rel_of_pairwise_cons h he
    rw [insertEntry]
    split
    next hlt =>
      refine List.Pairwise.cons (fun e he => ?_) h
      rcases List.mem_cons.1 he with rfl | he
      · exact hlt
      · exact Std.TransCmp.lt_trans hlt (hhd e he)
    next heq =>
      have : k = k' := Std.LawfulEqCmp.compare_eq_iff_eq.1 heq
      subst this
      exact List.Pairwise.cons hhd h.of_cons
    next hgt =>
      refine List.Pairwise.cons (fun e he => ?_) (ih h.of_cons)
      rcases mem_insertEntry he with rfl | he
      · exact Std.OrientedCmp.gt_iff_lt.1 hgt
      · exact hhd e he

omit [Std.TransOrd κ] in
theorem lookupEntry_insertEntry (k j : κ) (a : α) (l : List (κ × α)) :
    lookupEntry j (insertEntry k a l) =
      if compare j k = .eq then some a else lookupEntry j l := by
  induction l with
  | nil => simp [insertEntry, lookupEntry]
  | cons hd tl ih =>
    obtain ⟨k', a'⟩ := hd
    rw [insertEntry]
    split
    next => simp [lookupEntry]
    next heq =>
      have : k = k' := Std.LawfulEqCmp.compare_eq_iff_eq.1 heq
      subst this
      simp only [lookupEntry]
      split <;> rfl
    next hgt =>
      simp only [lookupEntry, ih]
      by_cases hj : compare j k' = .eq
      · have : j = k' := Std.LawfulEqCmp.compare_eq_iff_eq.1 hj
        subst this
        have hne : compare j k ≠ .eq := by
          intro heq
          have : j = k := Std.LawfulEqCmp.compare_eq_iff_eq.1 heq
          subst this
          simp [Std.ReflCmp.compare_self] at hgt
        simp [hne]
      · simp [hj]

omit [Std.TransOrd κ] [Std.LawfulEqOrd κ] in
theorem lookupEntry_eq_none {k : κ} {l : List (κ × α)} (h : ∀ e ∈ l, compare k e.1 = .lt) :
    lookupEntry k l = none := by
  induction l with
  | nil => rfl
  | cons e tl ih =>
    have he := h e List.mem_cons_self
    simp only [lookupEntry]
    rw [if_neg (by rw [he]; decide)]
    exact ih fun e' he' => h e' (List.mem_cons_of_mem _ he')

omit [Std.TransOrd κ] in
theorem lookupEntry_filter (p : κ → α → Bool) (k : κ) {l : List (κ × α)}
    (h : l.Pairwise fun x y => compare x.1 y.1 = .lt) :
    lookupEntry k (l.filter fun e => p e.1 e.2) = (lookupEntry k l).filter (p k) := by
  induction l with
  | nil => rfl
  | cons hd tl ih =>
    obtain ⟨k', a⟩ := hd
    have ih := ih h.of_cons
    by_cases hk : compare k k' = .eq
    · have : k = k' := Std.LawfulEqCmp.compare_eq_iff_eq.1 hk
      subst this
      have hnone : lookupEntry k tl = none :=
        lookupEntry_eq_none fun e he => List.rel_of_pairwise_cons h he
      by_cases hp : p k a
      · simp [hp, lookupEntry, Option.filter]
      · simp [hp, lookupEntry, ih, hnone, Option.filter]
    · by_cases hp : p k' a
      · simp [hp, lookupEntry, hk, ih]
      · simp [hp, lookupEntry, hk, ih]

omit [Std.TransOrd κ] in
theorem mem_of_lookupEntry {k : κ} {a : α} {l : List (κ × α)} (h : lookupEntry k l = some a) :
    (k, a) ∈ l := by
  induction l with
  | nil => simp [lookupEntry] at h
  | cons hd tl ih =>
    obtain ⟨k', a'⟩ := hd
    simp only [lookupEntry] at h
    split at h
    next heq =>
      have : k = k' := Std.LawfulEqCmp.compare_eq_iff_eq.1 heq
      simp_all
    next => exact List.mem_cons_of_mem _ (ih h)

theorem lookupEntry_of_mem {k : κ} {a : α} {l : List (κ × α)}
    (hs : l.Pairwise fun x y => compare x.1 y.1 = .lt) (h : (k, a) ∈ l) :
    lookupEntry k l = some a := by
  induction l with
  | nil => simp at h
  | cons hd tl ih =>
    obtain ⟨k', a'⟩ := hd
    simp only [lookupEntry]
    rcases List.mem_cons.1 h with h | h
    · cases h
      simp [Std.ReflCmp.compare_self]
    · have hlt : compare k' k = .lt := List.rel_of_pairwise_cons hs h
      have hne : compare k k' ≠ .eq := by
        rw [@Std.OrientedCmp.eq_swap _ compare _ k k', hlt]
        decide
      rw [if_neg hne]
      exact ih hs.of_cons h

theorem eq_of_lookupEntry_eq {l₁ l₂ : List (κ × α)}
    (h₁ : l₁.Pairwise fun x y => compare x.1 y.1 = .lt)
    (h₂ : l₂.Pairwise fun x y => compare x.1 y.1 = .lt)
    (h : ∀ k, lookupEntry k l₁ = lookupEntry k l₂) : l₁ = l₂ := by
  have mem_iff : ∀ e, e ∈ l₁ ↔ e ∈ l₂ := fun e =>
    ⟨fun he => mem_of_lookupEntry ((h e.1) ▸ lookupEntry_of_mem h₁ he),
      fun he => mem_of_lookupEntry ((h e.1).symm ▸ lookupEntry_of_mem h₂ he)⟩
  clear h
  induction l₁ generalizing l₂ with
  | nil =>
    cases l₂ with
    | nil => rfl
    | cons e _ => exact absurd ((mem_iff e).2 List.mem_cons_self) List.not_mem_nil
  | cons a tl₁ ih =>
    cases l₂ with
    | nil => exact absurd ((mem_iff a).1 List.mem_cons_self) List.not_mem_nil
    | cons b tl₂ =>
      have irrefl : ∀ e : κ × α, compare e.1 e.1 ≠ .lt := fun e => by
        simp [Std.ReflCmp.compare_self]
      have asymm : ∀ x y : κ × α, compare x.1 y.1 = .lt → compare y.1 x.1 ≠ .lt := fun x y hxy hyx =>
        irrefl x (Std.TransCmp.lt_trans hxy hyx)
      have hab : a = b := by
        rcases List.mem_cons.1 ((mem_iff a).1 List.mem_cons_self) with hab | ha
        · exact hab
        · rcases List.mem_cons.1 ((mem_iff b).2 List.mem_cons_self) with hba | hb
          · exact hba.symm
          · exact absurd (List.rel_of_pairwise_cons h₁ hb)
              (asymm _ _ (List.rel_of_pairwise_cons h₂ ha))
      subst hab
      congr 1
      refine ih h₁.of_cons h₂.of_cons fun e => ⟨fun he => ?_, fun he => ?_⟩
      · rcases List.mem_cons.1 ((mem_iff e).1 (List.mem_cons_of_mem _ he)) with rfl | he'
        · exact absurd (List.rel_of_pairwise_cons h₁ he) (irrefl e)
        · exact he'
      · rcases List.mem_cons.1 ((mem_iff e).2 (List.mem_cons_of_mem _ he)) with rfl | he'
        · exact absurd (List.rel_of_pairwise_cons h₂ he) (irrefl e)
        · exact he'

end Entries

/-! ## The map -/

section Views

variable {κ : Type u} {α : Type v} [Ord κ]

instance : EmptyCollection (SortedMap κ α) := ⟨⟨[], .nil⟩⟩

instance : Inhabited (SortedMap κ α) := ⟨∅⟩

/-- The value stored under `k`, if there is one. -/
def find? (m : SortedMap κ α) (k : κ) : Option α :=
  lookupEntry k m.entries

def contains (m : SortedMap κ α) (k : κ) : Bool :=
  (m.find? k).isSome

/-- The keys in ascending order. -/
def keys (m : SortedMap κ α) : List κ :=
  m.entries.map (·.1)

/-- The values in ascending order of their keys. -/
def values (m : SortedMap κ α) : List α :=
  m.entries.map (·.2)

def size (m : SortedMap κ α) : Nat :=
  m.entries.length

def isEmpty (m : SortedMap κ α) : Bool :=
  m.entries.isEmpty

/-- The entries that `p` accepts. -/
def filter (p : κ → α → Bool) (m : SortedMap κ α) : SortedMap κ α where
  entries := m.entries.filter fun e => p e.1 e.2
  sorted := m.sorted.filter _

def erase (m : SortedMap κ α) (k : κ) : SortedMap κ α :=
  m.filter fun k' _ => compare k' k != .eq

def mapValues (f : κ → α → β) (m : SortedMap κ α) : SortedMap κ β where
  entries := m.entries.map fun e => (e.1, f e.1 e.2)
  sorted := List.pairwise_map.2 m.sorted

/-- The keys that are not among some others. -/
def keysBut [BEq κ] (m : SortedMap κ α) (others : List κ) : List κ :=
  m.keys.filter fun k => !others.contains k

/-- A key that comes to the others leaves fewer keys. -/
theorem length_keysBut_lt [BEq κ] [LawfulBEq κ] {m : SortedMap κ α} {k : κ} {others more : List κ}
    (hkey : k ∈ m.keys) (hnew : k ∉ others) (hmore : k ∈ more) (hsub : others ⊆ more) :
    (m.keysBut more).length < (m.keysBut others).length := by
  refine length_filter_lt (fun j _ hj => ?_) hkey (by simpa using hnew) (by simpa using hmore)
  simp only [Bool.not_eq_true', ← Bool.not_eq_true, List.contains_iff_mem] at hj ⊢
  exact fun hold => hj (hsub hold)

end Views

section Operations

variable {κ : Type u} {α : Type v} [Ord κ] [Std.TransOrd κ] [Std.LawfulEqOrd κ]

/-- Stores `a` under `k`, replacing what was stored there. -/
def insert (m : SortedMap κ α) (k : κ) (a : α) : SortedMap κ α where
  entries := insertEntry k a m.entries
  sorted := insertEntry_sorted k a m.sorted

/-- The map of a list of entries; the last entry of a key wins. -/
def ofList (l : List (κ × α)) : SortedMap κ α :=
  l.foldl (fun m e => m.insert e.1 e.2) ∅

omit [Std.TransOrd κ] [Std.LawfulEqOrd κ] in
@[simp]
theorem find?_empty (k : κ) : (∅ : SortedMap κ α).find? k = none :=
  rfl

theorem find?_insert [DecidableEq κ] (m : SortedMap κ α) (k j : κ) (a : α) :
    (m.insert k a).find? j = if j = k then some a else m.find? j := by
  simp [find?, insert, lookupEntry_insertEntry]

theorem contains_insert [DecidableEq κ] {m : SortedMap κ α} {k j : κ} {a : α} :
    (m.insert k a).contains j = true ↔ j = k ∨ m.contains j = true := by
  rw [contains, contains, find?_insert]
  by_cases hj : j = k
  · simp [hj]
  · simp [hj]

theorem contains_foldl_insert [DecidableEq κ] {l : List (κ × α)} {m : SortedMap κ α} {k : κ} :
    (l.foldl (fun m e => m.insert e.1 e.2) m).contains k = true ↔
      k ∈ l.map (·.1) ∨ m.contains k = true := by
  induction l generalizing m with
  | nil => simp
  | cons e l ih =>
    rw [List.foldl_cons, ih, contains_insert, List.map_cons, List.mem_cons, or_assoc, or_left_comm]

omit [Std.TransOrd κ] in
theorem find?_filter (m : SortedMap κ α) (p : κ → α → Bool) (k : κ) :
    (m.filter p).find? k = (m.find? k).filter (p k) :=
  lookupEntry_filter p k m.sorted

omit [Std.TransOrd κ] in
theorem find?_erase [DecidableEq κ] (m : SortedMap κ α) (k j : κ) :
    (m.erase k).find? j = if j = k then none else m.find? j := by
  rw [erase, find?_filter]
  split
  next h =>
    subst h
    cases m.find? j <;> simp [Option.filter, Std.ReflCmp.compare_self]
  next h => cases m.find? j <;> simp [Option.filter, h]

theorem mem_entries_iff (m : SortedMap κ α) (k : κ) (a : α) :
    (k, a) ∈ m.entries ↔ m.find? k = some a :=
  ⟨lookupEntry_of_mem m.sorted, mem_of_lookupEntry⟩

theorem mem_keys_iff (m : SortedMap κ α) (k : κ) :
    k ∈ m.keys ↔ (m.find? k).isSome := by
  rw [Option.isSome_iff_exists]
  simp [keys, mem_entries_iff]

/-- Maps with equal look-ups are equal. -/
theorem ext_find? {m₁ m₂ : SortedMap κ α} (h : ∀ k, m₁.find? k = m₂.find? k) : m₁ = m₂ :=
  SortedMap.ext (eq_of_lookupEntry_eq m₁.sorted m₂.sorted h)

end Operations

end SortedMap

end HotReload
