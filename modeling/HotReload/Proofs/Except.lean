import Mathlib.Data.List.Forall2

/-!
# Computations that may fail

What is known of the parts of a computation that came to an end, and of the first part that failed.
-/

namespace HotReload

theorem except_map_eq_ok {ε α β : Type*} {f : α → β} {x : Except ε α} {b : β}
    (h : x.map f = .ok b) : ∃ a, x = .ok a ∧ f a = b := by
  cases x with
  | error e => cases h
  | ok a => exact ⟨a, rfl, Except.ok.inj h⟩

theorem except_map_eq_error {ε α β : Type*} {f : α → β} {x : Except ε α} {e : ε}
    (h : x.map f = .error e) : x = .error e := by
  cases x with
  | error e' =>
    cases h
    rfl
  | ok a => cases h

theorem except_bind_eq_ok {ε α β : Type*} {f : α → Except ε β} {x : Except ε α} {b : β}
    (h : x.bind f = .ok b) : ∃ a, x = .ok a ∧ f a = .ok b := by
  cases x with
  | error e => cases h
  | ok a => exact ⟨a, rfl, h⟩

/-- A computation of two parts fails in the one or the other. -/
theorem except_bind_eq_error {ε α β : Type*} {f : α → Except ε β} {x : Except ε α} {e : ε}
    (h : x.bind f = .error e) : x = .error e ∨ ∃ a, x = .ok a ∧ f a = .error e := by
  cases x with
  | error e' =>
    cases h
    exact .inl rfl
  | ok a => exact .inr ⟨a, rfl, h⟩

theorem except_mapError_eq_ok {ε δ α : Type*} {x : Except ε α} {g : ε → δ} {a : α}
    (h : x.mapError g = .ok a) : x = .ok a := by
  cases x with
  | error e => cases h
  | ok b =>
    cases h
    rfl

theorem except_mapError_bind {ε δ α β : Type*} (x : Except ε α) (f : α → Except ε β) (g : ε → δ) :
    (x.bind f).mapError g = (x.mapError g).bind fun a => (f a).mapError g := by
  cases x with
  | error e => rfl
  | ok a => rfl

theorem mapError_mapM {ε δ α β : Type*} (as : List α) (f : α → Except ε β) (g : ε → δ) :
    (as.mapM f).mapError g = as.mapM fun a => (f a).mapError g := by
  induction as with
  | nil => rfl
  | cons a as ih =>
    rw [List.mapM_cons, List.mapM_cons, ← ih]
    cases f a with
    | error e => rfl
    | ok b =>
      cases as.mapM f with
      | error e => rfl
      | ok bs => rfl

theorem mapM_eq_ok_iff {ε α β : Type*} {f : α → Except ε β} {as : List α} {bs : List β} :
    as.mapM f = .ok bs ↔ List.Forall₂ (fun a b => f a = .ok b) as bs := by
  induction as generalizing bs with
  | nil =>
    rw [List.mapM_nil, List.forall₂_nil_left_iff, eq_comm]
    exact ⟨Except.ok.inj, congrArg _⟩
  | cons a as ih =>
    rw [List.mapM_cons, List.forall₂_cons_left_iff]
    cases hb : f a with
    | error e => simp [bind, Except.bind]
    | ok b =>
      simp only [bind, Except.bind, pure, Except.pure, Except.ok.injEq, ← ih]
      cases hrest : as.mapM f with
      | error e => simp
      | ok rest => simp [eq_comm]

/-- A traversal fails where its first item fails. -/
theorem exists_of_mapM_eq_error {ε α β : Type*} {f : α → Except ε β} {as : List α} {e : ε}
    (h : as.mapM f = .error e) :
    ∃ before a after, as = before ++ a :: after ∧ (∀ b ∈ before, ∃ c, f b = .ok c) ∧
      f a = .error e := by
  induction as with
  | nil => cases h
  | cons a as ih =>
    rw [List.mapM_cons] at h
    cases ha : f a with
    | error e' =>
      rw [ha] at h
      cases h
      exact ⟨[], a, as, rfl, fun b hb => (nomatch hb), ha⟩
    | ok c =>
      cases hrest : as.mapM f with
      | ok cs =>
        rw [ha, hrest] at h
        cases h
      | error e' =>
        rw [ha, hrest] at h
        cases h
        obtain ⟨before, a', after, rfl, hbefore, ha'⟩ := ih hrest
        refine ⟨a :: before, a', after, rfl, ?_, ha'⟩
        intro b hb
        rcases List.mem_cons.mp hb with rfl | hb
        · exact ⟨c, ha⟩
        · exact hbefore b hb

theorem exists_of_forall₂ {α β : Type*} {r : α → β → Prop} {as : List α} {bs : List β}
    (h : List.Forall₂ r as bs) {b : β} (hb : b ∈ bs) : ∃ a ∈ as, r a b := by
  induction h with
  | nil => cases hb
  | @cons a b' as bs hab _ ih =>
    rcases List.mem_cons.mp hb with rfl | hb
    · exact ⟨a, List.mem_cons_self, hab⟩
    · obtain ⟨a', ha', hab'⟩ := ih hb
      exact ⟨a', List.mem_cons_of_mem _ ha', hab'⟩

/-- What every step of a traversal preserves holds at its end. -/
theorem foldlM_induction {ε α β : Type*} {f : β → α → Except ε β} {p : β → Prop} {as : List α}
    {b c : β} (h : as.foldlM f b = .ok c) (hb : p b)
    (hstep : ∀ a ∈ as, ∀ b c, p b → f b a = .ok c → p c) : p c := by
  induction as generalizing b with
  | nil =>
    cases h
    exact hb
  | cons a as ih =>
    rw [List.foldlM_cons] at h
    obtain ⟨b', hb', hrest⟩ := except_bind_eq_ok h
    apply ih hrest (hstep a List.mem_cons_self b b' hb hb')
    intro a' ha'
    exact hstep a' (List.mem_cons_of_mem _ ha')

/-- A traversal fails at one of its steps. -/
theorem exists_of_foldlM_eq_error {ε α β : Type*} {f : β → α → Except ε β} {as : List α} {b : β}
    {e : ε} (h : as.foldlM f b = .error e) : ∃ a ∈ as, ∃ c, f c a = .error e := by
  induction as generalizing b with
  | nil => cases h
  | cons a as ih =>
    rw [List.foldlM_cons] at h
    rcases except_bind_eq_error h with ha | ⟨c, -, hrest⟩
    · exact ⟨a, List.mem_cons_self, b, ha⟩
    · obtain ⟨a', ha', hstep⟩ := ih hrest
      exact ⟨a', List.mem_cons_of_mem a ha', hstep⟩

end HotReload
