import HotReload.Script.Token
import HotReload.Proofs.Except
import Mathlib.Data.List.Infix
import Mathlib.Data.List.TakeWhile

/-!
# Spelled tokens

Every token that a script can hold has a spelling, and a line of spelled tokens with a space between
any two is read as those tokens (`scan_spellLine`), whatever characters the texts among them hold. The
first character of a spelling decides how the rest is read; each kind of token has a lemma that says
so, and one that reads its spelling up to a space or the end of the line. No other tokens are read than
those that a script can hold (`spellable_of_scan`).
-/

namespace HotReload

/-! ## Spelling -/

/-- A text that may stand as a name: a letter or an underscore comes first, then letters, digits,
underscores, hyphens and dots; no two dots meet and none comes last. -/
structure IsScriptName (s : String) : Prop where
  first : ∃ c ∈ s.toList.head?, c.isAlpha = true ∨ c = '_'
  others : ∀ c ∈ s.toList, c.isAlphanum = true ∨ c = '_' ∨ c = '-' ∨ c = '.'
  apart : ¬['.', '.'] <:+: s.toList
  closed : s.toList.getLast? ≠ some '.'

theorem isScriptName_iff {s : String} :
    IsScriptName s ↔ (s.toList.head?.any fun c => c.isAlpha || c == '_') = true ∧
      (s.toList.all fun c => c.isAlphanum || c == '_' || c == '-' || c == '.') = true ∧
      ¬['.', '.'] <:+: s.toList ∧ s.toList.getLast? ≠ some '.' := by
  simp only [Option.any_eq_true, List.all_eq_true, Bool.or_eq_true, beq_iff_eq, or_assoc]
  exact ⟨fun h => ⟨h.first, h.others, h.apart, h.closed⟩,
    fun ⟨first, others, apart, closed⟩ => ⟨first, others, apart, closed⟩⟩

instance (s : String) : Decidable (IsScriptName s) :=
  decidable_of_iff _ isScriptName_iff.symm

namespace Token

/-- A token that a script can hold: its name is one, its integer fits 64 bits with sign, and its
argument is counted from one and fits 64 bits. -/
inductive Spellable : Token → Prop
  | name {s : String} (legal : IsScriptName s) : Spellable (.name s)
  | text (s : String) : Spellable (.text s)
  | int {n : Int} (lower : -0x8000000000000000 ≤ n) (upper : n < 0x8000000000000000) :
      Spellable (.int n)
  | arg {n : Nat} (lower : 1 ≤ n) (upper : n < 0x10000000000000000) : Spellable (.arg n)
  | leftParen : Spellable .leftParen
  | rightParen : Spellable .rightParen
  | comma : Spellable .comma
  | plus : Spellable .plus
  | equals : Spellable .equals

/-- How a character of a text is written between quotes. -/
def escaped : Char → List Char
  | '"' => ['\\', '"']
  | '\\' => ['\\', '\\']
  | '\n' => ['\\', 'n']
  | '\t' => ['\\', 't']
  | c => [c]

def spell : Token → List Char
  | .name s => s.toList
  | .text s => '"' :: (s.toList.flatMap escaped ++ ['"'])
  | .int n => if n < 0 then '-' :: Nat.toDigits 10 n.natAbs else Nat.toDigits 10 n.natAbs
  | .arg n => '$' :: Nat.toDigits 10 n
  | .leftParen => ['(']
  | .rightParen => [')']
  | .comma => [',']
  | .plus => ['+']
  | .equals => ['=']

/-- A line of tokens, with a space between any two. -/
def spellLine (ts : List Token) : List Char :=
  [' '].intercalate (ts.map spell)

/-- The rest of a line after a token: nothing, or a space comes first. -/
def Separated (rest : List Char) : Prop :=
  ∀ c ∈ rest.head?, c = ' '

theorem separated_nil : Separated [] := fun _ h => nomatch h

theorem separated_cons (rest : List Char) : Separated (' ' :: rest) :=
  fun _ h => (Option.some.inj h).symm

/-! ## What the first character decides -/

section First

variable {total : Nat} {c : Char} {cs rest : List Char} {acc : List Token} {t : Token}

/-- A token that starts with a character is read, and then what follows it. -/
theorem scanFrom_cons (hblank : c ≠ ' ' ∧ c ≠ '\t') (hcomment : c ≠ '#')
    (hone : scanOne total c cs = .ok (t, rest)) :
    scanFrom total acc (c :: cs) = scanFrom total (t :: acc) rest := by
  rw [scanFrom, if_neg (not_or.mpr hblank), if_neg hcomment]
  split
  next fault hfault =>
    rw [hone] at hfault
    cases hfault
  next token rest' hok =>
    rw [hone] at hok
    cases hok
    rfl

theorem scanOne_punctuation (h : punctuation? c = some t) :
    scanOne total c rest = .ok (t, rest) := by
  rw [scanOne, h]

theorem scanOne_quote :
    scanOne total '"' rest = (scanText [] rest).map fun p => (.text p.1, p.2) := by
  have hpunctuation : punctuation? '"' = none := rfl
  rw [scanOne, hpunctuation]
  cases scanText [] rest with
  | error fault => rfl
  | ok p => rfl

theorem scanOne_dollar :
    scanOne total '$' rest =
      (ofArgument (rest.takeWhile Char.isDigit)).map (·, rest.dropWhile Char.isDigit) := by
  have hpunctuation : punctuation? '$' = none := rfl
  rw [scanOne, hpunctuation]
  cases ofArgument (rest.takeWhile Char.isDigit) with
  | error fault => rfl
  | ok t => rfl

/-- What no punctuation has is no punctuation's. -/
theorem punctuation?_eq_none {p : Char → Bool} (h : p c = true)
    (hp : (['(', ')', ',', '+', '='].any p) = false) : punctuation? c = none := by
  simp only [List.any_cons, List.any_nil, Bool.or_eq_false_iff] at hp
  obtain ⟨hopen, hclose, hcomma, hplus, hequals, -⟩ := hp
  unfold punctuation?
  split
  next => exact absurd (hopen.symm.trans h) Bool.false_ne_true
  next => exact absurd (hclose.symm.trans h) Bool.false_ne_true
  next => exact absurd (hcomma.symm.trans h) Bool.false_ne_true
  next => exact absurd (hplus.symm.trans h) Bool.false_ne_true
  next => exact absurd (hequals.symm.trans h) Bool.false_ne_true
  next => rfl

/-- A minus sign or a digit starts an integer and nothing else. -/
theorem scanOne_literal (h : c = '-' ∨ c.isDigit = true) :
    scanOne total c rest =
      (ofLiteral c (rest.takeWhile Char.isDigit)).map (·, rest.dropWhile Char.isDigit) := by
  have hne : ∀ d, ¬(d = '-' ∨ d.isDigit = true) → c ≠ d := fun d hd heq => hd (heq ▸ h)
  have hpunctuation : punctuation? c = none :=
    punctuation?_eq_none (p := fun d => d == '-' || d.isDigit) (by simpa using h) rfl
  rw [scanOne, hpunctuation]
  dsimp only
  rw [if_neg (hne '"' (by decide)), if_neg (hne '$' (by decide)), if_pos h]
  cases ofLiteral c (rest.takeWhile Char.isDigit) with
  | error fault => rfl
  | ok t => rfl

theorem isAlpha_iff_toNat {c : Char} :
    c.isAlpha = true ↔ ('A'.toNat ≤ c.toNat ∧ c.toNat ≤ 'Z'.toNat) ∨
      ('a'.toNat ≤ c.toNat ∧ c.toNat ≤ 'z'.toNat) := by
  change (decide ('A'.val ≤ c.val ∧ c.val ≤ 'Z'.val) ||
    (decide ('a'.val ≤ c.val) && decide (c.val ≤ 'z'.val))) = true ↔ _
  simp only [UInt32.le_iff_toNat_le, Bool.or_eq_true, Bool.and_eq_true, decide_eq_true_eq]
  rfl

theorem not_isDigit_of_startsName (h : startsName c = true) : c.isDigit = false := by
  simp only [startsName, Bool.or_eq_true, beq_iff_eq] at h
  rcases h with halpha | rfl
  · rw [Bool.eq_false_iff, ne_eq, Char.isDigit_iff_toNat]
    simp only [isAlpha_iff_toNat, Char.reduceToNat] at halpha ⊢
    omega
  · rfl

/-- A letter or an underscore starts a name and nothing else. -/
theorem scanOne_name (h : startsName c = true) :
    scanOne total c rest =
      (ofWord (c :: rest.takeWhile continuesName)).map (·, rest.dropWhile continuesName) := by
  have hne : ∀ d, startsName d ≠ true → c ≠ d := fun d hd heq => hd (heq ▸ h)
  have hliteral : ¬(c = '-' ∨ c.isDigit = true) := by
    rw [not_isDigit_of_startsName h, not_or]
    exact ⟨hne '-' (by decide), Bool.false_ne_true⟩
  rw [scanOne, punctuation?_eq_none h rfl]
  dsimp only
  rw [if_neg (hne '"' (by decide)), if_neg (hne '$' (by decide)), if_neg hliteral, if_pos h]
  cases ofWord (c :: rest.takeWhile continuesName) with
  | error fault => rfl
  | ok t => rfl

end First

/-! ## Reading a spelling -/

section Spelling

variable {total n : Nat} {c : Char} {cs rest : List Char} {acc : List Token} {t : Token}

/-- What a token goes on with is read up to a space or the end of the line. -/
theorem Separated.cut {p : Char → Bool} (hrest : Separated rest) (hcs : ∀ c ∈ cs, p c = true)
    (hspace : p ' ' = false) :
    (cs ++ rest).takeWhile p = cs ∧ (cs ++ rest).dropWhile p = rest := by
  rw [List.takeWhile_append_of_pos hcs, List.dropWhile_append_of_pos hcs]
  cases rest with
  | nil => exact ⟨List.append_nil cs, rfl⟩
  | cons c rest =>
    obtain rfl : c = ' ' := hrest c rfl
    simp [hspace]

theorem scanText_escaped (c : Char) (acc rest : List Char) :
    scanText acc (escaped c ++ rest) = scanText (c :: acc) rest := by
  unfold escaped
  split
  next => rfl
  next => rfl
  next => rfl
  next => rfl
  next hquote hbackslash hline htab =>
    rw [List.singleton_append, scanText]
    · exact hquote
    · rintro d rest' rfl -
      exact hbackslash rfl
    · rintro rfl -
      exact hbackslash rfl

theorem scanText_flatMap_escaped (cs acc rest : List Char) :
    scanText acc (cs.flatMap escaped ++ '"' :: rest) = .ok (.ofList (acc.reverse ++ cs), rest) := by
  induction cs generalizing acc with
  | nil =>
    rw [List.append_nil]
    rfl
  | cons c cs ih =>
    rw [List.flatMap_cons, List.append_assoc, scanText_escaped, ih, List.reverse_cons,
      List.append_assoc]
    rfl

theorem scanFrom_text (s : String) (rest : List Char) :
    scanFrom total acc (spell (.text s) ++ rest) = scanFrom total (.text s :: acc) rest := by
  rw [spell, List.cons_append, List.append_assoc]
  refine scanFrom_cons ⟨by decide, by decide⟩ (by decide) ?_
  rw [scanOne_quote, List.singleton_append, scanText_flatMap_escaped, List.reverse_nil,
    List.nil_append, String.ofList_toList]
  rfl

/-- Two dots meet in a word if and only if they stand in it side by side. -/
theorem hasAdjacentDots_eq_true_iff : hasAdjacentDots cs = true ↔ ['.', '.'] <:+: cs := by
  fun_induction hasAdjacentDots cs with
  | case1 rest => exact ⟨fun _ => ⟨[], rest, rfl⟩, fun _ => rfl⟩
  | case2 c rest hdots ih =>
    rw [ih, List.infix_cons_iff]
    refine ⟨.inr, fun h => h.resolve_left ?_⟩
    rintro ⟨rest', heq⟩
    cases heq
    exact hdots _ rfl rfl
  | case3 => simp

theorem ofWord_toList {s : String} (hs : IsScriptName s) : ofWord s.toList = .ok (.name s) := by
  rw [ofWord, if_neg, String.ofList_toList]
  rw [not_or, hasAdjacentDots_eq_true_iff]
  exact ⟨hs.closed, hs.apart⟩

theorem scanFrom_name {s : String} (hs : IsScriptName s) (hrest : Separated rest) :
    scanFrom total acc (s.toList ++ rest) = scanFrom total (.name s :: acc) rest := by
  have hword := ofWord_toList hs
  obtain ⟨c, hc, hfirst⟩ := hs.first
  obtain ⟨cs, hcs⟩ : ∃ cs, s.toList = c :: cs := List.head?_eq_some_iff.mp hc
  have hstarts : startsName c = true := by simpa [startsName] using hfirst
  have hcontinues : ∀ d ∈ cs, continuesName d = true := by
    intro d hd
    have hother := hs.others d (hcs ▸ List.mem_cons_of_mem c hd)
    simpa [continuesName, or_assoc] using hother
  have hne : ∀ d, startsName d ≠ true → c ≠ d := fun d hd heq => hd (heq ▸ hstarts)
  obtain ⟨htake, hdrop⟩ := hrest.cut hcontinues rfl
  rw [hcs] at hword
  rw [hcs, List.cons_append]
  refine scanFrom_cons ⟨hne ' ' (by decide), hne '\t' (by decide)⟩ (hne '#' (by decide)) ?_
  rw [scanOne_name hstarts, htake, hdrop, hword]
  rfl

/-- The digits of a number give the number back. -/
theorem digits_toDigits (n : Nat) :
    (Nat.toDigits 10 n).isEmpty = false ∧ (∀ c ∈ Nat.toDigits 10 n, c.isDigit = true) ∧
      Nat.ofDigitChars 10 (Nat.toDigits 10 n) 0 = n := by
  refine ⟨?_, ?_, Nat.ofDigitChars_ten_toDigits⟩
  · rw [List.isEmpty_eq_false_iff]
    exact Nat.toDigits_ne_nil
  · intro c hc
    exact Nat.isDigit_of_mem_toDigits (by decide) (by decide) hc

theorem ofArgument_toDigits (lower : 1 ≤ n) (upper : n < 0x10000000000000000) :
    ofArgument (Nat.toDigits 10 n) = .ok (.arg n) := by
  obtain ⟨hsome, -, hnumber⟩ := digits_toDigits n
  have hfits : ¬(false = true ∨ 0x10000000000000000 ≤ n) :=
    not_or.mpr ⟨Bool.false_ne_true, Nat.not_le_of_lt upper⟩
  simp only [ofArgument]
  rw [hnumber, hsome, if_neg hfits, if_neg (Nat.ne_of_gt lower)]

theorem scanFrom_arg (lower : 1 ≤ n) (upper : n < 0x10000000000000000) (hrest : Separated rest) :
    scanFrom total acc (spell (.arg n) ++ rest) = scanFrom total (.arg n :: acc) rest := by
  obtain ⟨-, hdigits, -⟩ := digits_toDigits n
  obtain ⟨htake, hdrop⟩ := hrest.cut hdigits rfl
  rw [spell, List.cons_append]
  refine scanFrom_cons ⟨by decide, by decide⟩ (by decide) ?_
  rw [scanOne_dollar, htake, hdrop, ofArgument_toDigits lower upper]
  rfl

/-- A literal is read as the integer that it writes. -/
theorem scanFrom_literal {n : Int} (hstart : c = '-' ∨ c.isDigit = true)
    (hdigits : ∀ d ∈ cs, d.isDigit = true) (hliteral : ofLiteral c cs = .ok (.int n))
    (hrest : Separated rest) :
    scanFrom total acc (c :: cs ++ rest) = scanFrom total (.int n :: acc) rest := by
  have hne : ∀ d, ¬(d = '-' ∨ d.isDigit = true) → c ≠ d := fun d hd heq => hd (heq ▸ hstart)
  obtain ⟨htake, hdrop⟩ := hrest.cut hdigits rfl
  refine scanFrom_cons ⟨hne ' ' (by decide), hne '\t' (by decide)⟩ (hne '#' (by decide)) ?_
  rw [List.append_eq, scanOne_literal hstart, htake, hdrop, hliteral]
  rfl

theorem ofLiteral_minus {n : Int} (lower : -0x8000000000000000 ≤ n) (hn : n < 0) :
    ofLiteral '-' (Nat.toDigits 10 n.natAbs) = .ok (.int n) := by
  obtain ⟨hsome, -, hnumber⟩ := digits_toDigits n.natAbs
  have hvalue : -(n.natAbs : Int) = n := by omega
  have hfits : ¬(false = true ∨ n < -0x8000000000000000 ∨ 0x8000000000000000 ≤ n) :=
    not_or.mpr ⟨Bool.false_ne_true, by omega⟩
  simp only [ofLiteral, if_true]
  rw [hnumber, hsome, hvalue, if_neg hfits]

theorem ofLiteral_digits {n : Int} (upper : n < 0x8000000000000000) (hn : 0 ≤ n)
    (hcs : Nat.toDigits 10 n.natAbs = c :: cs) : ofLiteral c cs = .ok (.int n) := by
  obtain ⟨hsome, hdigits, hnumber⟩ := digits_toDigits n.natAbs
  have hminus : c ≠ '-' := by
    rintro rfl
    exact absurd (hdigits '-' (hcs ▸ List.mem_cons_self)) (by decide)
  have hvalue : (n.natAbs : Int) = n := by omega
  have hfits : ¬(false = true ∨ n < -0x8000000000000000 ∨ 0x8000000000000000 ≤ n) :=
    not_or.mpr ⟨Bool.false_ne_true, by omega⟩
  simp only [ofLiteral, hminus, if_false]
  rw [← hcs, hnumber, hsome, hvalue, if_neg hfits]

theorem scanFrom_int {n : Int} (lower : -0x8000000000000000 ≤ n) (upper : n < 0x8000000000000000)
    (hrest : Separated rest) :
    scanFrom total acc (spell (.int n) ++ rest) = scanFrom total (.int n :: acc) rest := by
  obtain ⟨-, hdigits, -⟩ := digits_toDigits n.natAbs
  rw [spell]
  split
  next hn => exact scanFrom_literal (.inl rfl) hdigits (ofLiteral_minus lower hn) hrest
  next hn =>
    obtain ⟨c, cs, hcs⟩ := List.exists_cons_of_ne_nil (Nat.toDigits_ne_nil (n := n.natAbs) (b := 10))
    rw [hcs] at hdigits ⊢
    exact scanFrom_literal (.inr (hdigits c List.mem_cons_self))
      (fun d hd => hdigits d (List.mem_cons_of_mem c hd))
      (ofLiteral_digits upper (Int.not_lt.mp hn) hcs) hrest

/-- The spelling of a token is read as the token. -/
theorem scanFrom_spell (ht : t.Spellable) (hrest : Separated rest) :
    scanFrom total acc (t.spell ++ rest) = scanFrom total (t :: acc) rest := by
  cases ht with
  | name legal => exact scanFrom_name legal hrest
  | text s => exact scanFrom_text s rest
  | int lower upper => exact scanFrom_int lower upper hrest
  | arg lower upper => exact scanFrom_arg lower upper hrest
  | leftParen => exact scanFrom_cons (by decide) (by decide) (scanOne_punctuation rfl)
  | rightParen => exact scanFrom_cons (by decide) (by decide) (scanOne_punctuation rfl)
  | comma => exact scanFrom_cons (by decide) (by decide) (scanOne_punctuation rfl)
  | plus => exact scanFrom_cons (by decide) (by decide) (scanOne_punctuation rfl)
  | equals => exact scanFrom_cons (by decide) (by decide) (scanOne_punctuation rfl)

end Spelling

/-! ## What is read -/

section Scanned

variable {total : Nat} {c : Char} {cs rest rest' digits : List Char} {acc ts : List Token} {t : Token}

theorem spellable_of_punctuation (h : punctuation? c = some t) : t.Spellable := by
  unfold punctuation? at h
  split at h
  next =>
    cases h
    exact .leftParen
  next =>
    cases h
    exact .rightParen
  next =>
    cases h
    exact .comma
  next =>
    cases h
    exact .plus
  next =>
    cases h
    exact .equals
  next => cases h

theorem spellable_of_ofArgument (h : ofArgument digits = .ok t) : t.Spellable := by
  simp only [ofArgument] at h
  split at h
  next => cases h
  next hfits =>
    split at h
    next => cases h
    next hpositive =>
      cases h
      exact .arg (Nat.pos_of_ne_zero hpositive) (Nat.lt_of_not_le (not_or.mp hfits).2)

theorem spellable_of_ofLiteral (h : ofLiteral c rest = .ok t) : t.Spellable := by
  unfold ofLiteral at h
  dsimp only at h
  generalize (if c = '-' then rest else c :: rest) = digits at h
  generalize (if c = '-' then _ else _ : Int) = n at h
  split at h
  next => cases h
  next hfits =>
    cases h
    rw [not_or, not_or] at hfits
    exact .int (Int.not_lt.mp hfits.2.1) (Int.not_le.mp hfits.2.2)

theorem spellable_of_ofWord (hstarts : startsName c = true)
    (hcontinues : ∀ d ∈ cs, continuesName d = true) (h : ofWord (c :: cs) = .ok t) :
    t.Spellable := by
  have hother : ∀ d, continuesName d = true ↔
      (d.isAlphanum = true ∨ d = '_' ∨ d = '-' ∨ d = '.') := by
    intro d
    simp [continuesName, or_assoc]
  have hfirst : c.isAlpha = true ∨ c = '_' := by simpa [startsName] using hstarts
  unfold ofWord at h
  split at h
  next => cases h
  next hword =>
    cases h
    rw [not_or, hasAdjacentDots_eq_true_iff] at hword
    refine .name ⟨⟨c, by simp, hfirst⟩, ?_, by simpa using hword.2, by simpa using hword.1⟩
    intro d hd
    rw [String.toList_ofList] at hd
    rcases List.mem_cons.mp hd with rfl | hd
    · exact hfirst.imp (fun h => by simp [Char.isAlphanum, h]) .inl
    · exact (hother d).mp (hcontinues d hd)

theorem spellable_of_scanOne (h : scanOne total c rest = .ok (t, rest')) : t.Spellable := by
  unfold scanOne at h
  split at h
  next token hpunctuation =>
    cases h
    exact spellable_of_punctuation hpunctuation
  next =>
    split at h
    next =>
      obtain ⟨⟨s, after⟩, -, heq⟩ := except_bind_eq_ok h
      cases heq
      exact .text s
    next =>
      split at h
      next =>
        obtain ⟨token, htoken, heq⟩ := except_bind_eq_ok h
        cases heq
        exact spellable_of_ofArgument htoken
      next =>
        split at h
        next =>
          obtain ⟨token, htoken, heq⟩ := except_bind_eq_ok h
          cases heq
          exact spellable_of_ofLiteral htoken
        next =>
          split at h
          next hstarts =>
            obtain ⟨token, htoken, heq⟩ := except_bind_eq_ok h
            cases heq
            exact spellable_of_ofWord hstarts (fun d hd => List.mem_takeWhile_imp hd) htoken
          next => cases h

theorem spellable_of_scanFrom (h : scanFrom total acc cs = .ok ts) (hacc : ∀ t ∈ acc, t.Spellable) :
    ∀ t ∈ ts, t.Spellable := by
  fun_induction scanFrom total acc cs with
  | case1 acc =>
    cases h
    simpa using hacc
  | case2 acc c rest hblank ih => exact ih h hacc
  | case3 acc rest hblank =>
    cases h
    simpa using hacc
  | case4 acc c rest hblank hcomment fault hscan => cases h
  | case5 acc c rest hblank hcomment token rest' hscan ih =>
    apply ih h
    rw [List.forall_mem_cons]
    exact ⟨spellable_of_scanOne hscan, hacc⟩

/-- Only tokens that can be spelled are read. -/
theorem spellable_of_scan (h : scan cs = .ok ts) : ∀ t ∈ ts, t.Spellable :=
  spellable_of_scanFrom h fun _ ht => nomatch ht

end Scanned

/-! ## Lines -/

theorem scanFrom_nil (total : Nat) (acc : List Token) : scanFrom total acc [] = .ok acc.reverse := by
  rw [scanFrom]

theorem scanFrom_space (total : Nat) (acc : List Token) (rest : List Char) :
    scanFrom total acc (' ' :: rest) = scanFrom total acc rest := by
  rw [scanFrom, if_pos (.inl rfl)]

theorem scanFrom_spellLine {total : Nat} {ts : List Token} (h : ∀ t ∈ ts, t.Spellable)
    (acc : List Token) : scanFrom total acc (spellLine ts) = .ok (acc.reverse ++ ts) := by
  unfold spellLine
  induction ts generalizing acc with
  | nil =>
    rw [List.append_nil]
    exact scanFrom_nil total acc
  | cons t ts ih =>
    have ht : t.Spellable := h t List.mem_cons_self
    have ih := ih (fun u hu => h u (List.mem_cons_of_mem t hu)) (t :: acc)
    rw [List.reverse_cons, List.append_assoc] at ih
    cases ts with
    | nil =>
      rw [List.map_singleton, List.intercalate_singleton, ← List.append_nil t.spell,
        scanFrom_spell ht separated_nil]
      exact ih
    | cons u ts =>
      rw [List.map_cons, List.map_cons, List.intercalate_cons_cons, List.append_assoc,
        List.singleton_append, scanFrom_spell ht (separated_cons _), scanFrom_space]
      exact ih

/-- Reading undoes spelling. -/
theorem scan_spellLine {ts : List Token} (h : ∀ t ∈ ts, t.Spellable) :
    scan (spellLine ts) = .ok ts :=
  scanFrom_spellLine h []

/-- Tokens at the limits of their kinds, and a text of marks that mean something outside of it. -/
def awkward : List Token :=
  [.name "_lib.two-parts", .leftParen, .text "\"$1\\ + #\n\té=", .comma, .int (-0x8000000000000000),
    .plus, .int 0x7fffffffffffffff, .comma, .arg 0xffffffffffffffff, .rightParen, .equals]

theorem scan_awkward :
    (∀ t ∈ awkward, t.Spellable) ∧
      String.ofList (spellLine awkward) =
        "_lib.two-parts ( \"\\\"$1\\\\ + #\\n\\té=\" , -9223372036854775808 + 9223372036854775807 , " ++
          "$18446744073709551615 ) =" ∧
      scan (spellLine awkward) = .ok awkward := by
  have hname : IsScriptName "_lib.two-parts" := by decide
  have hspellable : ∀ t ∈ awkward, t.Spellable := by
    simp only [awkward, List.forall_mem_cons, List.not_mem_nil, false_imp_iff, implies_true, and_true]
    exact ⟨.name hname, .leftParen, .text _, .comma, .int (by decide) (by decide), .plus,
      .int (by decide) (by decide), .comma, .arg (by decide) (by decide), .rightParen, .equals⟩
  exact ⟨hspellable, by decide, scan_spellLine hspellable⟩

end Token

end HotReload
