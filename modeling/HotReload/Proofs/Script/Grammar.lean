import HotReload.Script.Source
import HotReload.Proofs.Except
import Mathlib.Data.Set.Subsingleton

/-!
# The grammar of expressions

An expression is one or more terms with `+` between them, and a term is a text, an integer, an
argument, a name, a name with arguments in parentheses, or an expression in parentheses
(`Grammar.Sum`, `Grammar.Term`). What is read from tokens is what the grammar derives from them
(`ofTokens_eq_ok_iff`): the reader only accepts what is derived (`sum_of_parse`), and all of it
(`Grammar.Sum.reads`), up to a token that cannot continue it.
-/

namespace HotReload

/-! ## Derivations -/

/-- The complete name that a name stands for in a name space. -/
inductive StandsFor (space : String) : (name complete : String) → Prop
  | dotted {name : String} (dot : '.' ∈ name.toList) : StandsFor space name name
  | plain {name : String} (noDot : '.' ∉ name.toList) : StandsFor space name (space ++ "." ++ name)

/-- The level of a term: one for each expression around it and one for each `+` before it in each of
those. The numbers of these `+` are given, those of the innermost expression first. -/
def levelOf : List Nat → Nat
  | [] => 0
  | pluses :: around => levelOf around + pluses + 1

theorem levelOf_first (around : List Nat) : levelOf (0 :: around) = levelOf around + 1 := rfl

theorem levelOf_next (n : Nat) (around : List Nat) :
    levelOf ((n + 1) :: around) = levelOf (n :: around) + 1 := rfl

theorem levelOf_replicate (n : Nat) : levelOf (List.replicate n 0) = n := by
  induction n with
  | zero => rfl
  | succ n ih => rw [List.replicate_succ, levelOf_first, ih]

namespace Grammar

variable (space : String)

mutual

/-- An expression of terms with `pluses` signs `+` between them, inside the expressions that `around`
tells of: for each of them the number of `+` before this one. -/
inductive Sum : (around : List Nat) → (pluses : Nat) → List Token → Expr → Prop
  | first (shallow : levelOf (0 :: around) ≤ maxNesting) (term : Term (0 :: around) ts e) :
      Sum around 0 ts e
  | next (left : Sum around n ts l) (shallow : levelOf ((n + 1) :: around) ≤ maxNesting)
      (right : Term ((n + 1) :: around) us r) :
      Sum around (n + 1) (ts ++ .plus :: us) (.add l r)

/-- A term inside the expressions that `around` tells of. -/
inductive Term : (around : List Nat) → List Token → Expr → Prop
  | text (s : String) : Term around [.text s] (.text s)
  | int (n : Int) : Term around [.int n] (.int n)
  | arg (n : Nat) : Term around [.arg n] (.arg n)
  | group (inner : Sum around n ts e) : Term around (.leftParen :: ts ++ [.rightParen]) e
  | ref (name : StandsFor space s complete) : Term around [.name s] (.ref complete)
  | callAlone (name : StandsFor space s complete) :
      Term around [.name s, .leftParen, .rightParen] (.call complete [])
  | call (name : StandsFor space s complete) (given : Arguments around ts args) :
      Term around (.name s :: .leftParen :: ts ++ [.rightParen]) (.call complete args)

/-- One or more arguments with commas between them. -/
inductive Arguments : (around : List Nat) → List Token → List Expr → Prop
  | last (arg : Sum around n ts e) : Arguments around ts [e]
  | more (arg : Sum around n ts e) (others : Arguments around us es) :
      Arguments around (ts ++ .comma :: us) (e :: es)

end

end Grammar

theorem standsFor_iff {space name complete : String} :
    StandsFor space name complete ↔ qualify space name = complete := by
  unfold qualify
  constructor
  · rintro (dot | noDot)
    · rw [if_pos (List.contains_iff_mem.mpr dot)]
    · rw [if_neg (List.contains_iff_mem.not.mpr noDot)]
  · rintro rfl
    split
    next h => exact .dotted (List.contains_iff_mem.mp h)
    next h => exact .plain (List.contains_iff_mem.not.mp h)

/-! ## What the reader does -/

/-- Something is read, and some tokens are left. -/
def Reads {α : Type} {bound : Nat} (x : Except SyntaxFault (Parsed α bound)) (a : α)
    (rest : List Token) : Prop :=
  ∃ p, x = .ok p ∧ p.value = a ∧ p.rest = rest

section Reader

variable {α : Type} {bound level outer : Nat} {space s : String} {a : α} {e left : Expr}
  {acc es : List Expr} {ts rest : List Token} {t want : Token}

theorem Reads.shorter {x : Except SyntaxFault (Parsed α bound)} (h : Reads x a rest) :
    rest.length < bound := by
  obtain ⟨p, -, -, rfl⟩ := h
  exact p.shorter

theorem reads_ok {p : Parsed α bound} : Reads (.ok p) a rest ↔ p.value = a ∧ p.rest = rest := by
  simp [Reads]

theorem reads_weaken {m : Nat} {p : Parsed α m} (h : m ≤ bound) :
    Reads (.ok (p.weaken h)) a rest ↔ p.value = a ∧ p.rest = rest :=
  reads_ok

theorem not_reads_error {fault : SyntaxFault} :
    ¬Reads (.error fault : Except SyntaxFault (Parsed α bound)) a rest := by
  simp [Reads]

/-- What is read in two parts. -/
theorem reads_bind {β : Type} {m : Nat} {x : Except SyntaxFault (Parsed β m)}
    {f : Parsed β m → Except SyntaxFault (Parsed α bound)} :
    Reads (x.bind f) a rest ↔ ∃ p, x = .ok p ∧ Reads (f p) a rest := by
  cases x with
  | error fault => simp [Reads, Except.bind]
  | ok p => simp [Reads, Except.bind]

theorem reads_parse_iff :
    Reads (Expr.parse space outer ts) e rest ↔
      outer + 1 ≤ maxNesting ∧ ∃ first mid, Reads (Expr.parseTerm space (outer + 1) ts) first mid ∧
        Reads (Expr.parseSum space (outer + 1) first mid) e rest := by
  rw [Expr.parse]
  by_cases hdeep : maxNesting < outer + 1
  · rw [if_pos hdeep]
    exact ⟨fun h => absurd h not_reads_error, fun h => absurd h.1 (Nat.not_le_of_lt hdeep)⟩
  · rw [if_neg hdeep]
    constructor
    · intro h
      obtain ⟨first, hfirst, h⟩ := reads_bind.mp h
      obtain ⟨all, hall, h⟩ := reads_bind.mp h
      exact ⟨Nat.le_of_not_lt hdeep, first.value, first.rest, ⟨first, hfirst, rfl, rfl⟩,
        ⟨all, hall, (reads_weaken _).mp h⟩⟩
    · rintro ⟨-, _, _, ⟨first, hfirst, rfl, rfl⟩, ⟨all, hall, h⟩⟩
      exact reads_bind.mpr ⟨first, hfirst, reads_bind.mpr ⟨all, hall, (reads_weaken _).mpr h⟩⟩

theorem reads_parseSum_plus_iff :
    Reads (Expr.parseSum space level left (.plus :: ts)) e rest ↔
      level + 1 ≤ maxNesting ∧ ∃ right mid, Reads (Expr.parseTerm space (level + 1) ts) right mid ∧
        Reads (Expr.parseSum space (level + 1) (.add left right) mid) e rest := by
  rw [Expr.parseSum]
  by_cases hdeep : maxNesting < level + 1
  · rw [if_pos hdeep]
    exact ⟨fun h => absurd h not_reads_error, fun h => absurd h.1 (Nat.not_le_of_lt hdeep)⟩
  · rw [if_neg hdeep]
    constructor
    · intro h
      obtain ⟨right, hright, h⟩ := reads_bind.mp h
      obtain ⟨all, hall, h⟩ := reads_bind.mp h
      exact ⟨Nat.le_of_not_lt hdeep, right.value, right.rest, ⟨right, hright, rfl, rfl⟩,
        ⟨all, hall, (reads_weaken _).mp h⟩⟩
    · rintro ⟨-, _, _, ⟨right, hright, rfl, rfl⟩, ⟨all, hall, h⟩⟩
      exact reads_bind.mpr ⟨right, hright, reads_bind.mpr ⟨all, hall, (reads_weaken _).mpr h⟩⟩

theorem reads_parseSum_iff (h : ts.head? ≠ some .plus) :
    Reads (Expr.parseSum space level left ts) e rest ↔ left = e ∧ ts = rest := by
  rw [Expr.parseSum]
  · exact reads_ok
  · rintro rest' rfl
    exact h rfl

theorem reads_expectToken_iff :
    Reads (expectToken want ts) () rest ↔ ts = want :: rest := by
  unfold expectToken
  cases ts with
  | nil => simp [not_reads_error]
  | cons t ts =>
    dsimp only
    split
    next heq =>
      subst heq
      simp [reads_ok]
    next hne => simp [not_reads_error, hne]

theorem reads_parseTerm_group_iff :
    Reads (Expr.parseTerm space level (.leftParen :: ts)) e rest ↔
      Reads (Expr.parse space level ts) e (.rightParen :: rest) := by
  rw [Expr.parseTerm]
  constructor
  · intro h
    obtain ⟨inner, hinner, h⟩ := reads_bind.mp h
    obtain ⟨close, hclose, h⟩ := reads_bind.mp h
    obtain ⟨hvalue, hrest⟩ := reads_ok.mp h
    exact ⟨inner, hinner, hvalue, reads_expectToken_iff.mp ⟨close, hclose, rfl, hrest⟩⟩
  · rintro ⟨inner, hinner, hvalue, hrest⟩
    obtain ⟨close, hclose, -, hafter⟩ := reads_expectToken_iff.mpr hrest
    exact reads_bind.mpr ⟨inner, hinner, reads_bind.mpr ⟨close, hclose, reads_ok.mpr ⟨hvalue, hafter⟩⟩⟩

theorem reads_parseTerm_ref_iff (h : ts.head? ≠ some .leftParen) :
    Reads (Expr.parseTerm space level (.name s :: ts)) e rest ↔
      .ref (qualify space s) = e ∧ ts = rest := by
  rw [Expr.parseTerm]
  · exact reads_ok
  · rintro rest' rfl
    exact h rfl
  · rintro rest' rfl
    exact h rfl

theorem reads_parseTerm_callAlone_iff :
    Reads (Expr.parseTerm space level (.name s :: .leftParen :: .rightParen :: ts)) e rest ↔
      .call (qualify space s) [] = e ∧ ts = rest := by
  rw [Expr.parseTerm]
  exact reads_ok

theorem reads_parseTerm_call_iff (h : ts.head? ≠ some .rightParen) :
    Reads (Expr.parseTerm space level (.name s :: .leftParen :: ts)) e rest ↔
      ∃ args, Reads (Expr.parseArguments space level [] ts) args rest ∧
        .call (qualify space s) args = e := by
  rw [Expr.parseTerm]
  · constructor
    · intro h
      obtain ⟨args, hargs, h⟩ := reads_bind.mp h
      obtain ⟨hvalue, hrest⟩ := reads_ok.mp h
      exact ⟨args.value, ⟨args, hargs, rfl, hrest⟩, hvalue⟩
    · rintro ⟨_, ⟨args, hargs, rfl, hrest⟩, hvalue⟩
      exact reads_bind.mpr ⟨args, hargs, reads_ok.mpr ⟨hvalue, hrest⟩⟩
  · rintro rest' rfl
    exact h rfl

theorem reads_parseArguments_iff :
    Reads (Expr.parseArguments space level acc ts) es rest ↔
      (∃ e, Reads (Expr.parse space level ts) e (.rightParen :: rest) ∧ (e :: acc).reverse = es) ∨
        ∃ e mid, Reads (Expr.parse space level ts) e (.comma :: mid) ∧
          Reads (Expr.parseArguments space level (e :: acc) mid) es rest := by
  rw [Expr.parseArguments]
  constructor
  · intro h
    obtain ⟨arg, harg, h⟩ := reads_bind.mp h
    split at h
    next => exact absurd h not_reads_error
    next mid hmid =>
      obtain ⟨more, hmore, h⟩ := reads_bind.mp h
      exact .inr ⟨arg.value, mid, ⟨arg, harg, rfl, hmid⟩, ⟨more, hmore, (reads_weaken _).mp h⟩⟩
    next mid hmid =>
      obtain ⟨hvalue, rfl⟩ := reads_ok.mp h
      exact .inl ⟨arg.value, ⟨arg, harg, rfl, hmid⟩, hvalue⟩
    next => exact absurd h not_reads_error
  · rintro (⟨_, ⟨⟨value, mid, short⟩, harg, rfl, rfl⟩, rfl⟩ |
      ⟨_, next, ⟨⟨value, mid, short⟩, harg, rfl, rfl⟩, ⟨more, hmore, h⟩⟩)
    · exact reads_bind.mpr ⟨_, harg, reads_ok.mpr ⟨rfl, rfl⟩⟩
    · exact reads_bind.mpr ⟨_, harg, reads_bind.mpr ⟨more, hmore, (reads_weaken _).mpr h⟩⟩

end Reader

/-! ## What is read is derived -/

section Soundness

variable {space : String}

mutual

theorem sum_of_parse {around : List Nat} {ts rest : List Token} {e : Expr}
    (h : Reads (Expr.parse space (levelOf around) ts) e rest) :
    ∃ used n, ts = used ++ rest ∧ Grammar.Sum space around n used e := by
  obtain ⟨shallow, first, mid, hfirst, hall⟩ := reads_parse_iff.mp h
  have hshorter := hfirst.shorter
  rw [← levelOf_first] at shallow hfirst hall
  obtain ⟨before, hbefore, hterm⟩ := term_of_parseTerm hfirst
  obtain ⟨used, n, hused, hsum⟩ := sum_of_parseSum (.first shallow hterm) hall
  exact ⟨before ++ used, n, by rw [hbefore, hused, List.append_assoc], hsum⟩
termination_by (ts.length, 1)
decreasing_by
  · exact Prod.Lex.right _ (by decide)
  · exact Prod.Lex.left _ _ hshorter

theorem sum_of_parseSum {around : List Nat} {n : Nat} {before ts rest : List Token} {left e : Expr}
    (hleft : Grammar.Sum space around n before left)
    (h : Reads (Expr.parseSum space (levelOf (n :: around)) left ts) e rest) :
    ∃ used m, ts = used ++ rest ∧ Grammar.Sum space around m (before ++ used) e := by
  by_cases hplus : ts.head? = some .plus
  · obtain ⟨tail, hts⟩ := List.head?_eq_some_iff.mp hplus
    have htail : tail.length < ts.length := by simp [hts]
    obtain ⟨shallow, right, mid, hright, hall⟩ := reads_parseSum_plus_iff.mp (hts ▸ h)
    have hmid : mid.length < ts.length := Nat.lt_trans hright.shorter htail
    rw [← levelOf_next] at shallow hright hall
    obtain ⟨term, hterm, hderives⟩ := term_of_parseTerm hright
    obtain ⟨used, m, hused, hsum⟩ := sum_of_parseSum (.next hleft shallow hderives) hall
    refine ⟨.plus :: term ++ used, m, by simp [hts, hterm, hused], ?_⟩
    rwa [List.append_assoc, List.cons_append] at hsum
  · obtain ⟨rfl, hts⟩ := (reads_parseSum_iff hplus).mp h
    exact ⟨[], n, hts, (List.append_nil before).symm ▸ hleft⟩
termination_by (ts.length, 0)
decreasing_by
  · exact Prod.Lex.left _ _ htail
  · exact Prod.Lex.left _ _ hmid

theorem term_of_parseTerm {around : List Nat} {ts rest : List Token} {e : Expr}
    (h : Reads (Expr.parseTerm space (levelOf around) ts) e rest) :
    ∃ used, ts = used ++ rest ∧ Grammar.Term space around used e := by
  cases hts : ts with
  | nil =>
    rw [hts, Expr.parseTerm] at h
    exact absurd h not_reads_error
  | cons t tail =>
    have htail : tail.length < ts.length := by simp [hts]
    rw [hts] at h
    cases t with
    | text s =>
      rw [Expr.parseTerm, reads_ok] at h
      obtain ⟨rfl, rfl⟩ := h
      exact ⟨[.text s], rfl, .text s⟩
    | int n =>
      rw [Expr.parseTerm, reads_ok] at h
      obtain ⟨rfl, rfl⟩ := h
      exact ⟨[.int n], rfl, .int n⟩
    | arg n =>
      rw [Expr.parseTerm, reads_ok] at h
      obtain ⟨rfl, rfl⟩ := h
      exact ⟨[.arg n], rfl, .arg n⟩
    | leftParen =>
      obtain ⟨used, n, hused, hsum⟩ := sum_of_parse (reads_parseTerm_group_iff.mp h)
      exact ⟨.leftParen :: used ++ [.rightParen], by simp [hused], .group hsum⟩
    | name s =>
      by_cases hopen : tail.head? = some .leftParen
      · obtain ⟨given, hgiven⟩ := List.head?_eq_some_iff.mp hopen
        have hshorter : given.length < ts.length := by
          rw [hgiven] at htail
          exact Nat.lt_of_succ_lt htail
        rw [hgiven] at h
        by_cases hclose : given.head? = some .rightParen
        · obtain ⟨after, rfl⟩ := List.head?_eq_some_iff.mp hclose
          obtain ⟨rfl, rfl⟩ := reads_parseTerm_callAlone_iff.mp h
          exact ⟨[.name s, .leftParen, .rightParen], by simp [hgiven],
            .callAlone (standsFor_iff.mpr rfl)⟩
        · obtain ⟨args, hargs, rfl⟩ := (reads_parseTerm_call_iff hclose).mp h
          obtain ⟨used, es, hused, rfl, hderives⟩ := arguments_of_parseArguments hargs
          exact ⟨.name s :: .leftParen :: used ++ [.rightParen], by simp [hgiven, hused],
            .call (standsFor_iff.mpr rfl) hderives⟩
      · obtain ⟨rfl, rfl⟩ := (reads_parseTerm_ref_iff hopen).mp h
        exact ⟨[.name s], rfl, .ref (standsFor_iff.mpr rfl)⟩
    | rightParen | comma | plus | equals =>
      rw [Expr.parseTerm] at h
      · exact absurd h not_reads_error
      all_goals exact nofun
termination_by (ts.length, 0)
decreasing_by
  · exact Prod.Lex.left _ _ hshorter
  · exact Prod.Lex.left _ _ htail

theorem arguments_of_parseArguments {around : List Nat} {ts rest : List Token} {acc es : List Expr}
    (h : Reads (Expr.parseArguments space (levelOf around) acc ts) es rest) :
    ∃ used args, ts = used ++ .rightParen :: rest ∧ es = acc.reverse ++ args ∧
      Grammar.Arguments space around used args := by
  rcases reads_parseArguments_iff.mp h with ⟨e, harg, hes⟩ | ⟨e, mid, harg, hmore⟩
  · obtain ⟨used, n, hused, hsum⟩ := sum_of_parse harg
    exact ⟨used, [e], hused, hes.symm.trans List.reverse_cons, .last hsum⟩
  · have hshorter : mid.length < ts.length := Nat.lt_of_succ_lt harg.shorter
    obtain ⟨used, n, hused, hsum⟩ := sum_of_parse harg
    obtain ⟨others, args, hothers, hes, hargs⟩ := arguments_of_parseArguments hmore
    refine ⟨used ++ .comma :: others, e :: args, by simp [hused, hothers], ?_, .more hsum hargs⟩
    rw [hes, List.reverse_cons, List.append_assoc, List.singleton_append]
termination_by (ts.length, 2)
decreasing_by
  · exact Prod.Lex.right _ (by decide)
  · exact Prod.Lex.right _ (by decide)
  · exact Prod.Lex.left _ _ hshorter

end

end Soundness

/-! ## What is derived is read -/

section Completeness

variable {space : String}

theorem Reads.head?_ne_rightParen {level : Nat} {acc es : List Expr} {ts rest : List Token}
    (h : Reads (Expr.parseArguments space level acc ts) es rest) :
    ts.head? ≠ some .rightParen := by
  intro hclose
  obtain ⟨tail, rfl⟩ := List.head?_eq_some_iff.mp hclose
  have hparse : ∀ e mid, ¬Reads (Expr.parse space level (.rightParen :: tail)) e mid := by
    intro e mid hreads
    obtain ⟨-, first, after, hfirst, -⟩ := reads_parse_iff.mp hreads
    rw [Expr.parseTerm] at hfirst
    · exact not_reads_error hfirst
    all_goals exact nofun
  rcases reads_parseArguments_iff.mp h with ⟨e, harg, -⟩ | ⟨e, mid, harg, -⟩
  · exact hparse e _ harg
  · exact hparse e _ harg

mutual

/-- What a derivation has derived is read, and what follows it is added by the reader as to any other
expression that was read so far. -/
theorem Grammar.Sum.continues {around : List Nat} {n : Nat} {ts : List Token} {e : Expr} :
    Grammar.Sum space around n ts e → ∀ {rest : List Token} {all : Expr} {after : List Token},
      rest.head? ≠ some .leftParen →
      Reads (Expr.parseSum space (levelOf (n :: around)) e rest) all after →
      Reads (Expr.parse space (levelOf around) (ts ++ rest)) all after
  | .first shallow term, rest, all, after, hrest, hall => by
    rw [levelOf_first] at shallow hall
    exact reads_parse_iff.mpr ⟨shallow, e, rest, levelOf_first around ▸ term.reads hrest, hall⟩
  | .next left shallow right, rest, all, after, hrest, hall => by
    rw [List.append_assoc, List.cons_append]
    refine left.continues (by simp) ?_
    rw [levelOf_next] at shallow hall
    exact reads_parseSum_plus_iff.mpr ⟨shallow, _, rest, levelOf_next _ around ▸ right.reads hrest, hall⟩

theorem Grammar.Term.reads {around : List Nat} {ts : List Token} {e : Expr} :
    Grammar.Term space around ts e → ∀ {rest : List Token}, rest.head? ≠ some .leftParen →
      Reads (Expr.parseTerm space (levelOf around) (ts ++ rest)) e rest
  | .text s, rest, hrest => by
    rw [List.singleton_append, Expr.parseTerm, reads_ok]
    exact ⟨rfl, rfl⟩
  | .int n, rest, hrest => by
    rw [List.singleton_append, Expr.parseTerm, reads_ok]
    exact ⟨rfl, rfl⟩
  | .arg n, rest, hrest => by
    rw [List.singleton_append, Expr.parseTerm, reads_ok]
    exact ⟨rfl, rfl⟩
  | .group inner, rest, hrest => by
    rw [List.cons_append, List.cons_append, List.append_assoc]
    refine reads_parseTerm_group_iff.mpr (inner.continues (by simp) ?_)
    exact (reads_parseSum_iff (by simp)).mpr ⟨rfl, rfl⟩
  | .ref name, rest, hrest => by
    rw [List.singleton_append, reads_parseTerm_ref_iff hrest, standsFor_iff.mp name]
    exact ⟨rfl, rfl⟩
  | .callAlone name, rest, hrest => by
    refine reads_parseTerm_callAlone_iff.mpr ⟨?_, rfl⟩
    rw [standsFor_iff.mp name]
  | @Grammar.Term.call _ s complete around ts args name given, rest, hrest => by
    have hargs := given.reads [] rest
    have htokens : .name s :: .leftParen :: ts ++ [.rightParen] ++ rest =
        .name s :: .leftParen :: (ts ++ .rightParen :: rest) := by simp
    rw [htokens, reads_parseTerm_call_iff hargs.head?_ne_rightParen, standsFor_iff.mp name]
    exact ⟨_, hargs, rfl⟩

theorem Grammar.Arguments.reads {around : List Nat} {ts : List Token} {es : List Expr} :
    Grammar.Arguments space around ts es → ∀ (acc : List Expr) (rest : List Token),
      Reads (Expr.parseArguments space (levelOf around) acc (ts ++ .rightParen :: rest))
        (acc.reverse ++ es) rest
  | .last arg, acc, rest => by
    refine reads_parseArguments_iff.mpr (.inl ⟨_, arg.continues (by simp) ?_, List.reverse_cons⟩)
    exact (reads_parseSum_iff (by simp)).mpr ⟨rfl, rfl⟩
  | @Grammar.Arguments.more _ around n ts e us es arg others, acc, rest => by
    have hothers := others.reads (e :: acc) rest
    rw [List.reverse_cons, List.append_assoc, List.singleton_append] at hothers
    rw [List.append_assoc, List.cons_append]
    refine reads_parseArguments_iff.mpr (.inr ⟨_, _, arg.continues (by simp) ?_, hothers⟩)
    exact (reads_parseSum_iff (by simp)).mpr ⟨rfl, rfl⟩

end

/-- What a derivation has derived is read, up to a token that cannot continue it. -/
theorem Grammar.Sum.reads {around : List Nat} {n : Nat} {ts rest : List Token} {e : Expr}
    (h : Grammar.Sum space around n ts e) (hopen : rest.head? ≠ some .leftParen)
    (hplus : rest.head? ≠ some .plus) :
    Reads (Expr.parse space (levelOf around) (ts ++ rest)) e rest :=
  h.continues hopen ((reads_parseSum_iff hplus).mpr ⟨rfl, rfl⟩)

end Completeness

/-! ## Whole expressions -/

/-- Reads an expression and asks for the end of the tokens. -/
def Expr.ofTokens (space : String) (ts : List Token) : Except SyntaxFault Expr := do
  let body ← Expr.parse space 0 ts
  Statement.expectEnd body.rest
  return body.value

/-- The grammar derives an expression from tokens in a name space. -/
def Grammar.Derives (space : String) (ts : List Token) (e : Expr) : Prop :=
  ∃ n, Grammar.Sum space [] n ts e

section Whole

variable {space : String} {ts : List Token} {e : Expr}

theorem ofTokens_eq_ok_iff_reads :
    Expr.ofTokens space ts = .ok e ↔ Reads (Expr.parse space 0 ts) e [] := by
  constructor
  · intro h
    obtain ⟨body, hbody, h⟩ := except_bind_eq_ok h
    obtain ⟨_, hend, h⟩ := except_bind_eq_ok h
    refine ⟨body, hbody, Except.ok.inj h, ?_⟩
    cases hrest : body.rest with
    | nil => rfl
    | cons t rest =>
      rw [hrest] at hend
      cases hend
  · rintro ⟨body, hbody, rfl, hrest⟩
    rw [Expr.ofTokens, hbody]
    change ((Statement.expectEnd body.rest).bind fun _ => .ok body.value) = _
    rw [hrest]
    rfl

theorem ofTokens_eq_ok_iff : Expr.ofTokens space ts = .ok e ↔ Grammar.Derives space ts e := by
  rw [ofTokens_eq_ok_iff_reads]
  constructor
  · intro h
    obtain ⟨used, n, hused, hsum⟩ : ∃ used n, ts = used ++ [] ∧ Grammar.Sum space [] n used e :=
      sum_of_parse h
    rw [List.append_nil] at hused
    exact ⟨n, hused ▸ hsum⟩
  · rintro ⟨n, hsum⟩
    have hreads : Reads (Expr.parse space 0 (ts ++ [])) e [] := hsum.reads nofun nofun
    rwa [List.append_nil] at hreads

/-- Tokens are read as an expression if and only if the grammar derives it from them, and it derives
no other. -/
theorem accepts_grammar (space : String) (ts : List Token) :
    (∀ e, Expr.ofTokens space ts = .ok e ↔ Grammar.Derives space ts e) ∧
      {e | Grammar.Derives space ts e}.Subsingleton := by
  refine ⟨fun e => ofTokens_eq_ok_iff, ?_⟩
  intro e he e' he'
  have hok := ofTokens_eq_ok_iff.mpr he
  rw [ofTokens_eq_ok_iff.mpr he'] at hok
  exact (Except.ok.inj hok).symm

end Whole

end HotReload
