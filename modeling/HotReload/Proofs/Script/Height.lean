import HotReload.Proofs.Script.Lines
import HotReload.Proofs.Script.Rules

/-!
# The height of what is read

The level of a term counts what is around it and the `+` before it, but not what was closed before
it: a `)` directly before a `+` puts an expression of any height one level below the sum, and the sum
goes on at the level where the parenthesis was opened. Where no `)` stands directly before a `+`, an
expression is no higher than the limit of levels (`Grammar.Sum.height_le_of_noParen`). Otherwise it
may be as high as all numbers up to the limit add up to, and no higher (`Grammar.Sum.height_add_le`,
`exists_sum_of_reach`), which is more than evaluations may nest (`overgrown_limited`).
-/

namespace HotReload

/-! ## The height of what is derived -/

theorem Expr.height_pos (e : Expr) : 1 ≤ e.height := by
  cases e with
  | text s => exact Nat.le_refl 1
  | int n => exact Nat.le_refl 1
  | arg n => exact Nat.le_refl 1
  | ref name => exact Nat.le_refl 1
  | call name args => exact Nat.succ_le_succ (Nat.zero_le _)
  | add left right => exact Nat.succ_le_succ (Nat.zero_le _)

/-- The height that expressions reach when so many levels are left. -/
def Grammar.reach (levels : Nat) : Nat :=
  levels * (levels + 1) / 2

theorem Grammar.reach_succ (levels : Nat) : reach (levels + 1) = reach levels + (levels + 1) := by
  have hproduct : (levels + 1) * (levels + 1 + 1) = levels * (levels + 1) + (levels + 1) * 2 := by
    rw [Nat.mul_comm levels, ← Nat.mul_add]
  rw [reach, reach, hproduct, Nat.add_mul_div_right _ _ (by decide)]

section Derived

variable {space : String}

theorem Grammar.Sum.shallow {around : List Nat} {n : Nat} {ts : List Token} {e : Expr}
    (h : Grammar.Sum space around n ts e) : levelOf around + n + 1 ≤ maxNesting := by
  cases h with
  | first shallow term => exact shallow
  | next left shallow right => exact shallow

mutual

/-- Every `+` adds one to the height that is reached with one level less than there are left. -/
theorem Grammar.Sum.height_add_le {around : List Nat} {n : Nat} {ts : List Token} {e : Expr} :
    Grammar.Sum space around n ts e → ∀ levels, maxNesting ≤ levelOf around + levels →
      e.height + levels ≤ reach levels + (n + 1)
  | .first shallow term, levels, hlevels => by
    rw [levelOf] at shallow
    obtain ⟨l, rfl⟩ : ∃ l, levels = l + 1 := Nat.exists_eq_add_one.mpr (by omega)
    have hterm := term.height_le l (by rw [levelOf]; omega)
    rw [reach_succ]
    omega
  | .next left shallow right, levels, hlevels => by
    rw [levelOf] at shallow
    obtain ⟨l, rfl⟩ : ∃ l, levels = l + 1 := Nat.exists_eq_add_one.mpr (by omega)
    -- The left part has its own levels left, not those of the `+`: only its number of signs is less.
    have hleft := left.height_add_le _ hlevels
    have hright := right.height_le l (by rw [levelOf]; omega)
    rw [Expr.height]
    rw [reach_succ] at hleft ⊢
    omega

theorem Grammar.Term.height_le {around : List Nat} {ts : List Token} {e : Expr} :
    Grammar.Term space around ts e → ∀ levels, maxNesting ≤ levelOf around + levels →
      e.height ≤ reach levels + 1
  | .text _, _, _ => Nat.le_add_left _ _
  | .int _, _, _ => Nat.le_add_left _ _
  | .arg _, _, _ => Nat.le_add_left _ _
  | .ref _, _, _ => Nat.le_add_left _ _
  | .callAlone _, _, _ => Nat.le_add_left _ _
  | .group inner, levels, hlevels => by
    have hinner := inner.height_add_le levels hlevels
    have hshallow := inner.shallow
    omega
  | .call _ given, _, hlevels => Nat.succ_le_succ (given.height_le _ hlevels)

theorem Grammar.Arguments.height_le {around : List Nat} {ts : List Token} {es : List Expr} :
    Grammar.Arguments space around ts es → ∀ levels, maxNesting ≤ levelOf around + levels →
      Expr.listHeight es ≤ reach levels
  | .last arg, levels, hlevels => by
    have harg := arg.height_add_le levels hlevels
    have hshallow := arg.shallow
    rw [Expr.listHeight, Expr.listHeight]
    omega
  | .more arg others, levels, hlevels => by
    have harg := arg.height_add_le levels hlevels
    have hshallow := arg.shallow
    have hothers := others.height_le levels hlevels
    rw [Expr.listHeight]
    omega

end

/-! ## Without a parenthesis before a sign -/

/-- No `)` stands directly before a `+`. -/
def NoParenBeforePlus (ts : List Token) : Prop :=
  ¬[.rightParen, .plus] <:+: ts

theorem NoParenBeforePlus.of_infix {ts us : List Token} (h : NoParenBeforePlus ts)
    (hpart : us <:+: ts) : NoParenBeforePlus us :=
  fun hpair => h (hpair.trans hpart)

theorem NoParenBeforePlus.getLast?_ne {ts us : List Token}
    (h : NoParenBeforePlus (ts ++ .plus :: us)) : ts.getLast? ≠ some .rightParen := by
  intro hlast
  obtain ⟨init, rfl⟩ := List.getLast?_eq_some_iff.mp hlast
  exact h ⟨init, us, by simp⟩

/-- A term that does not end with `)` has no parts. -/
theorem Grammar.Term.height_eq_one {around : List Nat} {ts : List Token} {e : Expr}
    (h : Grammar.Term space around ts e) (hlast : ts.getLast? ≠ some .rightParen) : e.height = 1 := by
  cases h with
  | text s => rfl
  | int n => rfl
  | arg n => rfl
  | ref name => rfl
  | callAlone name => rfl
  | group inner => exact absurd List.getLast?_concat hlast
  | call name given => exact absurd List.getLast?_concat hlast

/-- A sum whose terms have no parts. -/
theorem Grammar.Sum.height_le_of_getLast? {around : List Nat} {n : Nat} {ts : List Token} {e : Expr} :
    Grammar.Sum space around n ts e → NoParenBeforePlus ts → ts.getLast? ≠ some .rightParen →
      e.height ≤ n + 1
  | .first shallow term, hts, hlast => Nat.le_of_eq (term.height_eq_one hlast)
  | .next left shallow right, hts, hlast => by
    have hleft := left.height_le_of_getLast? (hts.of_infix (List.prefix_append _ _).isInfix)
      hts.getLast?_ne
    have hright := right.height_eq_one fun h => hlast (by simp [List.getLast?_cons, h])
    rw [Expr.height]
    omega

mutual

theorem Grammar.Sum.height_le_of_noParen {around : List Nat} {n : Nat} {ts : List Token} {e : Expr} :
    Grammar.Sum space around n ts e → NoParenBeforePlus ts → ∀ levels,
      maxNesting ≤ levelOf around + levels → e.height ≤ levels
  | .first shallow term, hts, levels, hlevels => by
    rw [levelOf] at shallow
    obtain ⟨l, rfl⟩ : ∃ l, levels = l + 1 := Nat.exists_eq_add_one.mpr (by omega)
    exact term.height_le_of_noParen hts l (by rw [levelOf]; omega)
  | @Grammar.Sum.next _ around n ts l us r left shallow right, hts, levels, hlevels => by
    rw [levelOf] at shallow
    obtain ⟨m, rfl⟩ : ∃ m, levels = m + (n + 2) := Nat.exists_eq_add_of_le' (by omega)
    have hleft := left.height_le_of_getLast? (hts.of_infix (List.prefix_append _ _).isInfix)
      hts.getLast?_ne
    have hright := right.height_le_of_noParen
      (hts.of_infix ((List.suffix_cons _ _).trans (List.suffix_append _ _)).isInfix) m
      (by rw [levelOf]; omega)
    rw [Expr.height]
    omega

theorem Grammar.Term.height_le_of_noParen {around : List Nat} {ts : List Token} {e : Expr} :
    Grammar.Term space around ts e → NoParenBeforePlus ts → ∀ levels,
      maxNesting ≤ levelOf around + levels → e.height ≤ levels + 1
  | .text _, _, _, _ => Nat.le_add_left _ _
  | .int _, _, _, _ => Nat.le_add_left _ _
  | .arg _, _, _, _ => Nat.le_add_left _ _
  | .ref _, _, _, _ => Nat.le_add_left _ _
  | .callAlone _, _, _, _ => Nat.le_add_left _ _
  | .group inner, hts, _, hlevels =>
    Nat.le_succ_of_le (inner.height_le_of_noParen (hts.of_infix ⟨[.leftParen], _, rfl⟩) _ hlevels)
  | .call _ given, hts, _, hlevels =>
    Nat.succ_le_succ (given.height_le_of_noParen (hts.of_infix ⟨[_, .leftParen], _, rfl⟩) _ hlevels)

theorem Grammar.Arguments.height_le_of_noParen {around : List Nat} {ts : List Token}
    {es : List Expr} :
    Grammar.Arguments space around ts es → NoParenBeforePlus ts → ∀ levels,
      maxNesting ≤ levelOf around + levels → Expr.listHeight es ≤ levels
  | .last arg, hts, levels, hlevels => by
    rw [Expr.listHeight, Expr.listHeight, Nat.max_zero]
    exact arg.height_le_of_noParen hts levels hlevels
  | .more arg others, hts, levels, hlevels => by
    have harg := arg.height_le_of_noParen (hts.of_infix (List.prefix_append _ _).isInfix) levels
      hlevels
    have hothers := others.height_le_of_noParen
      (hts.of_infix ((List.suffix_cons _ _).trans (List.suffix_append _ _)).isInfix) levels hlevels
    rw [Expr.listHeight]
    exact Nat.max_le.mpr ⟨harg, hothers⟩

end

end Derived

/-! ## High expressions -/

section High

variable {space : String} {around : List Nat} {n : Nat} {ts : List Token} {e : Expr}

/-- So many ones, each with a `+` before it. -/
def Grammar.ones : Nat → List Token
  | 0 => []
  | n + 1 => ones n ++ [.plus, .int 1]

/-- An expression to which one is added so many times. -/
def Expr.plusOnes (e : Expr) : Nat → Expr
  | 0 => e
  | n + 1 => .add (e.plusOnes n) (.int 1)

theorem Expr.height_plusOnes (e : Expr) (n : Nat) : (e.plusOnes n).height = e.height + n := by
  induction n with
  | zero => rfl
  | succ n ih =>
    have hpos := e.height_pos
    rw [plusOnes, height, ih, height]
    omega

theorem Expr.references_plusOnes (e : Expr) (n : Nat) : (e.plusOnes n).references = e.references := by
  induction n with
  | zero => rfl
  | succ n ih => rw [plusOnes, references, ih, references, List.append_nil]

theorem Expr.plusOnes_plusOnes (e : Expr) (m n : Nat) :
    (e.plusOnes m).plusOnes n = e.plusOnes (m + n) := by
  induction n with
  | zero => rfl
  | succ n ih => rw [plusOnes, ih, ← Nat.add_assoc, plusOnes]

theorem Grammar.spellable_ones (n : Nat) : ∀ t ∈ ones n, t.Spellable := by
  induction n with
  | zero => exact List.forall_mem_nil _
  | succ n ih =>
    simp only [ones, List.forall_mem_append, List.forall_mem_cons]
    exact ⟨ih, .plus, .int (by decide) (by decide), List.forall_mem_nil _⟩

theorem Grammar.Sum.plusOnes (h : Grammar.Sum space around n ts e) (m : Nat)
    (shallow : levelOf ((n + m) :: around) ≤ maxNesting) :
    Grammar.Sum space around (n + m) (ts ++ ones m) (e.plusOnes m) := by
  induction m with
  | zero => rwa [ones, List.append_nil]
  | succ m ih =>
    have hprevious : levelOf ((n + m) :: around) ≤ maxNesting := by
      rw [levelOf] at shallow ⊢
      omega
    rw [ones, ← List.append_assoc]
    exact .next (ih hprevious) shallow (.int 1)

/-- The bound on heights is attained: by calls, each of an argument that starts with the next call and
to which as many ones are added as levels are left. -/
theorem exists_sum_of_reach (space : String) (n j : Nat) (h : j + (n + 1) = maxNesting) :
    ∃ ts e, (∀ t ∈ ts, t.Spellable) ∧ Grammar.Sum space (List.replicate j 0) n ts e ∧
      e.height = Grammar.reach (n + 1) := by
  induction n generalizing j with
  | zero =>
    have hone : Token.Spellable (.int 1) := .int (by decide) (by decide)
    refine ⟨[.int 1], .int 1, by simpa using hone, .first ?_ (.int 1), rfl⟩
    rw [levelOf, levelOf_replicate]
    omega
  | succ n ih =>
    obtain ⟨ts, e, hspellable, hsum, hheight⟩ := ih (j + 1) (by omega)
    have hname : IsScriptName "f" := by decide
    have hcall : Grammar.Term space (0 :: List.replicate j 0)
        (.name "f" :: .leftParen :: ts ++ [.rightParen]) (.call (space ++ "." ++ "f") [e]) :=
      .call (.plain (by decide)) (.last hsum)
    have hfirst : levelOf (0 :: List.replicate j 0) ≤ maxNesting := by
      rw [levelOf, levelOf_replicate]
      omega
    have hlast : levelOf ((0 + (n + 1)) :: List.replicate j 0) ≤ maxNesting := by
      rw [levelOf, levelOf_replicate]
      omega
    have hall := (Grammar.Sum.first hfirst hcall).plusOnes (n + 1) hlast
    rw [Nat.zero_add] at hall
    refine ⟨_, _, ?_, hall, ?_⟩
    · simp only [List.forall_mem_append, List.forall_mem_cons]
      exact ⟨⟨⟨.name hname, .leftParen, hspellable⟩, .rightParen, List.forall_mem_nil _⟩,
        Grammar.spellable_ones _⟩
    · rw [Expr.height_plusOnes, Expr.height, Expr.listHeight, Expr.listHeight, hheight,
        Grammar.reach_succ (n + 1)]
      omega

end High

/-! ## Evaluations -/

section Evaluations

open Metered

variable {env : Environment} {args : List Value} {symbol : String} {e : Expr}
  {fuel depth : Nat}

/-- Without fuel an evaluation fails as it does beyond the limit. -/
theorem resultAt_evaluateWithin_zero :
    (evaluateWithin 0 env args symbol e).resultAt depth =
      .error (.failed symbol "recursion limit exceeded") := by
  rcases Nat.lt_or_ge depth maxDepth with hlt | hge
  · rw [evaluateWithin, resultAt_nested_of_lt hlt]
    rfl
  · exact resultAt_evaluateWithin_of_le hge

/-- An expression that has a value is no higher than evaluations may nest. -/
theorem add_height_le_of_resultAt_eq_ok {v : Value}
    (h : (evaluateWithin fuel env args symbol e).resultAt depth = .ok v) :
    depth + e.height ≤ maxDepth := by
  induction fuel generalizing depth e v with
  | zero =>
    rw [resultAt_evaluateWithin_zero] at h
    cases h
  | succ fuel ih =>
    rcases Nat.lt_or_ge depth maxDepth with hlt | hge
    · rw [resultAt_evaluateWithin_of_lt hlt] at h
      cases e with
      | text s => exact hlt
      | int n => exact hlt
      | arg n => exact hlt
      | ref name => exact hlt
      | call name exprs =>
        rw [resultAt_insideOf_call, resultAt_mapM (restores_evaluateWithin fuel env args symbol)] at h
        obtain ⟨values, hvalues, -⟩ := except_bind_eq_ok h
        have heach : depth + 1 + Expr.listHeight exprs ≤ maxDepth := by
          have hforall := mapM_eq_ok_iff.mp hvalues
          clear h hvalues
          induction hforall with
          | nil => exact hlt
          | cons hhead _ ihTail =>
            have hhead := ih hhead
            rw [Expr.listHeight]
            omega
        rw [Expr.height]
        omega
      | add left right =>
        rw [resultAt_insideOf_add] at h
        obtain ⟨l, hl, h⟩ := except_bind_eq_ok h
        obtain ⟨r, hr, -⟩ := except_bind_eq_ok h
        have hleft := ih hl
        have hright := ih hr
        rw [Expr.height]
        omega
    · rw [resultAt_evaluateWithin_of_le hge] at h
      cases h

theorem lt_of_add_height_le (h : depth + e.height ≤ maxDepth) : depth < maxDepth :=
  Nat.lt_of_lt_of_le (Nat.lt_add_of_pos_right e.height_pos) h

theorem addValues_ne_limit (s : String) (left right : Value) :
    addValues symbol left right ≠ .error (.failed s "recursion limit exceeded") := by
  intro h
  unfold addValues at h
  split at h
  next a b _ _ =>
    split at h
    next => cases h
    next =>
      have hmessage : "integer overflow in " ++ toString a ++ " + " ++ toString b =
          "recursion limit exceeded" := by
        injection h with h
        injection h with _ h
      have hfirst := congrArg (fun s => s.toList.head?) hmessage
      simp at hfirst
  next => cases h

theorem argument_ne_limit (s : String) (n : Nat) :
    argument args symbol n ≠ .error (.failed s "recursion limit exceeded") := by
  intro h
  unfold argument at h
  split at h
  next => cases h
  next =>
    split at h
    next => cases h
    next => cases h

/-- An expression without references that is low enough is evaluated within the limit. -/
theorem resultAt_ne_limit (hreferences : e.references = [])
    (hheight : depth + e.height ≤ maxDepth) (hfuel : fuelAt depth ≤ fuel) (s : String) :
    (evaluateWithin fuel env args symbol e).resultAt depth ≠
      .error (.failed s "recursion limit exceeded") := by
  induction fuel generalizing depth e with
  | zero => exact absurd (fuelAt_pos (lt_of_add_height_le hheight)) (Nat.not_lt_of_le hfuel)
  | succ fuel ih =>
    rw [resultAt_evaluateWithin_of_lt (lt_of_add_height_le hheight)]
    cases e with
    | text s => exact nofun
    | int n => exact nofun
    | arg n => exact argument_ne_limit s n
    | ref name => cases hreferences
    | call name exprs => cases hreferences
    | add left right =>
      obtain ⟨hleft, hright⟩ := List.append_eq_nil_iff.mp hreferences
      rw [Expr.height] at hheight
      have hfuel := fuelAt_succ_le hfuel
      rw [resultAt_insideOf_add]
      intro h
      rcases except_bind_eq_error h with h | ⟨l, -, h⟩
      · exact ih hleft (by omega) hfuel h
      · rcases except_bind_eq_error h with h | ⟨r, -, h⟩
        · exact ih hright (by omega) hfuel h
        · exact addValues_ne_limit s l r h

/-- Ones that are added to the left too often are beyond the limit. -/
theorem resultAt_plusOnes {n : Nat} (h : maxDepth ≤ depth + n) :
    (evaluateWithin fuel env args symbol (e.plusOnes n)).resultAt depth =
      .error (.failed symbol "recursion limit exceeded") := by
  induction n generalizing depth fuel with
  | zero => exact resultAt_evaluateWithin_of_le h
  | succ n ih =>
    cases fuel with
    | zero => exact resultAt_evaluateWithin_zero
    | succ fuel =>
      rcases Nat.lt_or_ge depth maxDepth with hlt | hge
      · have hleft : maxDepth ≤ depth + 1 + n := by rwa [Nat.add_assoc, Nat.add_comm 1 n]
        rw [resultAt_evaluateWithin_of_lt hlt, Expr.plusOnes, resultAt_insideOf_add, ih hleft]
        rfl
      · exact resultAt_evaluateWithin_of_le hge

end Evaluations

/-! ## Definitions -/

section Definitions

open Metered

/-- What holds of the height of a definition whose body was read from some tokens of a source. -/
structure Definition.Measured (source : String) (d : Definition) (body : List Token) : Prop where
  /-- The tokens stand in the line of the definition. -/
  stands : ∃ i line, (source.toList.splitOn '\n')[i]? = some line ∧ d.line = i + 1 ∧
    ∃ space x, d.WrittenAs line space x body
  height_le : d.body.height ≤ maxNesting * (maxNesting + 1) / 2
  height_le_of_noParen : NoParenBeforePlus body → d.body.height ≤ maxNesting
  /-- Without references and no higher than evaluations may nest, in particular where no `)` stands
  directly before a `+`, the body never fails with that limit. -/
  ne_limit : d.body.references = [] → d.body.height ≤ maxDepth →
    ∀ env args symbol s, (evaluate env args symbol d.body).resultAt 0 ≠
      .error (.failed s "recursion limit exceeded")
  /-- If the body is higher, it never has a value. -/
  height_le_of_value : ∀ env args symbol v,
    (evaluate env args symbol d.body).resultAt 0 = .ok v → d.body.height ≤ maxDepth

/-- Every definition of a source that is accepted is measured. -/
theorem Definition.exists_measured {space source : String} {definitions : List Definition}
    (h : Definition.ofSource space source = .ok definitions) (d : Definition) (hd : d ∈ definitions) :
    ∃ body, d.Measured source body := by
  obtain ⟨i, line, hline, hnumber, space, x, body, hwritten⟩ := exists_line_of_ofSource h hd
  obtain ⟨n, hsum⟩ := hwritten.derived
  have hlevels : maxNesting ≤ levelOf [] + maxNesting := Nat.le_add_left _ _
  refine ⟨body, ?_⟩
  constructor
  case stands => exact ⟨i, line, hline, hnumber, space, x, hwritten⟩
  case height_le =>
    have hheight := hsum.height_add_le maxNesting hlevels
    have hshallow := hsum.shallow
    change d.body.height ≤ Grammar.reach maxNesting
    omega
  case height_le_of_noParen =>
    intro hbody
    exact hsum.height_le_of_noParen hbody maxNesting hlevels
  case ne_limit =>
    intro hreferences hheight env args symbol s
    refine resultAt_ne_limit hreferences ?_ (Nat.le_refl (fuelAt 0)) s
    rwa [Nat.zero_add]
  case height_le_of_value =>
    intro env args symbol v hv
    rw [resultAt_evaluate_eq] at hv
    have hheight := add_height_le_of_resultAt_eq_ok hv
    rwa [Nat.zero_add] at hheight

/-- There is a definition of the greatest height. -/
theorem Definition.exists_measured_reach :
    ∃ source d body, Definition.ofSource "m" source = .ok [d] ∧
      d.body.height = maxNesting * (maxNesting + 1) / 2 ∧ d.Measured source body := by
  obtain ⟨ts, e, hspellable, hsum, hheight⟩ := exists_sum_of_reach "m" 127 0 rfl
  have hname : IsScriptName "x" := by decide
  have hsource := ofSource_spellLine hname (by decide) hspellable ⟨127, hsum⟩
  obtain ⟨body, hbody⟩ := exists_measured hsource _ List.mem_cons_self
  exact ⟨_, _, body, hsource, hheight, hbody⟩

/-- Four ones, in parentheses and before 126 more of them, in parentheses and before another 127. -/
def overgrown : List Token :=
  .leftParen :: (.leftParen :: (.int 1 :: Grammar.ones 3) ++ [.rightParen] ++ Grammar.ones 126) ++
    [.rightParen] ++ Grammar.ones 127

/-- A definition with this body. -/
def overgrownSource : String :=
  .ofList (Token.spellLine (Definition.tokensOf "x" overgrown))

theorem spellable_overgrown : ∀ t ∈ overgrown, t.Spellable := by
  have hone : Token.Spellable (.int 1) := .int (by decide) (by decide)
  simp only [overgrown, List.forall_mem_append, List.forall_mem_cons]
  exact ⟨⟨⟨.leftParen, ⟨⟨.leftParen, hone, Grammar.spellable_ones 3⟩, .rightParen,
    List.forall_mem_nil _⟩, Grammar.spellable_ones 126⟩, .rightParen, List.forall_mem_nil _⟩,
    Grammar.spellable_ones 127⟩

/-- Parentheses are not seen in what is read, and none of the three chains has too many levels. -/
theorem derives_overgrown (space : String) :
    Grammar.Derives space overgrown ((Expr.int 1).plusOnes 256) := by
  have hinner : Grammar.Sum space [0, 0] (0 + 3) (.int 1 :: Grammar.ones 3) ((Expr.int 1).plusOnes 3) :=
    (Grammar.Sum.first (by decide) (.int 1)).plusOnes 3 (by decide)
  have hmiddle := (Grammar.Sum.first (by decide) (.group hinner)).plusOnes 126 (by decide)
  have houter := (Grammar.Sum.first (by decide) (.group hmiddle)).plusOnes 127 (by decide)
  rw [Expr.plusOnes_plusOnes, Expr.plusOnes_plusOnes] at houter
  exact ⟨_, houter⟩

/-- What is accepted may be higher than the limit of levels, and too high to be evaluated. -/
theorem overgrown_limited :
    ∃ d, Definition.ofSource "m" overgrownSource = .ok [d] ∧ d.body.height = 257 ∧
      maxNesting < d.body.height ∧ d.body.references = [] ∧
      ∀ env args symbol, (evaluate env args symbol d.body).resultAt 0 =
        .error (.failed symbol "recursion limit exceeded") := by
  have hname : IsScriptName "x" := by decide
  have hheight : ((Expr.int 1).plusOnes 256).height = 257 := Expr.height_plusOnes _ 256
  have hlimit : ∀ env args symbol,
      (evaluate env args symbol ((Expr.int 1).plusOnes 256)).resultAt 0 =
        .error (.failed symbol "recursion limit exceeded") := by
    intro env args symbol
    rw [resultAt_evaluate_eq]
    exact resultAt_plusOnes (by decide)
  refine ⟨_, ofSource_spellLine hname (by decide) spellable_overgrown (derives_overgrown "m"),
    hheight, ?_, Expr.references_plusOnes _ 256, hlimit⟩
  rw [hheight]
  decide

end Definitions

end HotReload
