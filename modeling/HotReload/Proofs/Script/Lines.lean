import HotReload.Proofs.Script.Grammar
import HotReload.Proofs.Script.Spelling

/-!
# Lines that define symbols

The definitions of a source are those that stand in its lines (`mem_ofSource_iff`): each stands in one
that has the tokens `let`, a name, `=` and some from which the grammar derives the body, and its name
space is the one that was entered last. Conversely a line of such tokens, spelled out, is a source with
one definition (`ofSource_spellLine`).
-/

namespace HotReload

/-! ## Statements -/

section Statements

variable {space x : String} {ts body rest : List Token} {line : List Char} {e : Expr}

/-- The tokens of a line that defines a symbol. -/
def Definition.tokensOf (x : String) (body : List Token) : List Token :=
  .name "let" :: .name x :: .equals :: body

theorem expectName_eq_ok {what : Expected} (h : Statement.expectName what ts = .ok (x, rest)) :
    ts = .name x :: rest := by
  unfold Statement.expectName at h
  split at h
  next =>
    cases h
    rfl
  next => cases h
  next => cases h

theorem expectEnd_eq_ok (h : Statement.expectEnd ts = .ok ()) : ts = [] := by
  unfold Statement.expectEnd at h
  split at h
  next => rfl
  next => cases h

theorem ofTokens_tokensOf (hdot : '.' ∉ x.toList) :
    Statement.ofTokens space (Definition.tokensOf x body) =
      (Expr.ofTokens space body).map fun e => some (.define x e) := by
  have hkeyword : ¬"let" = "namespace" := by decide
  have hname : ¬x.toList.contains '.' = true := List.contains_iff_mem.not.mpr hdot
  rw [Definition.tokensOf, Statement.ofTokens, if_neg hkeyword, if_pos rfl]
  simp only [Statement.expectName, Except.bind, bind, expectToken, if_neg hname, if_true, Expr.ofTokens]
  cases Expr.parse space 0 body with
  | error fault => rfl
  | ok parsed =>
    dsimp only
    cases Statement.expectEnd parsed.rest with
    | error fault => rfl
    | ok _ => rfl

/-- What the tokens of a line say in a name space. -/
inductive Statement.Says (space : String) : List Token → Option Statement → Prop
  | nothing : Says space [] none
  | enter (s : String) : Says space [.name "namespace", .name s] (some (.enter s))
  | define {x : String} {body : List Token} {e : Expr} (plain : '.' ∉ x.toList)
      (derived : Grammar.Derives space body e) :
      Says space (Definition.tokensOf x body) (some (.define x e))

/-- The tokens that a statement is read from. -/
theorem ofTokens_eq_ok_iff_statement {s : Option Statement} :
    Statement.ofTokens space ts = .ok s ↔ Statement.Says space ts s := by
  constructor
  · intro h
    have hread := h
    unfold Statement.ofTokens at h
    split at h
    next =>
      cases h
      exact .nothing
    next keyword tail =>
      split at h
      next hnamespace =>
        obtain ⟨⟨s, after⟩, hname, h⟩ := except_bind_eq_ok h
        obtain ⟨⟨⟩, hend, h⟩ := except_bind_eq_ok h
        cases h
        rw [hnamespace, expectName_eq_ok hname, expectEnd_eq_ok hend]
        exact .enter s
      next =>
        split at h
        next hlet =>
          obtain ⟨⟨s, after⟩, hname, h⟩ := except_bind_eq_ok h
          dsimp only at h
          split at h
          next => cases h
          next hdot =>
            obtain ⟨equals, hequals, -⟩ := except_bind_eq_ok h
            obtain ⟨body, hbody⟩ : ∃ body, after = .equals :: body :=
              ⟨_, reads_expectToken_iff.mp ⟨equals, hequals, rfl, rfl⟩⟩
            have hplain : '.' ∉ s.toList := List.contains_iff_mem.not.mp hdot
            have htokens : Token.name keyword :: tail = Definition.tokensOf s body := by
              rw [hlet, expectName_eq_ok hname, hbody, Definition.tokensOf]
            rw [htokens, ofTokens_tokensOf hplain] at hread
            obtain ⟨e, he, rfl⟩ := except_map_eq_ok hread
            rw [htokens]
            exact .define hplain (ofTokens_eq_ok_iff.mp he)
        next => cases h
    next => cases h
  · intro h
    cases h with
    | nothing => rfl
    | enter s => rfl
    | define plain derived =>
      rw [ofTokens_tokensOf plain, ofTokens_eq_ok_iff.mpr derived]
      rfl

/-- A line says what its tokens say. -/
theorem ofLine_eq (space : String) (line : List Char) :
    Statement.ofLine space line =
      ((Token.scan line).mapError .lexical).bind (Statement.ofTokens space) := by
  unfold Statement.ofLine
  split
  next =>
    rw [Token.scan, Token.scanFrom]
    rfl
  next rest =>
    rw [Token.scan, Token.scanFrom, if_neg (by decide), if_pos rfl]
    rfl
  next =>
    cases Token.scan line with
    | error fault => rfl
    | ok tokens => rfl

theorem ofLine_eq_ok_iff {s : Option Statement} : Statement.ofLine space line = .ok s ↔
    ∃ ts, Token.scan line = .ok ts ∧ Statement.Says space ts s := by
  rw [ofLine_eq]
  constructor
  · intro h
    obtain ⟨ts, hscan, h⟩ := except_bind_eq_ok h
    exact ⟨ts, except_mapError_eq_ok hscan, ofTokens_eq_ok_iff_statement.mp h⟩
  · rintro ⟨ts, hscan, h⟩
    rw [hscan]
    exact ofTokens_eq_ok_iff_statement.mpr h

/-- Tokens say one thing only. -/
theorem Statement.Says.eq {s s' : Option Statement} (h : Statement.Says space ts s)
    (h' : Statement.Says space ts s') : s = s' :=
  Except.ok.inj ((ofTokens_eq_ok_iff_statement.mpr h).symm.trans (ofTokens_eq_ok_iff_statement.mpr h'))

end Statements

/-! ## Where definitions stand -/

/-- The name space that a line enters. -/
def Statement.entered? (line : List Char) : Option String :=
  match Token.scan (Text.trim line) with
  | .ok [.name keyword, .name s] => if keyword = "namespace" then some s else none
  | _ => none

/-- The name space after some lines: the one that was entered last. -/
def spaceAfter (start : String) (lines : List (List Char)) : String :=
  (lines.reverse.findSome? Statement.entered?).getD start

section Places

variable {space : String} {line : List Char} {lines : List (List Char)} {d : Definition}

theorem spaceAfter_cons : spaceAfter space (line :: lines) =
    spaceAfter ((Statement.entered? line).getD space) lines := by
  simp only [spaceAfter, List.reverse_cons, List.findSome?_append, List.findSome?_singleton,
    Option.getD_or]

/-- A line defines a symbol in a name space, by a name and the tokens of a body. -/
structure Definition.WrittenAs (d : Definition) (line : List Char) (space x : String)
    (body : List Token) : Prop where
  scanned : Token.scan (Text.trim line) = .ok (tokensOf x body)
  name_eq : d.name = space ++ "." ++ x
  derived : Grammar.Derives space body d.body

/-- A definition stands in one of some lines, the first of which has the given number and stands in
the given name space. -/
def Definition.StandsIn (d : Definition) (space : String) (number : Nat)
    (lines : List (List Char)) : Prop :=
  ∃ before line after, lines = before ++ line :: after ∧ d.line = number + before.length ∧
    ∃ x body, d.WrittenAs line (spaceAfter space before) x body

theorem standsIn_cons_iff {number : Nat} : d.StandsIn space number (line :: lines) ↔
    (d.line = number ∧ ∃ x body, d.WrittenAs line space x body) ∨
      d.StandsIn ((Statement.entered? line).getD space) (number + 1) lines := by
  constructor
  · rintro ⟨before, line', after, hlines, hnumber, hwritten⟩
    cases before with
    | nil =>
      cases hlines
      exact .inl ⟨hnumber, hwritten⟩
    | cons first before =>
      cases hlines
      rw [List.length_cons] at hnumber
      rw [spaceAfter_cons] at hwritten
      exact .inr ⟨before, line', after, rfl, by omega, hwritten⟩
  · rintro (⟨hnumber, hwritten⟩ | ⟨before, line', after, rfl, hnumber, hwritten⟩)
    · exact ⟨[], line, lines, rfl, hnumber, hwritten⟩
    · rw [← spaceAfter_cons] at hwritten
      exact ⟨line :: before, line', after, rfl, by rw [List.length_cons]; omega, hwritten⟩

/-- A line is read: it says something, and the definition in it, if there is one, is added. -/
theorem ofLines_step {number : Nat} {acc definitions : List Definition}
    (h : Definition.ofLines space number acc (line :: lines) = .ok definitions) :
    ∃ ts s acc', Token.scan (Text.trim line) = .ok ts ∧ Statement.Says space ts s ∧
      (∀ d, d ∈ acc' ↔ (d.line = number ∧ ∃ x body, d.WrittenAs line space x body) ∨ d ∈ acc) ∧
      Definition.ofLines ((Statement.entered? line).getD space) (number + 1) acc' lines =
        .ok definitions := by
  unfold Definition.ofLines at h
  cases hline : Statement.ofLine space (Text.trim line) with
  | error fault =>
    rw [hline] at h
    cases h
  | ok s =>
    rw [hline] at h
    obtain ⟨ts, hscan, hsaid⟩ := ofLine_eq_ok_iff.mp hline
    cases hsaid with
    | nothing =>
      have henter : Statement.entered? line = none := by rw [Statement.entered?, hscan]
      rw [henter]
      refine ⟨[], none, acc, hscan, .nothing, fun d => (or_iff_right ?_).symm, h⟩
      rintro ⟨-, x, body, hwritten⟩
      cases hscan.symm.trans hwritten.scanned
    | enter s =>
      have henter : Statement.entered? line = some s := by
        rw [Statement.entered?, hscan]
        exact if_pos rfl
      rw [henter]
      refine ⟨_, some (.enter s), acc, hscan, .enter s, fun d => (or_iff_right ?_).symm, h⟩
      rintro ⟨-, x, body, hwritten⟩
      have htokens := hscan.symm.trans hwritten.scanned
      simp [Definition.tokensOf] at htokens
    | @define x body e plain derived =>
      have henter : Statement.entered? line = none := by rw [Statement.entered?, hscan]; rfl
      rw [henter]
      refine ⟨_, some (.define x e), _, hscan, .define plain derived, fun d => ?_, h⟩
      rw [List.mem_cons]
      refine or_congr_left ⟨?_, ?_⟩
      · rintro rfl
        exact ⟨rfl, x, body, hscan, rfl, derived⟩
      · -- The tokens of the line fix the name, and the grammar derives one body only from them.
        rintro ⟨hnumber, x', body', hwritten⟩
        cases hscan.symm.trans hwritten.scanned
        have hbody : e = d.body := by
          cases (Statement.Says.define plain derived).eq (.define plain hwritten.derived)
          rfl
        cases d
        cases hnumber
        cases hwritten.name_eq
        cases hbody
        rfl

/-- The definitions that are read are those that stand in the lines. -/
theorem mem_ofLines_iff {number : Nat} {acc definitions : List Definition}
    (h : Definition.ofLines space number acc lines = .ok definitions) :
    d ∈ definitions ↔ d.StandsIn space number lines ∨ d ∈ acc := by
  induction lines generalizing space number acc with
  | nil =>
    cases h
    rw [List.mem_reverse]
    refine (or_iff_right ?_).symm
    rintro ⟨before, line, after, hlines, -⟩
    exact List.append_ne_nil_of_right_ne_nil before (List.cons_ne_nil line after) hlines.symm
  | cons line lines ih =>
    obtain ⟨-, -, acc', -, -, hacc', h⟩ := ofLines_step h
    rw [ih h, hacc', standsIn_cons_iff, or_assoc, or_left_comm]

/-- Where lines are read, each of them says something in the name space that it stands in. -/
theorem exists_says_of_ofLines {number : Nat} {acc definitions : List Definition}
    {before after : List (List Char)}
    (h : Definition.ofLines space number acc (before ++ line :: after) = .ok definitions) :
    ∃ ts s, Token.scan (Text.trim line) = .ok ts ∧
      Statement.Says (spaceAfter space before) ts s := by
  induction before generalizing space number acc with
  | nil =>
    obtain ⟨ts, s, -, hscan, hsaid, -⟩ := ofLines_step h
    exact ⟨ts, s, hscan, hsaid⟩
  | cons first before ih =>
    obtain ⟨-, -, acc', -, -, -, h⟩ := ofLines_step h
    rw [spaceAfter_cons]
    exact ih h

/-- The definitions of a source are those that stand in its lines. -/
theorem mem_ofSource_iff {source : String} {definitions : List Definition}
    (h : Definition.ofSource space source = .ok definitions) :
    d ∈ definitions ↔ d.StandsIn space 1 (source.toList.splitOn '\n') := by
  rw [mem_ofLines_iff h]
  exact or_iff_left List.not_mem_nil

/-- Every definition of a source stands in the line that it tells of. -/
theorem exists_line_of_ofSource {source : String} {definitions : List Definition}
    (h : Definition.ofSource space source = .ok definitions) (hd : d ∈ definitions) :
    ∃ i line, (source.toList.splitOn '\n')[i]? = some line ∧ d.line = i + 1 ∧
      ∃ space x body, d.WrittenAs line space x body := by
  obtain ⟨before, line, after, hlines, hnumber, hwritten⟩ := (mem_ofSource_iff h).mp hd
  refine ⟨before.length, line, ?_, by omega, _, hwritten⟩
  rw [hlines, List.getElem?_append_right (Nat.le_refl _), Nat.sub_self]
  rfl

end Places

/-! ## Lines of spelled tokens -/

/-- What a line without blanks at its ends is. -/
structure IsTrimmedLine (cs : List Char) : Prop where
  first : ∃ c ∈ cs.head?, Text.isBlank c = false
  last : ∃ c ∈ cs.getLast?, Text.isBlank c = false
  noBreak : '\n' ∉ cs

section Spelled

variable {cs : List Char} {t : Token} {ts : List Token}

theorem IsTrimmedLine.trim_eq (h : IsTrimmedLine cs) : Text.trim cs = cs := by
  obtain ⟨c, hc, hfirst⟩ := h.first
  obtain ⟨d, hd, hlast⟩ := h.last
  obtain ⟨tail, hcs⟩ : ∃ tail, cs = c :: tail := List.head?_eq_some_iff.mp hc
  obtain ⟨init, hcs'⟩ : ∃ init, cs.reverse = d :: init :=
    List.head?_eq_some_iff.mp (List.head?_reverse.trans hd)
  have hstart : cs.dropWhile Text.isBlank = cs := by
    rw [hcs, List.dropWhile_cons_of_neg (by simp [hfirst])]
  rw [Text.trim, Text.trimEnd, hstart, hcs', List.dropWhile_cons_of_neg (by simp [hlast]), ← hcs',
    List.reverse_reverse]

/-- Two such lines make one, with whatever but a line break between them. -/
theorem IsTrimmedLine.append {before after between : List Char} (hbefore : IsTrimmedLine before)
    (hbetween : '\n' ∉ between) (hafter : IsTrimmedLine after) :
    IsTrimmedLine (before ++ between ++ after) := by
  obtain ⟨c, hc, hfirst⟩ := hbefore.first
  obtain ⟨d, hd, hlast⟩ := hafter.last
  constructor
  case first => exact ⟨c, by simp [Option.mem_def.mp hc], hfirst⟩
  case last => exact ⟨d, by simp [Option.mem_def.mp hd], hlast⟩
  case noBreak => simp [hbefore.noBreak, hbetween, hafter.noBreak]

theorem isTrimmedLine_of_forall (hne : cs ≠ []) (h : ∀ c ∈ cs, Text.isBlank c = false) :
    IsTrimmedLine cs := by
  constructor
  case first => exact ⟨cs.head hne, List.head?_eq_some_head hne, h _ (List.head_mem hne)⟩
  case last => exact ⟨cs.getLast hne, List.getLast?_eq_some_getLast hne, h _ (List.getLast_mem hne)⟩
  case noBreak =>
    intro hmem
    cases h '\n' hmem

theorem isBlank_eq_false_of_isAlphanum {c : Char} (h : c.isAlphanum = true) :
    Text.isBlank c = false := by
  rw [Char.isAlphanum, Bool.or_eq_true, Token.isAlpha_iff_toNat, Char.isDigit_iff_toNat] at h
  simp only [Char.reduceToNat] at h
  simp only [Text.isBlank, Bool.or_eq_false_iff, Bool.and_eq_false_iff,
    beq_eq_false_iff_ne, decide_eq_false_iff_not]
  omega

theorem isBlank_eq_false_of_isDigit {c : Char} (h : c.isDigit = true) : Text.isBlank c = false :=
  isBlank_eq_false_of_isAlphanum (by simp [Char.isAlphanum, h])

theorem isTrimmedLine_of_digits (n : Nat) : IsTrimmedLine (Nat.toDigits 10 n) :=
  isTrimmedLine_of_forall Nat.toDigits_ne_nil fun _ hc =>
    isBlank_eq_false_of_isDigit ((Token.digits_toDigits n).2.1 _ hc)

theorem isTrimmedLine_of_isScriptName {s : String} (hs : IsScriptName s) :
    IsTrimmedLine s.toList := by
  refine isTrimmedLine_of_forall ?_ ?_
  · obtain ⟨c, hc, -⟩ := hs.first
    exact List.ne_nil_of_mem (List.mem_of_mem_head? hc)
  · intro c hc
    rcases hs.others c hc with halnum | rfl | rfl | rfl
    · exact isBlank_eq_false_of_isAlphanum halnum
    all_goals rfl

theorem not_mem_flatMap_escaped (cs : List Char) : '\n' ∉ cs.flatMap Token.escaped := by
  rw [List.mem_flatMap]
  rintro ⟨c, -, hc⟩
  unfold Token.escaped at hc
  split at hc
  next => simp at hc
  next => simp at hc
  next => simp at hc
  next => simp at hc
  next hline _ => exact hline (List.mem_singleton.mp hc).symm

theorem Token.Spellable.isTrimmedLine_spell (ht : t.Spellable) : IsTrimmedLine t.spell := by
  have hmark : ∀ c, Text.isBlank c = false → IsTrimmedLine [c] := fun c hc =>
    isTrimmedLine_of_forall (List.cons_ne_nil c []) (by simpa using hc)
  cases ht with
  | name legal => exact isTrimmedLine_of_isScriptName legal
  | text s =>
    exact (hmark '"' rfl).append (not_mem_flatMap_escaped s.toList) (hmark '"' rfl)
  | @int n lower upper =>
    rw [spell]
    split
    · exact (hmark '-' rfl).append List.not_mem_nil (isTrimmedLine_of_digits n.natAbs)
    · exact isTrimmedLine_of_digits n.natAbs
  | @arg n lower upper =>
    exact (hmark '$' rfl).append List.not_mem_nil (isTrimmedLine_of_digits n)
  | leftParen => exact hmark '(' rfl
  | rightParen => exact hmark ')' rfl
  | comma => exact hmark ',' rfl
  | plus => exact hmark '+' rfl
  | equals => exact hmark '=' rfl

theorem isTrimmedLine_spellLine (hne : ts ≠ []) (h : ∀ t ∈ ts, t.Spellable) :
    IsTrimmedLine (Token.spellLine ts) := by
  unfold Token.spellLine
  induction ts with
  | nil => exact absurd rfl hne
  | cons t ts ih =>
    have ht : IsTrimmedLine t.spell := (h t List.mem_cons_self).isTrimmedLine_spell
    cases ts with
    | nil =>
      rw [List.map_singleton, List.intercalate_singleton]
      exact ht
    | cons u ts =>
      rw [List.map_cons, List.map_cons, List.intercalate_cons_cons]
      have hrest := ih (List.cons_ne_nil u ts) fun v hv => h v (List.mem_cons_of_mem t hv)
      exact ht.append (by decide) hrest

theorem spellable_tokensOf {x : String} {body : List Token} (hx : IsScriptName x)
    (hbody : ∀ t ∈ body, t.Spellable) : ∀ t ∈ Definition.tokensOf x body, t.Spellable := by
  have hlet : IsScriptName "let" := by decide
  simp only [Definition.tokensOf, List.forall_mem_cons]
  exact ⟨.name hlet, .name hx, .equals, hbody⟩

/-- A line of tokens that define a symbol, spelled out, is a source that defines it. -/
theorem ofSource_spellLine {space x : String} {body : List Token} {e : Expr} (hx : IsScriptName x)
    (hdot : '.' ∉ x.toList) (hspellable : ∀ t ∈ body, t.Spellable)
    (hbody : Grammar.Derives space body e) :
    Definition.ofSource space (.ofList (Token.spellLine (Definition.tokensOf x body))) =
      .ok [⟨space ++ "." ++ x, e, 1⟩] := by
  have htokens := spellable_tokensOf hx hspellable
  have hline : IsTrimmedLine (Token.spellLine (Definition.tokensOf x body)) :=
    isTrimmedLine_spellLine (List.cons_ne_nil _ _) htokens
  have hstatement : Statement.ofLine space
      (Text.trim (Token.spellLine (Definition.tokensOf x body))) = .ok (some (.define x e)) := by
    rw [hline.trim_eq, ofLine_eq, Token.scan, Token.scanFrom_spellLine htokens]
    exact ofTokens_eq_ok_iff_statement.mpr (.define hdot hbody)
  rw [Definition.ofSource, String.toList_ofList, List.splitOn_eq_singleton hline.noBreak,
    Definition.ofLines, hstatement]
  rfl

end Spelled

end HotReload
