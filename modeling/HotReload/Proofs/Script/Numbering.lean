import HotReload.Proofs.Script.Lines

/-!
# Arguments are counted from one

The number of an argument is checked when its token is read (`Token.notMem_of_scan`), and the grammar
derives the arguments of an expression from such tokens. So no expression that a script is read into
has an argument without a number.
-/

namespace HotReload

/-- Every argument of an expression is counted from one. -/
inductive Expr.CountsFromOne : Expr → Prop
  | text (s : String) : CountsFromOne (.text s)
  | int (n : Int) : CountsFromOne (.int n)
  | arg {n : Nat} (positive : 0 < n) : CountsFromOne (.arg n)
  | ref (name : String) : CountsFromOne (.ref name)
  | call {name : String} {args : List Expr} (each : ∀ e ∈ args, CountsFromOne e) :
      CountsFromOne (.call name args)
  | add {left right : Expr} (first : CountsFromOne left) (second : CountsFromOne right) :
      CountsFromOne (.add left right)

/-- No argument numbered zero is read. -/
theorem Token.notMem_of_scan {cs : List Char} {ts : List Token} (h : scan cs = .ok ts) :
    .arg 0 ∉ ts := by
  intro hmem
  cases spellable_of_scan h _ hmem with
  | arg lower => exact absurd lower (by decide)

/-! ## Expressions -/

section Expressions

variable {space : String}

mutual

/-- What is derived has the arguments that its tokens have. -/
theorem Grammar.Sum.countsFromOne {around : List Nat} {n : Nat} {ts : List Token} {e : Expr} :
    Grammar.Sum space around n ts e → .arg 0 ∉ ts → e.CountsFromOne
  | .first _ term, hts => term.countsFromOne hts
  | .next left _ right, hts => by
    rw [List.mem_append, List.mem_cons, not_or, not_or] at hts
    exact .add (left.countsFromOne hts.1) (right.countsFromOne hts.2.2)

theorem Grammar.Term.countsFromOne {around : List Nat} {ts : List Token} {e : Expr} :
    Grammar.Term space around ts e → .arg 0 ∉ ts → e.CountsFromOne
  | .text s, _ => .text s
  | .int n, _ => .int n
  | .arg n, hts => .arg (Nat.pos_of_ne_zero fun hzero => hts (hzero ▸ List.mem_cons_self))
  | .group inner, hts =>
    inner.countsFromOne fun hmem => hts (List.mem_append_left _ (List.mem_cons_of_mem _ hmem))
  | .ref _, _ => .ref _
  | .callAlone _, _ => .call fun _ he => nomatch he
  | .call _ given, hts =>
    .call (given.countsFromOne fun hmem => hts
      (List.mem_append_left _ (List.mem_cons_of_mem _ (List.mem_cons_of_mem _ hmem))))

theorem Grammar.Arguments.countsFromOne {around : List Nat} {ts : List Token} {es : List Expr} :
    Grammar.Arguments space around ts es → .arg 0 ∉ ts → ∀ e ∈ es, e.CountsFromOne
  | .last arg, hts => by
    rw [List.forall_mem_singleton]
    exact arg.countsFromOne hts
  | .more arg others, hts => by
    rw [List.mem_append, List.mem_cons, not_or, not_or] at hts
    rw [List.forall_mem_cons]
    exact ⟨arg.countsFromOne hts.1, others.countsFromOne hts.2.2⟩

end

end Expressions

/-! ## Sources -/

/-- Every definition of a source counts arguments from one. -/
theorem countsFromOne_of_ofSource {space source : String} {definitions : List Definition}
    (h : Definition.ofSource space source = .ok definitions) :
    ∀ d ∈ definitions, d.body.CountsFromOne := by
  intro d hd
  obtain ⟨_, _, -, -, _, x, body, hwritten⟩ := exists_line_of_ofSource h hd
  obtain ⟨n, hsum⟩ := hwritten.derived
  have htokens := Token.notMem_of_scan hwritten.scanned
  simp only [Definition.tokensOf, List.mem_cons, not_or] at htokens
  exact hsum.countsFromOne htokens.2.2.2

end HotReload
