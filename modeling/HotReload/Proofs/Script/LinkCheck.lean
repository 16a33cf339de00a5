import HotReload.Proofs.Script.Blame
import HotReload.Proofs.Script.Compilation
import Mathlib

/-!
# The check of references is sound

A module whose scripts were compiled with a check of their references fails in three ways only: a sum
does not fit 64 bits, evaluations go too deep, or a symbol of the boundary answers with an error
(`Environment.Permits`). No script of it misses a name or an argument, and none is called with the wrong
number of arguments by another one, however the scripts call each other (`permits_of_compileWith`).
What the check finds of each reference is what a call asks of the name (`Environment.Admits`), although
the check and the look-up go through the sources in orders of their own.
-/

namespace HotReload

/-- A table that holds constants only. -/
def SymbolTable.Constant (t : SymbolTable) : Prop :=
  ∀ name body, t.find? name = some body → ∃ v, body = .constant v

namespace Environment

/-- A name may be called with so many arguments by a script of the module. What symbols of the boundary
ask for is not known. -/
inductive Admits (env : Environment) (name : String) : Nat → Prop
  | constant {v : Value} (own : env.own.find? name = some (.constant v)) : Admits env name 0
  | script {symbol : String} {body : Expr}
      (own : env.own.find? name = some (.function (.script symbol body))) :
      Admits env name body.arity
  | visible {r : Resolved} {count : Nat} (notOwn : env.own.find? name = none)
      (found : env.boundary.resolve? name = some r) : Admits env name count

/-- An expression counts arguments from one and refers to what it may only. -/
structure Fits (env : Environment) (expr : Expr) : Prop where
  counts : expr.CountsFromOne
  admits : ∀ r ∈ expr.references, env.Admits r.1 r.2

/-- All scripts of the module fit. -/
def Checked (env : Environment) : Prop :=
  ∀ name symbol body, env.own.find? name = some (.function (.script symbol body)) → env.Fits body

/-- The failures that a check of the references does not rule out. -/
inductive Permits (env : Environment) : Failure → Prop
  | recursion {symbol : String} : Permits env (.recursion symbol)
  | overflow {symbol : String} {left right : Value} {a b : Int}
      (first : left.toInt64? = some a) (second : right.toInt64? = some b)
      (range : ¬(-0x8000000000000000 ≤ a + b ∧ a + b < 0x8000000000000000)) :
      Permits env (.sum left right
        (.failed symbol ("integer overflow in " ++ toString a ++ " + " ++ toString b)))
  | returned {name : String} {args : List Value} {depth : Depth} {r : Resolved} {e : CallError}
      (notOwn : env.own.find? name = none) (found : env.boundary.resolve? name = some r)
      (result : (env.call name args).resultAt depth = .error e) :
      Permits env (.returned name args depth e)

end Environment

/-! ## Parts of expressions -/

section Parts

variable {env : Environment} {name : String} {args : List Expr} {left right e : Expr}

theorem references_sublist_of_mem (h : e ∈ args) :
    e.references.Sublist (Expr.listReferences args) := by
  induction args with
  | nil => cases h
  | cons a args ih =>
    rw [Expr.listReferences]
    rcases List.mem_cons.mp h with rfl | h
    · exact List.sublist_append_left _ _
    · exact (ih h).trans (List.sublist_append_right _ _)

theorem arity_le_of_mem (h : e ∈ args) : e.arity ≤ Expr.listArity args := by
  induction args with
  | nil => cases h
  | cons a args ih =>
    rw [Expr.listArity]
    rcases List.mem_cons.mp h with rfl | h
    · exact Nat.le_max_left _ _
    · exact Nat.le_trans (ih h) (Nat.le_max_right _ _)

namespace Environment.Fits

theorem admits_ref (h : env.Fits (.ref name)) : env.Admits name 0 :=
  h.admits (name, 0) (List.mem_singleton_self _)

theorem admits_call (h : env.Fits (.call name args)) : env.Admits name args.length :=
  h.admits (name, args.length) List.mem_cons_self

theorem of_mem_call (h : env.Fits (.call name args)) (he : e ∈ args) : env.Fits e := by
  constructor
  · cases h.counts with
    | call each => exact each e he
  · intro r hr
    exact h.admits r (List.mem_cons_of_mem _ ((references_sublist_of_mem he).subset hr))

theorem add_left (h : env.Fits (.add left right)) : env.Fits left := by
  constructor
  · cases h.counts with
    | add first second => exact first
  · intro r hr
    exact h.admits r (List.mem_append_left _ hr)

theorem add_right (h : env.Fits (.add left right)) : env.Fits right := by
  constructor
  · cases h.counts with
    | add first second => exact second
  · intro r hr
    exact h.admits r (List.mem_append_right _ hr)

end Environment.Fits

end Parts

/-! ## Calls and evaluations -/

section Soundness

variable {env : Environment} {depth levels : Nat} {name symbol : String} {args : List Value}
  {expr : Expr} {failure : Failure}

/-- An argument within the number of those given is there. -/
theorem exists_argument {n : Nat} (hpositive : 0 < n) (hle : n ≤ args.length) (symbol : String) :
    ∃ v, argument args symbol n = .ok v := by
  cases n with
  | zero => exact absurd hpositive (Nat.lt_irrefl 0)
  | succ n =>
    refine ⟨args[n], ?_⟩
    rw [argument, List.getElem?_eq_getElem hle]

/-- Sums fail when integers do not fit 64 bits. -/
theorem permits_sum {left right : Value}
    (h : (addValues symbol left right).mapError (Failure.sum left right) = .error failure) :
    env.Permits failure := by
  unfold addValues at h
  split at h
  next a b hleft hright =>
    split at h
    next => cases h
    next hrange =>
      cases h
      exact .overflow hleft hright hrange
  next => cases h

/-- A call of a name that a script may call fails as the script does that it calls, or as the boundary
answers. -/
theorem permits_answer {evaluate : List Value → String → Expr → Except Failure Value}
    (hadmits : env.Admits name args.length)
    (hown : ∀ symbol body, env.own.find? name = some (.function (.script symbol body)) →
      body.arity ≤ args.length → evaluate args symbol body = .error failure → env.Permits failure)
    (h : env.answer evaluate depth name args = .error failure) : env.Permits failure := by
  unfold Environment.answer at h
  generalize hcount : args.length = count at hadmits
  cases hadmits with
  | constant own =>
    rw [own, List.length_eq_zero_iff.mp hcount] at h
    cases h
  | @script symbol body own =>
    rw [own] at h
    simp only [if_pos hcount] at h
    exact hown symbol body own (Nat.le_of_eq hcount.symm) h
  | visible notOwn found =>
    rw [notOwn, found] at h
    simp only [Environment.delegate] at h
    cases hresult : (env.call name args).resultAt depth with
    | ok v =>
      rw [hresult] at h
      cases h
    | error e =>
      rw [hresult] at h
      cases h
      exact .returned notOwn found hresult

/-- Evaluations of scripts that fit fail in the permitted ways, wherever a chain of calls leads. -/
theorem Environment.Checked.permits (henv : env.Checked) (hfits : env.Fits expr)
    (harity : expr.arity ≤ args.length)
    (h : env.outcome levels args symbol expr = .error failure) : env.Permits failure := by
  induction levels generalizing args symbol expr with
  | zero =>
    cases h
    exact .recursion
  | succ levels ih =>
    have hown : ∀ name values symbol body,
        env.own.find? name = some (.function (.script symbol body)) → body.arity ≤ values.length →
          env.outcome levels values symbol body = .error failure → env.Permits failure := by
      intro name values symbol body hbody hle hfails
      exact ih (henv name symbol body hbody) hle hfails
    cases expr with
    | text s => cases h
    | int n => cases h
    | arg n =>
      have hpositive : 0 < n := by
        cases hfits.counts with
        | arg positive => exact positive
      obtain ⟨v, hv⟩ := exists_argument hpositive harity symbol
      dsimp only [Environment.outcome] at h
      rw [hv] at h
      cases h
    | ref name => exact permits_answer hfits.admits_ref (hown name []) h
    | call name exprs =>
      rcases except_bind_eq_error h with hexprs | ⟨values, hvalues, hanswer⟩
      · obtain ⟨before, e, after, rfl, -, he⟩ := exists_of_mapM_eq_error hexprs
        have hmem : e ∈ before ++ e :: after := List.mem_append_right _ List.mem_cons_self
        exact ih (hfits.of_mem_call hmem) (Nat.le_trans (arity_le_of_mem hmem) harity) he
      · have hadmits := hfits.admits_call
        rw [(mapM_eq_ok_iff.mp hvalues).length_eq] at hadmits
        exact permits_answer hadmits (hown name values) hanswer
    | add left right =>
      have harities : left.arity ≤ args.length ∧ right.arity ≤ args.length := Nat.max_le.mp harity
      rcases except_bind_eq_error h with hleft | ⟨l, -, h⟩
      · exact ih hfits.add_left harities.1 hleft
      · rcases except_bind_eq_error h with hright | ⟨r, -, hsum⟩
        · exact ih hfits.add_right harities.2 hright
        · exact permits_sum hsum

end Soundness

/-! ## Compiled modules -/

section Compiled

open Backend.Script

variable {boundary : Boundary} {preloaded table : SymbolTable} {definitions : Definitions}

/-- What the check lets pass may be called. -/
theorem admits_of_linkFault? (h : Compiled boundary preloaded definitions table)
    (hconstant : preloaded.Constant) {name : String} {count : Nat}
    (hfault : linkFault? definitions preloaded boundary name count = none) :
    (⟨boundary, table⟩ : Environment).Admits name count := by
  have hfind := h.find?_eq name
  unfold linkFault? at hfault
  cases hdefined : definitions.find? name with
  | some p =>
    rw [hdefined] at hfault hfind
    by_cases hcount : p.definition.body.arity = count
    · rw [← hcount]
      exact .script hfind
    · simp only [if_neg hcount] at hfault
      cases hfault
  | none =>
    rw [hdefined] at hfault hfind
    cases hbefore : preloaded.find? name with
    | some body =>
      have hcontains : preloaded.contains name = true :=
        SortedMap.contains_iff.mpr ⟨body, hbefore⟩
      obtain ⟨v, rfl⟩ := hconstant name body hbefore
      rw [hbefore] at hfind
      by_cases hcount : count = 0
      · rw [hcount]
        exact .constant hfind
      · simp only [if_pos hcontains, if_neg hcount] at hfault
        cases hfault
    | none =>
      have hcontains : ¬preloaded.contains name = true := by
        rw [Bool.not_eq_true]
        exact SortedMap.contains_eq_false_iff.mpr hbefore
      rw [hbefore] at hfind
      cases hfound : boundary.resolve? name with
      | some r => exact .visible hfind hfound
      | none =>
        simp only [if_neg hcontains, hfound] at hfault
        cases hfault

/-- Scripts that were compiled with a check of their references fit, if nothing but constants was there
before. -/
theorem checked_of_compiled (h : Compiled boundary preloaded definitions table)
    (hconstant : preloaded.Constant) : (⟨boundary, table⟩ : Environment).Checked := by
  intro name symbol body hbody
  have hfind := (h.find?_eq name).symm.trans hbody
  rcases Option.or_eq_some_iff.mp hfind with hdefined | ⟨-, hbefore⟩
  · obtain ⟨p, hp, hscript⟩ := Option.map_eq_some_iff.mp hdefined
    cases hscript
    refine ⟨(h.sound name p hp).counts, ?_⟩
    intro r hr
    exact admits_of_linkFault? h hconstant (h.fits name p hp r hr)
  · obtain ⟨v, hv⟩ := hconstant name _ hbefore
    cases hv

end Compiled

/-- If scripts are compiled with a check of their references on top of constants, then a call of any of
them with as many arguments as it takes, at any depth, has a value or fails for integer overflow, for
the recursion limit, or with the error that a symbol of the boundary answers. -/
theorem permits_of_compileWith (archive : Archive) (boundary : Boundary)
    (preloaded table : SymbolTable) (hconstant : preloaded.Constant)
    (hcompile : Backend.Script.compileWith true archive boundary preloaded = .ok table)
    (name symbol : String) (body : Expr)
    (hscript : table.find? name = some (.function (.script symbol body))) (args : List Value)
    (hargs : args.length = body.arity) (depth : Depth) :
    let env : Environment := { boundary, own := table }
    ((env.call name args).runFrom depth).1 =
        (env.outcomeOf depth name args).mapError Failure.error ∧
      ∀ failure, env.outcomeOf depth name args = .error failure → env.Permits failure := by
  intro env
  refine ⟨resultAt_call env depth name args, ?_⟩
  intro failure hfailure
  obtain ⟨definitions, -, hcompiled⟩ := Backend.Script.exists_compiled hcompile
  have hchecked : env.Checked := checked_of_compiled hcompiled hconstant
  have hadmits : env.Admits name args.length := by
    rw [hargs]
    exact .script hscript
  apply permits_answer hadmits _ hfailure
  intro symbol body hbody hle hfails
  exact hchecked.permits (hchecked name symbol body hbody) hle hfails

namespace Sample

/-- A module of one script, which refers to a constant and to itself. -/
def endless : Archive where
  spec := .empty ⟨"m", none, by decide⟩
  entries := SortedMap.insert ∅ "m.rls" "let f=k+f($1)".toUTF8
  legal name hname := by
    have hlegal : IsEntryName "m.rls" := by decide
    cases List.mem_singleton.mp hname
    exact hlegal

def constants : SymbolTable where
  bodies := { entries := [("m.k", .constant (.int 1))], sorted := List.pairwise_singleton _ _ }
  legal name hname := by
    have hlegal : IsDottedName "m.k" := by decide
    cases List.mem_singleton.mp hname
    exact hlegal

theorem constant_constants : constants.Constant := by
  intro name body hbody
  have hmem := (SortedMap.mem_entries_iff constants.bodies name body).mpr hbody
  cases List.mem_singleton.mp hmem
  exact ⟨.int 1, rfl⟩

/-- What the script is compiled to. -/
def compiled : Except BuildFailure SymbolTable :=
  Backend.Script.compileWith true endless (.ofCore endless.id ∅) constants

theorem exists_script :
    ∃ table symbol body, compiled = .ok table ∧
      table.find? "m.f" = some (.function (.script symbol body)) ∧ 1 = body.arity := by
  -- The equations by which `cbv` evaluates texts and bytes are spread over the whole library.
  have hok : compiled.toOption.isSome = true := by cbv
  have harity : ((Backend.Script.definitionsOf endless constants).toOption.bind
      (·.find? "m.f")).map (·.definition.body.arity) = some 1 := by cbv
  cases hcompiled : compiled with
  | error e =>
    rw [hcompiled] at hok
    cases hok
  | ok table =>
    obtain ⟨definitions, hdefinitions, hcompiled⟩ := Backend.Script.exists_compiled hcompiled
    rw [hdefinitions] at harity
    obtain ⟨p, hp, hone⟩ := Option.map_eq_some_iff.mp harity
    have hp : definitions.find? "m.f" = some p := hp
    have hfind := hcompiled.find?_eq "m.f"
    rw [hp] at hfind
    exact ⟨table, p.definition.name, p.definition.body, rfl, hfind, hone.symm⟩

end Sample

/-- The script of the sample calls itself without end, and fails as it may. -/
theorem permits_endless :
    ∃ table symbol body, Sample.constants.Constant ∧
      Backend.Script.compileWith true Sample.endless (.ofCore Sample.endless.id ∅) Sample.constants =
        .ok table ∧
      table.find? "m.f" = some (.function (.script symbol body)) ∧
      [Value.int 5].length = body.arity ∧
      let env : Environment := { boundary := .ofCore Sample.endless.id ∅, own := table }
      ((env.call "m.f" [.int 5]).runFrom 0).1 =
          (env.outcomeOf 0 "m.f" [.int 5]).mapError Failure.error ∧
        ∀ failure, env.outcomeOf 0 "m.f" [.int 5] = .error failure → env.Permits failure := by
  obtain ⟨table, symbol, body, htable, hscript, harity⟩ := Sample.exists_script
  exact ⟨table, symbol, body, Sample.constant_constants, htable, hscript, harity,
    permits_of_compileWith Sample.endless (.ofCore Sample.endless.id ∅) Sample.constants table
      Sample.constant_constants htable "m.f" symbol body hscript [.int 5] harity 0⟩

end HotReload
