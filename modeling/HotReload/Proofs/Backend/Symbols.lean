import HotReload.Backend.Symbols
import HotReload.Proofs.Except
import HotReload.Proofs.SortedMap
import Mathlib

/-!
# Names of constants

Every value in a symbol table that is no table becomes a constant. Its name is made along the path of keys
that leads to it, and an empty name stands for the table `symbols` itself; so the empty keys at the front
of a path leave no trace, while all other keys are joined with dots.

`constants_perm` says which constants a table has, and `Holds.foldlM_addEntry_cases` goes through the
entries of an archive. From both, `loads_of_readFrom` says when an archive loads, what its table then
holds, and which entry is to blame otherwise.
-/

namespace HotReload

/-! ## Paths -/

namespace Toml

mutual

/-- The values that are no tables in a value, each with the keys that lead to it, in the order of the
document. -/
def Value.leaves : Value → List (List String × Value)
  | .table fields => leavesOf fields
  | v => [([], v)]

/-- The values that are no tables below the fields of a table. -/
def leavesOf : List (String × Nat × Value) → List (List String × Value)
  | [] => []
  | (key, _, v) :: fields => (v.leaves.map fun leaf => (key :: leaf.1, leaf.2)) ++ leavesOf fields

end

end Toml

namespace Backend.Symbols

/-- The keys of a path with dots between them, without the empty keys at its front. -/
def nameOf (path : List String) : String :=
  ".".intercalate (path.dropWhile String.isEmpty)

section Names

variable {space key : String} {path : List String}

theorem foldl_nameIn_of_ne (h : space ≠ "") :
    path.foldl nameIn space = ".".intercalate (space :: path) := by
  induction path generalizing space with
  | nil => rfl
  | cons key path ih =>
    have hname : nameIn space key = space ++ "." ++ key := by
      rw [nameIn, if_neg (String.isEmpty_iff.not.mpr h)]
    have hne : space ++ "." ++ key ≠ "" := by
      intro hempty
      have hchars := congrArg String.toList hempty
      simp at hchars
    rw [List.foldl_cons, hname, ih hne]
    rfl

/-- The name that is made along a path of keys. -/
theorem foldl_nameIn : path.foldl nameIn "" = nameOf path := by
  induction path with
  | nil => rfl
  | cons key path ih =>
    have hname : nameIn "" key = key := rfl
    rw [List.foldl_cons, hname, nameOf]
    by_cases hempty : key = ""
    · subst hempty
      rw [List.dropWhile_cons_of_pos rfl]
      exact ih
    · rw [List.dropWhile_cons_of_neg (String.isEmpty_iff.not.mpr hempty)]
      exact foldl_nameIn_of_ne hempty

theorem nameOf_of_ne (h : key ≠ "") : nameOf (key :: path) = ".".intercalate (key :: path) := by
  rw [nameOf, List.dropWhile_cons_of_neg (String.isEmpty_iff.not.mpr h)]

theorem nameOf_cons_empty : nameOf ("" :: path) = nameOf path := by
  rw [nameOf, List.dropWhile_cons_of_pos rfl, nameOf]

/-- Dots before other keys show that there are empty keys. -/
theorem length_intercalate_cons_empty (h : path ≠ []) :
    (".".intercalate ("" :: path)).length = (".".intercalate path).length + 1 := by
  obtain ⟨key, rest, rfl⟩ := List.exists_cons_of_ne_nil h
  rw [String.intercalate_cons_cons, String.empty_append, String.length_append, Nat.add_comm]
  rfl

theorem length_nameOf_le (path : List String) :
    (nameOf path).length ≤ (".".intercalate path).length := by
  induction path with
  | nil => exact Nat.le_refl _
  | cons key path ih =>
    by_cases hempty : key = ""
    · subst hempty
      rw [nameOf_cons_empty]
      by_cases hpath : path = []
      · subst hpath
        exact Nat.le_refl _
      · rw [length_intercalate_cons_empty hpath]
        exact Nat.le_succ_of_le ih
    · exact Nat.le_of_eq (congrArg String.length (nameOf_of_ne hempty))

/-- A name is the whole path unless this starts with an empty key before another key. -/
theorem nameOf_eq_intercalate (h : path.head? = some "" → path = [""]) :
    nameOf path = ".".intercalate path := by
  cases path with
  | nil => rfl
  | cons key path =>
    by_cases hempty : key = ""
    · subst hempty
      cases h rfl
      rfl
    · exact nameOf_of_ne hempty

theorem length_nameOf_cons_empty_lt (h : path ≠ []) :
    (nameOf ("" :: path)).length < (".".intercalate ("" :: path)).length := by
  rw [nameOf_cons_empty, length_intercalate_cons_empty h]
  exact Nat.lt_succ_of_le (length_nameOf_le path)

theorem inKeyOrder_perm (found : List (String × List (String × Toml.Value))) :
    (inKeyOrder found).Perm (found.flatMap (·.2)) :=
  (List.mergeSort_perm found _).flatMap_right _

mutual

theorem flatten_perm (name : String) : ∀ v : Toml.Value,
    (flatten name v).Perm (v.leaves.map fun leaf => (leaf.1.foldl nameIn name, leaf.2))
  | .table fields => (inKeyOrder_perm _).trans (flattenFields_perm name fields)
  | .text _ | .int _ | .float _ | .bool _ | .dateTime _ | .array _ => .refl _

theorem flattenFields_perm (space : String) : ∀ fields : List (String × Nat × Toml.Value),
    ((flattenFields space fields).flatMap (·.2)).Perm
      ((Toml.leavesOf fields).map fun leaf => (leaf.1.foldl nameIn space, leaf.2))
  | [] => .refl _
  | (key, _, v) :: fields => by
    rw [flattenFields, Toml.leavesOf, List.flatMap_cons, List.map_append, List.map_map]
    exact (flatten_perm (nameIn space key) v).append (flattenFields_perm space fields)

end

/-- The constants of a table are the values in it that are no tables, each under the name of its path. -/
theorem constants_perm (fields : List (String × Nat × Toml.Value)) :
    (constants fields).Perm
      ((Toml.leavesOf fields).map fun leaf => (nameOf leaf.1, leaf.2.toValue)) := by
  have hfound := (inKeyOrder_perm _).trans (flattenFields_perm "" fields)
  have hconstants := hfound.map fun c : String × Toml.Value => (c.1, c.2.toValue)
  rw [List.map_map] at hconstants
  refine hconstants.trans (.of_eq (List.map_congr_left fun leaf _ => ?_))
  exact congrArg (·, leaf.2.toValue) foldl_nameIn

end Names

/-! ## Names in one table -/

/-- Names that may stand in one table. -/
structure WellNamed (names : List String) : Prop where
  legal : ∀ name ∈ names, IsDottedName name
  nodup : names.Nodup

/-- What is wrong with one of some names that come after others. -/
inductive Misnames (earlier names : List String) : SymbolError → Prop
  | badName {name : String} {fault : NameFault} (mem : name ∈ names)
      (found : NameFault.of? name = some fault) : Misnames earlier names (.badName name fault)
  | duplicate {name : String} (mem : name ∈ names) (again : 2 ≤ (earlier ++ names).count name) :
      Misnames earlier names (.duplicate name)

section Naming

variable {earlier earlier' names names' later : List String} {name : String} {e : SymbolError}

theorem wellNamed_nil : WellNamed [] := ⟨nofun, .nil⟩

theorem WellNamed.of_perm (h : WellNamed names) (hperm : names.Perm names') : WellNamed names' where
  legal name hname := h.legal name (hperm.mem_iff.mpr hname)
  nodup := hperm.nodup_iff.mp h.nodup

theorem WellNamed.concat (h : WellNamed names) (hlegal : IsDottedName name) (hnew : name ∉ names) :
    WellNamed (names ++ [name]) := by
  constructor
  case legal =>
    rw [List.forall_mem_append, List.forall_mem_singleton]
    exact ⟨h.legal, hlegal⟩
  case nodup =>
    rw [List.nodup_append]
    refine ⟨h.nodup, List.nodup_singleton name, ?_⟩
    rintro a ha b hb rfl
    rw [List.mem_singleton.mp hb] at ha
    exact hnew ha

theorem Misnames.of_perm (h : Misnames earlier names e) (hearlier : earlier.Perm earlier')
    (hnames : names.Perm names') : Misnames earlier' names' e := by
  cases h with
  | badName mem found => exact .badName (hnames.mem_iff.mp mem) found
  | duplicate mem again =>
    rw [(hearlier.append hnames).count_eq] at again
    exact .duplicate (hnames.mem_iff.mp mem) again

/-- What is wrong with later names is wrong with all of them. -/
theorem Misnames.cons (h : Misnames (earlier ++ [name]) names e) :
    Misnames earlier (name :: names) e := by
  cases h with
  | badName mem found => exact .badName (List.mem_cons_of_mem _ mem) found
  | duplicate mem again =>
    rw [List.append_assoc, List.singleton_append] at again
    exact .duplicate (List.mem_cons_of_mem _ mem) again

theorem Misnames.append (h : Misnames earlier names e) (later : List String) :
    Misnames earlier (names ++ later) e := by
  cases h with
  | badName mem found => exact .badName (List.mem_append_left _ mem) found
  | duplicate mem again =>
    refine .duplicate (List.mem_append_left _ mem) (Nat.le_trans again ?_)
    rw [← List.append_assoc]
    exact (List.sublist_append_left _ later).count_le _

theorem WellNamed.not_misnames (h : WellNamed (earlier ++ (names ++ later))) :
    ¬Misnames earlier names e := by
  intro hwrong
  cases hwrong.append later with
  | badName mem found =>
    have hlegal := h.legal _ (List.mem_append_right _ mem)
    rw [IsDottedName, found] at hlegal
    cases hlegal
  | @duplicate name mem again =>
    have hcount := List.nodup_iff_count_le_one.mp h.nodup name
    exact absurd again (Nat.not_le_of_lt (Nat.lt_succ_of_le hcount))

end Naming

/-! ## Loading -/

/-- A table holds some constants and nothing else. -/
def Holds (table : SymbolTable) (constants : List (String × Value)) : Prop :=
  table.bodies.entries.Perm (constants.map fun c => (c.1, .constant c.2))

section Loading

variable {table : SymbolTable} {earlier : List (String × Value)}

theorem holds_empty : Holds ∅ [] := .refl _

theorem Holds.find?_iff (h : Holds table earlier) {name : String} {body : Body} :
    table.find? name = some body ↔ ∃ v, (name, v) ∈ earlier ∧ body = .constant v := by
  rw [SymbolTable.find?, ← SortedMap.mem_entries_iff, h.mem_iff, List.mem_map]
  constructor
  · rintro ⟨⟨name', v⟩, hmem, heq⟩
    cases heq
    exact ⟨v, hmem, rfl⟩
  · rintro ⟨v, hmem, rfl⟩
    exact ⟨(name, v), hmem, rfl⟩

theorem Holds.contains_iff (h : Holds table earlier) {name : String} :
    table.contains name = true ↔ name ∈ earlier.map (·.1) := by
  rw [SymbolTable.contains, SortedMap.contains_iff, List.mem_map]
  constructor
  · rintro ⟨body, hbody⟩
    obtain ⟨v, hmem, -⟩ := h.find?_iff.mp hbody
    exact ⟨(name, v), hmem, rfl⟩
  · rintro ⟨⟨name, v⟩, hmem, rfl⟩
    exact ⟨_, h.find?_iff.mpr ⟨v, hmem, rfl⟩⟩

/-- One more constant is defined, or there is something wrong with its name. -/
theorem Holds.define_cases (h : Holds table earlier) (entry : String) (c : String × Value) :
    (∃ table', define entry table c = .ok table' ∧ Holds table' (earlier ++ [c]) ∧
      IsDottedName c.1 ∧ c.1 ∉ earlier.map (·.1)) ∨
    ∃ e, define entry table c = .error (.inEntry entry (.symbol e)) ∧
      Misnames (earlier.map (·.1)) [c.1] e := by
  obtain ⟨name, v⟩ := c
  unfold define
  rcases table.defineBody_cases name (.constant v) with
    ⟨fault, hfault, hdefine⟩ | ⟨-, htaken, hdefine⟩ | ⟨hlegal, hfree, hdefine⟩
  · rw [hdefine]
    exact .inr ⟨_, rfl, .badName List.mem_cons_self hfault⟩
  · rw [hdefine]
    refine .inr ⟨_, rfl, .duplicate List.mem_cons_self ?_⟩
    have hcount := List.count_pos_iff.mpr (h.contains_iff.mp htaken)
    rw [List.count_append, List.count_singleton_self]
    exact Nat.succ_le_succ hcount
  · rw [hdefine]
    refine .inl ⟨_, rfl, ?_, hlegal, ?_⟩
    · have hnone : table.bodies.find? name = none := SortedMap.contains_eq_false_iff.mp hfree
      rw [Holds, List.map_append]
      exact (SortedMap.entries_insert_perm hnone).trans
        ((h.cons _).trans (List.perm_append_singleton _ _).symm)
    · rw [← h.contains_iff, hfree]
      exact Bool.false_ne_true

theorem Holds.foldlM_define_cases (h : Holds table earlier) (hnames : WellNamed (earlier.map (·.1)))
    (entry : String) (cs : List (String × Value)) :
    (∃ table', cs.foldlM (define entry) table = .ok table' ∧ Holds table' (earlier ++ cs) ∧
      WellNamed ((earlier ++ cs).map (·.1))) ∨
    ∃ e, cs.foldlM (define entry) table = .error (.inEntry entry (.symbol e)) ∧
      Misnames (earlier.map (·.1)) (cs.map (·.1)) e := by
  induction cs generalizing table earlier with
  | nil =>
    rw [List.append_nil]
    exact .inl ⟨table, rfl, h, hnames⟩
  | cons c cs ih =>
    rw [List.foldlM_cons]
    rcases h.define_cases entry c with ⟨table', hdefine, h', hlegal, hnew⟩ | ⟨e, hdefine, hwrong⟩
    · -- The names so far stay legal and apart, so the rest is defined on top of a table like this one.
      have hnames' : WellNamed ((earlier ++ [c]).map (·.1)) := by
        rw [List.map_append]
        exact hnames.concat hlegal hnew
      rw [hdefine]
      rcases ih h' hnames' with ⟨table'', hrest, hholds⟩ | ⟨e, hrest, hwrong⟩
      · rw [List.append_assoc, List.singleton_append] at hholds
        exact .inl ⟨table'', hrest, hholds⟩
      · rw [List.map_append] at hwrong
        exact .inr ⟨e, hrest, hwrong.cons⟩
    · rw [hdefine]
      exact .inr ⟨e, rfl, hwrong.append (cs.map Prod.fst)⟩

/-- A symbol table as it is read: its entry and the fields of its table `symbols`. -/
structure Table where
  entry : String
  fields : List (String × Nat × Toml.Value)

/-- An entry of an archive is well-formed TOML and holds a table. -/
structure Table.ReadFrom (t : Table) (entry : String × ByteArray) : Prop where
  entry_eq : entry.1 = t.entry
  reads : ∃ source, Text.decode entry.2 = .ok source ∧
    (Toml.parse source).bind symbolFields = .ok t.fields

theorem addEntry_eq {t : Table} {entry : String × ByteArray} (h : t.ReadFrom entry) :
    addEntry table entry = (constants t.fields).foldlM (define t.entry) table := by
  obtain ⟨source, hdecode, hfields⟩ := h.reads
  have hread : readEntry entry.1 entry.2 = .ok (constants t.fields) := by
    rw [readEntry, hdecode]
    dsimp only
    rw [hfields]
  rw [addEntry, hread, ← h.entry_eq]
  rfl

/-- The constants of some tables. -/
def constantsOf (tables : List Table) : List (String × Value) :=
  tables.flatMap fun t => constants t.fields

/-- All constants of some tables are defined, or there is something wrong with a name in the first
table whose names do not fit those before. -/
theorem Holds.foldlM_addEntry_cases {tables : List Table} {entries : List (String × ByteArray)}
    (h : Holds table earlier) (hnames : WellNamed (earlier.map (·.1)))
    (hread : List.Forall₂ Table.ReadFrom tables entries) :
    (∃ table', entries.foldlM addEntry table = .ok table' ∧
      Holds table' (earlier ++ constantsOf tables) ∧
      WellNamed ((earlier ++ constantsOf tables).map (·.1))) ∨
    ∃ before t after e, tables = before ++ t :: after ∧
      entries.foldlM addEntry table = .error (.inEntry t.entry (.symbol e)) ∧
      WellNamed ((earlier ++ constantsOf before).map (·.1)) ∧
      Misnames ((earlier ++ constantsOf before).map (·.1)) ((constants t.fields).map (·.1)) e := by
  induction hread generalizing table earlier with
  | nil =>
    rw [constantsOf, List.flatMap_nil, List.append_nil]
    exact .inl ⟨table, rfl, h, hnames⟩
  | @cons t entry tables entries ht _ ih =>
    rw [List.foldlM_cons, addEntry_eq ht]
    rcases h.foldlM_define_cases hnames t.entry (constants t.fields) with
      ⟨table', hdefine, h', hnames'⟩ | ⟨e, hdefine, hwrong⟩
    · have hsplit : ∀ ts, earlier ++ constants t.fields ++ constantsOf ts =
          earlier ++ constantsOf (t :: ts) := by
        intro ts
        rw [List.append_assoc, constantsOf, constantsOf, List.flatMap_cons]
      rw [hdefine]
      rcases ih h' hnames' with ⟨table'', hrest, hholds⟩ | ⟨before, t', after, e, rfl, hrest, hwrong⟩
      · rw [hsplit] at hholds
        exact .inl ⟨table'', hrest, hholds⟩
      · rw [hsplit] at hwrong
        exact .inr ⟨t :: before, t', after, e, rfl, hrest, hwrong⟩
    · rw [hdefine]
      refine .inr ⟨[], t, tables, e, rfl, rfl, ?_⟩
      rw [constantsOf, List.flatMap_nil, List.append_nil]
      exact ⟨hnames, hwrong⟩

end Loading

/-! ## Archives -/

/-- The values that are no tables in some tables, each with the keys that lead to it. -/
def leavesOf (tables : List Table) : List (List String × Toml.Value) :=
  tables.flatMap fun t => Toml.leavesOf t.fields

/-- The names of the values that are no tables in some tables. -/
def namesOf (tables : List Table) : List String :=
  (leavesOf tables).map fun leaf => nameOf leaf.1

theorem constantsOf_perm (tables : List Table) :
    (constantsOf tables).Perm
      ((leavesOf tables).map fun leaf => (nameOf leaf.1, leaf.2.toValue)) := by
  rw [constantsOf, leavesOf, List.map_flatMap]
  exact List.Perm.flatMap_left tables fun t _ => constants_perm t.fields

theorem names_constantsOf_perm (tables : List Table) :
    ((constantsOf tables).map (·.1)).Perm (namesOf tables) := by
  have hperm := (constantsOf_perm tables).map fun c : String × Value => c.1
  rwa [List.map_map] at hperm

/-- What loading an archive comes to whose symbol tables are given. -/
structure Loads (archive : Archive) (tables : List Table) : Prop where
  /-- It succeeds if and only if all names are legal and no two values have the same name. -/
  succeeds_iff : (∃ table, load archive = .ok table) ↔ WellNamed (namesOf tables)
  /-- The table then has each value under its name, and nothing else. -/
  find?_iff : ∀ table, load archive = .ok table → ∀ name body, table.find? name = some body ↔
    ∃ path v, (path, v) ∈ leavesOf tables ∧ name = nameOf path ∧ body = .constant v.toValue
  /-- Otherwise it is the first table whose names do not fit those before that is to blame, and what
  is said of it is true. -/
  fails : ∀ failure, load archive = .error failure → ∃ before t after e,
    tables = before ++ t :: after ∧ WellNamed (namesOf before) ∧
      failure = .inEntry t.entry (.symbol e) ∧ Misnames (namesOf before) (namesOf [t]) e
  /-- A name is the whole path of keys, with dots between them, if the first key is not empty or there
  is no other. -/
  whole : ∀ path, (path.head? = some "" → path = [""]) → nameOf path = ".".intercalate path
  /-- Otherwise it is shorter. -/
  shortened : ∀ path, path ≠ [] → (nameOf ("" :: path)).length < (".".intercalate ("" :: path)).length

section Archives

variable {archive : Archive} {tables : List Table} {table : SymbolTable} {failure : BuildFailure}

theorem holds_of_load (hread : List.Forall₂ Table.ReadFrom tables (archive.withSuffix suffix))
    (hload : load archive = .ok table) :
    Holds table (constantsOf tables) ∧ WellNamed (namesOf tables) := by
  rcases holds_empty.foldlM_addEntry_cases wellNamed_nil hread with
    ⟨table', hload', hholds, hnames⟩ | ⟨_, _, _, _, _, hload', _⟩
  · cases hload.symm.trans hload'
    exact ⟨hholds, hnames.of_perm (names_constantsOf_perm tables)⟩
  · cases hload.symm.trans hload'

theorem misnames_of_load (hread : List.Forall₂ Table.ReadFrom tables (archive.withSuffix suffix))
    (hload : load archive = .error failure) :
    ∃ before t after e, tables = before ++ t :: after ∧ WellNamed (namesOf before) ∧
      failure = .inEntry t.entry (.symbol e) ∧ Misnames (namesOf before) (namesOf [t]) e := by
  rcases holds_empty.foldlM_addEntry_cases wellNamed_nil hread with
    ⟨_, hload', _⟩ | ⟨before, t, after, e, hsplit, hload', hnames, hwrong⟩
  · cases hload.symm.trans hload'
  · cases hload.symm.trans hload'
    have hbefore := names_constantsOf_perm before
    have ht := names_constantsOf_perm [t]
    rw [constantsOf, List.flatMap_singleton] at ht
    exact ⟨before, t, after, e, hsplit, hnames.of_perm hbefore, rfl, hwrong.of_perm hbefore ht⟩

theorem namesOf_split (before : List Table) (t : Table) (after : List Table) :
    namesOf (before ++ t :: after) = namesOf before ++ (namesOf [t] ++ namesOf after) := by
  simp [namesOf, leavesOf]

/-- Every archive whose symbol tables are well-formed loads as it should, up to empty keys at the front
of a path. -/
theorem loads_of_readFrom
    (hread : List.Forall₂ Table.ReadFrom tables (archive.withSuffix suffix)) :
    Loads archive tables := by
  constructor
  case succeeds_iff =>
    constructor
    · rintro ⟨table, hload⟩
      exact (holds_of_load hread hload).2
    · intro hnames
      cases hload : load archive with
      | ok table => exact ⟨table, rfl⟩
      | error failure =>
        -- Names that fit as a whole fit up to the table that is to blame.
        obtain ⟨before, t, after, e, rfl, -, -, hwrong⟩ := misnames_of_load hread hload
        rw [namesOf_split] at hnames
        exact absurd hwrong hnames.not_misnames
  case find?_iff =>
    intro table hload name body
    rw [(holds_of_load hread hload).1.find?_iff]
    simp only [(constantsOf_perm tables).mem_iff, List.mem_map, Prod.exists, Prod.mk.injEq]
    constructor
    · rintro ⟨_, ⟨path, v, hmem, hname, rfl⟩, hbody⟩
      exact ⟨path, v, hmem, hname.symm, hbody⟩
    · rintro ⟨path, v, hmem, hname, hbody⟩
      exact ⟨_, ⟨path, v, hmem, hname.symm, rfl⟩, hbody⟩
  case fails =>
    intro failure hload
    exact misnames_of_load hread hload
  case whole =>
    intro path hpath
    exact nameOf_eq_intercalate hpath
  case shortened =>
    intro path hpath
    exact length_nameOf_cons_empty_lt hpath

end Archives

/-- Two symbol tables, in the second of which a key with a dot stands for a name of the first one. -/
def clashing : Archive where
  spec := .empty .anonymous
  entries := .ofList [("a.symbols.toml", "[symbols.a]\nx=1".toUTF8),
    ("b.symbols.toml", "[symbols]\nb=2\n\"a.x\"=3".toUTF8)]
  legal := by decide

/-- The second table is to blame. -/
theorem loads_clashing :
    ∃ tables, List.Forall₂ Table.ReadFrom tables (clashing.withSuffix suffix) ∧
      Loads clashing tables ∧ namesOf tables = ["a.x", "b", "a.x"] ∧
      load clashing = .error (.inEntry "b.symbols.toml" (.symbol (.duplicate "a.x"))) := by
  -- The equations by which `cbv` evaluates texts and bytes are spread over the whole library.
  have hentries : clashing.withSuffix suffix =
      [("a.symbols.toml", "[symbols.a]\nx=1".toUTF8),
        ("b.symbols.toml", "[symbols]\nb=2\n\"a.x\"=3".toUTF8)] := by cbv
  have hparse : Toml.parse "[symbols.a]\nx=1" =
      .ok [("symbols", 1, .table [("a", 1, .table [("x", 2, .int 1)])])] := by cbv
  have hfirst : Table.ReadFrom ⟨"a.symbols.toml", [("a", 1, .table [("x", 2, .int 1)])]⟩
      ("a.symbols.toml", "[symbols.a]\nx=1".toUTF8) :=
    ⟨rfl, "[symbols.a]\nx=1", by cbv, by rw [hparse]; rfl⟩
  have hsecond : Table.ReadFrom ⟨"b.symbols.toml", [("b", 2, .int 2), ("a.x", 3, .int 3)]⟩
      ("b.symbols.toml", "[symbols]\nb=2\n\"a.x\"=3".toUTF8) :=
    ⟨rfl, "[symbols]\nb=2\n\"a.x\"=3", by cbv, by cbv⟩
  have hread := hentries ▸ List.Forall₂.cons hfirst (.cons hsecond .nil)
  refine ⟨_, hread, loads_of_readFrom hread, by cbv, ?_⟩
  have hconstants : constants [("a", 1, .table [("x", 2, .int 1)])] = [("a.x", .int 1)] := by cbv
  rw [load, hentries, List.foldlM_cons, addEntry_eq hfirst, hconstants]
  have hdefine : [("a.x", .int 1)].foldlM (define "a.symbols.toml") ∅ = .ok
    ⟨⟨[("a.x", .constant (.int 1))], by decide⟩, by decide⟩ := by cbv
  rw [hdefine]
  cbv

/-- A symbol table with an empty key before another one. -/
def emptyFirst : Archive where
  spec := .empty .anonymous
  entries := .ofList [("a.symbols.toml", "[symbols.\"\"]\nx=1".toUTF8)]
  legal := by decide

/-- The value is defined under the shorter name, though its whole path is no legal name. -/
theorem load_emptyFirst :
    ∃ fields, (Toml.parse "[symbols.\"\"]\nx=1").bind symbolFields = .ok fields ∧
      Toml.leavesOf fields = [(["", "x"], .int 1)] ∧ ¬IsDottedName (".".intercalate ["", "x"]) ∧
      (load emptyFirst).toOption.bind (·.find? "x") = some (.constant (.int 1)) := by
  have hentries : emptyFirst.withSuffix suffix =
      [("a.symbols.toml", "[symbols.\"\"]\nx=1".toUTF8)] := by cbv
  have hparse : Toml.parse "[symbols.\"\"]\nx=1" =
      .ok [("symbols", 1, .table [("", 1, .table [("x", 2, .int 1)])])] := by cbv
  have hfields : (Toml.parse "[symbols.\"\"]\nx=1").bind symbolFields =
      .ok [("", 1, .table [("x", 2, .int 1)])] := by rw [hparse]; rfl
  have hread : Table.ReadFrom ⟨"a.symbols.toml", [("", 1, .table [("x", 2, .int 1)])]⟩
      ("a.symbols.toml", "[symbols.\"\"]\nx=1".toUTF8) :=
    ⟨rfl, "[symbols.\"\"]\nx=1", by cbv, hfields⟩
  have hconstants : constants [("", 1, .table [("x", 2, .int 1)])] = [("x", .int 1)] := by cbv
  refine ⟨_, hfields, rfl, by decide, ?_⟩
  rw [load, hentries, List.foldlM_cons, addEntry_eq hread, hconstants]
  cbv

end Backend.Symbols

end HotReload
