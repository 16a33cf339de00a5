import HotReload.CommandLine.Run
import HotReload.Proofs.Lookup
import Mathlib.Data.List.Nodup

/-!
# What is listed and what is found

A boundary lists a name if and only if a look-up finds it, once and with the origin that wins, however
its sources shadow each other (`shows_visible`). What an inspection prints about the symbols of a
module is such a list for the module's environment: its own names, then the visible ones that it does
not define (`inspectLines_shows`).
-/

namespace HotReload

/-- A list shows the names that a look-up finds, each of them once and with its origin. -/
structure Shows (find : String → Option Resolved) (listed : List (String × Origin)) : Prop where
  once : (listed.map Prod.fst).Nodup
  mem_iff : ∀ name origin, (name, origin) ∈ listed ↔ ∃ r, find name = some r ∧ r.origin = origin

/-! ## The first of each name -/

section FirstOfEach

variable {α : Type} {seen : List String} {l : List (String × α)} {name : String} {a : α}

/-- What was seen is left out; any other name is listed as the first entry has it. -/
theorem mem_firstOfEach_iff :
    (name, a) ∈ firstOfEach seen l ↔
      name ∉ seen ∧ l.find? (fun e => e.1 == name) = some (name, a) := by
  induction l generalizing seen with
  | nil => simp [firstOfEach]
  | cons e rest ih =>
    obtain ⟨head, b⟩ := e
    rw [firstOfEach, List.find?_cons]
    by_cases hname : head = name
    · subst hname
      by_cases hseen : head ∈ seen
      · simp [hseen, ih]
      · simp [hseen, ih, eq_comm]
    · have hne : (head == name) = false := beq_eq_false_iff_ne.mpr hname
      by_cases hseen : head ∈ seen
      · simp [hseen, hne, ih]
      · simp [hseen, hne, ih, Ne.symm hname]

theorem nodup_firstOfEach : ((firstOfEach seen l).map Prod.fst).Nodup := by
  induction l generalizing seen with
  | nil => exact List.nodup_nil
  | cons e rest ih =>
    obtain ⟨head, b⟩ := e
    rw [firstOfEach]
    split
    · exact ih
    · rw [List.map_cons, List.nodup_cons]
      refine ⟨?_, ih⟩
      intro hmem
      obtain ⟨⟨name, c⟩, hc, rfl⟩ := List.mem_map.mp hmem
      exact (mem_firstOfEach_iff.mp hc).1 List.mem_cons_self

end FirstOfEach

/-! ## Boundaries -/

/-- The names of a source, each with its origin, have an entry for what the source has a symbol
for. -/
theorem Source.find?_names (source : Source) (name : String) :
    (source.table.names.map (·, source.origin)).find? (fun e => e.1 == name) =
      (source.find? name).map fun r => (name, r.origin) := by
  cases hfound : source.table.find? name with
  | none =>
    have hnot : name ∉ source.table.names := by
      rw [SymbolTable.mem_names_iff, hfound]
      exact nofun
    have hnone : (source.table.names.map (·, source.origin)).find? (fun e => e.1 == name) = none := by
      rw [List.find?_eq_none]
      rintro e he heq
      obtain ⟨n, hn, rfl⟩ := List.mem_map.mp he
      exact hnot (eq_of_beq heq ▸ hn)
    rw [hnone, Source.find?, hfound]
    rfl
  | some body =>
    have hmem : name ∈ source.table.names := SymbolTable.mem_names_iff.mpr ⟨body, hfound⟩
    obtain ⟨e, he⟩ : ∃ e, (source.table.names.map (·, source.origin)).find? (fun e => e.1 == name) =
        some e := by
      rw [← Option.isSome_iff_exists, List.find?_isSome]
      exact ⟨(name, source.origin), List.mem_map_of_mem hmem, beq_self_eq_true name⟩
    have hname := List.find?_some he
    obtain ⟨n, hn, rfl⟩ := List.mem_map.mp (List.mem_of_find?_eq_some he)
    obtain rfl : n = name := eq_of_beq hname
    rw [he, Source.find?, hfound]
    rfl

theorem BoundaryOf.find?_sources (b : Boundary) (name : String) :
    (b.sources.flatMap fun source => source.table.names.map (·, source.origin)).find?
        (fun e => e.1 == name) =
      (b.resolve? name).map fun r => (name, r.origin) := by
  rw [List.find?_flatMap, resolve?, List.map_findSome?]
  exact congrArg b.sources.findSome? (funext fun source => source.find?_names name)

/-- A boundary lists exactly what it resolves. -/
theorem shows_visible (b : Boundary) : Shows b.resolve? b.visible := by
  constructor
  case once => exact nodup_firstOfEach
  case mem_iff =>
    intro name origin
    rw [BoundaryOf.visible, mem_firstOfEach_iff, b.find?_sources]
    simp

/-! ## Environments -/

namespace Environment

variable {env : Environment} {name : String} {origin : Origin}

theorem own_contains_eq_false_iff : env.own.contains name = false ↔ name ∉ env.own.names := by
  rw [← Bool.not_eq_true, SymbolTable.mem_names_iff]
  exact not_congr SortedMap.contains_iff

/-- The own names of an environment, then the visible names that it does not define. -/
def listing (env : Environment) : List (String × Origin) :=
  env.own.names.map (·, .own) ++ env.boundary.visible.filter fun e => !env.own.contains e.1

theorem mem_listing_iff :
    (name, origin) ∈ env.listing ↔
      (name ∈ env.own.names ∧ origin = .own) ∨
        (name ∉ env.own.names ∧ (name, origin) ∈ env.boundary.visible) := by
  simp only [listing, List.mem_append, List.mem_map, Prod.mk.injEq, List.mem_filter,
    Bool.not_eq_true', own_contains_eq_false_iff]
  constructor
  · rintro (⟨n, hn, rfl, rfl⟩ | ⟨hvisible, hnot⟩)
    · exact .inl ⟨hn, rfl⟩
    · exact .inr ⟨hnot, hvisible⟩
  · rintro (⟨hn, rfl⟩ | ⟨hnot, hvisible⟩)
    · exact .inl ⟨name, hn, rfl, rfl⟩
    · exact .inr ⟨hvisible, hnot⟩

/-- An environment's listing shows what a look-up in it finds. -/
theorem shows_listing (env : Environment) : Shows env.resolve? env.listing := by
  have hvisible := shows_visible env.boundary
  constructor
  case once =>
    have hown : (env.own.names.map (·, Origin.own)).map Prod.fst = env.own.names := by
      rw [List.map_map]
      exact List.map_id _
    rw [listing, List.map_append, hown]
    refine env.own.bodies.keys_nodup.append
      (hvisible.once.sublist (List.filter_sublist.map Prod.fst)) ?_
    intro name hname hother
    obtain ⟨e, he, rfl⟩ := List.mem_map.mp hother
    have hhidden := (List.mem_filter.mp he).2
    rw [Bool.not_eq_true', own_contains_eq_false_iff] at hhidden
    exact hhidden hname
  case mem_iff =>
    intro name origin
    rw [mem_listing_iff, hvisible.mem_iff, resolve?]
    cases hown : env.own.find? name with
    | none =>
      have hnot : name ∉ env.own.names := by
        rw [SymbolTable.mem_names_iff, hown]
        exact nofun
      simp [hnot]
    | some body =>
      have hmem : name ∈ env.own.names := SymbolTable.mem_names_iff.mpr ⟨body, hown⟩
      simp [hmem, eq_comm]

end Environment

/-! ## Inspections -/

namespace CommandLine

/-- The line that shows a symbol and where it comes from. -/
def symbolLine (e : String × Origin) : String :=
  "  " ++ e.1 ++ "  (" ++ e.2.display ++ ")"

/-- What an inspection prints about a module before its symbols. -/
def headingLines (m : CompiledModule) : List String :=
  let compiler := (m.compiler.map (·.text)).getD "no compiler"
  (m.id.toString ++ " r" ++ m.revision.repr ++ " [" ++ compiler ++ "] " ++
    Digest.short m.archive.hash) ::
    m.links.map fun l => "  links " ++ l.id.toString ++ " r" ++ l.revision.repr

/-- An inspection prints the lines of the module if it is published, and nothing otherwise. -/
theorem lines_runInspect (l : Loader) (id : ModuleId) (archives : List Archive) :
    (runInspect l id archives).lines =
      match (loadAll l archives).state.snapshot.find? id with
      | some m => inspectLines m
      | none => [] := by
  dsimp only [runInspect]
  cases (loadAll l archives).state.snapshot.find? id with
  | some m => rfl
  | none =>
    cases (loadAll l archives).report.outcomes.find? id with
    | some outcome => rfl
    | none => rfl

/-- After its heading, an inspection of a published module prints a line for each name that the module
can look up, its own ones first; of the names that are only visible it prints what the boundary lists. -/
theorem inspectLines_shows :
    (∀ b : Boundary, Shows b.resolve? b.visible) ∧
      (∀ env : Environment, Shows env.resolve? env.listing) ∧
      (∀ m : CompiledModule,
        inspectLines m = headingLines m ++ m.environment.listing.map symbolLine) ∧
      ∀ (l : Loader) (id : ModuleId) (archives : List Archive),
        (runInspect l id archives).lines =
          match (loadAll l archives).state.snapshot.find? id with
          | some m => inspectLines m
          | none => [] := by
  refine ⟨shows_visible, Environment.shows_listing, ?_, lines_runInspect⟩
  intro m
  simp only [inspectLines, headingLines, Environment.listing, List.map_append, List.map_map,
    List.cons_append, List.append_assoc]
  rfl

end CommandLine

end HotReload
