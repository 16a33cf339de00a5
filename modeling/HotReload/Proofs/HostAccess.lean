import HotReload.Loader.Setup
import HotReload.Proofs.Linking
import HotReload.Proofs.Lookup
import HotReload.Proofs.Name

/-!
# What a module is given of the host

A loader has host symbols, and what a module may see of them is settled by two lists of name spaces:
the packages that the loader exposes and the imports of the module. A boundary grants exactly the
symbols whose names lie in a name space of the one list and in a name space of the other, and grants
them as they are (`grants_of_make`). So a boundary that is made with narrower lists exposes at most what
it exposed before, and differs in nothing else (`exposesAtMost_of_narrows`). `grants_covered` has both,
with name spaces taken segment by segment.
-/

namespace HotReload

/-! ## Lists of name spaces -/

/-- A name lies in one of some name spaces. -/
def Covers (spaces : List String) (name : String) : Prop :=
  ∃ space ∈ spaces, segments space <+: segments name

instance (spaces : List String) (name : String) : Decidable (Covers spaces name) :=
  inferInstanceAs (Decidable (∃ space ∈ spaces, segments space <+: segments name))

/-- Every name space of the one list lies in one of the other list. -/
def Narrows (narrow wide : List String) : Prop :=
  ∀ space ∈ narrow, Covers wide space

instance (narrow wide : List String) : Decidable (Narrows narrow wide) :=
  inferInstanceAs (Decidable (∀ space ∈ narrow, Covers wide space))

section Spaces

variable {spaces narrow wide exposed imports : List String} {name : String}

theorem covers_eraseDups_iff : Covers spaces.eraseDups name ↔ Covers spaces name := by
  simp only [Covers, List.mem_eraseDups]

theorem covers_of_mem (h : name ∈ spaces) : Covers spaces name :=
  ⟨name, h, List.prefix_rfl⟩

/-- A list is narrower than another one if and only if it covers no name that the other one leaves. -/
theorem narrows_iff : Narrows narrow wide ↔ ∀ name, Covers narrow name → Covers wide name := by
  constructor
  · rintro h name ⟨space, hspace, hin⟩
    obtain ⟨wider, hwider, hspaces⟩ := h space hspace
    exact ⟨wider, hwider, hspaces.trans hin⟩
  · intro h space hspace
    exact h space (covers_of_mem hspace)

/-- Leaving name spaces out narrows a list. -/
theorem narrows_of_subset (h : narrow ⊆ wide) : Narrows narrow wide :=
  fun _ hspace => covers_of_mem (h hspace)

theorem admits_iff : admits exposed imports name = true ↔ Covers exposed name ∧ Covers imports name := by
  simp only [admits, Bool.and_eq_true, List.any_eq_true, within_iff, Covers]

end Spaces

/-! ## Symbols of a table -/

theorem Symbol.eq_iff {s x : Symbol} : s = x ↔ s.name = x.name ∧ s.body = x.body := by
  cases s
  cases x
  simp

namespace SymbolTable

variable {t t' : SymbolTable} {s x : Symbol}

theorem mem_symbols_iff : s ∈ t.symbols ↔ t.find? s.name = some s.body := by
  rw [find?, ← SortedMap.mem_entries_iff, symbols, List.mem_map]
  constructor
  · rintro ⟨e, -, rfl⟩
    exact e.2
  · intro h
    exact ⟨⟨(s.name, s.body), h⟩, List.mem_attach _ _, rfl⟩

theorem mem_symbols_filter_iff {keep : String → Bool} :
    s ∈ (t.filter keep).symbols ↔ s ∈ t.symbols ∧ keep s.name = true := by
  rw [mem_symbols_iff, find?_filter, Option.ite_none_right_eq_some, mem_symbols_iff, and_comm]

theorem mem_symbols_of_define (h : t.define x = .ok t') :
    s ∈ t'.symbols ↔ s = x ∨ s ∈ t.symbols := by
  unfold define at h
  split at h
  next => cases h
  next hfree =>
    cases h
    have hnone : t.find? x.name = none := by simpa [contains, SortedMap.contains, find?] using hfree
    rw [mem_symbols_iff, mem_symbols_iff, insert, find?, SortedMap.find?_insert]
    by_cases hname : s.name = x.name
    · simp [Symbol.eq_iff, hname, hnone, eq_comm]
    · simp [Symbol.eq_iff, hname, find?]

/-- A table that some symbols were defined in has them besides what it had. -/
theorem mem_symbols_of_defineAll {added : List Symbol} (h : t.defineAll added = .ok t') :
    s ∈ t'.symbols ↔ s ∈ added ∨ s ∈ t.symbols := by
  induction added generalizing t with
  | nil =>
    cases h
    simp
  | cons x added ih =>
    rw [defineAll, List.foldlM_cons] at h
    obtain ⟨u, hu, hrest⟩ := except_bind_eq_ok h
    rw [ih hrest, mem_symbols_of_define hu, List.mem_cons, or_left_comm, or_assoc]

end SymbolTable

/-! ## Loaders and specifications -/

section Making

variable {config : LoaderConfig} {core host : List Symbol} {plugins : List Plugin} {l : Loader}
  {id : ModuleId} {dependencies : List ModuleId} {compilers : List PluginId} {imports : List String}
  {metadata : SortedMap String String} {spec : ModuleSpec}

/-- A loader offers the tables of the symbols that it is made of, and exposes what its configuration
says. -/
theorem offer_of_make (h : Loader.make config core host plugins = .ok l) :
    ∃ coreTable hostTable, Builtin.core.defineAll core = .ok coreTable ∧
      SymbolTable.defineAll ∅ host = .ok hostTable ∧
      l.offer = { core := coreTable, host := hostTable, exposed := config.exposed } := by
  obtain ⟨checked, hchecked, h⟩ := except_bind_eq_ok h
  obtain ⟨coreTable, hcore, h⟩ := except_bind_eq_ok h
  obtain ⟨hostTable, hhost, h⟩ := except_bind_eq_ok h
  obtain ⟨table, -, h⟩ := except_bind_eq_ok h
  cases h
  have hsame : checked = config := by
    have hcheck := except_mapError_eq_ok hchecked
    unfold LoaderConfig.check at hcheck
    split at hcheck
    next => cases hcheck
    next => exact (Except.ok.inj hcheck).symm
  rw [hsame]
  exact ⟨coreTable, hostTable, except_mapError_eq_ok hcore, except_mapError_eq_ok hhost, rfl⟩

theorem declarations_of_make
    (h : ModuleSpec.make id dependencies compilers imports metadata = .ok spec) :
    spec.id = id ∧ spec.dependencies = dependencies.eraseDups ∧
      spec.plugins = compilers.eraseDups ∧ spec.imports = imports.eraseDups := by
  unfold ModuleSpec.make at h
  split at h
  next => cases h
  next =>
    split at h
    next => cases h
    next =>
      cases h
      exact ⟨rfl, rfl, rfl, rfl⟩

end Making

/-! ## Boundaries -/

/-- Of some host symbols, a boundary holds those whose names lie in an exposed package and in an
import, which need not be the same name space, and nothing else. -/
def BoundaryOf.Grants (b : Boundary) (host : List Symbol) (exposed imports : List String) : Prop :=
  ∀ s, s ∈ b.host.symbols ↔ s ∈ host ∧ Covers exposed s.name ∧ Covers imports s.name

/-- A boundary that differs from a wider one only in having fewer host symbols. What can be looked up
in it is what the wider one has under the same name. -/
structure BoundaryOf.ExposesAtMost (b wide : Boundary) : Prop where
  rest : b = { wide with host := b.host }
  host : ∀ s ∈ b.host.symbols, s ∈ wide.host.symbols
  resolves : ∀ name found, b.resolve? name = some found → wide.resolve? name = some found

/-- Fewer host symbols expose less, since nothing is looked up after the host. -/
theorem exposesAtMost_of_host {wide : Boundary} {host : SymbolTable}
    (hhost : ∀ s ∈ host.symbols, s ∈ wide.host.symbols) :
    BoundaryOf.ExposesAtMost { wide with host } wide := by
  refine ⟨rfl, hhost, ?_⟩
  intro name r hr
  rw [BoundaryOf.resolve?_eq_some_iff] at hr ⊢
  cases hr with
  | core found => exact .core found
  | linked notCore place first found => exact .linked notCore place first found
  | plugin notCore notLinked place first found =>
    exact .plugin notCore notLinked place first found
  | @host body notCore notLinked notPlugin found =>
    have hlegal := host.legal name (SymbolTable.mem_names_iff.mpr ⟨body, found⟩)
    have hmem := hhost ⟨name, body, hlegal⟩ (SymbolTable.mem_symbols_iff.mpr found)
    exact .host notCore notLinked notPlugin (SymbolTable.mem_symbols_iff.mp hmem)

section Granting

variable {config : LoaderConfig} {core host : List Symbol} {plugins : List Plugin} {l l' : Loader}
  {id : ModuleId} {dependencies : List ModuleId} {compilers : List PluginId}
  {imports exposed' imports' : List String} {metadata : SortedMap String String}
  {spec spec' : ModuleSpec} {table : PluginTable} {candidates : ModuleMap} {b : Boundary}

theorem grants_of_make (hl : Loader.make config core host plugins = .ok l)
    (hspec : ModuleSpec.make id dependencies compilers imports metadata = .ok spec)
    (hb : l.offer.boundary table candidates spec = .ok b) :
    b.Grants host config.exposed imports := by
  obtain ⟨coreTable, hostTable, -, hhost, hoffer⟩ := offer_of_make hl
  obtain ⟨-, -, -, himports⟩ := declarations_of_make hspec
  obtain ⟨ms, runtimes, -, -, rfl⟩ := Offer.boundary_eq_ok_iff.mp hb
  intro s
  have hempty : s ∉ (∅ : SymbolTable).symbols := by
    rw [SymbolTable.mem_symbols_iff]
    exact nofun
  rw [SymbolTable.mem_symbols_filter_iff, admits_iff, himports, covers_eraseDups_iff, hoffer,
    SymbolTable.mem_symbols_of_defineAll hhost, or_iff_left hempty]

/-- With narrower lists there is still a boundary, and it exposes nothing that was not exposed. -/
theorem exposesAtMost_of_narrows (hl : Loader.make config core host plugins = .ok l)
    (hspec : ModuleSpec.make id dependencies compilers imports metadata = .ok spec)
    (hb : l.offer.boundary table candidates spec = .ok b)
    (hexposed : Narrows exposed' config.exposed) (himports : Narrows imports' imports)
    (hl' : Loader.make { config with exposed := exposed' } core host plugins = .ok l')
    (hspec' : ModuleSpec.make id dependencies compilers imports' metadata = .ok spec') :
    ∃ b', l'.offer.boundary table candidates spec' = .ok b' ∧ b'.ExposesAtMost b := by
  have hgrants := grants_of_make hl hspec hb
  obtain ⟨coreTable, hostTable, hcore, hhost, hoffer⟩ := offer_of_make hl
  obtain ⟨coreTable', hostTable', hcore', hhost', hoffer'⟩ := offer_of_make hl'
  obtain ⟨hid, hdependencies, hcompilers, -⟩ := declarations_of_make hspec
  obtain ⟨hid', hdependencies', hcompilers', -⟩ := declarations_of_make hspec'
  obtain ⟨ms, runtimes, hms, hruntimes, hboundary⟩ := Offer.boundary_eq_ok_iff.mp hb
  -- Links and runtimes come from the other declarations, so the two boundaries have them in common.
  have hms' : spec'.linkedModules candidates = .ok ms := by
    rw [← hms, ModuleSpec.linkedModules, ModuleSpec.linkedModules, hid, hid', hdependencies,
      hdependencies']
  have hruntimes' : spec'.runtimes table = .ok runtimes := by
    rw [← hruntimes, ModuleSpec.runtimes, ModuleSpec.runtimes, hid, hid', hcompilers, hcompilers']
  have hb' : l'.offer.boundary table candidates spec' =
      .ok { b with host := l'.offer.host.filter (admits l'.offer.exposed spec'.imports) } := by
    refine Offer.boundary_eq_ok_iff.mpr ⟨ms, runtimes, hms', hruntimes', ?_⟩
    cases hcore.symm.trans hcore'
    rw [hboundary, hoffer, hoffer', hid, hid']
  refine ⟨_, hb', exposesAtMost_of_host ?_⟩
  intro s hs
  obtain ⟨hmem, hpackage, hspace⟩ := (grants_of_make hl' hspec' hb' s).mp hs
  exact (hgrants s).mpr
    ⟨hmem, narrows_iff.mp hexposed s.name hpackage, narrows_iff.mp himports s.name hspace⟩

end Granting

/-- A name lies in a name space if and only if its segments start with those of the name space. Whatever
loader and module a boundary is made for, it grants exactly the host symbols that lie in an exposed
package and in an import in this way, and narrower lists expose at most what it exposes. -/
theorem grants_covered :
    (∀ name space, within name space = true ↔ segments space <+: segments name) ∧
      ∀ config core host plugins l, Loader.make config core host plugins = .ok l →
        ∀ id dependencies compilers imports metadata spec,
          ModuleSpec.make id dependencies compilers imports metadata = .ok spec →
          ∀ table candidates b, l.offer.boundary table candidates spec = .ok b →
            b.Grants host config.exposed imports ∧
              ∀ exposed' imports' l' spec', Narrows exposed' config.exposed →
                Narrows imports' imports →
                Loader.make { config with exposed := exposed' } core host plugins = .ok l' →
                ModuleSpec.make id dependencies compilers imports' metadata = .ok spec' →
                ∃ b', l'.offer.boundary table candidates spec' = .ok b' ∧ b'.ExposesAtMost b := by
  refine ⟨fun name space => within_iff, ?_⟩
  intro config core host plugins l hl id dependencies compilers imports metadata spec hspec table
    candidates b hb
  refine ⟨grants_of_make hl hspec hb, ?_⟩
  intro exposed' imports' l' spec' hexposed himports hl' hspec'
  exact exposesAtMost_of_narrows hl hspec hb hexposed himports hl' hspec'

namespace Sample

/-- A loader that exposes some packages. -/
def exposing (exposed : List String) : LoaderConfig :=
  { LoaderConfig.default with exposed }

/-- Symbols of a host, one of which only looks as if it lay in the name space of another. -/
def hostSymbols : List Symbol := [
  ⟨"pkg.allowed.X", .constant (.int 1), by decide⟩,
  ⟨"pkg.allowedX", .constant (.int 2), by decide⟩,
  ⟨"pkg.other.Y", .constant (.int 3), by decide⟩,
  ⟨"sys.secret", .constant (.int 4), by decide⟩]

end Sample

/-- A module imports more than its loader exposes. When the loader goes over to a smaller package and
the module drops an import, the module sees no more than before. -/
theorem grants_covered_lookalike :
    ∃ l spec b, Loader.make (Sample.exposing ["pkg"]) [] Sample.hostSymbols [] = .ok l ∧
      ModuleSpec.make .anonymous [] [] ["sys", "pkg.allowed"] ∅ = .ok spec ∧
      l.offer.boundary ∅ ∅ spec = .ok b ∧
      b.Grants Sample.hostSymbols ["pkg"] ["sys", "pkg.allowed"] ∧
      ∃ l' spec' b', Narrows ["pkg.allowed"] ["pkg"] ∧
        Narrows ["pkg.allowed"] ["sys", "pkg.allowed"] ∧
        Loader.make (Sample.exposing ["pkg.allowed"]) [] Sample.hostSymbols [] = .ok l' ∧
        ModuleSpec.make .anonymous [] [] ["pkg.allowed"] ∅ = .ok spec' ∧
        l'.offer.boundary ∅ ∅ spec' = .ok b' ∧ b'.ExposesAtMost b := by
  obtain ⟨l, hl⟩ : ∃ l, Loader.make (Sample.exposing ["pkg"]) [] Sample.hostSymbols [] = .ok l :=
    ⟨_, rfl⟩
  obtain ⟨l', hl'⟩ :
      ∃ l', Loader.make (Sample.exposing ["pkg.allowed"]) [] Sample.hostSymbols [] = .ok l' :=
    ⟨_, rfl⟩
  obtain ⟨spec, hspec⟩ :
      ∃ spec, ModuleSpec.make .anonymous [] [] ["sys", "pkg.allowed"] ∅ = .ok spec := ⟨_, rfl⟩
  obtain ⟨spec', hspec'⟩ :
      ∃ spec', ModuleSpec.make .anonymous [] [] ["pkg.allowed"] ∅ = .ok spec' := ⟨_, rfl⟩
  obtain ⟨b, hb⟩ : ∃ b, l.offer.boundary ∅ ∅ spec = .ok b := by
    obtain ⟨-, hdependencies, hcompilers, -⟩ := declarations_of_make hspec
    refine ⟨_, Offer.boundary_eq_ok_iff.mpr ⟨[], [], ?_, ?_, rfl⟩⟩
    · rw [ModuleSpec.linkedModules, hdependencies, List.eraseDups_nil, List.map_nil, flatten]
      rfl
    · rw [ModuleSpec.runtimes, hcompilers]
      rfl
  have hexposed : Narrows ["pkg.allowed"] ["pkg"] := by decide
  have himports : Narrows ["pkg.allowed"] ["sys", "pkg.allowed"] :=
    narrows_of_subset (List.subset_cons_self _ _)
  obtain ⟨hgrants, hnarrow⟩ := grants_covered.2 _ _ _ _ l hl _ _ _ _ _ spec hspec _ _ b hb
  obtain ⟨b', hb', hless⟩ := hnarrow _ _ l' spec' hexposed himports hl' hspec'
  exact ⟨l, spec, b, hl, hspec, hb, hgrants, l', spec', b', hexposed, himports, hl', hspec', hb',
    hless⟩

end HotReload
