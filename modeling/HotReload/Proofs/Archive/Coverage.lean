import HotReload.Archive.Basic
import HotReload.Proofs.Archive.Framing
import HotReload.Proofs.Archive.Identity
import HotReload.Proofs.Archive.Json
import HotReload.Proofs.Except
import HotReload.Proofs.SortedMap
import Mathlib.Data.List.Perm.Basic

/-!
# What the content hash covers

The content hash of an archive is that of bytes which determine its specification and its entries and
are determined by them (`Archive.frame_chunks_eq_iff`). The order in which entries were added is no part
of an archive: it is built from any list that holds just its entries (`Archive.ofEntries_eq_ok_iff`).
-/

namespace HotReload

/-! ## Specifications -/

namespace ModuleSpec

theorem textual_toValue (spec : ModuleSpec) : spec.toValue.Textual := by
  have htexts : ∀ {α : Type} (l : List α) (f : α → String),
      (Value.array (l.map fun a => .text (f a))).Textual := by
    intro α l f
    refine .array fun item hitem => ?_
    obtain ⟨a, -, rfl⟩ := List.mem_map.mp hitem
    exact .text (f a)
  refine .object ?_
  simp only [List.forall_mem_cons]
  refine ⟨.text _, htexts _ _, htexts _ _, htexts _ _, .object ?_, List.forall_mem_nil _⟩
  intro field hfield
  obtain ⟨e, -, rfl⟩ := List.mem_map.mp hfield
  exact .text e.2

theorem toValue_injective : Function.Injective toValue := by
  intro spec spec' h
  have hid : Function.Injective fun id : ModuleId => Value.text id.toString := by
    intro a b hab
    exact ModuleId.toString_injective (Value.text.inj hab)
  have hplugin : Function.Injective fun id : PluginId => Value.text id.text := by
    intro a b hab
    exact PluginId.ext (Value.text.inj hab)
  have htext : Function.Injective Value.text := fun s t => Value.text.inj
  have hfield : Function.Injective fun e : String × String => (e.1, Value.text e.2) := by
    rintro ⟨key, s⟩ ⟨key', s'⟩ he
    obtain ⟨hkey, hs⟩ := Prod.mk.inj he
    exact Prod.ext hkey (Value.text.inj hs)
  simp only [toValue, Value.object.injEq, List.cons.injEq, Prod.mk.injEq, true_and, and_true,
    Value.text.injEq, Value.array.injEq] at h
  obtain ⟨hids, hdependencies, hplugins, himports, hmetadata⟩ := h
  exact ModuleSpec.ext (ModuleId.toString_injective hids)
    (List.map_injective_iff.mpr hid hdependencies) (List.map_injective_iff.mpr hplugin hplugins)
    (List.map_injective_iff.mpr htext himports)
    (SortedMap.ext (List.map_injective_iff.mpr hfield hmetadata))

end ModuleSpec

/-! ## Entries -/

namespace Archive

variable {a b : Archive} {spec : ModuleSpec} {name : String} {content : ByteArray}
  {added : List (String × ByteArray)}

theorem add_eq_ok (h : a.add name content = .ok b) :
    b.spec = a.spec ∧ b.entries = a.entries.insert name content ∧ a.entries.find? name = none := by
  unfold add at h
  split at h
  next => cases h
  next =>
    split at h
    next => cases h
    next hnew =>
      cases h
      exact ⟨rfl, rfl, SortedMap.contains_eq_false_iff.mp (Bool.eq_false_iff.mpr hnew)⟩

theorem exists_add_eq_ok (hname : IsEntryName name) (hnew : a.entries.find? name = none) :
    ∃ b, a.add name content = .ok b := by
  unfold add
  split
  next fault hfault =>
    rw [hname] at hfault
    cases hfault
  next =>
    rw [if_neg (Bool.eq_false_iff.mp (SortedMap.contains_eq_false_iff.mpr hnew))]
    exact ⟨_, rfl⟩

/-- What was added and what was there before are the entries of the result. -/
theorem entries_perm_of_foldlM (h : added.foldlM (fun a e => a.add e.1 e.2) a = .ok b) :
    b.spec = a.spec ∧ b.entries.entries.Perm (added ++ a.entries.entries) := by
  induction added generalizing a with
  | nil =>
    cases h
    exact ⟨rfl, .refl _⟩
  | cons e added ih =>
    rw [List.foldlM_cons] at h
    obtain ⟨extended, hadd, hrest⟩ := except_bind_eq_ok h
    obtain ⟨hspec, hentries, hnew⟩ := add_eq_ok hadd
    obtain ⟨hspec', hperm⟩ := ih hrest
    refine ⟨hspec'.trans hspec, hperm.trans ?_⟩
    rw [hentries]
    exact ((SortedMap.entries_insert_perm hnew).append_left added).trans List.perm_middle

/-- Entries can be added if their names are in order and none is taken. -/
theorem exists_foldlM_eq_ok (hnames : ∀ e ∈ added, IsEntryName e.1)
    (hnodup : (added.map Prod.fst).Nodup) (hnew : ∀ e ∈ added, a.entries.find? e.1 = none) :
    ∃ b, added.foldlM (fun a e => a.add e.1 e.2) a = .ok b := by
  induction added generalizing a with
  | nil => exact ⟨a, rfl⟩
  | cons e added ih =>
    rw [List.forall_mem_cons] at hnames hnew
    rw [List.map_cons, List.nodup_cons] at hnodup
    obtain ⟨extended, hadd⟩ : ∃ extended, a.add e.1 e.2 = .ok extended :=
      exists_add_eq_ok hnames.1 hnew.1
    obtain ⟨-, hentries, -⟩ := add_eq_ok hadd
    have hrest : ∀ other ∈ added, extended.entries.find? other.1 = none := by
      intro other hother
      have hne : other.1 ≠ e.1 := by
        intro heq
        exact hnodup.1 (heq ▸ List.mem_map_of_mem hother)
      rw [hentries, SortedMap.find?_insert, if_neg hne]
      exact hnew.2 other hother
    obtain ⟨b, hb⟩ := ih hnames.2 hnodup.2 hrest
    refine ⟨b, ?_⟩
    rw [List.foldlM_cons, hadd]
    exact hb

/-- An archive is what a specification and a list are built into if and only if the list holds its
entries, each once and in any order. -/
theorem ofEntries_eq_ok_iff :
    ofEntries spec added = .ok a ↔ a.spec = spec ∧ added.Perm a.entries.entries := by
  constructor
  · intro h
    obtain ⟨hspec, hperm⟩ := entries_perm_of_foldlM h
    exact ⟨hspec, (List.append_nil added ▸ hperm).symm⟩
  · rintro ⟨hspec, hperm⟩
    have hlegal : ∀ e ∈ added, IsEntryName e.1 := fun e he =>
      a.legal e.1 (List.mem_map_of_mem (hperm.subset he))
    have hnodup : (added.map Prod.fst).Nodup := (hperm.map Prod.fst).nodup_iff.mpr a.entries.keys_nodup
    obtain ⟨b, hb⟩ := exists_foldlM_eq_ok (a := ofSpec spec) hlegal hnodup fun _ _ => rfl
    obtain ⟨hspecs, hentries⟩ := entries_perm_of_foldlM hb
    have hsame : b.entries.entries.Perm a.entries.entries :=
      (List.append_nil added ▸ hentries).trans hperm
    have hmaps : b.entries = a.entries := by
      refine SortedMap.ext_find? fun k => Option.ext fun content => ?_
      rw [← SortedMap.mem_entries_iff, ← SortedMap.mem_entries_iff, hsame.mem_iff]
    have hba : b = a := Archive.ext (hspecs.trans hspec.symm) hmaps
    exact hba ▸ hb

/-! ## Archives -/

theorem entries_injective_of_chunks {entries entries' : List (String × ByteArray)}
    (h : (entries.flatMap fun (name, content) => [name.toUTF8, content]) =
      entries'.flatMap fun (name, content) => [name.toUTF8, content]) : entries = entries' := by
  induction entries generalizing entries' with
  | nil =>
    cases entries' with
    | nil => rfl
    | cons e' entries' => cases h
  | cons e entries ih =>
    cases entries' with
    | nil => cases h
    | cons e' entries' =>
      obtain ⟨hname, h⟩ := List.cons.inj h
      obtain ⟨hcontent, h⟩ := List.cons.inj h
      rw [Prod.ext (String.toByteArray_inj.mp hname) hcontent, ih h]

/-- The content hash is the hexadecimal SHA-256 of the framed chunks. For archives whose chunks are all
shorter than 2 to the 64 bytes, the bytes that are hashed are the same if and only if specifications and
entries are, and an archive comes from whatever list holds its entries. -/
theorem frame_chunks_eq_iff {a b : Archive} (ha : ∀ chunk ∈ a.chunks, chunk.size < UInt64.size)
    (hb : ∀ chunk ∈ b.chunks, chunk.size < UInt64.size) :
    (∀ archive : Archive,
      archive.hash = Digest.hex (Digest.Sha256.hash ⟨(Digest.frame archive.chunks).toArray⟩)) ∧
    (Digest.frame a.chunks = Digest.frame b.chunks ↔ a.spec = b.spec ∧ a.entries = b.entries) ∧
      ∀ spec added, ofEntries spec added = .ok a ↔
        a.spec = spec ∧ added.Perm a.entries.entries := by
  refine ⟨fun archive => rfl, ⟨?_, ?_⟩, fun spec added => ofEntries_eq_ok_iff⟩
  · intro h
    have hchunks := Digest.eq_of_frame_eq ha hb h
    obtain ⟨hspec, hentries⟩ := List.cons.inj hchunks
    have hjson := String.toByteArray_inj.mp hspec
    have hvalue := Value.Textual.eq_of_json_eq a.spec.textual_toValue b.spec.textual_toValue hjson
    exact ⟨ModuleSpec.toValue_injective hvalue, SortedMap.ext (entries_injective_of_chunks hentries)⟩
  · rintro ⟨hspec, hentries⟩
    rw [Archive.ext hspec hentries]

namespace Sample

/-- A specification with a declaration of each kind. -/
def declaring : ModuleSpec where
  id := ⟨"shop", none, by decide⟩
  dependencies := [⟨"cart", none, by decide⟩, ⟨"till", none, by decide⟩]
  plugins := [⟨"forms", by decide⟩]
  imports := ["host.clock"]
  metadata := SortedMap.insert ∅ "owner" "core"
  dependencies_nodup := by decide
  plugins_nodup := by decide
  imports_nodup := by decide
  id_notMem := by decide
  imports_dotted := by decide

/-- The same but for the order of the dependencies. -/
def reordered : ModuleSpec :=
  { declaring with
    dependencies := declaring.dependencies.reverse
    dependencies_nodup := by decide
    id_notMem := by decide }

/-- An archive with two entries, one of them empty. -/
def archive (spec : ModuleSpec) : Archive where
  spec
  entries := SortedMap.insert (SortedMap.insert ∅ "a" "bc".toUTF8) "d" .empty
  legal := by decide

/-- The same but that a letter belongs to the name of an entry and not to its content. -/
def shifted (spec : ModuleSpec) : Archive where
  spec
  entries := SortedMap.insert (SortedMap.insert ∅ "ab" "c".toUTF8) "d" .empty
  legal := by decide

end Sample

/-- The order of dependencies is seen in what is hashed, and so is where a name ends; the order in which
entries were added is not. -/
theorem frame_chunks_sample :
    let a := Sample.archive Sample.declaring
    a.hash = Digest.hex (Digest.Sha256.hash ⟨(Digest.frame a.chunks).toArray⟩) ∧
      Digest.frame a.chunks ≠ Digest.frame (Sample.archive Sample.reordered).chunks ∧
      Digest.frame a.chunks ≠ Digest.frame (Sample.shifted Sample.declaring).chunks ∧
      ofEntries Sample.declaring [("d", .empty), ("a", "bc".toUTF8)] = .ok a := by
  intro a
  have ha : ∀ chunk ∈ a.chunks, chunk.size < UInt64.size := by decide +kernel
  have hreordered : ∀ chunk ∈ (Sample.archive Sample.reordered).chunks,
      chunk.size < UInt64.size := by decide +kernel
  have hshifted : ∀ chunk ∈ (Sample.shifted Sample.declaring).chunks,
      chunk.size < UInt64.size := by decide +kernel
  refine ⟨(frame_chunks_eq_iff ha ha).1 a, ?_, ?_, ?_⟩
  · intro h
    have hspec := ((frame_chunks_eq_iff ha hreordered).2.1.mp h).1
    exact absurd (congrArg ModuleSpec.dependencies hspec) (by decide)
  · intro h
    have hentries := ((frame_chunks_eq_iff ha hshifted).2.1.mp h).2
    exact absurd (congrArg SortedMap.keys hentries) (by decide)
  · exact ((frame_chunks_eq_iff ha ha).2.2 _ _).mpr ⟨rfl, List.Perm.swap _ _ []⟩

end Archive

end HotReload
