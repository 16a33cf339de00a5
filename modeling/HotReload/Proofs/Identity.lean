import HotReload.CommandLine.InvokeTarget
import HotReload.Proofs.Version

/-!
# Reading identities back

The text of a module id is read as the id, and no other text is (`ModuleId.parse_eq_ok_iff`): the first
`@` of a text stands before the version, as no name holds one. Neither part holds a colon, so the first
colon of a call stands before its symbol, whatever the symbol holds.
-/

namespace HotReload

section Cuts

variable {mark c : Char} {l : List Char}

/-- A text is cut at its first mark. -/
theorem cut_of_notMem (h : mark ∉ l) (rest : List Char) :
    (l ++ mark :: rest).takeWhile (· != mark) = l ∧
      (l ++ mark :: rest).dropWhile (· != mark) = mark :: rest := by
  apply cut_of_stops (bne_of_notMem h)
  intro c hc
  cases hc
  exact bne_self_eq_false mark

theorem eq_append_of_dropWhile_eq_cons {rest : List Char} (h : l.dropWhile (· != mark) = c :: rest) :
    l = l.takeWhile (· != mark) ++ mark :: rest := by
  have hmark : c = mark := by
    have hhead := List.head?_dropWhile_not (· != mark) l
    rw [h] at hhead
    simpa using hhead
  rw [hmark] at h
  rw [← h, List.takeWhile_append_dropWhile]

theorem dropWhile_eq_nil_of_notMem (h : mark ∉ l) : l.dropWhile (· != mark) = [] := by
  rw [List.dropWhile_eq_nil_iff]
  exact bne_of_notMem h

end Cuts

/-- The characters of a version. -/
theorem Version.char_of_mem_toString {v : Version} {c : Char} (h : c ∈ v.toString.toList) :
    isIdentifierChar c = true ∨ c = '.' ∨ c = '+' := by
  have hnumber : ∀ n : UInt64, c ∈ n.toNat.repr.toList → isIdentifierChar c = true := by
    intro n hc
    rw [Nat.toList_repr] at hc
    have hdigit := Nat.isDigit_of_mem_toDigits (by decide) (by decide) hc
    simp [isIdentifierChar, Char.isAlphanum, hdigit]
  have hmarked : ∀ (mark : Char) (is : List Identifier), c ∈ marked mark is →
      c = mark ∨ isIdentifierChar c = true ∨ c = '.' := by
    intro mark is hc
    unfold marked at hc
    split at hc
    next => cases hc
    next =>
      rcases List.mem_cons.mp hc with hc | hc
      · exact .inl hc
      · exact .inr (isIdentifierChar_or_dot hc)
  rw [toList_toString] at h
  simp only [List.mem_append, List.mem_cons] at h
  rcases h with h | rfl | h | rfl | h | h | h
  · exact .inl (hnumber _ h)
  · exact .inr (.inl rfl)
  · exact .inl (hnumber _ h)
  · exact .inr (.inl rfl)
  · exact .inl (hnumber _ h)
  · rcases hmarked _ _ h with rfl | h | h
    · exact .inl (by decide)
    · exact .inl h
    · exact .inr (.inl h)
  · rcases hmarked _ _ h with h | h | h
    · exact .inr (.inr h)
    · exact .inl h
    · exact .inr (.inl h)

namespace ModuleId

variable {id : ModuleId} {name text symbol : String} {version : Option Version}

theorem versionChars_of_some {v : Version} (h : id.version = some v) :
    id.versionChars = '@' :: v.toString.toList := by
  rw [versionChars, h]

theorem ofParts_eq_ok_iff : ofParts name version = .ok id ↔ id.name = name ∧ id.version = version := by
  unfold ofParts
  constructor
  · intro h
    split at h
    next =>
      cases h
      exact ⟨rfl, rfl⟩
    next => cases h
  · rintro ⟨rfl, rfl⟩
    rw [dif_pos id.legal]

/-- The ways to make an id: of a name, of a name and a version, and of a text. -/
inductive Built : ModuleId → Prop where
  | ofName {name : String} {id : ModuleId} (h : ofName name = .ok id) : Built id
  | versioned {name : String} {version : Version} {id : ModuleId} (hstrict : version.IsStrict)
      (h : versioned name version = .ok id) : Built id
  | parse {text : String} {id : ModuleId} (h : parse text = .ok id) : Built id

/-- An id is read from its own text and from no other. -/
theorem parse_eq_ok_iff :
    parse text = .ok id ↔ (∀ v ∈ id.version, v.IsStrict) ∧ text = id.toString := by
  have hname : '@' ∉ id.name.toList := notMem_name (by decide)
  constructor
  · intro h
    unfold parse at h
    split at h
    next =>
      obtain ⟨hparts, hversion⟩ := ofParts_eq_ok_iff.mp h
      refine ⟨?_, ?_⟩
      · rw [hversion]
        rintro v ⟨⟩
      · rw [ModuleId.toString, hversion, hparts]
    next hcut =>
      split at h
      next => cases h
      next version hread =>
        obtain ⟨hparts, hversion⟩ := ofParts_eq_ok_iff.mp h
        obtain ⟨hstrict, hwritten⟩ := Version.parse_eq_ok_iff.mp hread
        refine ⟨fun v hv => ?_, String.toList_inj.mp ?_⟩
        · rw [hversion] at hv
          cases hv
          exact hstrict
        · rw [toList_toString, versionChars_of_some hversion, hparts, ← hwritten,
            String.toList_ofList, String.toList_ofList]
          exact eq_append_of_dropWhile_eq_cons hcut
  · rintro ⟨hstrict, rfl⟩
    unfold parse
    cases hversion : id.version with
    | none =>
      rw [ModuleId.toString, hversion]
      dsimp only
      rw [dropWhile_eq_nil_of_notMem hname]
      exact ofParts_eq_ok_iff.mpr ⟨rfl, hversion⟩
    | some v =>
      obtain ⟨htake, hdrop⟩ := cut_of_notMem hname v.toString.toList
      rw [toList_toString, versionChars_of_some hversion, htake, hdrop]
      dsimp only
      rw [String.ofList_toList, Version.parse_eq_ok_iff.mpr ⟨hstrict v hversion, rfl⟩,
        String.ofList_toList]
      exact ofParts_eq_ok_iff.mpr ⟨rfl, hversion⟩

/-- The ids that can be made are those whose version keeps to the rule for numbers. -/
theorem Built.isStrict (h : id.Built) : ∀ v ∈ id.version, v.IsStrict := by
  cases h with
  | ofName h =>
    rw [(ofParts_eq_ok_iff.mp h).2]
    rintro v ⟨⟩
  | versioned hstrict h =>
    rw [(ofParts_eq_ok_iff.mp h).2]
    rintro v ⟨⟩
    exact hstrict
  | parse h => exact (parse_eq_ok_iff.mp h).1

theorem colon_notMem_toString : ':' ∉ id.toString.toList := by
  rw [toList_toString, versionChars, List.mem_append, not_or]
  refine ⟨notMem_name (by decide), ?_⟩
  split
  next => exact List.not_mem_nil
  next =>
    intro h
    rcases List.mem_cons.mp h with h | h
    · exact absurd h (by decide)
    · exact absurd (Version.char_of_mem_toString h) (by decide)

end ModuleId

namespace CommandLine.InvokeTarget

variable {text : String} {target : InvokeTarget}

theorem toList_joined (module symbol : String) :
    (module ++ ":" ++ symbol).toList = module.toList ++ ':' :: symbol.toList := by
  rw [String.toList_append, String.toList_append, List.append_assoc]
  rfl

/-- The module of a call is read from what stands in front of the first colon, its symbol is the rest. -/
theorem parse_eq_ok_iff :
    parse text = .ok target ↔ target.symbol ≠ "" ∧ ∃ module, ':' ∉ module.toList ∧
      ModuleId.parse module = .ok target.module ∧ text = module ++ ":" ++ target.symbol := by
  constructor
  · intro h
    unfold parse at h
    split at h
    next => cases h
    next => cases h
    next symbol hsome hcut =>
      split at h
      next module hmodule =>
        cases h
        refine ⟨String.ofList_eq_empty_iff.not.mpr hsome, _, ?_, hmodule, String.toList_inj.mp ?_⟩
        · rw [String.toList_ofList]
          intro hcolon
          have hne := List.mem_takeWhile_imp (p := fun c => c != ':') hcolon
          exact bne_iff_ne.mp hne rfl
        · rw [toList_joined, String.toList_ofList, String.toList_ofList]
          exact eq_append_of_dropWhile_eq_cons hcut
      next => cases h
  · rintro ⟨hsymbol, module, hcolon, hmodule, rfl⟩
    obtain ⟨htake, hdrop⟩ := cut_of_notMem hcolon target.symbol.toList
    unfold parse
    rw [toList_joined, htake, hdrop, String.ofList_toList, hmodule]
    split
    next hnil => cases hnil
    next hnil =>
      obtain ⟨-, hnil⟩ := List.cons.inj hnil
      exact absurd (String.toList_eq_nil_iff.mp hnil) hsymbol
    next hcons =>
      obtain ⟨-, rfl⟩ := List.cons.inj hcons
      rw [String.ofList_toList]

end CommandLine.InvokeTarget

namespace ModuleId

/-- A text stands for an id: it alone is read as the id, no other id is written so, and in front of a
colon it names the module of a call. -/
structure IsTextOf (text : String) (id : ModuleId) : Prop where
  parse_iff : ∀ t, parse t = .ok id ↔ t = text
  eq_iff : ∀ other : ModuleId, id = other ↔ text = other.toString
  target_iff : ∀ t symbol, CommandLine.InvokeTarget.parse t = .ok ⟨id, symbol⟩ ↔
    symbol ≠ "" ∧ t = text ++ ":" ++ symbol

/-- The text of every id that can be made stands for it. -/
theorem isTextOf_toString {id : ModuleId} (h : id.Built) : IsTextOf id.toString id := by
  have hparse : ∀ t, parse t = .ok id ↔ t = id.toString := fun t =>
    parse_eq_ok_iff.trans (and_iff_right h.isStrict)
  refine ⟨hparse, fun other => toString_injective.eq_iff.symm, fun t symbol => ?_⟩
  rw [CommandLine.InvokeTarget.parse_eq_ok_iff]
  constructor
  · rintro ⟨hsymbol, module, -, hmodule, rfl⟩
    exact ⟨hsymbol, by rw [(hparse module).mp hmodule]⟩
  · rintro ⟨hsymbol, rfl⟩
    exact ⟨hsymbol, id.toString, colon_notMem_toString, (hparse _).mpr rfl, rfl⟩

/-- A preview of a library, with a name of two segments. -/
def preview : ModuleId where
  name := "lib.a"
  version := some { major := 1, minor := 2, patch := 0,
                    preRelease := [⟨"rc-1", by decide⟩, ⟨"0", by decide⟩],
                    build := [⟨"007", by decide⟩] }
  legal := by decide

theorem isTextOf_preview : preview.Built ∧ IsTextOf "lib.a@1.2.0-rc-1.0+007" preview :=
  have hbuilt : preview.Built := .versioned (by decide) (ofParts_eq_ok_iff.mpr ⟨rfl, rfl⟩)
  ⟨hbuilt, isTextOf_toString hbuilt⟩

end ModuleId

end HotReload
