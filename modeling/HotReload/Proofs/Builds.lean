import HotReload.Plugin.Reference
import HotReload.Proofs.Linking
import HotReload.Proofs.Revisions
import HotReload.Reload.Build

/-!
# Builds by the backends of this library

The backends of this library are plain (`plain_backend`): what they build does not depend on
revision numbers, and they never ask for a reload to be cancelled. Builds by plain plugins inherit
both (`run_unrevised`, `cancels_run`).
-/

namespace HotReload

/-- A backend that never asks for the reload to be cancelled and does not look at revision
numbers. -/
structure Backend.Plain (backend : Backend) : Prop where
  unrevised : ∀ archive boundary,
    backend.build archive boundary.unrevised = backend.build archive boundary
  patient : ∀ archive boundary, (backend.build archive boundary).cancels = false

theorem compileWith_unrevised (linkCheck : Bool) (archive : Archive) (boundary : Boundary)
    (preloaded : SymbolTable) :
    Backend.Script.compileWith linkCheck archive boundary.unrevised preloaded =
      Backend.Script.compileWith linkCheck archive boundary preloaded := by
  have hfault : ∀ definitions name count,
      Backend.Script.linkFault? definitions preloaded boundary.unrevised name count =
        Backend.Script.linkFault? definitions preloaded boundary name count := by
    intro definitions name count
    unfold Backend.Script.linkFault?
    rw [boundary_resolve?_unrevised, Option.isSome_map]
  unfold Backend.Script.compileWith Backend.Script.firstLinkFault?
  simp only [hfault]

/-- The backends of this library are plain. -/
theorem plain_backend (kind : BackendKind) (linkCheck : Bool) : (kind.backend linkCheck).Plain := by
  constructor
  · intro archive boundary
    cases kind with
    | script =>
      exact congrArg BuildRun.ofResult (compileWith_unrevised linkCheck archive boundary ∅)
    | symbols => rfl
    | mixed =>
      refine congrArg BuildRun.ofResult ?_
      unfold Backend.Mixed.compile
      simp only [compileWith_unrevised]
  · intro archive boundary
    cases kind with
    | script => rfl
    | symbols => rfl
    | mixed => rfl

/-- Plugins whose backends are plain. -/
def PluginTable.Plain (t : PluginTable) : Prop :=
  ∀ p ∈ t.plugins, p.backend.Plain

section Builds

variable {t : PluginTable} {archive : Archive} {plugin : Plugin}

/-- The plugin that is selected for an archive is registered. -/
theorem mem_of_select (h : t.select archive = .ok (some plugin)) : plugin ∈ t.plugins := by
  unfold PluginTable.select at h
  obtain ⟨ps, hdeclared, hfind⟩ := except_map_eq_ok h
  have hmem : plugin ∈ ps := List.mem_of_find?_eq_some hfind
  obtain ⟨id, -, hid⟩ := exists_of_forall₂ (mapM_eq_ok_iff.mp hdeclared) hmem
  cases hfound : t.find? id with
  | none =>
    rw [hfound] at hid
    cases hid
  | some p =>
    rw [hfound] at hid
    cases hid
    exact List.mem_of_find?_eq_some hfound

theorem run_unrevised (ht : t.Plain) (settings : BuildSettings) (archive : Archive)
    (boundary : Boundary) :
    Build.run settings t archive boundary.unrevised = Build.run settings t archive boundary := by
  unfold Build.run
  cases hselect : t.select archive with
  | error e => rfl
  | ok selected =>
    cases selected with
    | none => rfl
    | some plugin =>
      have hplain := ht plugin (mem_of_select hselect)
      simp only [Build.byPlugin, hplain.unrevised]

theorem cancels_run (ht : t.Plain) (settings : BuildSettings) (archive : Archive)
    (boundary : Boundary) : (Build.run settings t archive boundary).cancels = false := by
  unfold Build.run
  cases hselect : t.select archive with
  | error e => rfl
  | ok selected =>
    cases selected with
    | none => rfl
    | some plugin =>
      have hplain := ht plugin (mem_of_select hselect)
      simp only [Build.byPlugin]
      split
      · exact hplain.patient archive boundary
      · rfl

end Builds

end HotReload
