import SymbolAtlas.Proofs.Outcome
import SymbolAtlas.Proofs.Registry.Undo
import SymbolAtlas.Proofs.Session

/-! A unit that fails leaves nothing behind but sightings of symbols that were there
before. -/

namespace SymbolAtlas

open Snapshot Extract

variable {snapshot : Snapshot} {spared : List Nat} {before after : Registry} {mark : Mark}

theorem Extract.Step.anchored (step : Step snapshot spared before after)
    (anchored : before.Anchored) : after.Anchored := by
  cases step with
  | logged => exact anchored
  | sighted cursor index =>
    intro edge member
    rw [Registry.size_update]
    exact anchored edge member
  | registered cursor kind parent named fresh sort enclosed =>
    refine anchored.enter fun outer above => ?_
    subst above
    exact enclosed.lt_size
  | completed cursor index symbol detail found present waiting idle portrayed =>
    exact anchored.settle (Registry.lt_size_of_get? present) portrayed.lt_size

private theorem Extract.Step.undone (step : Step snapshot spared before after)
    (inside : mark.Within before) :
    mark.Within after ∧ (after.rollback mark).core = (before.rollback mark).core := by
  cases step with
  | logged cursor =>
    refine ⟨inside.of_le (Nat.le_refl _) (by simp [Registry.logUnresolved]) (Nat.le_refl _), ?_⟩
    rw [Registry.rollback_logUnresolved inside]
  | sighted cursor index =>
    refine ⟨inside.of_le (by simp) (Nat.le_refl _) (Nat.le_refl _), ?_⟩
    rw [Registry.core_rollback, Registry.core_sight, ← Registry.core_rollback]
  | registered cursor kind parent =>
    refine ⟨inside.of_le (by simp) (Nat.le_refl _) (Nat.le_refl _), ?_⟩
    rw [Registry.rollback_enter inside]
  | completed cursor index symbol detail found present waiting =>
    exact ⟨Registry.within_settle inside index detail, by
      rw [Registry.rollback_settle inside present waiting]⟩

theorem Extract.Steps.undone (steps : Steps snapshot spared before after)
    (inside : mark.Within before) :
    mark.Within after ∧ (after.rollback mark).core = (before.rollback mark).core := by
  induction steps with
  | refl => exact ⟨inside, rfl⟩
  | tail _ step ih =>
    obtain ⟨within, same⟩ := step.undone ih.1
    exact ⟨within, same.trans ih.2⟩

namespace Registry

theorem Anchored.undone (anchored : before.Anchored) (steps : Steps snapshot spared before after) :
    Undone before (after.rollback before.mark) := by
  have same := (steps.undone before.within_mark).2
  rw [before.rollback_mark anchored] at same
  exact undone_of_core same

end Registry

inductive Stop.Aborts : Stop → Prop
  | missingParent (name : String) (location : Location) :
      Aborts (.error (.missingParent name location))
  | unmappedTypeKind (code : Int32) : Aborts (.error (.unmappedTypeKind code))

private theorem Stop.aborts_of_isFatal {error : Error} (fatal : error.isFatal) :
    Stop.Aborts (.error error) := by
  unfold Error.isFatal at fatal
  split at fatal
  · exact .missingParent _ _
  · exact .unmappedTypeKind _
  · cases fatal

namespace Atlas

variable {atlas later : Atlas} {stop : Stop}

theorem parseUnit_failure (anchored : atlas.registry.Anchored)
    (failed : atlas.parseUnit snapshot = (.error stop, later)) :
    stop.Aborts ∧ atlas.registry.Undone later.registry := by
  have reads := atlas.reads_parseUnit snapshot
  rw [failed] at reads
  cases reads with
  | aborted fatal steps undone =>
    rw [undone]
    exact ⟨Stop.aborts_of_isFatal fatal, anchored.undone steps⟩

private theorem parseFile_failure (anchored : atlas.registry.Anchored) {file : Path}
    {contents : Except ReadFailure String} {arguments : List String}
    (failed : atlas.parseFile file contents arguments = (.error stop, later)) :
    later.registry = atlas.registry ∨ stop.Aborts ∧ atlas.registry.Undone later.registry := by
  rw [parseFile_eq] at failed
  rw [← atlas.registry_noticed file arguments] at anchored ⊢
  simp only at failed
  split at failed
  · cases failed
    exact .inl rfl
  · split at failed
    · cases failed
      exact .inl rfl
    · rename_i snapshot _
      cases parsed : (atlas.noticed file arguments).parseUnit snapshot with
      | mk outcome reached =>
        rw [parsed] at failed
        cases outcome with
        | ok report => cases failed
        | error stop =>
          cases failed
          exact .inr (parseUnit_failure anchored parsed)

end Atlas

namespace Session

theorem anchored_run (operations : List Operation) : (run operations).registry.Anchored := by
  refine run_keeps Registry.Anchored ?_ ?_ ?_ operations
  · simp [Registry.Anchored]
  · exact fun snapshot before after step anchored => step.anchored anchored
  · exact fun registry mark anchored => anchored.rollback mark

/-- In every session, a unit only fails with an error that aborts it, and then only
exposure, locations and documentation of earlier symbols may have changed. A file
that fails with any other error changes nothing. -/
theorem failure_undone (operations : List Operation) (settings : Settings) (log : Array Event) :
    let atlas : Atlas := { settings, registry := (run operations).registry, log }
    (∀ snapshot stop after, atlas.parseUnit snapshot = (.error stop, after) →
      stop.Aborts ∧ atlas.registry.Undone after.registry) ∧
    (∀ file contents arguments stop after,
      atlas.parseFile file contents arguments = (.error stop, after) →
        atlas.registry.Undone after.registry ∧
          (¬ stop.Aborts → after.registry = atlas.registry)) := by
  intro atlas
  have anchored : atlas.registry.Anchored := anchored_run operations
  refine ⟨fun snapshot stop after failed => Atlas.parseUnit_failure anchored failed, ?_⟩
  intro file contents arguments stop after failed
  rcases Atlas.parseFile_failure anchored failed with unchanged | ⟨aborts, undone⟩
  · exact ⟨unchanged ▸ ⟨rfl, rfl⟩, fun _ => unchanged⟩
  · exact ⟨undone, fun harmless => absurd aborts harmless⟩

/-- Two declarations of one record, the first without a body. The second has a field,
and a function after it has a result type of an unknown kind. -/
def announced : Snapshot where
  raw := {
    mainFile := ⟨"m.h"⟩
    cursors := #[{ kind := .translationUnit, children := [1] },
      { RawCursor.named .structDecl "S" with semanticParent := some 0 }] }
  checked := by rfl

def defective : Snapshot where
  raw := {
    mainFile := ⟨"m.c"⟩
    cursors := #[{ kind := .translationUnit, children := [1, 3] },
      { RawCursor.named .structDecl "S" with
        isDefinition := true, semanticParent := some 0, children := [2] },
      { RawCursor.named .fieldDecl "x" with semanticParent := some 1, type := some 0 },
      { RawCursor.named .functionDecl "f" with
        mangledName := "f", semanticParent := some 0, resultType := some 1 }]
    types := #[{ kind := .code 17 }, { kind := .code 999 }] }
  checked := by rfl

/-- The members that the record has got before the unit fails are taken back. -/
theorem failure_undone_defective :
    let atlas : Atlas := {
      settings := .headersToo
      registry := (run [.parse .headersToo announced]).registry }
    let after := (atlas.parseUnit defective).2
    let missing := (atlas.parseFile ⟨"n.json"⟩ (.error .notFound) []).2
    (atlas.registry.get? 0).any (·.detail.isNone) ∧
      (atlas.parseUnit defective).1 = .error (.error (.unmappedTypeKind 999)) ∧
      atlas.registry.Undone after.registry ∧ missing.registry = atlas.registry := by
  have fails : (({
      settings := .headersToo
      registry := (run [.parse .headersToo announced]).registry } : Atlas).parseUnit defective).1 =
        .error (.error (.unmappedTypeKind 999)) := by decide +kernel
  refine ⟨by decide +kernel, fails, ?_, ?_⟩
  · exact ((failure_undone [.parse .headersToo announced] .headersToo #[]).1 defective _ _
      (Prod.ext fails rfl)).2
  · refine ((failure_undone [.parse .headersToo announced] .headersToo #[]).2 ⟨"n.json"⟩
      (.error .notFound) [] _ _ rfl).2 ?_
    rintro ⟨⟩

end Session

end SymbolAtlas
