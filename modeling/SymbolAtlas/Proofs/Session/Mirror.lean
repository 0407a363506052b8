import SymbolAtlas.Proofs.Registry.Mirror
import SymbolAtlas.Proofs.Session.History

/-! The reference graph mirrors the resolved types throughout every session, also
where details are taken back again. -/

namespace SymbolAtlas

open Snapshot Extract

private theorem Extract.Step.mirrored {snapshot : Snapshot} {spared : List Nat}
    {before after : Registry} (step : Step snapshot spared before after)
    (mirrored : before.Mirrored) : after.Mirrored := by
  cases step with
  | logged => exact ⟨mirrored.inside, mirrored.referenced, mirrored.contained, mirrored.once⟩
  | sighted cursor index => exact mirrored.of_core (Registry.core_sight before index _)
  | registered cursor kind parent => exact mirrored.enter cursor.identity rfl
  | completed cursor index symbol detail found present waiting idle portrayed =>
    exact mirrored.settle present waiting portrayed.lt_size

namespace Session

theorem mirrored_run (operations : List Operation) : (run operations).registry.Mirrored :=
  run_keeps_core (fun _ _ same _ mirrored => mirrored.of_core same) Registry.mirrored_empty
    operations fun _ _ _ _ _ _ step mirrored => step.mirrored mirrored

/-- In every registry that units, single recordings and rollbacks lead to, the symbols
that resolved types name exist, and a symbol refers to exactly those that the types of
its detail name, once each. Every other edge joins a symbol to its parent. -/
theorem references_mirror_types (operations : List Operation) :
    let registry := (run operations).registry
    (∀ index other, registry.Mentions index other → other < registry.size) ∧
      (∀ index other, ⟨index, other⟩ ∈ registry.references ↔ registry.Mentions index other) ∧
      registry.references.Nodup ∧
      (∀ index, Ascending.Strict compare (registry.referencesOf index) ∧
        ∀ other, other ∈ registry.referencesOf index ↔ registry.Mentions index other) ∧
      registry.edgeCount = {index | (registry.parent? index).isSome}.ncard +
        {pair : Nat × Nat | registry.Mentions pair.1 pair.2}.ncard := by
  intro registry
  have mirrored : registry.Mirrored := mirrored_run operations
  exact ⟨mirrored.inside, mirrored.referenced, mirrored.once.1, mirrored.referencesOf,
    mirrored.edgeCount⟩

/-- A record with two fields that point to it, and a function that returns it. -/
def linked : Snapshot where
  raw := {
    mainFile := ⟨"m.c"⟩
    cursors := #[{ kind := .translationUnit, children := [1, 4] },
      { RawCursor.named .structDecl "S" with
        isDefinition := true, semanticParent := some 0, children := [2, 3] },
      { RawCursor.named .fieldDecl "next" with semanticParent := some 1, type := some 1 },
      { RawCursor.named .fieldDecl "last" with semanticParent := some 1, type := some 1 },
      { RawCursor.named .functionDecl "f" with
        mangledName := "f", semanticParent := some 0, resultType := some 0 }]
    types := #[{ kind := .code 105, declaration := some 1 },
      { kind := .code 101, pointee := some 0 }] }
  checked := by rfl

/-- The record refers to itself once, and the function to the record, after a unit that
failed in between and a rollback. -/
theorem references_mirror_types_linked :
    let registry := (run [.parse .headersToo defective, .mark, .parse .headersToo linked,
      .rollback 0, .parse .headersToo linked]).registry
    (registry.Mentions 0 0 ∧ 0 < registry.size) ∧ registry.Mentions 1 0 ∧
      registry.referencesOf 0 = [0] ∧ registry.references.length = 2 := by
  have mirrors := references_mirror_types [.parse .headersToo defective, .mark,
    .parse .headersToo linked, .rollback 0, .parse .headersToo linked]
  intro registry
  obtain ⟨inside, referenced, -⟩ := mirrors
  have own : registry.Mentions 0 0 := (referenced 0 0).1 (by decide +kernel)
  have returned : registry.Mentions 1 0 := (referenced 1 0).1 (by decide +kernel)
  exact ⟨⟨own, inside 0 0 own⟩, returned, by decide +kernel, by decide +kernel⟩

end Session

end SymbolAtlas
