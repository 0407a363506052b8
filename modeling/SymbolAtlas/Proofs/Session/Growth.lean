import SymbolAtlas.Proofs.Session.Abort

/-! Symbols only grow. A unit that fails takes back what it has given to symbols,
but for sightings, and so leaves them no smaller than they were. -/

namespace SymbolAtlas

open Snapshot Extract

namespace Registry

variable {first second third registry : Registry}

/-- A later registry: it has all symbols with what they had, and all entries about
cursors without a symbol. -/
structure Outlives (old new : Registry) : Prop where
  grows : old.Grows new
  gathers : old.Gathers new
  logged : old.unresolved.toList <+: new.unresolved.toList

private theorem Outlives.refl (registry : Registry) : registry.Outlives registry :=
  ⟨.refl registry, .refl registry, List.prefix_rfl⟩

theorem Outlives.trans (left : first.Outlives second) (right : second.Outlives third) :
    first.Outlives third :=
  ⟨left.grows.trans right.grows, left.gathers.trans right.gathers,
    left.logged.trans right.logged⟩

end Registry

section Steps

variable {snapshot : Snapshot} {spared : List Nat} {before after : Registry}

private theorem Extract.Step.logged_prefix (step : Step snapshot spared before after) :
    before.unresolved.toList <+: after.unresolved.toList := by
  cases step with
  | logged cursor =>
    rw [Registry.logUnresolved, Array.toList_push]
    exact List.prefix_append _ _
  | sighted | registered => exact List.prefix_rfl
  | completed cursor index symbol detail =>
    rw [Registry.unresolved_settle]

theorem Extract.Steps.outlives (steps : Steps snapshot spared before after) :
    before.Outlives after := by
  refine ⟨steps.grows, steps.gathers, ?_⟩
  induction steps with
  | refl => exact List.prefix_rfl
  | tail _ step ih => exact ih.trans step.logged_prefix

end Steps

/-- No place at which a symbol is declared or defined is the absent one. -/
structure Symbol.Placed (symbol : Symbol) : Prop where
  declared : ∀ place ∈ symbol.declarations, place.isAbsent = false
  defined : ∀ place ∈ symbol.definitions, place.isAbsent = false

private theorem Symbol.lasts_placed : Symbol.Lasts Symbol.Placed where
  made _ _ _ := ⟨by simp, by simp⟩
  sight _ _ placed := ⟨Location.isAbsent_of_mem_foldl_insert placed.declared,
    Location.isAbsent_of_mem_foldl_insert placed.defined⟩
  fill _ _ _ placed := ⟨placed.declared, placed.defined⟩
  clear _ placed := ⟨placed.declared, placed.defined⟩

namespace Session

structure Reading where
  settings : Settings
  snapshot : Snapshot

def Reading.operation (reading : Reading) : Operation :=
  .parse reading.settings reading.snapshot

private theorem outlives_step {session : Session} (anchored : session.registry.Anchored)
    {operation : Operation} {snapshot : Snapshot} (own : operation.unit? = some snapshot) :
    session.registry.Outlives (session.step operation).registry := by
  cases session.moves_step operation with
  | onward _ made => exact made.outlives
  | @aborted _ reached _ made undone =>
    -- going back gives up what has been read, but for the sightings of symbols that stay
    have core := (anchored.undone made).core
    have gathers := made.gathers.rollback (Nat.le_refl session.registry.mark.symbols)
    rw [undone]
    exact ⟨.of_core core, gathers, by rw [Registry.unresolved_of_core core]⟩
  | marked mark | returned mark | unmarked mark =>
    rw [mark] at own
    cases own

private theorem readings_outlive (operations : List Operation) (readings : List Reading) :
    (run operations).registry.Outlives
      (run (operations ++ readings.map Reading.operation)).registry := by
  induction readings generalizing operations with
  | nil =>
    rw [List.map_nil, List.append_nil]
    exact .refl _
  | cons reading readings ih =>
    have split : operations ++ (reading :: readings).map Reading.operation =
        (operations ++ [reading.operation]) ++ readings.map Reading.operation := by simp
    have first : (run operations).registry.Outlives
        (run (operations ++ [reading.operation])).registry := by
      have last : run (operations ++ [reading.operation]) =
          (run operations).step reading.operation := by simp [run]
      rw [last]
      exact outlives_step (anchored_run operations) rfl
    rw [split]
    exact first.trans (ih _)

/-- In every session, whatever units are read next, well or not, every symbol keeps its index,
identity, part, kind, parent and detail. It stays exposed, its places and its raw comment do not
shrink, and a brief comment stays non-empty. Entries about cursors without a symbol are only
appended. -/
theorem symbols_grow (operations : List Operation) (readings : List Reading) :
    let earlier := (run operations).registry
    let later := (run (operations ++ readings.map Reading.operation)).registry
    (∀ (index : Nat) (entry : Entry), earlier.entries[index]? = some entry →
      ∃ grown, later.entries[index]? = some grown ∧ grown.identity = entry.identity ∧
        entry.symbol.Grows grown.symbol ∧ entry.symbol.Gathers grown.symbol ∧
          grown.symbol.Placed) ∧
      earlier.unresolved.toList <+: later.unresolved.toList := by
  intro earlier later
  have outlives : earlier.Outlives later := readings_outlive operations readings
  refine ⟨fun index entry found => ?_, outlives.logged⟩
  obtain ⟨grown, stored, identity, growth⟩ := outlives.grows index entry found
  have present : later.get? index = some grown.symbol := by rw [Registry.get?, stored]; rfl
  have old : earlier.get? index = some entry.symbol := by rw [Registry.get?, found]; rfl
  obtain ⟨symbol, same, gathered⟩ := outlives.gathers index entry.symbol old
  rw [present] at same
  cases same
  exact ⟨grown, stored, identity, growth, gathered,
    everywhere_run Symbol.lasts_placed _ index grown.symbol present⟩

/-- A record that a header declares, and a unit that defines it before it fails. -/
def declared : Snapshot where
  raw := {
    mainFile := ⟨"m.c"⟩
    cursors := #[{ kind := .translationUnit, children := [1] },
      { RawCursor.named .structDecl "S" with
        semanticParent := some 0, location := ⟨⟨"s.h"⟩, 1, 1, 0⟩, raw := some "/// S" }] }
  checked := by rfl

def spoiled : Snapshot where
  raw := {
    mainFile := ⟨"s.c"⟩
    cursors := #[{ kind := .translationUnit, children := [1, 2] },
      { RawCursor.named .structDecl "S" with
        isDefinition := true, semanticParent := some 0, location := ⟨⟨"s.c"⟩, 1, 1, 0⟩ },
      { RawCursor.named .functionDecl "f" with
        mangledName := "f", semanticParent := some 0, resultType := some 0 }]
    types := #[{ kind := .code 999 }] }
  checked := by rfl

/-- The members of the record go with the unit that fails, its exposure and the place of
its definition stay. -/
theorem symbols_grow_spoiled :
    let earlier := (run [.parse .headersToo declared]).registry
    let later := (run [.parse .headersToo declared, .parse .headersToo spoiled]).registry
    ∃ entry grown, earlier.entries[0]? = some entry ∧ later.entries[0]? = some grown ∧
      entry.symbol.Gathers grown.symbol ∧ entry.symbol.exposed = false ∧
        grown.symbol.exposed = true ∧ grown.symbol.detail = none ∧
          grown.symbol.definitions.length = 1 := by
  have grows := symbols_grow [.parse .headersToo declared] [⟨.headersToo, spoiled⟩]
  intro earlier later
  have inside : 0 < earlier.entries.size := by decide +kernel
  have hidden : (earlier.get? 0).map Symbol.exposed = some false := by decide +kernel
  have seen : (later.get? 0).map
      (fun symbol => (symbol.exposed, symbol.detail, symbol.definitions.length)) =
        some (true, none, 1) := by
    decide +kernel
  obtain ⟨entry, found⟩ : ∃ entry, earlier.entries[0]? = some entry :=
    ⟨_, Array.getElem?_eq_getElem inside⟩
  obtain ⟨grown, stored, -, -, gathers, -⟩ := grows.1 0 entry found
  have stored : later.entries[0]? = some grown := stored
  rw [Registry.get?, found] at hidden
  rw [Registry.get?, stored] at seen
  simp only [Option.map_some, Option.some.injEq, Prod.mk.injEq] at hidden seen
  exact ⟨entry, grown, found, stored, gathers, hidden, seen⟩

end Session

end SymbolAtlas
