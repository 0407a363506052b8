import SymbolAtlas.Proofs.Extract.Portrait
import SymbolAtlas.Proofs.Registry.Everywhere
import SymbolAtlas.Proofs.Registry.Sightings

/-! The four things that extraction does to a registry, as a relation, and what
every sequence of them keeps. -/

namespace SymbolAtlas.Extract

open Snapshot Relation

variable {snapshot : Snapshot} {spared : List Nat} {registry later : Registry}

/-- What extraction from a snapshot may do next to a registry. Symbols that are
spared get no detail. -/
inductive Step (snapshot : Snapshot) (spared : List Nat) (registry : Registry) : Registry → Prop
  | logged (cursor : snapshot.Cursor) (empty : cursor.part.isEmpty) :
      Step snapshot spared registry (registry.logUnresolved cursor.spelling cursor.location)
  | sighted (cursor : snapshot.Cursor) (index : Nat)
      (found : registry.find? cursor.identity = some index) :
      Step snapshot spared registry (registry.update index (·.sight cursor.sighting))
  | registered (cursor : snapshot.Cursor) (kind : SymbolKind) (parent : Option Nat)
      (named : cursor.part.isEmpty = false) (fresh : registry.find? cursor.identity = none)
      (sort : cursor.symbolKind? = some kind) (enclosed : registry.Encloses cursor parent) :
      Step snapshot spared registry
        (registry.enter cursor.identity { part := cursor.part, kind, parent })
  | completed (cursor : snapshot.Cursor) (index : Nat) (symbol : Symbol) (detail : Detail)
      (found : registry.find? cursor.identity = some index)
      (present : registry.get? index = some symbol) (waiting : symbol.detail = none)
      (idle : index ∉ spared) (portrayed : registry.Portrays cursor symbol.kind detail)
      (seen : registry.Shows index cursor.sighting) :
      Step snapshot spared registry (registry.settle index detail)

abbrev Steps (snapshot : Snapshot) (spared : List Nat) : Registry → Registry → Prop :=
  ReflTransGen (Step snapshot spared)

theorem Step.grows (step : Step snapshot spared registry later) : registry.Grows later := by
  cases step with
  | logged => exact .of_entries rfl
  | sighted cursor index found =>
    exact Registry.grows_update fun symbol _ => symbol.grows_sight cursor.sighting
  | registered => exact Registry.grows_enter registry _ _
  | completed cursor index symbol detail found present waiting =>
    exact Registry.grows_settle present waiting detail

theorem Step.gathers (step : Step snapshot spared registry later) : registry.Gathers later := by
  cases step with
  | logged => exact .refl registry
  | sighted cursor index =>
    exact registry.gathers_update index fun symbol => symbol.gathers_sight cursor.sighting
  | registered => exact registry.gathers_enter _ _
  | completed cursor index symbol detail => exact registry.gathers_settle index detail

private theorem Step.weaken {fewer : List Nat} (subset : fewer ⊆ spared)
    (step : Step snapshot spared registry later) : Step snapshot fewer registry later := by
  cases step with
  | logged cursor empty => exact .logged cursor empty
  | sighted cursor index found => exact .sighted cursor index found
  | registered cursor kind parent named fresh sort enclosed =>
    exact .registered cursor kind parent named fresh sort enclosed
  | completed cursor index symbol detail found present waiting idle portrayed seen =>
    exact .completed cursor index symbol detail found present waiting
      (fun member => idle (subset member)) portrayed seen

private theorem Step.detail_of_mem (step : Step snapshot spared registry later) {index : Nat}
    (member : index ∈ spared) {symbol : Symbol} (present : registry.get? index = some symbol) :
    ∃ next, later.get? index = some next ∧ next.kind = symbol.kind ∧
      next.detail = symbol.detail := by
  cases step with
  | logged => exact ⟨symbol, present, rfl, rfl⟩
  | sighted cursor position found =>
    rw [Registry.get?_update]
    split
    · exact ⟨symbol.sight cursor.sighting, by rw [present]; rfl, rfl, rfl⟩
    · exact ⟨symbol, present, rfl, rfl⟩
  | registered =>
    rw [Registry.get?_enter, if_neg (Nat.ne_of_lt (Registry.lt_size_of_get? present))]
    exact ⟨symbol, present, rfl, rfl⟩
  | completed cursor position other detail found _ waiting idle =>
    rw [Registry.get?_settle, if_neg]
    · exact ⟨symbol, present, rfl, rfl⟩
    · rintro rfl
      exact idle member

theorem Step.everywhere {law : Symbol → Prop} (lasts : Symbol.Lasts law)
    (step : Step snapshot spared registry later) (holds : registry.Everywhere law) :
    later.Everywhere law := by
  cases step with
  | logged => exact holds.of_entries rfl
  | sighted cursor index =>
    exact holds.update fun symbol present => lasts.sight symbol _ (holds index symbol present)
  | registered cursor kind parent => exact holds.enter _ (lasts.made cursor.part kind parent)
  | completed cursor index symbol detail found present waiting idle portrayed =>
    exact holds.settle present
      (lasts.fill symbol detail portrayed.admits (holds index symbol present))

theorem Steps.grows (steps : Steps snapshot spared registry later) : registry.Grows later := by
  induction steps with
  | refl => exact .refl registry
  | tail _ step ih => exact ih.trans step.grows

theorem Steps.gathers (steps : Steps snapshot spared registry later) : registry.Gathers later := by
  induction steps with
  | refl => exact .refl registry
  | tail _ step ih => exact ih.trans step.gathers

theorem Steps.weaken {fewer : List Nat} (subset : fewer ⊆ spared)
    (steps : Steps snapshot spared registry later) : Steps snapshot fewer registry later :=
  ReflTransGen.mono (fun _ _ step => step.weaken subset) _ _ steps

theorem Steps.detail_of_mem (steps : Steps snapshot spared registry later) {index : Nat}
    (member : index ∈ spared) {symbol : Symbol} (present : registry.get? index = some symbol) :
    ∃ next, later.get? index = some next ∧ next.kind = symbol.kind ∧
      next.detail = symbol.detail := by
  induction steps with
  | refl => exact ⟨symbol, present, rfl, rfl⟩
  | tail _ step ih =>
    obtain ⟨middle, present, kind, detail⟩ := ih
    obtain ⟨next, present, kind', detail'⟩ := step.detail_of_mem member present
    exact ⟨next, present, kind'.trans kind, detail'.trans detail⟩

theorem Steps.keep {invariant : Registry → Prop} (steps : Steps snapshot spared registry later)
    (kept : ∀ before after, Step snapshot spared before after → invariant before →
      invariant after) (holds : invariant registry) : invariant later := by
  induction steps with
  | refl => exact holds
  | tail _ step ih => exact kept _ _ step ih

end SymbolAtlas.Extract
