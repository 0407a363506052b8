import SymbolAtlas.Proofs.Registry.Operations

/-! The core of a registry: all of it but what sightings of cursors have added to
the symbols. Whatever else happens to a registry happens to its core alike. -/

namespace SymbolAtlas

/-- A symbol without exposure, locations and documentation. -/
def Symbol.core (symbol : Symbol) : Symbol :=
  { symbol with exposed := false, declarations := [], definitions := [], doc := {} }

def Entry.core (entry : Entry) : Entry :=
  { entry with symbol := entry.symbol.core }

/-- A registry without exposure, locations and documentation of its symbols. -/
def Registry.core (registry : Registry) : Registry :=
  { registry with entries := registry.entries.map Entry.core }

@[simp]
theorem Symbol.core_sight (symbol : Symbol) (sighting : Sighting) :
    (symbol.sight sighting).core = symbol.core :=
  rfl

@[simp]
theorem Symbol.core_fill (symbol : Symbol) (detail : Detail) :
    (symbol.fill detail).core = symbol.core.fill detail :=
  rfl

namespace Registry

variable {registry : Registry}

@[simp]
theorem size_core (registry : Registry) : registry.core.size = registry.size := by
  simp [core, size]

@[simp]
theorem find?_core (registry : Registry) : registry.core.find? = registry.find? := by
  apply find?_congr
  simp [core, Entry.core, Function.comp_def]

@[simp]
theorem get?_core (registry : Registry) (index : Nat) :
    registry.core.get? index = (registry.get? index).map Symbol.core := by
  simp [get?, core, Entry.core, Function.comp_def]

section SameCore

variable {one other : Registry} (same : one.core = other.core)

include same

theorem find?_of_core : one.find? = other.find? := by
  rw [← find?_core one, same, find?_core]

theorem get?_of_core (index : Nat) :
    (one.get? index).map Symbol.core = (other.get? index).map Symbol.core := by
  rw [← get?_core, same, get?_core]

theorem size_of_core : one.size = other.size := by
  rw [← size_core one, same, size_core]

theorem unresolved_of_core : one.unresolved = other.unresolved := by
  simpa [core] using congrArg Registry.unresolved same

theorem contains_of_core : one.contains = other.contains := by
  simpa [core] using congrArg Registry.contains same

theorem references_of_core : one.references = other.references := by
  simpa [core] using congrArg Registry.references same

end SameCore

private theorem core_update (registry : Registry) (index : Nat) (change changed : Symbol → Symbol)
    (same : ∀ symbol, (change symbol).core = changed symbol.core) :
    (registry.update index change).core = registry.core.update index changed := by
  unfold core update
  congr 1
  apply Array.ext_getElem?
  intro position
  simp only [Array.getElem?_map, Array.getElem?_modify]
  split
  · simp [Function.comp_def, Entry.core, same]
  · rfl

theorem update_id (registry : Registry) (index : Nat) : registry.update index id = registry := by
  unfold update
  congr 1
  apply Array.ext_getElem?
  intro position
  rw [Array.getElem?_modify]
  split <;> simp

theorem update_update (registry : Registry) (index : Nat) (first second : Symbol → Symbol) :
    (registry.update index first).update index second =
      registry.update index fun symbol => second (first symbol) := by
  unfold update
  congr 1
  apply Array.ext_getElem?
  intro position
  simp only [Array.getElem?_modify]
  split
  · simp [Function.comp_def]
  · rfl

/-- Only what becomes of the symbol that is there counts. -/
theorem update_congr {registry : Registry} {index : Nat} {symbol : Symbol}
    (present : registry.get? index = some symbol) {first second : Symbol → Symbol}
    (same : first symbol = second symbol) :
    registry.update index first = registry.update index second := by
  unfold get? at present
  unfold update
  congr 1
  apply Array.ext_getElem?
  intro position
  simp only [Array.getElem?_modify]
  split
  · rename_i here
    subst here
    obtain ⟨entry, stored, rfl⟩ := Option.map_eq_some_iff.1 present
    simp [stored, same]
  · rfl

/-- A change outside of the core of a symbol is none to the core of the registry. -/
theorem core_update_of_core (registry : Registry) (index : Nat) {change : Symbol → Symbol}
    (plain : ∀ symbol : Symbol, (change symbol).core = symbol.core) :
    (registry.update index change).core = registry.core := by
  rw [core_update registry index change id plain, update_id]

@[simp]
theorem core_sight (registry : Registry) (index : Nat) (sighting : Sighting) :
    (registry.update index (·.sight sighting)).core = registry.core :=
  registry.core_update_of_core index fun _ => rfl

theorem core_filled (registry : Registry) (index : Nat) (detail : Detail) :
    ((registry.update index (·.fill detail)).markResolved index).core =
      (registry.core.update index (·.fill detail)).markResolved index := by
  rw [← core_update registry index _ _ fun symbol => symbol.core_fill detail]
  rfl

theorem core_add? (registry : Registry) (identity : Identity) (symbol : Symbol) :
    (registry.add? identity symbol).map (Prod.map core id) =
      registry.core.add? identity symbol.core := by
  have above : symbol.core.parent = symbol.parent := rfl
  unfold add?
  rw [find?_core, size_core, above]
  cases registry.find? identity with
  | none =>
    by_cases outside : symbol.parent.any (registry.size < ·)
    · simp [outside]
    · simp [outside, core, Entry.core]
  | some index =>
    have parent : (registry.core.get? index).bind Symbol.parent =
        (registry.get? index).bind Symbol.parent := by
      rw [get?_core]
      cases registry.get? index <;> rfl
    have replaced : registry.core.update index (fun _ => symbol.core) =
        (registry.update index fun _ => symbol).core :=
      (core_update registry index (fun _ => symbol) (fun _ => symbol.core) fun _ => rfl).symm
    simp only [parent, replaced]
    split <;> rfl

theorem core_addReference? (registry : Registry) (edge : Edge) :
    (registry.addReference? edge).map core = registry.core.addReference? edge := by
  unfold addReference?
  rw [size_core]
  have same : registry.core.references = registry.references := rfl
  rw [same]
  split
  · rfl
  · split <;> rfl

end Registry

end SymbolAtlas
