import SymbolAtlas.Proofs.Registry.Core

/-! Growth: later registries keep every symbol of earlier ones at its index, under
its identity, and with the detail it has got. -/

namespace SymbolAtlas

namespace Symbol

/-- What stays of a symbol for good. -/
structure Grows (old new : Symbol) : Prop where
  part : new.part = old.part
  kind : new.kind = old.kind
  parent : new.parent = old.parent
  detail : ∀ detail, old.detail = some detail → new.detail = some detail

private theorem Grows.refl (symbol : Symbol) : symbol.Grows symbol :=
  ⟨rfl, rfl, rfl, fun _ filled => filled⟩

theorem Grows.trans {first second third : Symbol} (left : first.Grows second)
    (right : second.Grows third) : first.Grows third :=
  ⟨right.part.trans left.part, right.kind.trans left.kind, right.parent.trans left.parent,
    fun detail filled => right.detail detail (left.detail detail filled)⟩

private theorem Grows.of_core {old new : Symbol} (same : new.core = old.core) : old.Grows new where
  part := show new.core.part = old.core.part by rw [same]
  kind := show new.core.kind = old.core.kind by rw [same]
  parent := show new.core.parent = old.core.parent by rw [same]
  detail given filled := show new.core.detail = some given by rw [same]; exact filled

theorem Grows.isSome_detail {old new : Symbol} (grown : old.Grows new)
    (filled : old.detail.isSome) : new.detail.isSome := by
  obtain ⟨detail, filled⟩ := Option.isSome_iff_exists.1 filled
  exact Option.isSome_iff_exists.2 ⟨detail, grown.detail detail filled⟩

theorem grows_sight (symbol : Symbol) (sighting : Sighting) :
    symbol.Grows (symbol.sight sighting) :=
  ⟨rfl, rfl, rfl, fun _ filled => filled⟩

private theorem grows_fill {symbol : Symbol} (waiting : symbol.detail = none) (detail : Detail) :
    symbol.Grows (symbol.fill detail) :=
  ⟨rfl, rfl, rfl, fun other filled => by rw [waiting] at filled; cases filled⟩

end Symbol

namespace Registry

variable {registry : Registry} {index : Nat}

/-- Every symbol of the old registry is in the new one, where it was. -/
def Grows (old new : Registry) : Prop :=
  ∀ (index : Nat) (entry : Entry), old.entries[index]? = some entry →
    ∃ later, new.entries[index]? = some later ∧ later.identity = entry.identity ∧
      entry.symbol.Grows later.symbol

theorem Grows.refl (registry : Registry) : registry.Grows registry :=
  fun _ entry found => ⟨entry, found, rfl, .refl _⟩

theorem Grows.trans {first second third : Registry} (left : first.Grows second)
    (right : second.Grows third) : first.Grows third := by
  intro index entry found
  obtain ⟨middle, found, same, grown⟩ := left index entry found
  obtain ⟨later, found, same', grown'⟩ := right index middle found
  exact ⟨later, found, same'.trans same, grown.trans grown'⟩

theorem Grows.of_entries {old new : Registry} (same : new.entries = old.entries) :
    old.Grows new :=
  fun index entry found => ⟨entry, by rwa [same], rfl, .refl _⟩

theorem grows_update {change : Symbol → Symbol}
    (grown : ∀ symbol, registry.get? index = some symbol → symbol.Grows (change symbol)) :
    registry.Grows (registry.update index change) := by
  intro position entry found
  rw [getElem?_update]
  split
  · rename_i same
    subst same
    have present : registry.get? index = some entry.symbol := by rw [get?, found]; rfl
    exact ⟨{ entry with symbol := change entry.symbol }, by rw [found]; rfl, rfl, grown _ present⟩
  · exact ⟨entry, found, rfl, .refl _⟩

theorem grows_enter (registry : Registry) (identity : Identity) (symbol : Symbol) :
    registry.Grows (registry.enter identity symbol) := by
  intro position entry found
  have inside : position < registry.size := (Array.getElem?_eq_some_iff.1 found).1
  exact ⟨entry, by rw [getElem?_enter, if_neg (Nat.ne_of_lt inside), found], rfl, .refl _⟩

theorem grows_settle {symbol : Symbol} (present : registry.get? index = some symbol)
    (waiting : symbol.detail = none) (detail : Detail) :
    registry.Grows (registry.settle index detail) := by
  refine Grows.trans (grows_update fun other found => ?_) (.of_entries (entries_settle ..))
  rw [present] at found
  cases found
  exact Symbol.grows_fill waiting detail

/-- All that stays of a symbol for good shows in the core. -/
theorem Grows.of_core_entries {old new : Registry} (same : new.core.entries = old.core.entries) :
    old.Grows new := by
  intro index entry found
  have cores : new.entries[index]?.map Entry.core = some entry.core := by
    have entries := congrArg (·[index]?) same
    simpa [core, found] using entries
  obtain ⟨later, found, alike⟩ := Option.map_eq_some_iff.1 cores
  have identity : later.core.identity = entry.core.identity := by rw [alike]
  have symbol : later.core.symbol = entry.core.symbol := by rw [alike]
  exact ⟨later, found, identity, .of_core symbol⟩

theorem Grows.of_core {old new : Registry} (same : new.core = old.core) : old.Grows new :=
  .of_core_entries (by rw [same])

private theorem unresolved_link (registry : Registry) (edge : Edge) :
    (registry.link edge).unresolved = registry.unresolved := by
  unfold link
  split <;> rfl

private theorem unresolved_linkAll (registry : Registry) (index : Nat) (targets : List Nat) :
    (registry.linkAll index targets).unresolved = registry.unresolved := by
  induction targets generalizing registry with
  | nil => rfl
  | cons target targets ih => exact (ih _).trans (unresolved_link registry ⟨index, target⟩)

theorem unresolved_settle (registry : Registry) (index : Nat) (detail : Detail) :
    (registry.settle index detail).unresolved = registry.unresolved :=
  unresolved_linkAll _ index detail.symbols

namespace Grows

variable {old new : Registry}

theorem get? (grown : old.Grows new) {symbol : Symbol} (present : old.get? index = some symbol) :
    ∃ later, new.get? index = some later ∧ symbol.Grows later := by
  obtain ⟨entry, found, rfl⟩ := Option.map_eq_some_iff.1 present
  obtain ⟨later, found, -, grown⟩ := grown index entry found
  exact ⟨later.symbol, by rw [Registry.get?, found]; rfl, grown⟩

/-- A symbol that is not new comes from the one that was there. -/
theorem get?_of_lt (grown : old.Grows new) {later : Symbol} (inside : index < old.size)
    (present : new.get? index = some later) :
    ∃ symbol, old.get? index = some symbol ∧ symbol.Grows later := by
  obtain ⟨symbol, found⟩ := Registry.get?_of_lt inside
  obtain ⟨reached, stored, growth⟩ := grown.get? found
  rw [present] at stored
  cases stored
  exact ⟨symbol, found, growth⟩

theorem find? (grown : old.Grows new) {identity : Identity}
    (found : old.find? identity = some index) : new.find? identity = some index := by
  obtain ⟨⟨entry, present, own⟩, earlier⟩ := find?_eq_some.1 found
  obtain ⟨later, present', same, -⟩ := grown index entry present
  refine find?_eq_some.2 ⟨⟨later, present', same.trans own⟩, fun before other less stored => ?_⟩
  have inside : before < old.entries.size :=
    Nat.lt_trans less (Array.getElem?_eq_some_iff.1 present).1
  obtain ⟨kept, stored', kept_same, -⟩ := grown before _ (Array.getElem?_eq_getElem inside)
  rw [stored] at stored'
  cases stored'
  rw [kept_same]
  exact earlier before _ less (Array.getElem?_eq_getElem inside)

theorem size_le (grown : old.Grows new) : old.size ≤ new.size := by
  refine Nat.le_of_not_lt fun inside => ?_
  obtain ⟨later, found, -⟩ := grown new.size _ (Array.getElem?_eq_getElem inside)
  exact absurd (Array.getElem?_eq_some_iff.1 found).1 (Nat.lt_irrefl _)

theorem size_le_of_find? (grown : old.Grows new) {identity : Identity}
    (fresh : old.find? identity = none) (found : new.find? identity = some index) :
    old.size ≤ index := by
  refine Nat.le_of_not_lt fun inside => ?_
  obtain ⟨⟨entry, present, own⟩, -⟩ := find?_eq_some.1 found
  obtain ⟨later, present', same, -⟩ := grown index _ (Array.getElem?_eq_getElem inside)
  rw [present] at present'
  cases present'
  exact find?_eq_none.1 fresh index _ (Array.getElem?_eq_getElem inside) (same.symm.trans own)

end Grows

end Registry

end SymbolAtlas
