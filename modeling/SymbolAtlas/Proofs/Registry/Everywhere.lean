import SymbolAtlas.Proofs.Registry.Undo

/-! Laws that hold of every symbol of a registry. -/

namespace SymbolAtlas

/-- A law holds of a new symbol, and whatever happens to a symbol keeps it. -/
structure Symbol.Lasts (law : Symbol → Prop) : Prop where
  made : ∀ part kind parent, law { part, kind, parent }
  sight : ∀ (symbol : Symbol) sighting, law symbol → law (symbol.sight sighting)
  fill : ∀ (symbol : Symbol) detail, symbol.kind.admits detail → law symbol →
    law (symbol.fill detail)
  clear : ∀ symbol : Symbol, law symbol → law symbol.clear

namespace Registry

variable {law : Symbol → Prop} {registry : Registry} {index : Nat}

def Everywhere (law : Symbol → Prop) (registry : Registry) : Prop :=
  ∀ index symbol, registry.get? index = some symbol → law symbol

namespace Everywhere

theorem of_entries {other : Registry} (holds : registry.Everywhere law)
    (same : other.entries = registry.entries) : other.Everywhere law := by
  intro index symbol present
  rw [Registry.get?, same] at present
  exact holds index symbol present

theorem update (holds : registry.Everywhere law) {change : Symbol → Symbol}
    (kept : ∀ symbol, registry.get? index = some symbol → law (change symbol)) :
    (registry.update index change).Everywhere law := by
  intro position symbol present
  rw [get?_update] at present
  split at present
  · rename_i same
    subst same
    obtain ⟨old, found, rfl⟩ := Option.map_eq_some_iff.1 present
    exact kept old found
  · exact holds position symbol present

theorem enter (holds : registry.Everywhere law) (identity : Identity) {symbol : Symbol}
    (new : law symbol) : (registry.enter identity symbol).Everywhere law := by
  intro position other present
  rw [get?_enter] at present
  split at present
  · cases present
    exact new
  · exact holds position other present

theorem settle (holds : registry.Everywhere law) {symbol : Symbol} {detail : Detail}
    (present : registry.get? index = some symbol) (filled : law (symbol.fill detail)) :
    (registry.settle index detail).Everywhere law := by
  refine of_entries (holds.update fun other found => ?_) (entries_settle ..)
  rw [present] at found
  cases found
  exact filled

private theorem undo (lasts : Symbol.Lasts law) (holds : registry.Everywhere law)
    (change : Change) : (registry.undo change).Everywhere law := by
  cases change with
  | resolved index =>
    exact holds.update fun symbol present => lasts.clear symbol (holds index symbol present)
  | referenced edge => exact holds.of_entries rfl

theorem rollback (lasts : Symbol.Lasts law) (holds : registry.Everywhere law) (mark : Mark) :
    (registry.rollback mark).Everywhere law := by
  have cut : (registry.keepSymbols mark.symbols).Everywhere law := by
    intro position symbol present
    rw [Registry.get?, keepSymbols, Array.take_eq_extract, Array.getElem?_extract] at present
    split at present
    · rw [Nat.zero_add] at present
      exact holds position symbol present
    · cases present
  have undone : ∀ (changes : List Change) (start : Registry), start.Everywhere law →
      (changes.foldl Registry.undo start).Everywhere law := by
    intro changes
    induction changes with
    | nil => exact fun _ holds => holds
    | cons change changes ih => exact fun start holds => ih _ (holds.undo lasts change)
  exact (undone (registry.changesSince mark.changes) _ cut).of_entries rfl

end Everywhere

end Registry

end SymbolAtlas
