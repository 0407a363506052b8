import Mathlib.Control.Monad.Basic

/-! What can be read off a computation that ended well. -/

namespace SymbolAtlas.Outcome

variable {ε α β : Type}

theorem bind_ok {first : Except ε α} {rest : α → Except ε β} {result : β}
    (ok : (first >>= rest) = .ok result) :
    ∃ value, first = .ok value ∧ rest value = .ok result := by
  cases first with
  | error error => cases ok
  | ok value => exact ⟨value, rfl, ok⟩

theorem forM_ok {check : α → Except ε Unit} {items : List α} (ok : items.forM check = .ok ()) :
    ∀ item ∈ items, check item = .ok () := by
  induction items with
  | nil => simp
  | cons item items ih =>
    simp only [List.forM_eq_forM, List.forM_cons] at ok ih
    obtain ⟨⟨⟩, own, rest⟩ := bind_ok ok
    simpa using ⟨own, ih rest⟩

theorem seq_eq_ok_iff {first rest : Except ε Unit} :
    (do first; rest) = .ok () ↔ first = .ok () ∧ rest = .ok () := by
  constructor
  · intro ok
    obtain ⟨⟨⟩, own, later⟩ := bind_ok ok
    exact ⟨own, later⟩
  · rintro ⟨own, later⟩
    rw [own]
    exact later

theorem forM_eq_ok_iff {check : α → Except ε Unit} {items : List α} :
    items.forM check = .ok () ↔ ∀ item ∈ items, check item = .ok () := by
  refine ⟨forM_ok, fun each => ?_⟩
  induction items with
  | nil => rfl
  | cons item items ih =>
    obtain ⟨own, rest⟩ := List.forall_mem_cons.1 each
    have later : forM items check = .ok () := ih rest
    rw [List.forM_eq_forM, List.forM_cons, own]
    exact later

end SymbolAtlas.Outcome
