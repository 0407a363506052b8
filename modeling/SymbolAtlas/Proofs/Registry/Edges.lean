import SymbolAtlas.Proofs.Registry.Core
import SymbolAtlas.Registry

/-! Edges stay between symbols that exist. -/

namespace SymbolAtlas.Registry

variable {registry : Registry}

/-- Every edge joins two symbols that exist. -/
def Anchored (registry : Registry) : Prop :=
  ∀ edge, edge ∈ registry.contains ∨ edge ∈ registry.references → within registry.size edge

theorem within_of_le {count more : Nat} {edge : Edge} (inside : within count edge)
    (le : count ≤ more) : within more edge := by
  simp only [within, Bool.and_eq_true, decide_eq_true_eq] at inside ⊢
  omega

theorem Anchored.of_core {other : Registry} (anchored : registry.Anchored)
    (same : other.core = registry.core) : other.Anchored := by
  intro edge member
  rw [contains_of_core same, references_of_core same] at member
  rw [size_of_core same]
  exact anchored edge member

theorem Anchored.enter (anchored : registry.Anchored) {identity : Identity} {symbol : Symbol}
    (inside : ∀ parent, symbol.parent = some parent → parent < registry.size) :
    (registry.enter identity symbol).Anchored := by
  intro edge member
  rw [size_enter]
  simp only [Registry.enter, List.mem_append] at member
  rcases member with (old | added) | old
  · exact within_of_le (anchored edge (.inl old)) (Nat.le_succ _)
  · obtain ⟨above, last⟩ := mem_containment.1 added
    have less := inside edge.source above
    simp only [within, Bool.and_eq_true, decide_eq_true_eq]
    omega
  · exact within_of_le (anchored edge (.inr old)) (Nat.le_succ _)

theorem Anchored.link (anchored : registry.Anchored) {edge : Edge}
    (inside : within registry.size edge) : (registry.link edge).Anchored := by
  intro other member
  rw [size_link]
  unfold Registry.link at member
  split at member
  · exact anchored other member
  · simp only [List.mem_append, List.mem_singleton, ← or_assoc] at member
    rcases member with old | rfl
    · exact anchored other old
    · exact inside

private theorem Anchored.linkAll (anchored : registry.Anchored) {index : Nat} (targets : List Nat)
    (source : index < registry.size) (inside : ∀ target ∈ targets, target < registry.size) :
    (registry.linkAll index targets).Anchored := by
  induction targets generalizing registry with
  | nil => exact anchored
  | cons target targets ih =>
    have first := inside target List.mem_cons_self
    refine ih (anchored.link (by simp [within, source, first])) (by simpa using source) ?_
    exact fun other member => by simpa using inside other (List.mem_cons_of_mem _ member)

theorem Anchored.settle (anchored : registry.Anchored) {index : Nat} {detail : Detail}
    (source : index < registry.size)
    (inside : ∀ target ∈ detail.symbols, target < registry.size) :
    (registry.settle index detail).Anchored := by
  refine Anchored.linkAll (fun edge member => ?_) detail.symbols (by simpa using source)
    (by simpa using inside)
  rw [size_markResolved, size_update]
  exact anchored edge member

end SymbolAtlas.Registry
