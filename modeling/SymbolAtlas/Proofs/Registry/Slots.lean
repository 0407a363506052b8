import SymbolAtlas.Proofs.Registry.Core

/-! Slots, the places of details. The change log tells which of them have been filled on
the way from one registry to a later one. -/

namespace SymbolAtlas

/-- The symbol whose slot was filled by a change. -/
def Change.resolved? : Change → Option Nat
  | .resolved index => some index
  | .referenced _ => none

namespace Registry

variable {registry before between after : Registry} {filled more : List Nat} {index : Nat}

def slot? (registry : Registry) (index : Nat) : Option Detail :=
  (registry.get? index).bind Symbol.detail

/-- The slots that the change log names, in the order in which they were filled. -/
def resolved (registry : Registry) : List Nat :=
  registry.changes.toList.filterMap Change.resolved?

/-- From one registry to a later one exactly these slots were filled. Each was empty, the
change log has one more entry for it, and no symbol has changed its kind. -/
structure Fills (before after : Registry) (filled : List Nat) : Prop where
  logged : after.resolved = before.resolved ++ filled
  distinct : filled.Nodup
  empty : ∀ index ∈ filled, before.slot? index = none
  full : ∀ index ∈ filled, (after.slot? index).isSome
  others : ∀ index, index ∉ filled → after.slot? index = before.slot? index
  kinds : ∀ index symbol, before.get? index = some symbol →
    ∃ later, after.get? index = some later ∧ later.kind = symbol.kind

namespace Fills

theorem trans (first : Fills before between filled) (second : Fills between after more) :
    Fills before after (filled ++ more) := by
  have apart : ∀ early ∈ filled, ∀ late ∈ more, early ≠ late := by
    rintro index early _ late rfl
    have full := first.full index early
    rw [second.empty index late] at full
    cases full
  refine ⟨?_, ?_, ?_, ?_, ?_, ?_⟩
  · rw [second.logged, first.logged, List.append_assoc]
  · exact List.nodup_append.2 ⟨first.distinct, second.distinct, apart⟩
  · intro index member
    by_cases early : index ∈ filled
    · exact first.empty index early
    · have late := (List.mem_append.1 member).resolve_left early
      rw [← first.others index early]
      exact second.empty index late
  · intro index member
    by_cases late : index ∈ more
    · exact second.full index late
    · have early := (List.mem_append.1 member).resolve_right late
      rw [second.others index late]
      exact first.full index early
  · intro index absent
    rw [List.mem_append, not_or] at absent
    rw [second.others index absent.2, first.others index absent.1]
  · intro index symbol present
    obtain ⟨middle, present, same⟩ := first.kinds index symbol present
    obtain ⟨later, present, same'⟩ := second.kinds index middle present
    exact ⟨later, present, same'.trans same⟩

theorem of_symbols (logged : after.resolved = before.resolved)
    (symbols : ∀ index,
      (after.get? index).map Symbol.core = (before.get? index).map Symbol.core) :
    Fills before after [] := by
  have slots : ∀ registry : Registry, ∀ index, registry.slot? index =
      ((registry.get? index).map Symbol.core).bind Symbol.detail := fun registry index => by
    rw [slot?]
    cases registry.get? index <;> rfl
  refine ⟨by simp [logged], .nil, by simp, by simp, fun index _ => ?_,
    fun index symbol present => ?_⟩
  · rw [slots, slots, symbols]
  · have same := symbols index
    rw [present, Option.map_some, Option.map_eq_some_iff] at same
    obtain ⟨later, found, alike⟩ := same
    have kind : later.core.kind = symbol.core.kind := by rw [alike]
    exact ⟨later, found, kind⟩

theorem refl (registry : Registry) : Fills registry registry [] :=
  of_symbols rfl fun _ => rfl

theorem of_core (same : after.core = before.core) : Fills before after [] := by
  have changes : after.changes = before.changes := by
    simpa [core] using congrArg Registry.changes same
  exact of_symbols (by rw [resolved, changes, resolved]) (get?_of_core same)

theorem enter (registry : Registry) (identity : Identity) {symbol : Symbol}
    (waiting : symbol.detail = none) : Fills registry (registry.enter identity symbol) [] := by
  refine ⟨by simp [resolved, Registry.enter], .nil, by simp, by simp, fun index _ => ?_,
    fun index old present => ?_⟩
  · rw [slot?, get?_enter]
    split
    · rename_i new
      have absent : registry.get? index = none := by simp [Registry.get?, new, size]
      rw [slot?, absent]
      exact waiting
    · rfl
  · rw [get?_enter, if_neg (Nat.ne_of_lt (lt_size_of_get? present))]
    exact ⟨old, present, rfl⟩

private theorem link (registry : Registry) (edge : Edge) :
    Fills registry (registry.link edge) [] := by
  refine of_symbols ?_ fun index => by rw [Registry.get?, entries_link, Registry.get?]
  unfold Registry.link resolved
  split
  · rfl
  · simp [Change.resolved?]

theorem addReference? {edge : Edge} (linked : registry.addReference? edge = some after) :
    Fills registry after [] := by
  suffices same : after = registry.link edge from same ▸ link registry edge
  unfold Registry.addReference? at linked
  unfold Registry.link
  split at linked
  · simp_all
  · split at linked <;> simp_all

theorem fill {symbol : Symbol} (present : registry.get? index = some symbol)
    (waiting : symbol.detail = none) (detail : Detail) :
    Fills registry ((registry.update index (·.fill detail)).markResolved index) [index] := by
  have marked : ∀ position, ((registry.update index (·.fill detail)).markResolved index).get?
      position = (registry.update index (·.fill detail)).get? position := fun _ => rfl
  refine ⟨?_, by simp, ?_, ?_, fun position absent => ?_,
    fun position old there => ?_⟩
  · simp [resolved, markResolved, Registry.update, Change.resolved?]
  · simp [slot?, present, waiting]
  · intro position member
    rw [List.mem_singleton.1 member, slot?, marked, get?_update_self, present]
    rfl
  · have apart : index ≠ position := fun same => absent (by simp [same])
    rw [slot?, marked, get?_update, if_neg apart, slot?]
  · rw [marked, get?_update]
    split
    · exact ⟨old.fill detail, by rw [there]; rfl, rfl⟩
    · exact ⟨old, there, rfl⟩

private theorem linkAll (registry : Registry) (index : Nat) (targets : List Nat) :
    Fills registry (registry.linkAll index targets) [] := by
  induction targets generalizing registry with
  | nil => exact .refl registry
  | cons target targets ih => exact (link registry ⟨index, target⟩).trans (ih _)

theorem settle {symbol : Symbol} (present : registry.get? index = some symbol)
    (waiting : symbol.detail = none) (detail : Detail) :
    Fills registry (registry.settle index detail) [index] :=
  (fill present waiting detail).trans (linkAll _ index detail.symbols)

end Fills

/-- Since the registry was empty, the slots were filled that the change log names. -/
def Tallied (registry : Registry) : Prop :=
  Fills {} registry registry.resolved

namespace Tallied

theorem onward (tallied : before.Tallied) (fills : Fills before after filled) : after.Tallied := by
  rw [Tallied, fills.logged]
  exact tallied.trans fills

theorem mem_iff (tallied : registry.Tallied) :
    index ∈ registry.resolved ↔ (registry.slot? index).isSome := by
  refine ⟨tallied.full index, fun full => ?_⟩
  by_cases member : index ∈ registry.resolved
  · exact member
  · rw [tallied.others index member] at full
    simp [slot?, get?] at full

end Tallied

end Registry

end SymbolAtlas
