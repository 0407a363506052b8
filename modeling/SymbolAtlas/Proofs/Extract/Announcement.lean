import SymbolAtlas.Proofs.Extract.Composition
import SymbolAtlas.Proofs.Extract.Run

/-! Every symbol is reported right before it is made. The reports of a recording name
the identities that have been added, each once, so that nothing is added under an
identity that was there already. -/

namespace SymbolAtlas

private theorem Registry.identities_add? {registry later : Registry} {identity : Identity}
    {symbol : Symbol} {index : Nat} (fresh : registry.find? identity = none)
    (added : registry.add? identity symbol = some (later, index)) :
    later.identities = registry.identities ++ [identity] := by
  rw [add?, fresh] at added
  simp only at added
  split at added
  · cases added
  · cases added
    simp [identities]

namespace Extract

open Snapshot

variable {α β : Type} {snapshot : Snapshot} {before between after : Extraction}

/-- From one state to another, the reports that have been added name the identities
that have been added. -/
def Announces (before after : Extraction) : Prop :=
  ∃ events : List Event, after.log.toList = before.log.toList ++ events ∧
    after.registry.identities =
      before.registry.identities ++ events.filterMap Event.announced?

theorem Announces.refl (state : Extraction) : Announces state state :=
  ⟨[], by simp, by simp⟩

theorem Announces.trans (first : Announces before between) (second : Announces between after) :
    Announces before after := by
  obtain ⟨events, log, identities⟩ := first
  obtain ⟨more, log', identities'⟩ := second
  exact ⟨events ++ more, by simp [log', log], by simp [identities', identities]⟩

private theorem Announces.of_identities (log : after.log = before.log)
    (identities : after.registry.identities = before.registry.identities) :
    Announces before after :=
  ⟨[], by simp [log], by simp [identities]⟩

def Announcing (step : Extract α) : Prop :=
  ∀ start, (runFrom start step).1 ≠ .error .dangling → Announces start (runFrom start step).2

private theorem announcing_bind {step : Extract α} {next : α → Extract β} (first : Announcing step)
    (rest : ∀ value, Announcing (next value)) : Announcing (step >>= next) := by
  intro start
  have begun := first start
  rw [runFrom_bind]
  revert begun
  cases runFrom start step with
  | mk outcome middle =>
    intro begun firm
    cases outcome with
    | error stop => exact begun (by simpa using firm)
    | ok value => exact (begun (by simp)).trans (rest value middle firm)

private theorem announcing_tryRegistry {change : Registry → Option (Registry × α)}
    (same : ∀ registry later value, change registry = some (later, value) →
      later.identities = registry.identities) : Announcing (tryRegistry change) := by
  intro start
  rw [runFrom_tryRegistry]
  cases changed : change start.registry with
  | none => exact fun firm => absurd rfl firm
  | some made =>
    exact fun _ => .of_identities rfl (same start.registry made.1 made.2 changed)

private theorem announces_register {identity : Identity} (symbol : Symbol)
    (fresh : before.registry.find? identity = none)
    (firm : (runFrom before (register identity symbol)).1 ≠ .error .dangling) :
    Announces before (runFrom before (register identity symbol)).2 := by
  have ran : runFrom before (register identity symbol) =
      runFrom { before with log := before.log.push (.newSymbol symbol.kind identity) }
        (tryRegistry (·.add? identity symbol)) := rfl
  rw [ran, runFrom_tryRegistry] at firm ⊢
  simp only at firm ⊢
  cases added : before.registry.add? identity symbol with
  | none =>
    rw [added] at firm
    exact absurd rfl firm
  | some made =>
    refine ⟨[.newSymbol symbol.kind identity], by simp, ?_⟩
    exact before.registry.identities_add? fresh added

private theorem announcing_composes : Composes fun _ step => Announcing step where
  pure _ start _ := .refl start
  throw _ start _ := .refl start
  bind := announcing_bind
  note event silent start _ := by
    have ran : runFrom start (note event) =
        (.ok (), { start with log := start.log.push event }) := rfl
    rw [ran]
    exact ⟨[event], by simp, by simp [silent]⟩
  isPending _ start _ := .refl start
  whilePending _ announcing start := by
    rw [runFrom_whilePending]
    exact announcing { start with pending := _ :: start.pending }
  read _ _ start _ := .refl start
  change _ discreet start _ := .of_identities rfl (discreet.identities start.registry)
  link edge := announcing_tryRegistry fun registry later _ linked => by
    obtain ⟨_, added, ⟨⟩⟩ := Option.map_eq_some_iff.1 linked
    exact Registry.identities_addReference? added
  fill index _ start _ := .of_identities rfl (start.registry.identities_update index _)
  make identity symbol known fresh _ onKnown onFresh := by
    -- what was looked up in vain is still absent when the symbol is made
    intro start
    rw [runFrom_read]
    cases absent : start.registry.find? identity with
    | some index => exact onKnown index start
    | none =>
      simp only
      rw [runFrom_bind]
      have made := announces_register symbol absent
      revert made
      cases runFrom start (register identity symbol) with
      | mk outcome middle =>
        intro made firm
        cases outcome with
        | error stop => exact made (by simpa using firm)
        | ok index => exact (made (by simp)).trans (onFresh index middle firm)

theorem record_announcing (settings : Settings) (cursor : snapshot.Cursor) :
    Announcing (record settings cursor) :=
  announcing_composes.record settings cursor

end Extract

end SymbolAtlas
