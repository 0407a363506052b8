import SymbolAtlas.Proofs.Registry.Coherence
import SymbolAtlas.Proofs.Session

/-! Identities and indices stay in step throughout every session. -/

namespace SymbolAtlas

open Snapshot Extract

private theorem Registry.Encloses.rooted {snapshot : Snapshot} {registry : Registry}
    {cursor : snapshot.Cursor} {parent : Option Nat} (enclosed : registry.Encloses cursor parent)
    (named : cursor.part.isEmpty = false) (fresh : registry.find? cursor.identity = none)
    (rooted : Rooted registry.seats) :
    Rooted (registry.seats.push ⟨cursor.identity, cursor.part, parent⟩) := by
  have own := Cursor.identity_of_named named
  refine rooted.push (identity_ne_of_find?_eq_none fresh) named ?_ ?_
  · rintro rfl
    cases enclosed with
    | top outermost => rwa [outermost] at own
  · rintro index rfl
    cases enclosed with
    | scope nested recorded =>
      cases recorded with
      | known _ found =>
        obtain ⟨seat, stored, same⟩ := exists_seat_of_find? found
        rw [nested] at own
        exact ⟨seat, stored, by rw [same]; exact own⟩

theorem Extract.Step.rooted {snapshot : Snapshot} {spared : List Nat} {before after : Registry}
    (step : Step snapshot spared before after) (rooted : Rooted before.seats) :
    Rooted after.seats := by
  cases step with
  | logged => exact rooted
  | sighted cursor index =>
    rw [Registry.seats_sight]
    exact rooted
  | registered cursor kind parent named fresh sort enclosed =>
    rw [Registry.seats_enter]
    exact enclosed.rooted named fresh rooted
  | completed cursor index symbol detail =>
    rw [Registry.seats_settle]
    exact rooted

namespace Session

theorem rooted_run (operations : List Operation) : Rooted (run operations).registry.seats := by
  refine run_keeps (fun registry => Rooted registry.seats) ?_ ?_ ?_ operations
  · simpa [Registry.seats] using Rooted.empty
  · exact fun snapshot before after step rooted => step.rooted rooted
  · intro registry mark rooted
    rw [Registry.seats_rollback]
    exact rooted.take mark.symbols

/-- In every registry that units, single recordings and rollbacks lead to, the
registered identities and the indices correspond one to one, every identity is
made of parts with a key, and it is rebuilt from the stored parents of its symbol. -/
theorem coherent_run (operations : List Operation) : (run operations).registry.Coherent :=
  Registry.coherent_of_rooted (rooted_run operations)

end Session

end SymbolAtlas
