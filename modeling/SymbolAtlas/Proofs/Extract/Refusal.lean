import SymbolAtlas.Proofs.Extract.Recursion
import SymbolAtlas.Proofs.Extract.Run
import SymbolAtlas.Proofs.Registry.Coherence

/-! Cursors that get no symbol of their own. One without a part is logged. A named one
in its scope is refused, and so is everything below that one, unless there is a symbol
under the shorter identity that they have for want of the scope. -/

namespace SymbolAtlas

open Snapshot

namespace Extract

variable {snapshot : Snapshot} {start : Extraction} {cursor stray scope : snapshot.Cursor}
  {complete : Nat → snapshot.Cursor → Extract Unit}

theorem runFrom_notes (start : Extraction) (events : List Event) :
    runFrom start (events.forM note) = (.ok (), { start with log := start.log ++ events }) := by
  induction events generalizing start with
  | nil =>
    have same : start.log ++ ([] : List Event) = start.log := by simp
    rw [same]
    rfl
  | cons event events ih =>
    have noted : runFrom start (note event) =
        (.ok (), { start with log := start.log.push event }) := rfl
    rw [List.forM_eq_forM, List.forM_cons, runFrom_bind, noted]
    simp only
    rw [← List.forM_eq_forM, ih]
    simp

def complaints (cursor : snapshot.Cursor) : List Event :=
  namelessIn cursor.lineage ++ [.unresolved cursor.kind cursor.spelling cursor.location]

theorem runFrom_recordWith_unnamed (empty : cursor.part.isEmpty) :
    runFrom start (recordWith complete cursor) = (.ok none, { start with
      registry := start.registry.logUnresolved cursor.spelling cursor.location
      log := start.log ++ complaints cursor }) := by
  rw [recordWith_of_isEmpty complete empty, runFrom_bind, report, runFrom_notes]
  have logged : ∀ state, runFrom state (do logUnresolved cursor; return none) =
      (.ok (none : Option Nat), { state with
        registry := state.registry.logUnresolved cursor.spelling cursor.location
        log := state.log.push (.unresolved cursor.kind cursor.spelling cursor.location) }) :=
    fun _ => rfl
  simp only
  rw [logged]
  congr 2
  exact Array.ext' (by simp [complaints])

private theorem runFrom_recordWith_outer (complete : Nat → snapshot.Cursor → Extract Unit)
    {outer : snapshot.Cursor} (named : cursor.part.isEmpty = false)
    (nested : cursor.outer? = some outer)
    (fresh : start.registry.find? cursor.identity = none) :
    ∃ next : Nat → Extract (Option Nat), runFrom start (recordWith complete cursor) =
      runFrom { start with log := start.log ++ namelessIn cursor.lineage } (do
        match ← recordWith complete outer with
        | some parent => next parent
        | none => throw (.error (.missingParent cursor.spelling cursor.location))) := by
  obtain ⟨kind, sort⟩ := Cursor.exists_symbolKind? named
  refine ⟨fun parent => recordUnder complete cursor kind (some parent), ?_⟩
  rw [recordWith_of_named complete named sort, runFrom_bind, report, runFrom_notes]
  simp only
  rw [runFrom_read]
  simp only [fresh, recordOuter, nested, bind_assoc]
  congr 2
  funext parent
  cases parent <;> rfl

/-- A named cursor strays if it, or a cursor around it, stands in a scope without a
part, with only named cursors in between. -/
inductive Strays : snapshot.Cursor → snapshot.Cursor → snapshot.Cursor → Prop
  | here {cursor scope : snapshot.Cursor} (named : cursor.part.isEmpty = false)
      (nested : cursor.outer? = some scope) (empty : scope.part.isEmpty) :
      Strays cursor cursor scope
  | further {cursor outer stray scope : snapshot.Cursor} (named : cursor.part.isEmpty = false)
      (nested : cursor.outer? = some outer) (strays : Strays outer stray scope) :
      Strays cursor stray scope

theorem exists_strays (named : cursor.part.isEmpty = false)
    (around : Relation.TransGen (fun one other => one.outer? = some other) cursor scope)
    (empty : scope.part.isEmpty) : ∃ stray nearest, Strays cursor stray nearest := by
  induction around using Relation.TransGen.head_induction_on with
  | single nested => exact ⟨_, _, .here named nested empty⟩
  | @head inner next nested _ above =>
    cases known : next.part.isEmpty with
    | true => exact ⟨_, _, .here named nested known⟩
    | false =>
      obtain ⟨stray, nearest, strays⟩ := above known
      exact ⟨stray, nearest, .further named nested strays⟩

namespace Strays

theorem named (strays : Strays cursor stray scope) : cursor.part.isEmpty = false := by
  cases strays with
  | here named => exact named
  | further named => exact named

/-- The identity of a stray cursor starts at the stray one: the scope is passed over. -/
theorem identity_stray (strays : Strays cursor stray scope) :
    stray.identity = .ofPart stray.part := by
  induction strays with
  | here named nested empty =>
    rw [Cursor.identity_of_named named, nested]
    simp only
    rw [Cursor.identity_of_isEmpty empty]
    rfl
  | further _ _ _ ih => exact ih

private theorem identity_below {outer : snapshot.Cursor} (named : cursor.part.isEmpty = false)
    (nested : cursor.outer? = some outer) :
    cursor.identity = outer.identity.child cursor.part := by
  rw [Cursor.identity_of_named named, nested]

private theorem isEmpty_identity (strays : Strays cursor stray scope) :
    cursor.identity.isEmpty = false := by
  rw [Cursor.isEmpty_identity, strays.named]

theorem contained {registry : Registry} (rooted : Rooted registry.seats)
    (strays : Strays cursor stray scope) {index : Nat}
    (found : registry.find? cursor.identity = some index) :
    ∃ outermost, registry.find? (.ofPart stray.part) = some outermost ∧
      Relation.ReflTransGen (fun inner outer => registry.parent? inner = some outer)
        index outermost := by
  induction strays generalizing index with
  | here named nested empty =>
    exact ⟨index, (here named nested empty).identity_stray ▸ found, .refl⟩
  | further named nested strays ih =>
    rw [identity_below named nested] at found
    obtain ⟨parent, linked, above⟩ := Registry.find?_of_child rooted strays.isEmpty_identity found
    obtain ⟨outermost, found, up⟩ := ih above
    exact ⟨outermost, found, .head linked up⟩

private theorem find?_eq_none {registry : Registry} (rooted : Rooted registry.seats)
    (strays : Strays cursor stray scope)
    (fresh : registry.find? (.ofPart stray.part) = none) :
    registry.find? cursor.identity = none := by
  cases known : registry.find? cursor.identity with
  | none => rfl
  | some index =>
    obtain ⟨outermost, found, -⟩ := strays.contained rooted known
    rw [fresh] at found
    cases found

/-- Without a symbol under the shorter identity, recording stops at the stray cursor,
and all that it leaves in the registry is an entry for the scope. -/
theorem refused (complete : Nat → snapshot.Cursor → Extract Unit)
    (rooted : Rooted start.registry.seats) (strays : Strays cursor stray scope)
    (fresh : start.registry.find? (.ofPart stray.part) = none) :
    ∃ log, runFrom start (recordWith complete cursor) =
      (.error (.error (.missingParent stray.spelling stray.location)), { start with
        registry := start.registry.logUnresolved scope.spelling scope.location, log }) := by
  -- symbols of outer cursors are asked for first, up to the one in the scope
  induction strays generalizing start with
  | @here cursor scope named nested empty =>
    have unknown := find?_eq_none rooted (.here named nested empty) fresh
    obtain ⟨next, outermost⟩ := runFrom_recordWith_outer complete named nested unknown
    rw [outermost, runFrom_bind, runFrom_recordWith_unnamed empty]
    exact ⟨_, rfl⟩
  | @further cursor outer stray scope named nested strays ih =>
    have unknown := find?_eq_none rooted (.further named nested strays) fresh
    obtain ⟨next, outermost⟩ := runFrom_recordWith_outer complete named nested unknown
    obtain ⟨log, ran⟩ := @ih { start with log := start.log ++ namelessIn cursor.lineage }
      rooted fresh
    rw [outermost, runFrom_bind, ran]
    exact ⟨log, rfl⟩

end Strays

end Extract

end SymbolAtlas
