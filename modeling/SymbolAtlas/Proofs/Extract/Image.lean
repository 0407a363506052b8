import SymbolAtlas.Proofs.Extract.Recursion
import SymbolAtlas.Proofs.Extract.Run

/-! Resolved types as images of the types of a unit. The leaf that a type comes down to
decides whether it has an image, and a registry leaves no choice between two. -/

namespace SymbolAtlas

open Snapshot

variable {snapshot : Snapshot}

namespace Snapshot.TypeRef

/-- Going down from a type, level by level, comes to a leaf. -/
inductive EndsAt : snapshot.TypeRef → snapshot.TypeRef → Prop
  | here {type : snapshot.TypeRef} (bare : type.kind.wrapper? = none) : EndsAt type type
  | down {type leaf : snapshot.TypeRef} {wrapper : Wrapper}
      (wraps : type.kind.wrapper? = some wrapper) (onward : EndsAt type.next leaf) :
      EndsAt type leaf

theorem exists_endsAt (type : snapshot.TypeRef) : ∃ leaf, type.EndsAt leaf := by
  induction type using next_induction with
  | invalid type invalid => exact ⟨type, .here (by rw [kind_of_index_eq_none invalid]; rfl)⟩
  | valid type below =>
    cases wraps : type.kind.wrapper? with
    | none => exact ⟨type, .here wraps⟩
    | some wrapper =>
      obtain ⟨leaf, onward⟩ := below
      exact ⟨leaf, .down wraps onward⟩

end Snapshot.TypeRef

namespace Registry

variable {registry : Registry}

private theorem Answers.unique {cursor : snapshot.Cursor} {one other : Option Nat}
    (first : registry.Answers cursor one) (second : registry.Answers cursor other) :
    one = other := by
  cases first with
  | unnamed empty =>
    cases second with
    | unnamed => rfl
    | known named =>
      rw [empty] at named
      cases named
  | known named found =>
    cases second with
    | unnamed empty =>
      rw [empty] at named
      cases named
    | known _ found' => rw [← found, found']

private theorem Declares.unique {type : snapshot.TypeRef} {one other : Option Nat}
    (first : registry.Declares type one) (second : registry.Declares type other) :
    one = other := by
  cases first with
  | missing undeclared =>
    cases second with
    | missing => rfl
    | present declared =>
      rw [undeclared] at declared
      cases declared
  | present declared recorded =>
    cases second with
    | missing undeclared =>
      rw [undeclared] at declared
      cases declared
    | present declared' recorded' =>
      rw [declared] at declared'
      cases declared'
      exact recorded.unique recorded'

private theorem EndsIn.kind {type : snapshot.TypeRef} {base : Leaf}
    (ends : registry.EndsIn type base) : type.kind ≠ .invalid ∧ type.kind.wrapper? = none := by
  cases ends with
  | unexposed sort | record sort | enumeration sort | typedef sort | fundamental sort =>
    rw [sort]
    exact ⟨nofun, rfl⟩

private theorem EndsIn.unique {type : snapshot.TypeRef} {one other : Leaf}
    (first : registry.EndsIn type one) (second : registry.EndsIn type other) : one = other := by
  cases first with
  | unexposed sort | fundamental sort =>
    cases second with
    | unexposed sort' | record sort' | enumeration sort' | typedef sort' | fundamental sort' =>
      cases sort.symm.trans sort'
      try rfl
  | record sort declared | enumeration sort declared | typedef sort declared =>
    cases second with
    | unexposed sort' | fundamental sort' => cases sort.symm.trans sort'
    | record sort' declared' | enumeration sort' declared' | typedef sort' declared' =>
      cases sort.symm.trans sort'
      try rw [declared.unique declared']

/-- A type has one image at most. -/
theorem Depicts.unique {type : snapshot.TypeRef} {one other : Ty}
    (first : registry.Depicts type one) (second : registry.Depicts type other) : one = other := by
  induction first generalizing other with
  | absent sort =>
    cases second with
    | absent => rfl
    | leaf ends => exact absurd sort ends.kind.1
    | level wraps =>
      rw [sort] at wraps
      cases wraps
  | leaf ends =>
    cases second with
    | absent sort => exact absurd sort ends.kind.1
    | leaf ends' => rw [ends.unique ends']
    | level wraps =>
      rw [ends.kind.2] at wraps
      cases wraps
  | level wraps _ ih =>
    cases second with
    | absent sort =>
      rw [sort] at wraps
      cases wraps
    | leaf ends =>
      rw [ends.kind.2] at wraps
      cases wraps
    | level wraps' below =>
      rw [wraps] at wraps'
      cases wraps'
      rw [ih below]

theorem Depicts.absent_iff {type : snapshot.TypeRef} {resolved : Ty}
    (depicted : registry.Depicts type resolved) : resolved = .absent ↔ type.kind = .invalid := by
  cases depicted with
  | absent sort => exact iff_of_true rfl sort
  | leaf ends => exact iff_of_false nofun ends.kind.1
  | level wraps =>
    refine iff_of_false nofun fun sort => ?_
    rw [sort] at wraps
    cases wraps

end Registry

namespace Extract

variable {start : Extraction} {type leaf : snapshot.TypeRef}

private theorem runFrom_level {quals : Qualifiers} {wrapper : Wrapper} {step : Extract Ty}
    {stop : Stop} (stopped : runFrom start step = (.error stop, start)) :
    runFrom start (do return Ty.level quals wrapper (← step)) = (.error stop, start) := by
  rw [runFrom_bind, stopped]

/-- A type that comes down to a leaf of an unknown kind is refused, and nothing is done. -/
theorem resolve_unmapped (settings : Settings) (ends : type.EndsAt leaf) {code : Int32}
    (unknown : leaf.kind = .unknown code) :
    runFrom start (resolve settings type) = (.error (.error (.unmappedTypeKind code)), start) := by
  unfold resolve
  induction ends with
  | here =>
    rw [resolveWith_eq, unknown]
    rfl
  | @down type _ wrapper wraps _ ih =>
    have stopped := ih unknown
    rw [resolveWith_eq]
    cases sort : type.kind with
    | elaborated | pointer | lvalueReference | rvalueReference => exact runFrom_level stopped
    | invalid | unexposed | record | enumeration | typedef | fundamental | unknown =>
      rw [sort] at wraps
      cases wraps

end Extract

end SymbolAtlas
