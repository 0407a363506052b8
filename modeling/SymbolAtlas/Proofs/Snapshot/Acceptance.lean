import SymbolAtlas.Proofs.Snapshot.Handles

/-! Reading a snapshot accepts exactly the well-formed ones, tells where one goes round,
and hands out everything that is written in those it accepts. -/

namespace SymbolAtlas

namespace Snapshot

variable {snapshot : Snapshot}

def Cursor.position (cursor : snapshot.Cursor) : Nat :=
  cursor.index.val

def TypeRef.position? (type : snapshot.TypeRef) : Option Nat :=
  type.index.map Fin.val

/-- A cursor gives all links of its data, in their order. One that is a definition
without a link is its own definition. -/
structure Cursor.Faithful (cursor : snapshot.Cursor) : Prop where
  data : snapshot.raw.cursors[cursor.position]? = some cursor.data
  children : cursor.children.map position = cursor.data.children.map UInt64.toNat
  arguments : cursor.arguments.map position = cursor.data.arguments.map UInt64.toNat
  parent : cursor.parent?.map position = cursor.data.semanticParent.map UInt64.toNat
  definition : cursor.definition?.map position =
    (cursor.data.definition.map UInt64.toNat <|>
      if cursor.data.isDefinition then some cursor.position else none)
  type : cursor.type.position? = cursor.data.type.map UInt64.toNat
  resultType : cursor.resultType.position? = cursor.data.resultType.map UInt64.toNat
  underlyingType : cursor.underlyingType.position? = cursor.data.underlyingType.map UInt64.toNat

/-- A type gives all links of its data; the invalid type has no data. -/
structure TypeRef.Faithful (type : snapshot.TypeRef) : Prop where
  data : type.data? = type.position?.bind (snapshot.raw.types[·]?)
  valid : type.data?.isSome = type.position?.isSome
  pointee : type.pointee.position? = (type.data?.bind RawType.pointee).map UInt64.toNat
  named : type.named.position? = (type.data?.bind RawType.named).map UInt64.toNat
  resultType : type.resultType.position? = (type.data?.bind RawType.resultType).map UInt64.toNat
  argTypes : type.argTypes.map position? =
    (type.data?.elim [] RawType.argTypes).map fun link => some link.toNat
  declaration : type.declaration?.map Cursor.position =
    (type.data?.bind RawType.declaration).map UInt64.toNat

section Links

private theorem position_cursor? {index : Nat} (inside : index < snapshot.raw.cursors.size) :
    (snapshot.cursor? index).map Cursor.position = some index := by
  rw [cursor?, dif_pos inside]
  rfl

theorem position?_type {index : Nat} (inside : index < snapshot.raw.types.size) :
    (snapshot.type index).position? = some index := by
  rw [type, dif_pos inside]
  rfl

private theorem position_cursorOfLink {link : Option UInt64}
    (inside : ∀ index ∈ link, index.toNat < snapshot.raw.cursors.size) :
    (snapshot.cursorOfLink link).map Cursor.position = link.map UInt64.toNat := by
  cases link with
  | none => rfl
  | some index => exact position_cursor? (inside index rfl)

private theorem position?_typeOfLink {link : Option UInt64}
    (inside : ∀ index ∈ link, index.toNat < snapshot.raw.types.size) :
    (snapshot.typeOfLink link).position? = link.map UInt64.toNat := by
  cases link with
  | none => rfl
  | some index => exact position?_type (inside index rfl)

private theorem position_cursorsOfLinks {links : List UInt64}
    (inside : ∀ index ∈ links, index.toNat < snapshot.raw.cursors.size) :
    (snapshot.cursorsOfLinks links).map Cursor.position = links.map UInt64.toNat := by
  induction links with
  | nil => rfl
  | cons link links ih =>
    obtain ⟨own, rest⟩ := List.forall_mem_cons.1 inside
    obtain ⟨cursor, found, same⟩ := Option.map_eq_some_iff.1 (position_cursor? own)
    have later : (links.filterMap fun index => snapshot.cursor? index.toNat).map Cursor.position =
        links.map UInt64.toNat := ih rest
    simp only [cursorsOfLinks, List.filterMap_cons, found, List.map_cons, later, same]

end Links

theorem Cursor.faithful (cursor : snapshot.Cursor) : cursor.Faithful := by
  have there := cursor.getElem?_eq_data
  have closed := snapshot.wellFormed.cursors cursor.data (Array.mem_of_getElem? there)
  refine ⟨there, position_cursorsOfLinks closed.children, position_cursorsOfLinks closed.arguments,
    position_cursorOfLink closed.semanticParent, ?_, position?_typeOfLink closed.type,
    position?_typeOfLink closed.resultType, position?_typeOfLink closed.underlyingType⟩
  have linked := closed.definition
  unfold definition?
  cases own : cursor.data.definition with
  | some link =>
    rw [own] at linked
    exact position_cursor? (linked link rfl)
  | none =>
    rw [isDefinition]
    cases cursor.data.isDefinition <;> rfl

theorem TypeRef.data?_eq (type : snapshot.TypeRef) :
    type.data? = type.position?.bind (snapshot.raw.types[·]?) := by
  unfold data? position?
  cases type.index <;> simp

private theorem TypeRef.closed {type : snapshot.TypeRef} {written : RawType}
    (present : type.data? = some written) : written.Closed snapshot.raw := by
  rw [data?_eq] at present
  obtain ⟨position, -, there⟩ := Option.bind_eq_some_iff.1 present
  exact snapshot.wellFormed.types written (Array.mem_of_getElem? there)

theorem TypeRef.resolve?_eq_kind {type : snapshot.TypeRef} {written : RawType}
    (present : type.data? = some written) : written.kind.resolve? = some type.kind := by
  have there := present
  rw [data?_eq] at there
  obtain ⟨position, -, there⟩ := Option.bind_eq_some_iff.1 there
  have known := snapshot.wellFormed.kinds written (Array.mem_of_getElem? there)
  obtain ⟨meant, resolved⟩ := Option.isSome_iff_exists.1 known.isSome_resolve?
  simp only [kind, present, resolved, Option.getD_some]

private theorem TypeRef.position?_follow {type : snapshot.TypeRef} {pick : RawType → Option UInt64}
    (inside : ∀ written, written.Closed snapshot.raw →
      ∀ link ∈ pick written, link.toNat < snapshot.raw.types.size) :
    (type.follow pick).position? = (type.data?.bind pick).map UInt64.toNat := by
  refine position?_typeOfLink fun index member => ?_
  obtain ⟨written, present, linked⟩ := Option.bind_eq_some_iff.1 member
  exact inside written (closed present) index linked

theorem TypeRef.faithful (type : snapshot.TypeRef) : type.Faithful := by
  refine ⟨type.data?_eq, ?_, position?_follow fun _ => RawType.Closed.pointee,
    position?_follow fun _ => RawType.Closed.named,
    position?_follow fun _ => RawType.Closed.resultType, ?_, ?_⟩
  · simp [data?, position?]
  · unfold argTypes
    cases present : type.data? with
    | none => rfl
    | some written =>
      simp only [List.map_map, Option.elim_some]
      refine List.map_congr_left fun link member => ?_
      exact position?_type ((closed present).argTypes link member)
  · refine position_cursorOfLink fun index member => ?_
    obtain ⟨written, present, linked⟩ := Option.bind_eq_some_iff.1 member
    exact (closed present).declaration index linked

theorem exists_ofRaw_iff (raw : RawSnapshot) :
    (∃ snapshot, ofRaw raw = .ok snapshot) ↔ raw.check = .ok () := by
  unfold ofRaw
  split
  · rename_i checked
    simp [checked]
  · rename_i defect failed
    simp [failed]

theorem raw_of_ofRaw {raw : RawSnapshot} (accepted : ofRaw raw = .ok snapshot) :
    snapshot.raw = raw := by
  unfold ofRaw at accepted
  split at accepted
  · cases accepted
    rfl
  · cases accepted

private theorem ofRaw_of_check {raw : RawSnapshot} {defect : SnapshotDefect}
    (failed : raw.check = .error defect) : ofRaw raw = .error (.snapshot defect) := by
  unfold ofRaw
  split
  · rename_i checked
    rw [failed] at checked
    cases checked
  · rename_i found same
    rw [failed] at same
    cases same
    rfl

/-- A snapshot is accepted if and only if it is well-formed. One that only goes round is
refused with an error that names a cursor or a type on a cycle. Every handle of an accepted
one gives exactly the cursors and types that the data lists. -/
theorem accepted_iff_wellFormed (raw : RawSnapshot) :
    ((∃ snapshot, ofRaw raw = .ok snapshot) ↔ raw.WellFormed) ∧
      (raw.Complete → ¬ raw.WellFormed → ∃ sort index,
        ofRaw raw = .error (.snapshot (.cycle sort index)) ∧ raw.OnCycle sort index ∧
          (Error.snapshot (.cycle sort index)).message =
            "Snapshot error: " ++ (sort.name ++ " " ++ toString index ++
              " is part of a reference cycle")) ∧
      ∀ snapshot, ofRaw raw = .ok snapshot → snapshot.raw = raw ∧
        (∀ cursor : snapshot.Cursor, cursor.Faithful) ∧
          ∀ type : snapshot.TypeRef, type.Faithful := by
  have accepts : (∃ snapshot, ofRaw raw = .ok snapshot) ↔ raw.WellFormed := by
    rw [exists_ofRaw_iff, RawSnapshot.check_eq_ok_iff]
  refine ⟨accepts, fun complete malformed => ?_, fun snapshot accepted => ?_⟩
  · cases checked : raw.check with
    | ok => exact absurd (RawSnapshot.check_eq_ok_iff.1 checked) malformed
    | error defect =>
      obtain ⟨sort, index, rfl, cycle⟩ := complete.onCycle_of_check checked
      exact ⟨sort, index, ofRaw_of_check checked, cycle, rfl⟩
  · exact ⟨raw_of_ofRaw accepted, Cursor.faithful, TypeRef.faithful⟩

/-- Four types. The third is reached from the first by two ways and leads back to
the second. -/
def tangled : RawSnapshot where
  mainFile := ⟨"m.c"⟩
  cursors := #[{ kind := .translationUnit, type := some 0 }]
  types := #[{ kind := .name "Pointer", pointee := some 1, named := some 2 },
    { kind := .name "Elaborated", named := some 2 },
    { kind := .code 101, pointee := some 1, named := some 3 }, { kind := .code 999 }]

/-- A declaration that lists a cursor twice, and a definition that has no link. -/
def shared : RawSnapshot where
  mainFile := ⟨"m.c"⟩
  cursors := #[{ kind := .translationUnit, children := [1, 1] },
    { RawCursor.named .structDecl "S" with isDefinition := true, semanticParent := some 0 }]

/-- The tangled types are refused for the second of them. The shared cursor is accepted,
comes twice, and is its own definition. -/
theorem accepted_iff_wellFormed_shared :
    (tangled.Complete ∧ ¬ tangled.WellFormed ∧
      ofRaw tangled = .error (.snapshot (.cycle .type 1)) ∧ tangled.OnCycle .type 1) ∧
    shared.WellFormed ∧ ∃ snapshot, ofRaw shared = .ok snapshot ∧ snapshot.raw = shared ∧
      snapshot.root.children.map Cursor.position = [1, 1] ∧
        ∀ cursor : snapshot.Cursor, cursor.position = 1 →
          cursor.definition?.map Cursor.position = some 1 := by
  have complete : tangled.Complete := RawSnapshot.complete_iff.2 ⟨rfl, rfl, rfl⟩
  have failed : tangled.check = .error (.cycle .type 1) := rfl
  have malformed : ¬ tangled.WellFormed := fun wellFormed =>
    nomatch failed.symm.trans (RawSnapshot.check_eq_ok_iff.2 wellFormed)
  obtain ⟨sort, index, refused, cycle, -⟩ :=
    (accepted_iff_wellFormed tangled).2.1 complete malformed
  have named := (ofRaw_of_check failed).symm.trans refused
  cases named
  have wellFormed : shared.WellFormed := RawSnapshot.check_eq_ok_iff.1 rfl
  obtain ⟨snapshot, accepted⟩ := (accepted_iff_wellFormed shared).1.2 wellFormed
  obtain ⟨same, faithful, -⟩ := (accepted_iff_wellFormed shared).2.2 snapshot accepted
  have data : ∀ cursor : snapshot.Cursor, shared.cursors[cursor.position]? = some cursor.data :=
    fun cursor => same ▸ (faithful cursor).data
  refine ⟨⟨complete, malformed, refused, cycle⟩, wellFormed, snapshot, accepted, same, ?_, ?_⟩
  · have root := Option.some.inj (data snapshot.root)
    rw [(faithful snapshot.root).children, ← root]
    rfl
  · intro cursor second
    have own := data cursor
    rw [second] at own
    rw [(faithful cursor).definition, ← Option.some.inj own, second]
    rfl

end Snapshot

end SymbolAtlas
