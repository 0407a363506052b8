import SymbolAtlas.Proofs.Snapshot.WellFormed
import SymbolAtlas.Snapshot.Basic

/-! Where the handles of a snapshot lead. No way up through parents or down through the
components of types is endless. -/

namespace SymbolAtlas.Snapshot

variable {snapshot : Snapshot}

theorem wellFormed (snapshot : Snapshot) : snapshot.raw.WellFormed :=
  RawSnapshot.check_eq_ok_iff.1 snapshot.checked

private theorem cursorOfLink_eq_some {link : Option UInt64} {cursor : snapshot.Cursor}
    (found : snapshot.cursorOfLink link = some cursor) :
    ∃ index, link = some index ∧ index.toNat = cursor.index := by
  unfold cursorOfLink at found
  obtain ⟨index, linked, found⟩ := Option.bind_eq_some_iff.1 found
  refine ⟨index, linked, ?_⟩
  unfold cursor? at found
  split at found <;> cases found
  rfl

private theorem typeOfLink_eq_some {link : Option UInt64} {position : Fin snapshot.raw.types.size}
    (found : (snapshot.typeOfLink link).index = some position) :
    ∃ index, link = some index ∧ index.toNat = position := by
  unfold typeOfLink at found
  split at found
  · rename_i index
    refine ⟨index, rfl, ?_⟩
    unfold type at found
    split at found <;> cases found
    rfl
  · cases found

theorem Cursor.getElem?_eq_data (cursor : snapshot.Cursor) :
    snapshot.raw.cursors[cursor.index.val]? = some cursor.data := by
  simp [Cursor.data]

private theorem Cursor.follows_parent {cursor parent : snapshot.Cursor}
    (enclosed : cursor.parent? = some parent) :
    snapshot.raw.Follows .cursor cursor.index parent.index := by
  obtain ⟨link, linked, same⟩ := cursorOfLink_eq_some enclosed
  exact same ▸ .parent cursor.getElem?_eq_data linked

theorem Cursor.parent_wellFounded :
    WellFounded fun parent cursor : snapshot.Cursor => cursor.parent? = some parent := by
  have links : WellFounded fun parent cursor : snapshot.Cursor =>
      snapshot.raw.Follows .cursor cursor.index parent.index :=
    ⟨fun cursor => InvImage.accessible (fun cursor : snapshot.Cursor => cursor.index.val)
      (snapshot.wellFormed.accessible cursor.index.isLt)⟩
  exact Subrelation.wf Cursor.follows_parent links

private theorem TypeRef.follow_eq_some {type : snapshot.TypeRef} {link : RawType → Option UInt64}
    {position lower : Fin snapshot.raw.types.size} (own : type.index = some position)
    (followed : (type.follow link).index = some lower) :
    ∃ written index, snapshot.raw.types[position.val]? = some written ∧
      link written = some index ∧ index.toNat = lower := by
  obtain ⟨index, linked, same⟩ := typeOfLink_eq_some followed
  rw [data?, own, Option.map_some, Option.bind_some] at linked
  exact ⟨_, index, Array.getElem?_eq_getElem position.isLt, linked, same⟩

theorem TypeRef.follows_component {type : snapshot.TypeRef}
    {position lower : Fin snapshot.raw.types.size} (own : type.index = some position)
    (below : type.named.index = some lower ∨ type.pointee.index = some lower) :
    snapshot.raw.Follows .type position lower := by
  rcases below with named | pointee
  · obtain ⟨written, index, stored, linked, same⟩ := follow_eq_some own named
    exact same ▸ .named stored linked
  · obtain ⟨written, index, stored, linked, same⟩ := follow_eq_some own pointee
    exact same ▸ .pointee stored linked

end SymbolAtlas.Snapshot
