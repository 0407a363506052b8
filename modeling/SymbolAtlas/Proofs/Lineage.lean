import Mathlib.Data.Fintype.Option
import Mathlib.Logic.Relation
import SymbolAtlas.Proofs.Snapshot.Handles
import SymbolAtlas.Snapshot.Naming

/-! Lineages of cursors and levels of types are whole: the room they are given
never cuts them short. Identities follow the lineage, one scope at a time. -/

namespace SymbolAtlas

section Trail

variable {α : Type} {next : α → Option α}

def trail (next : α → Option α) : Nat → α → List α
  | 0, _ => []
  | room + 1, node =>
    node ::
      match next node with
      | some later => trail next room later
      | none => []

private theorem trail_eq_of_length_le (room : Nat) (node : α)
    (short : (trail next (room + 1) node).length ≤ room) :
    trail next (room + 1) node = trail next room node := by
  induction room generalizing node with
  | zero => simp [trail] at short
  | succ room ih =>
    rw [trail] at short ⊢
    rw [trail]
    split at short
    · rename_i later found
      rw [ih later (by simpa using short)]
    · rfl

private theorem eq_or_transGen_of_mem_trail {room : Nat} {node member : α}
    (visited : member ∈ trail next room node) :
    member = node ∨
      Relation.TransGen (fun later earlier => next earlier = some later) member node := by
  induction room generalizing node with
  | zero => cases visited
  | succ room ih =>
    rw [trail] at visited
    rcases List.mem_cons.1 visited with rfl | visited
    · exact .inl rfl
    · split at visited
      · rename_i later found
        rcases ih visited with rfl | above
        · exact .inr (.single found)
        · exact .inr (above.tail found)
      · cases visited

private theorem trail_nodup (ends : WellFounded fun later earlier => next earlier = some later)
    (room : Nat) (node : α) : (trail next room node).Nodup := by
  induction room generalizing node with
  | zero => exact List.nodup_nil
  | succ room ih =>
    rw [trail]
    split
    · rename_i later found
      refine List.nodup_cons.2 ⟨fun visited => ?_, ih later⟩
      have back : Relation.TransGen (fun later earlier => next earlier = some later) node node := by
        rcases eq_or_transGen_of_mem_trail visited with same | above
        · exact .single (same ▸ found)
        · exact above.tail found
      exact ends.transGen.asymmetric _ _ back back
    · exact List.nodup_singleton node

end Trail

namespace Snapshot

variable {snapshot : Snapshot}

namespace Cursor

private theorem upward_eq_trail (room : Nat) (cursor : snapshot.Cursor) :
    cursor.upward room = trail parent? room cursor := by
  induction room generalizing cursor with
  | zero => rfl
  | succ room ih =>
    rw [upward, trail]
    cases cursor.parent? with
    | none => rfl
    | some parent => simp only [ih parent]

private theorem length_upward_le (room : Nat) (cursor : snapshot.Cursor) :
    (cursor.upward room).length ≤ snapshot.raw.cursors.size := by
  have distinct : ((cursor.upward room).map Cursor.index).Nodup := by
    rw [upward_eq_trail]
    refine (trail_nodup parent_wellFounded room cursor).map ?_
    rintro ⟨first⟩ ⟨second⟩ rfl
    rfl
  simpa using distinct.length_le_card

theorem length_lineage_le (cursor : snapshot.Cursor) :
    cursor.lineage.length ≤ snapshot.raw.cursors.size :=
  length_upward_le _ cursor

theorem lineage_eq (cursor : snapshot.Cursor) :
    cursor.lineage = cursor ::
      match cursor.parent? with
      | some parent => parent.lineage
      | none => [] := by
  have whole : cursor.lineage = cursor.upward (snapshot.raw.cursors.size + 1) := by
    rw [lineage, upward_eq_trail, upward_eq_trail]
    have short := length_upward_le (snapshot.raw.cursors.size + 1) cursor
    rw [upward_eq_trail] at short
    exact (trail_eq_of_length_le _ cursor short).symm
  rw [whole, upward]
  rfl

/-- The ancestor whose identity a cursor's own is put under. -/
def outer? (cursor : snapshot.Cursor) : Option snapshot.Cursor :=
  if cursor.isTopLevel then none else cursor.parent?

theorem outer?_eq_some {cursor outer : snapshot.Cursor} :
    cursor.outer? = some outer ↔ cursor.parent? = some outer ∧ outer.isRoot = false := by
  unfold outer? isTopLevel
  cases found : cursor.parent? with
  | none => simp
  | some parent =>
    cases root : parent.isRoot with
    | false => simpa [root] using fun same : parent = outer => same ▸ root
    | true => simpa [root] using fun same : parent = outer => same ▸ root

theorem isTopLevel_eq (cursor : snapshot.Cursor) : cursor.isTopLevel = cursor.outer?.isNone := by
  unfold outer? isTopLevel
  cases cursor.parent? with
  | none => rfl
  | some parent => by_cases root : parent.isRoot <;> simp [root]

theorem lineage_of_outer? {cursor outer : snapshot.Cursor} (nested : cursor.outer? = some outer) :
    cursor.lineage = cursor :: outer.lineage := by
  rw [lineage_eq, (outer?_eq_some.1 nested).1]

theorem outer_wellFounded :
    WellFounded fun outer cursor : snapshot.Cursor => cursor.outer? = some outer :=
  Subrelation.wf (fun nested => (outer?_eq_some.1 nested).1) parent_wellFounded

theorem identity_of_isEmpty {cursor : snapshot.Cursor} (unnamed : cursor.part.isEmpty) :
    cursor.identity = .empty := by
  rw [identity, lineage_eq]
  cases cursor.parent? with
  | none => simp [identityIn, unnamed]
  | some parent => simp [identityIn, unnamed]

theorem identity_of_named {cursor : snapshot.Cursor} (named : cursor.part.isEmpty = false) :
    cursor.identity =
      match cursor.outer? with
      | some outer => outer.identity.child cursor.part
      | none => .ofPart cursor.part := by
  rw [identity, lineage_eq, outer?, isTopLevel]
  cases cursor.parent? with
  | none => simp [identityIn, named]
  | some parent =>
    obtain ⟨rest, above⟩ : ∃ rest, parent.lineage = parent :: rest := ⟨_, parent.lineage_eq⟩
    simp only [above]
    rw [identityIn, named, if_neg Bool.false_ne_true, ← above, ← identity]
    by_cases root : parent.isRoot <;> simp [root]

theorem isEmpty_identity (cursor : snapshot.Cursor) :
    cursor.identity.isEmpty = cursor.part.isEmpty := by
  cases named : cursor.part.isEmpty with
  | true => rw [identity_of_isEmpty named]; rfl
  | false =>
    rw [identity_of_named named]
    split <;> simp [Identity.isEmpty, Identity.child, Identity.ofPart]

theorem exists_symbolKind? {cursor : snapshot.Cursor} (named : cursor.part.isEmpty = false) :
    ∃ kind, cursor.symbolKind? = some kind := by
  rw [← Option.isSome_iff_exists]
  cases own : cursor.data.kind <;> simp_all [part, naming?, symbolKind?, kind, Part.isEmpty]

end Cursor

namespace TypeRef

def lower? (type : snapshot.TypeRef) : Option snapshot.TypeRef :=
  if type.next.index.isSome then some type.next else none

private theorem lower?_eq_some {type lower : snapshot.TypeRef} (found : type.lower? = some lower) :
    type.next = lower ∧ lower.index.isSome := by
  unfold lower? at found
  split at found
  · rename_i valid
    cases found
    exact ⟨rfl, valid⟩
  · cases found

private theorem follows_next {type : snapshot.TypeRef}
    {position lower : Fin snapshot.raw.types.size} (own : type.index = some position)
    (below : type.next.index = some lower) :
    snapshot.raw.Follows .type position lower := by
  refine follows_component own ?_
  unfold next at below
  split at below
  · exact .inl below
  all_goals first | exact .inr below | cases below

private theorem next_of_index_eq_none {type : snapshot.TypeRef} (invalid : type.index = none) :
    type.next = ⟨none⟩ := by
  simp [next, kind, data?, invalid]

private theorem accessible_of_follows {position : Nat}
    (settled : Acc (fun later earlier => snapshot.raw.Follows .type earlier later) position)
    (type : snapshot.TypeRef) (own : type.index.map Fin.val = some position) :
    Acc (fun lower type => type.lower? = some lower) type := by
  induction settled generalizing type with
  | intro position _ ih =>
    obtain ⟨own, known, rfl⟩ := Option.map_eq_some_iff.1 own
    refine .intro type fun lower found => ?_
    obtain ⟨rfl, valid⟩ := lower?_eq_some found
    obtain ⟨below, reached⟩ := Option.isSome_iff_exists.1 valid
    exact ih below.val (follows_next known reached) _ (by rw [reached]; rfl)

private theorem lower_wellFounded :
    WellFounded fun lower type : snapshot.TypeRef => type.lower? = some lower := by
  refine ⟨fun type => ?_⟩
  cases own : type.index with
  | some position =>
    exact accessible_of_follows (snapshot.wellFormed.accessible position.isLt) type
      (by rw [own]; rfl)
  | none =>
    refine .intro type fun lower found => ?_
    obtain ⟨rfl, valid⟩ := lower?_eq_some found
    rw [next_of_index_eq_none own] at valid
    cases valid

/-- What holds of the invalid type, and of a type if it holds of the level below,
holds of every type. -/
@[elab_as_elim]
theorem next_induction {motive : snapshot.TypeRef → Prop}
    (invalid : ∀ type, type.index = none → motive type)
    (valid : ∀ type, motive type.next → motive type) (type : snapshot.TypeRef) : motive type := by
  induction type using lower_wellFounded.induction with
  | _ type below =>
    cases next : type.next.index with
    | none => exact valid type (invalid type.next next)
    | some position => exact valid type (below type.next (by simp [lower?, next]))

theorem kind_of_index_eq_none {type : snapshot.TypeRef} (invalid : type.index = none) :
    type.kind = .invalid := by
  simp [kind, data?, invalid]

private theorem downward_eq_trail (room : Nat) (type : snapshot.TypeRef) :
    type.downward room = if type.index.isNone then [] else trail lower? room type := by
  induction room generalizing type with
  | zero => simp [downward, trail]
  | succ room ih =>
    rw [downward, trail, ih]
    cases type.index with
    | none => rfl
    | some position =>
      cases below : type.next.index <;> simp [lower?, below]

private theorem length_downward_le (room : Nat) (type : snapshot.TypeRef) :
    (type.downward room).length ≤ snapshot.raw.types.size := by
  rw [downward_eq_trail]
  split
  · exact Nat.zero_le _
  · rename_i valid
    have valid_of_mem : ∀ level ∈ trail lower? room type, level.index ≠ none := by
      intro level visited
      rcases eq_or_transGen_of_mem_trail visited with rfl | above
      · simpa using valid
      · obtain ⟨_, found, -⟩ := Relation.TransGen.head'_iff.1 above
        exact Option.isSome_iff_ne_none.1 (lower?_eq_some found).2
    have distinct : (none :: (trail lower? room type).map TypeRef.index).Nodup := by
      refine List.nodup_cons.2 ⟨?_, (trail_nodup lower_wellFounded room type).map ?_⟩
      · simpa using fun level visited => valid_of_mem level visited
      · rintro ⟨first⟩ ⟨second⟩ rfl
        rfl
    simpa using distinct.length_le_card

theorem length_levels_le (type : snapshot.TypeRef) :
    type.levels.length ≤ snapshot.raw.types.size :=
  length_downward_le _ type

theorem levels_eq (type : snapshot.TypeRef) :
    type.levels = if type.index.isNone then [] else type :: type.next.levels := by
  have whole : type.levels = type.downward (snapshot.raw.types.size + 1) := by
    have short := length_downward_le (snapshot.raw.types.size + 1) type
    rw [levels]
    rw [downward_eq_trail] at short ⊢
    rw [downward_eq_trail]
    split at short
    · rename_i invalid
      simp [invalid]
    · rename_i valid
      simp [valid, trail_eq_of_length_le _ type short]
  rw [whole, downward]
  rfl

end TypeRef

end Snapshot

end SymbolAtlas
