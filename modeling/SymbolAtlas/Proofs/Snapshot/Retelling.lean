import SymbolAtlas.Proofs.Snapshot.Built

/-! What a snapshot from a builder tells of the calls: the parents, the children and the
arguments that were declared, the kinds that were asked for, and a place of its own for
every declaration that was not moved. -/

namespace SymbolAtlas

open SnapshotBuilder

/-- Two locations in one file that count as the same are on one line. -/
theorem Location.line_eq_of_same {one other : Location} (same : one.same other) :
    one.line = other.line := by
  rw [Location.same, beq_iff_eq, Location.compare, Ordering.then_eq_eq, compareLex,
    Ordering.then_eq_eq] at same
  exact Std.LawfulEqCmp.eq_of_compare same.2.1

namespace Snapshot

/-- A cursor was declared, and nothing has moved it. -/
def Unmoved (exchanges : List Exchange) (index : Nat) : Prop :=
  (∃ exchange ∈ exchanges, exchange.answer = .cursor index) ∧
    ∀ exchange ∈ exchanges, exchange.call.relocated? ≠ some index

/-- A snapshot has one cursor for the root and one for each declaration, and one type for
each call that asks for one, in the order of the calls. Its handles give what the calls
have declared, each cursor in one list of children, and each argument in one of arguments. -/
structure Retells (snapshot : Snapshot) (exchanges : List Exchange) : Prop where
  cursors : SnapshotBuilder.root :: exchanges.filterMap Exchange.cursor? =
    List.range snapshot.raw.cursors.size
  types : exchanges.filterMap Exchange.type? = List.range snapshot.raw.types.size
  parent : ∀ exchange ∈ exchanges, ∀ parent, exchange.call.parent? = some parent →
    ∃ cursor : snapshot.Cursor, exchange.answer = .cursor cursor.position ∧
      cursor.parent?.map Cursor.position = some parent
  children : ∀ cursor : snapshot.Cursor, cursor.children.map Cursor.position =
    exchanges.filterMap (Exchange.placed? Call.parent? cursor.position)
  arguments : ∀ cursor : snapshot.Cursor, cursor.arguments.map Cursor.position =
    exchanges.filterMap (Exchange.placed? Call.function? cursor.position)
  childOnce : ∀ exchange ∈ exchanges, ∀ index parent, exchange.answer = .cursor index →
    exchange.call.parent? = some parent → ∀ cursor : snapshot.Cursor,
      (cursor.children.map Cursor.position).count index =
        if cursor.position = parent then 1 else 0
  argumentOnce : ∀ exchange ∈ exchanges, ∀ index function, exchange.answer = .cursor index →
    exchange.call.function? = some function → ∀ cursor : snapshot.Cursor,
      (cursor.arguments.map Cursor.position).count index =
        if cursor.position = function then 1 else 0
  apart : ∀ one other : snapshot.Cursor, one ≠ other → Unmoved exchanges one.position →
    Unmoved exchanges other.position → one.location.same other.location = false
  kinds : ∀ exchange ∈ exchanges, ∀ index, exchange.answer = .type index →
    exchange.call.kind? (fun lower => some (snapshot.type lower).kind) =
      some (snapshot.type index).kind

variable {snapshot : Snapshot}

private theorem kindAt?_eq {index : Nat} (inside : index < snapshot.raw.types.size) :
    snapshot.raw.kindAt? index = some (snapshot.type index).kind := by
  have data := (snapshot.type index).data?_eq
  rw [position?_type inside, Option.bind_some, Array.getElem?_eq_getElem inside] at data
  rw [RawSnapshot.kindAt?, Array.getElem?_eq_getElem inside, Option.bind_some]
  exact TypeRef.resolve?_eq_kind data

end Snapshot

namespace SnapshotBuilder

/-- A new cursor occurs once among those that were put in the same place, and in no other
place. -/
theorem count_placed {exchanges : List Exchange} {exchange : Exchange} {index above : Nat}
    {place : Call → Option Nat} (distinct : (exchanges.filterMap Exchange.cursor?).Nodup)
    (member : exchange ∈ exchanges) (answered : exchange.cursor? = some index)
    (placed : place exchange.call = some above) (position : Nat) :
    (exchanges.filterMap (Exchange.placed? place position)).count index =
      if position = above then 1 else 0 := by
  have absent : ∀ others : List Exchange, index ∉ others.filterMap Exchange.cursor? →
      (others.filterMap (Exchange.placed? place position)).count index = 0 := by
    intro others fresh
    rw [List.count_eq_zero]
    intro listed
    obtain ⟨other, member, found⟩ := List.mem_filterMap.1 listed
    unfold Exchange.placed? at found
    split at found
    · exact fresh (List.mem_filterMap.2 ⟨other, member, found⟩)
    · cases found
  obtain ⟨before, after, rfl⟩ := List.append_of_mem member
  rw [List.filterMap_append, List.filterMap_cons_some answered, List.nodup_append] at distinct
  obtain ⟨-, later, apart⟩ := distinct
  have first := absent before fun listed => apart index listed index List.mem_cons_self rfl
  have last := absent after (List.nodup_cons.1 later).1
  have own : exchange.placed? place position = if position = above then some index else none := by
    rw [Exchange.placed?, placed, answered]
    simp [eq_comm]
  rw [List.filterMap_append, List.count_append, first, Nat.zero_add]
  by_cases here : position = above
  · rw [if_pos here] at own ⊢
    rw [List.filterMap_cons_some own, List.count_cons_self, last]
  · rw [if_neg here] at own ⊢
    rw [List.filterMap_cons_none own, last]

namespace Draft.Sound

variable {draft : Draft} {snapshot : Snapshot}

private theorem exists_build (sound : draft.Sound) :
    ∃ snapshot, draft.builder.build = .ok snapshot ∧ snapshot.raw = draft.builder.raw := by
  have accepted := (Snapshot.exists_ofRaw_iff draft.builder.raw).2
    (RawSnapshot.check_eq_ok_iff.2 sound.wellFormed)
  obtain ⟨snapshot, built⟩ := accepted
  exact ⟨snapshot, built, Snapshot.raw_of_ofRaw built⟩

private theorem accounts_data (sound : draft.Sound) (same : snapshot.raw = draft.builder.raw)
    (cursor : snapshot.Cursor) : draft.Accounts cursor.position cursor.data := by
  refine sound.accounts cursor.position cursor.data ?_
  rw [← same]
  exact cursor.faithful.data

/-- A declaration that was not moved is on the line of its number. -/
theorem location_eq (sound : draft.Sound) (same : snapshot.raw = draft.builder.raw)
    {cursor : snapshot.Cursor} (unmoved : Snapshot.Unmoved draft.exchanges cursor.position) :
    cursor.location = lineLocation draft.builder.raw.mainFile cursor.position := by
  have accounts := sound.accounts_data same cursor
  obtain ⟨⟨exchange, member, answered⟩, kept⟩ := unmoved
  obtain ⟨parent, -, older, -⟩ := accounts.parent exchange member answered
  exact accounts.location (Nat.ne_of_gt (Nat.zero_lt_of_lt older)) kept

private theorem apart (sound : draft.Sound) (same : snapshot.raw = draft.builder.raw)
    (fits : draft.builder.raw.cursors.size ≤ UInt32.size) {one other : snapshot.Cursor}
    (differ : one ≠ other) (unmoved : Snapshot.Unmoved draft.exchanges one.position)
    (unmoved' : Snapshot.Unmoved draft.exchanges other.position) :
    one.location.same other.location = false := by
  have fit : ∀ cursor : snapshot.Cursor, cursor.position < UInt32.size := fun cursor =>
    Nat.lt_of_lt_of_le cursor.index.isLt (by rwa [same])
  rw [Bool.eq_false_iff]
  intro alike
  rw [sound.location_eq same unmoved, sound.location_eq same unmoved'] at alike
  have lines : (UInt32.ofNat one.position).toNat = (UInt32.ofNat other.position).toNat :=
    congrArg UInt32.toNat (Location.line_eq_of_same alike)
  rw [UInt32.toNat_ofNat_of_lt' (fit one), UInt32.toNat_ofNat_of_lt' (fit other)] at lines
  exact differ (congrArg Snapshot.Cursor.mk (Fin.ext lines))

private theorem exists_declared (sound : draft.Sound) (same : snapshot.raw = draft.builder.raw)
    (fits : draft.builder.raw.cursors.size ≤ UInt32.size) {exchange : Exchange} {parent : Nat}
    (member : exchange ∈ draft.exchanges) (above : exchange.call.parent? = some parent) :
    ∃ cursor : snapshot.Cursor, exchange.answer = .cursor cursor.position ∧
      cursor.parent?.map Snapshot.Cursor.position = some parent := by
  have given : exchange.cursor?.isSome := by
    rw [sound.answered exchange member, above]
    rfl
  obtain ⟨index, own⟩ := Option.isSome_iff_exists.1 given
  have inside := sound.lt_of_cursor? member own
  have answered := Exchange.answer_of_cursor? own
  let cursor : snapshot.Cursor := ⟨⟨index, by rwa [same]⟩⟩
  obtain ⟨found, stated, older, stored⟩ :=
    (sound.accounts_data same cursor).parent exchange member answered
  rw [above] at stated
  cases stated
  have fit : parent < UInt64.size := by
    have wide : UInt32.size < UInt64.size := by decide
    have below : parent < index := older
    omega
  refine ⟨cursor, answered, ?_⟩
  rw [cursor.faithful.parent, stored, Option.map_some, UInt64.toNat_ofNat_of_lt' fit]

private theorem kind_loaded (sound : draft.Sound) (same : snapshot.raw = draft.builder.raw)
    {exchange : Exchange} {index : Nat} (member : exchange ∈ draft.exchanges)
    (answered : exchange.answer = .type index) :
    exchange.call.kind? (fun lower => some (snapshot.type lower).kind) =
      some (snapshot.type index).kind := by
  have loaded : ∀ position kind, draft.builder.raw.kindAt? position = some kind →
      some (snapshot.type position).kind = some kind := by
    intro position kind known
    rw [← same] at known
    obtain ⟨type, there, -⟩ := Option.bind_eq_some_iff.1 known
    rw [← known, Snapshot.kindAt?_eq (Array.getElem?_eq_some_iff.1 there).1]
  obtain ⟨kind, known, asked⟩ := sound.kinds exchange member index answered
  rw [loaded index kind known]
  exact Call.kind?_mono loaded asked

private theorem map_toNat_map_ofNat {positions : List Nat}
    (fit : ∀ position ∈ positions, position < UInt64.size) :
    (positions.map UInt64.ofNat).map UInt64.toNat = positions := by
  rw [List.map_map]
  refine (List.map_congr_left fun position member => ?_).trans (List.map_id positions)
  exact UInt64.toNat_ofNat_of_lt' (fit position member)

private theorem placed_fit (sound : draft.Sound)
    (fits : draft.builder.raw.cursors.size ≤ UInt32.size)
    (place : Call → Option Nat) (above : Nat) :
    ((draft.exchanges.filterMap (Exchange.placed? place above)).map UInt64.ofNat).map
      UInt64.toNat = draft.exchanges.filterMap (Exchange.placed? place above) := by
  refine map_toNat_map_ofNat fun position member => ?_
  have inside := sound.placed_lt member
  have wide : UInt32.size < UInt64.size := by decide
  omega

private theorem retells (sound : draft.Sound) (same : snapshot.raw = draft.builder.raw)
    (fits : draft.builder.raw.cursors.size ≤ UInt32.size) :
    snapshot.Retells draft.exchanges := by
  have children : ∀ cursor : snapshot.Cursor, cursor.children.map Snapshot.Cursor.position =
      draft.exchanges.filterMap (Exchange.placed? Call.parent? cursor.position) := by
    intro cursor
    rw [cursor.faithful.children, (sound.accounts_data same cursor).children]
    exact sound.placed_fit fits _ _
  have arguments : ∀ cursor : snapshot.Cursor, cursor.arguments.map Snapshot.Cursor.position =
      draft.exchanges.filterMap (Exchange.placed? Call.function? cursor.position) := by
    intro cursor
    rw [cursor.faithful.arguments, (sound.accounts_data same cursor).arguments]
    exact sound.placed_fit fits _ _
  have distinct : (draft.exchanges.filterMap Exchange.cursor?).Nodup := by
    have all : (List.range draft.builder.raw.cursors.size).Nodup := List.nodup_range
    rw [← sound.cursors] at all
    exact (List.nodup_cons.1 all).2
  exact {
    cursors := by rw [same]; exact sound.cursors
    types := by rw [same]; exact sound.types
    parent := fun exchange member parent above => sound.exists_declared same fits member above
    children
    arguments
    childOnce := fun exchange member index parent answered above cursor => by
      rw [children]
      exact count_placed distinct member (by rw [Exchange.cursor?, answered]) above _
    argumentOnce := fun exchange member index function answered above cursor => by
      rw [arguments]
      exact count_placed distinct member (by rw [Exchange.cursor?, answered]) above _
    apart := fun one other differ => sound.apart same fits differ
    kinds := fun exchange member index => sound.kind_loaded same member }

end Draft.Sound

/-- However a builder is used, if every call names only the root and what earlier calls have
answered, no call fails and the snapshot is accepted. It tells what the calls have declared
and asked for, as long as the offsets of the lines fit. -/
theorem built_retells (mainFile : Path) (calls : List Call)
    (proper : Draft.Proper { builder := start mainFile } calls)
    (few : lineLength * calls.countP (·.parent?.isSome) < UInt32.size) :
    ∃ draft snapshot, Draft.calls? { builder := start mainFile } calls = some draft ∧
      draft.exchanges.map Exchange.call = calls ∧
      draft.builder.build = .ok snapshot ∧ snapshot.Retells draft.exchanges := by
  obtain ⟨draft, called, sound, made⟩ := (Draft.sound_start mainFile).exists_calls? calls proper
  have made : draft.exchanges.map Exchange.call = calls := made
  obtain ⟨snapshot, built, same⟩ := sound.exists_build
  have fits : draft.builder.raw.cursors.size ≤ UInt32.size := by
    have declared : draft.exchanges.countP (·.call.parent?.isSome) =
        calls.countP (·.parent?.isSome) := by
      rw [← made, List.countP_map]
      rfl
    rw [lineLength] at few
    rw [← sound.count, declared]
    omega
  exact ⟨draft, snapshot, called, made, built, sound.retells same fits⟩

/-- A list node, a function with two parameters, one of them of a kind that is not known, and
a declaration of the node in a header. -/
def nodeCalls : List Call :=
  [.declare root .structDecl "Node", .define 1, .recordType 1, .pointerTo 0, .field 1 "next" 1,
    .qualified 1 true false, .codedType 9999, .declare root .functionDecl "visit",
    .argument 3 "node" 2, .argument 3 "depth" 3, .setResultType 3 3,
    .declare root .structDecl "Node", .linkDefinition 6 1, .locate 6 ⟨⟨"node.h"⟩, 1, 1, 0⟩]

theorem built_retells_node :
    Draft.Proper { builder := start ⟨"node.c"⟩ } nodeCalls ∧
    lineLength * nodeCalls.countP (·.parent?.isSome) < UInt32.size ∧
    ∃ draft snapshot, Draft.calls? { builder := start ⟨"node.c"⟩ } nodeCalls = some draft ∧
      draft.builder.build = .ok snapshot ∧
      snapshot.root.children.map Snapshot.Cursor.position = [1, 3, 6] ∧
      (∀ cursor : snapshot.Cursor, cursor.position = 3 →
        cursor.arguments.map Snapshot.Cursor.position = [4, 5]) ∧
      (snapshot.type 2).kind = .pointer ∧ (snapshot.type 3).kind = .unknown 9999 := by
  have proper : Draft.Proper { builder := start ⟨"node.c"⟩ } nodeCalls := by decide +kernel
  have few : lineLength * nodeCalls.countP (·.parent?.isSome) < UInt32.size := by decide
  obtain ⟨draft, snapshot, called, made, built, retells⟩ := built_retells _ _ proper few
  have exchanges : (Draft.calls? { builder := start ⟨"node.c"⟩ } nodeCalls).map Draft.exchanges =
      some (nodeCalls.zip [.cursor 1, .nothing, .type 0, .type 1, .cursor 2, .type 2, .type 3,
        .cursor 3, .cursor 4, .cursor 5, .nothing, .cursor 6, .nothing, .nothing] |>.map
          fun (call, answer) => ⟨call, answer⟩) := by decide +kernel
  rw [called, Option.map_some, Option.some.injEq] at exchanges
  rw [exchanges] at retells
  have pointer := retells.kinds ⟨.pointerTo 0, .type 1⟩ (by decide +kernel) 1 rfl
  have copy := retells.kinds ⟨.qualified 1 true false, .type 2⟩ (by decide +kernel) 2 rfl
  have coded := retells.kinds ⟨.codedType 9999, .type 3⟩ (by decide +kernel) 3 rfl
  have unknown : TypeKind.ofCode 9999 = .unknown 9999 := by decide +kernel
  refine ⟨proper, few, draft, snapshot, called, built, retells.children snapshot.root, ?_, ?_, ?_⟩
  · intro cursor third
    rw [retells.arguments, third]
    rfl
  · exact (Option.some.inj copy).symm.trans (Option.some.inj pointer).symm
  · exact (Option.some.inj coded).symm.trans unknown

end SnapshotBuilder

end SymbolAtlas
