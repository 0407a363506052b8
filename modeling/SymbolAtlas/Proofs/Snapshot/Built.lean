import SymbolAtlas.Proofs.Snapshot.Acceptance
import SymbolAtlas.Proofs.Snapshot.Calls

/-! Snapshots that come from a builder. After any calls that name only what earlier calls
have answered, the data is what the calls have said, every link leads back to an older node,
and so the snapshot is accepted. -/

namespace SymbolAtlas

/-- The kind of the type at an index. -/
def RawSnapshot.kindAt? (raw : RawSnapshot) (index : Nat) : Option TypeKind :=
  raw.types[index]?.bind fun type => type.kind.resolve?

/-- The types that a type links to are older than it, and its declaration is there. -/
structure RawType.Older (type : RawType) (index count : Nat) : Prop where
  links : ∀ link ∈ type.typeLinks, link.toNat < index
  declaration : ∀ link ∈ type.declaration, link.toNat < count

namespace SnapshotBuilder

def lineLocation (file : Path) (line : Nat) : Location :=
  ⟨file, .ofNat line, 1, .ofNat ((line - 1) * lineLength)⟩

private theorem toNat_ofNat_lt {index bound : Nat} (inside : index < bound) :
    (UInt64.ofNat index).toNat < bound :=
  Nat.lt_of_le_of_lt (by simpa using Nat.mod_le index _) inside

namespace Draft

variable {draft : Draft} {call : Call} {index : Nat} {before after : RawCursor}

/-- The data of a cursor is what the exchanges say of it, and its links lead to nodes that
are there. -/
structure Accounts (draft : Draft) (index : Nat) (cursor : RawCursor) : Prop where
  root : index = SnapshotBuilder.root → cursor.kind = .translationUnit ∧ cursor.semanticParent = none
  parent : ∀ exchange ∈ draft.exchanges, exchange.answer = .cursor index →
    ∃ parent, exchange.call.parent? = some parent ∧ parent < index ∧
      cursor.semanticParent = some (.ofNat parent)
  children : cursor.children =
    (draft.exchanges.filterMap (Exchange.placed? Call.parent? index)).map .ofNat
  arguments : cursor.arguments =
    (draft.exchanges.filterMap (Exchange.placed? Call.function? index)).map .ofNat
  location : index ≠ SnapshotBuilder.root →
    (∀ exchange ∈ draft.exchanges, exchange.call.relocated? ≠ some index) →
      cursor.location = lineLocation draft.builder.raw.mainFile index
  definition : ∀ link ∈ cursor.definition, link.toNat < draft.builder.raw.cursors.size
  types : ∀ link ∈ cursor.typeLinks, link.toNat < draft.builder.raw.types.size

/-- What holds of a draft after any number of calls. Its cursors and types have been
answered in their order, and the components of a type are older than it. -/
structure Sound (draft : Draft) : Prop where
  line : draft.builder.nextLine = draft.builder.raw.cursors.size
  answered : ∀ exchange ∈ draft.exchanges,
    exchange.cursor?.isSome = exchange.call.parent?.isSome
  cursors : root :: draft.exchanges.filterMap Exchange.cursor? =
    List.range draft.builder.raw.cursors.size
  types : draft.exchanges.filterMap Exchange.type? = List.range draft.builder.raw.types.size
  accounts : ∀ index cursor, draft.builder.raw.cursors[index]? = some cursor →
    draft.Accounts index cursor
  older : ∀ index (type : RawType), draft.builder.raw.types[index]? = some type →
    type.Older index draft.builder.raw.cursors.size
  kinds : ∀ exchange ∈ draft.exchanges, ∀ index, exchange.answer = .type index →
    ∃ kind, draft.builder.raw.kindAt? index = some kind ∧
      exchange.call.kind? draft.builder.raw.kindAt? = some kind

/-- What an exchange leaves of a cursor that was there before. -/
structure Leaves (builder : SnapshotBuilder) (exchange : Exchange) (index : Nat)
    (before after : RawCursor) : Prop where
  kind : after.kind = before.kind
  parent : after.semanticParent = before.semanticParent
  children : after.children =
    before.children ++ (exchange.placed? Call.parent? index).toList.map .ofNat
  arguments : after.arguments =
    before.arguments ++ (exchange.placed? Call.function? index).toList.map .ofNat
  location : exchange.call.relocated? ≠ some index → after.location = before.location
  definition : ∀ link ∈ after.definition,
    link ∈ before.definition ∨ link.toNat < builder.raw.cursors.size
  types : ∀ link ∈ after.typeLinks,
    link ∈ before.typeLinks ∨ link.toNat < builder.raw.types.size

private theorem filterMap_concat {α β : Type} (f : α → Option β) (xs : List α) (x : α) :
    (xs ++ [x]).filterMap f = xs.filterMap f ++ (f x).toList := by
  rw [List.filterMap_append]
  cases found : f x <;> simp [found]

private theorem Accounts.next {builder : SnapshotBuilder} {exchange : Exchange}
    (accounts : draft.Accounts index before) (leaves : Leaves builder exchange index before after)
    (other : exchange.answer ≠ .cursor index)
    (file : builder.raw.mainFile = draft.builder.raw.mainFile)
    (cursors : draft.builder.raw.cursors.size ≤ builder.raw.cursors.size)
    (types : draft.builder.raw.types.size ≤ builder.raw.types.size) :
    Accounts ⟨builder, draft.exchanges ++ [exchange]⟩ index after where
  root own := by
    rw [leaves.kind, leaves.parent]
    exact accounts.root own
  parent old member answered := by
    rcases List.mem_append.1 member with earlier | last
    · rw [leaves.parent]
      exact accounts.parent old earlier answered
    · rw [List.mem_singleton.1 last] at answered
      exact absurd answered other
  children := by
    rw [leaves.children, accounts.children, filterMap_concat, List.map_append]
  arguments := by
    rw [leaves.arguments, accounts.arguments, filterMap_concat, List.map_append]
  location apart kept := by
    obtain ⟨earlier, last⟩ := List.forall_mem_append.1 kept
    rw [leaves.location (last exchange (List.mem_singleton_self _)),
      accounts.location apart earlier, file]
  definition link member := by
    rcases leaves.definition link member with old | new
    · exact Nat.lt_of_lt_of_le (accounts.definition link old) cursors
    · exact new
  types link member := by
    rcases leaves.types link member with old | new
    · exact Nat.lt_of_lt_of_le (accounts.types link old) types
    · exact new

section Leaves

variable {builder : SnapshotBuilder} {answer : Answer} {cursor : RawCursor}

private theorem placed?_eq_none {place : Call → Option Nat} (apart : place call = none) :
    Exchange.placed? place index ⟨call, answer⟩ = none := by
  simp [Exchange.placed?, apart]

private theorem Leaves.same (apart : call.parent? = none) (index : Nat) (cursor : RawCursor) :
    Leaves builder ⟨call, answer⟩ index cursor cursor where
  kind := rfl
  parent := rfl
  children := by simp [placed?_eq_none apart]
  arguments := by simp [placed?_eq_none (Call.function?_eq_none apart)]
  location _ := rfl
  definition _ := .inl
  types _ := .inl

private theorem Leaves.edit (apart : call.parent? = none) (edits : call.Edits index before after)
    (inside : call.Inside builder.raw) :
    Leaves builder ⟨call, answer⟩ index before after where
  kind := edits.kind
  parent := edits.parent
  children := by simp [placed?_eq_none apart, edits.children]
  arguments := by simp [placed?_eq_none (Call.function?_eq_none apart), edits.arguments]
  location := edits.location
  definition link member := (edits.definition link member).imp_right <| by
    rintro ⟨cursor, known, rfl⟩
    exact toNat_ofNat_lt (inside.cursors cursor known)
  types link member := (edits.types link member).imp_right <| by
    rintro ⟨type, known, rfl⟩
    exact toNat_ofNat_lt (inside.types type known)

/-- A cursor that is declared is listed with its parent, and with its function. -/
theorem Leaves.adopt {parent size : Nat} (above : call.parent? = some parent) :
    Leaves builder ⟨call, .cursor size⟩ index cursor
      (if parent = index then SnapshotBuilder.adopt call.function?.isSome size cursor
        else cursor) := by
  have child : Exchange.placed? Call.parent? index ⟨call, .cursor size⟩ =
      if parent = index then some size else none := by
    simp [Exchange.placed?, above, Exchange.cursor?]
  have argument : Exchange.placed? Call.function? index ⟨call, .cursor size⟩ =
      if call.function?.isSome then if parent = index then some size else none else none := by
    cases own : call.function? with
    | none => simp [Exchange.placed?, own]
    | some function =>
      have same : function = parent :=
        Option.some.inj ((Call.parent?_of_function? own).symm.trans above)
      simp [Exchange.placed?, own, same, Exchange.cursor?]
  by_cases here : parent = index
  · rw [if_pos here]
    rw [if_pos here] at child argument
    refine ⟨rfl, rfl, ?_, ?_, fun _ => rfl, fun _ => .inl, fun _ => .inl⟩
    · simp [child, SnapshotBuilder.adopt]
    · rw [argument]
      cases call.function?.isSome <;> simp [SnapshotBuilder.adopt]
  · rw [if_neg here]
    rw [if_neg here] at child argument
    refine ⟨rfl, rfl, ?_, ?_, fun _ => rfl, fun _ => .inl, fun _ => .inl⟩
    · simp [child]
    · simp [argument]

end Leaves

namespace Sound

private theorem mem_cursors (sound : draft.Sound) :
    index ∈ root :: draft.exchanges.filterMap Exchange.cursor? ↔
      index < draft.builder.raw.cursors.size := by
  rw [sound.cursors, List.mem_range]

private theorem mem_types (sound : draft.Sound) :
    index ∈ draft.exchanges.filterMap Exchange.type? ↔ index < draft.builder.raw.types.size := by
  rw [sound.types, List.mem_range]

theorem lt_of_cursor? (sound : draft.Sound) {exchange : Exchange}
    (member : exchange ∈ draft.exchanges) (answered : exchange.cursor? = some index) :
    index < draft.builder.raw.cursors.size :=
  sound.mem_cursors.1 (List.mem_cons_of_mem _ (List.mem_filterMap.2 ⟨exchange, member, answered⟩))

private theorem answered_next (sound : draft.Sound) {exchange : Exchange}
    (own : exchange.cursor?.isSome = exchange.call.parent?.isSome) :
    ∀ old ∈ draft.exchanges ++ [exchange], old.cursor?.isSome = old.call.parent?.isSome :=
  List.forall_mem_append.2 ⟨sound.answered, by simpa using own⟩

theorem count (sound : draft.Sound) :
    draft.exchanges.countP (·.call.parent?.isSome) + 1 = draft.builder.raw.cursors.size := by
  have length := congrArg List.length sound.cursors
  rw [List.length_range, List.length_cons, List.length_filterMap_eq_countP] at length
  rw [← length]
  congr 1
  exact List.countP_congr fun exchange member => by rw [sound.answered exchange member]

/-- Nothing has been put below a cursor that is not there yet. -/
theorem placed?_size (sound : draft.Sound) {place : Call → Option Nat}
    (parent : ∀ call above, place call = some above → call.parent? = some above)
    {exchange : Exchange} (member : exchange ∈ draft.exchanges) :
    exchange.placed? place draft.builder.raw.cursors.size = none := by
  unfold Exchange.placed?
  split
  · rename_i placed
    cases answered : exchange.cursor? with
    | none => rfl
    | some index =>
      -- its parent is older than it, and it is there
      have inside := sound.lt_of_cursor? member answered
      have there := Array.getElem?_eq_getElem inside
      have named := Exchange.answer_of_cursor? answered
      have accounts := sound.accounts index _ there
      obtain ⟨above, declared, older, -⟩ := accounts.parent exchange member named
      rw [parent _ _ placed] at declared
      cases declared
      omega
  · rfl

private theorem exists_kindAt? (sound : draft.Sound)
    (inside : index < draft.builder.raw.types.size) :
    ∃ kind, draft.builder.raw.kindAt? index = some kind := by
  obtain ⟨exchange, member, answered⟩ := List.mem_filterMap.1 (sound.mem_types.2 inside)
  obtain ⟨kind, known, -⟩ :=
    sound.kinds exchange member index (Exchange.answer_of_type? answered)
  exact ⟨kind, known⟩

private theorem older_of_makes (sound : draft.Sound) {type : RawType}
    (makes : call.Makes draft.builder type) (inside : call.Inside draft.builder.raw) :
    type.Older draft.builder.raw.types.size draft.builder.raw.cursors.size := by
  cases makes with
  | plain resolved asked links declaration =>
    refine ⟨fun link member => ?_, fun link member => ?_⟩
    · obtain ⟨lower, known, rfl⟩ := links link member
      exact toNat_ofNat_lt (inside.types lower known)
    · obtain ⟨cursor, known, rfl⟩ := declaration link member
      exact toNat_ofNat_lt (inside.cursors cursor known)
  | copy isConst isVolatile there asked =>
    obtain ⟨links, declaration⟩ := sound.older _ _ there
    have earlier := (Array.getElem?_eq_some_iff.1 there).1
    exact ⟨fun link member => Nat.lt_trans (links link member) earlier, declaration⟩

private theorem kind_of_makes (sound : draft.Sound) {type : RawType}
    (makes : call.Makes draft.builder type) :
    ∃ kind, type.kind.resolve? = some kind ∧
      call.kind? draft.builder.raw.kindAt? = some kind := by
  cases makes with
  | plain resolved asked => exact ⟨_, resolved, asked _⟩
  | copy isConst isVolatile there asked =>
    have inside := (Array.getElem?_eq_some_iff.1 there).1
    obtain ⟨kind, known⟩ := sound.exists_kindAt? inside
    refine ⟨kind, ?_, (asked _).trans known⟩
    rwa [RawSnapshot.kindAt?, there] at known

private theorem accounts_of_declares (sound : draft.Sound) {parent : Nat} {cursor : RawCursor}
    (above : call.parent? = some parent) (older : parent < draft.builder.raw.cursors.size)
    (fresh : call.Declares draft.builder parent cursor) (inside : call.Inside draft.builder.raw) :
    Accounts ⟨draft.builder.grow parent call.function?.isSome cursor,
      draft.exchanges ++ [⟨call, .cursor draft.builder.raw.cursors.size⟩]⟩
        draft.builder.raw.cursors.size cursor := by
  have none_placed : ∀ place : Call → Option Nat,
      (∀ call above, place call = some above → call.parent? = some above) →
        List.filterMap (Exchange.placed? place draft.builder.raw.cursors.size)
          (draft.exchanges ++ [⟨call, .cursor draft.builder.raw.cursors.size⟩]) = [] := by
    intro place below
    rw [List.filterMap_eq_nil_iff]
    intro exchange member
    rcases List.mem_append.1 member with earlier | last
    · exact sound.placed?_size below earlier
    · rw [List.mem_singleton.1 last, Exchange.placed?, if_neg]
      intro placed
      have same := (below _ _ placed).symm.trans above
      cases same
      omega
  refine ⟨fun first => ?_, fun exchange member answered => ?_, ?_, ?_, fun _ _ => ?_, ?_, ?_⟩
  · rw [root] at first
    omega
  · rcases List.mem_append.1 member with earlier | last
    · have own : exchange.cursor? = some draft.builder.raw.cursors.size := by
        rw [Exchange.cursor?, answered]
      exact absurd (sound.lt_of_cursor? earlier own) (Nat.lt_irrefl _)
    · rw [List.mem_singleton.1 last]
      exact ⟨parent, above, older, fresh.parent⟩
  · rw [fresh.children, none_placed _ fun _ _ => id]
    rfl
  · rw [fresh.arguments, none_placed _ fun _ _ => Call.parent?_of_function?]
    rfl
  · rw [fresh.location, ← sound.line]
    rfl
  · simp [fresh.definition]
  · intro link member
    obtain ⟨type, known, rfl⟩ := fresh.types link member
    exact toNat_ofNat_lt (inside.types type known)

private theorem kinds_next (sound : draft.Sound) {raw : RawSnapshot} {exchange : Exchange}
    (kept : ∀ position kind, draft.builder.raw.kindAt? position = some kind →
      raw.kindAt? position = some kind)
    (own : ∀ position, exchange.answer = .type position → ∃ kind,
      raw.kindAt? position = some kind ∧ exchange.call.kind? raw.kindAt? = some kind) :
    ∀ old ∈ draft.exchanges ++ [exchange], ∀ position, old.answer = .type position → ∃ kind,
      raw.kindAt? position = some kind ∧ old.call.kind? raw.kindAt? = some kind := by
  refine List.forall_mem_append.2 ⟨fun old member position answered => ?_, by simpa using own⟩
  obtain ⟨kind, known, asked⟩ := sound.kinds old member position answered
  exact ⟨kind, kept position kind known, Call.kind?_mono kept asked⟩

private theorem edited (sound : draft.Sound) {edit : RawCursor → RawCursor}
    (apart : call.parent? = none) (edits : ∀ before, call.Edits index before (edit before))
    (inside : call.Inside draft.builder.raw) :
    Sound ⟨draft.builder.editCursor index edit, draft.exchanges ++ [⟨call, .nothing⟩]⟩ := by
  have size : (draft.builder.editCursor index edit).raw.cursors.size =
      draft.builder.raw.cursors.size := by simp [editCursor]
  have inside : call.Inside (draft.builder.editCursor index edit).raw :=
    ⟨by rw [size]; exact inside.cursors, inside.types⟩
  refine ⟨?_, ?_, ?_, ?_, fun position cursor there => ?_, fun position type there => ?_, ?_⟩
  · rw [size]
    exact sound.line
  · exact sound.answered_next (by simp [apart, Exchange.cursor?])
  · rw [size, ← sound.cursors, filterMap_concat]
    simp [Exchange.cursor?]
  · rw [filterMap_concat, sound.types]
    simp [Exchange.type?, editCursor]
  · rw [getElem?_editCursor] at there
    split at there
    · rename_i here
      subst here
      obtain ⟨before, old, rfl⟩ := Option.map_eq_some_iff.1 there
      exact (sound.accounts index before old).next (.edit apart (edits before) inside) (by simp)
        rfl (Nat.le_of_eq size.symm) (Nat.le_refl _)
    · exact (sound.accounts position cursor there).next (.same apart position cursor) (by simp) rfl
        (Nat.le_of_eq size.symm) (Nat.le_refl _)
  · rw [size]
    exact sound.older position type there
  · exact sound.kinds_next (fun _ _ => id) (by simp)

private theorem typed (sound : draft.Sound) {type : RawType} (apart : call.parent? = none)
    (makes : call.Makes draft.builder type) (inside : call.Inside draft.builder.raw) :
    Sound ⟨(draft.builder.addType type).1,
      draft.exchanges ++ [⟨call, .type draft.builder.raw.types.size⟩]⟩ := by
  have size : (draft.builder.addType type).1.raw.types.size =
      draft.builder.raw.types.size + 1 := by simp [addType]
  have kept : ∀ position kind, draft.builder.raw.kindAt? position = some kind →
      (draft.builder.addType type).1.raw.kindAt? position = some kind := by
    intro position kind known
    obtain ⟨old, there, resolved⟩ := Option.bind_eq_some_iff.1 known
    have earlier := (Array.getElem?_eq_some_iff.1 there).1
    rw [RawSnapshot.kindAt?, getElem?_addType, if_neg (Nat.ne_of_lt earlier), there]
    exact resolved
  refine ⟨sound.line, ?_, ?_, ?_, fun position cursor there => ?_,
    fun position other there => ?_, ?_⟩
  · exact sound.answered_next (by simp [apart, Exchange.cursor?])
  · change _ = List.range draft.builder.raw.cursors.size
    rw [← sound.cursors, filterMap_concat]
    simp [Exchange.cursor?]
  · rw [size, List.range_succ, ← sound.types, filterMap_concat]
    rfl
  · exact (sound.accounts position cursor there).next (.same apart position cursor) (by simp) rfl
      (Nat.le_refl _) (by rw [size]; omega)
  · rw [getElem?_addType] at there
    split at there
    · rename_i last
      cases there
      rw [last]
      exact sound.older_of_makes makes inside
    · exact sound.older position other there
  · refine sound.kinds_next kept ?_
    rintro _ ⟨⟩
    obtain ⟨kind, resolved, asked⟩ := sound.kind_of_makes makes
    refine ⟨kind, ?_, Call.kind?_mono kept asked⟩
    rw [RawSnapshot.kindAt?, getElem?_addType, if_pos rfl]
    exact resolved

private theorem declared (sound : draft.Sound) {parent : Nat} {cursor : RawCursor}
    (above : call.parent? = some parent) (older : parent < draft.builder.raw.cursors.size)
    (fresh : call.Declares draft.builder parent cursor) (inside : call.Inside draft.builder.raw) :
    Sound ⟨draft.builder.grow parent call.function?.isSome cursor,
      draft.exchanges ++ [⟨call, .cursor draft.builder.raw.cursors.size⟩]⟩ := by
  have size : (draft.builder.grow parent call.function?.isSome cursor).raw.cursors.size =
      draft.builder.raw.cursors.size + 1 := by simp [grow]
  refine ⟨?_, ?_, ?_, ?_, fun position other there => ?_, fun position type there => ?_, ?_⟩
  · rw [size, ← sound.line]
    rfl
  · exact sound.answered_next (by simp [above, Exchange.cursor?])
  · rw [size, List.range_succ, ← sound.cursors, filterMap_concat]
    rfl
  · rw [filterMap_concat, sound.types]
    exact List.append_nil _
  · rw [getElem?_grow] at there
    split at there
    · rename_i last
      cases there
      subst last
      exact sound.accounts_of_declares above older fresh inside
    · obtain ⟨before, old, rfl⟩ := Option.map_eq_some_iff.1 there
      have earlier := (Array.getElem?_eq_some_iff.1 old).1
      exact (sound.accounts position before old).next (.adopt above) (by simp; omega) rfl
        (by rw [size]; omega) (Nat.le_refl _)
  · obtain ⟨links, declaration⟩ := sound.older position type there
    exact ⟨links, fun link member => by
      rw [size]
      exact Nat.lt_succ_of_lt (declaration link member)⟩
  · exact sound.kinds_next (fun _ _ => id) (by simp)

end Sound

theorem sound_start (mainFile : Path) : Sound { builder := start mainFile } where
  line := rfl
  answered := by simp
  cursors := rfl
  types := rfl
  accounts index cursor there := by
    have first : index = root := by
      have inside := (Array.getElem?_eq_some_iff.1 there).1
      simpa [start, root] using inside
    subst first
    have own : cursor = .named .translationUnit mainFile.text := (Option.some.inj there).symm
    subst own
    exact ⟨fun _ => ⟨rfl, rfl⟩, by simp, rfl, rfl, fun apart => absurd rfl apart,
      by simp [RawCursor.named], by simp [RawCursor.named, RawCursor.typeLinks]⟩
  older index type there := by simp [start] at there
  kinds := by simp

/-- A call that names only what is known goes well. -/
theorem Sound.exists_call? (sound : draft.Sound) (knows : draft.Knows call) :
    ∃ builder answer, draft.call? call =
      some ⟨builder, draft.exchanges ++ [⟨call, answer⟩]⟩ ∧
        Sound ⟨builder, draft.exchanges ++ [⟨call, answer⟩]⟩ := by
  have inside : call.Inside draft.builder.raw :=
    ⟨fun cursor member => sound.mem_cursors.1 (knows.1 cursor member),
      fun type member => sound.mem_types.1 (knows.2 type member)⟩
  obtain ⟨builder, answer, called, effect⟩ := exists_effect inside
  refine ⟨builder, answer, by rw [Draft.call?, called]; rfl, ?_⟩
  cases effect with
  | declared above older fresh => exact sound.declared above older fresh inside
  | edited apart edits => exact sound.edited apart edits inside
  | typed apart makes => exact sound.typed apart makes inside

theorem Sound.exists_calls? (sound : draft.Sound) (calls : List Call)
    (proper : draft.Proper calls) :
    ∃ drafted, draft.calls? calls = some drafted ∧ drafted.Sound ∧
      drafted.exchanges.map Exchange.call = draft.exchanges.map Exchange.call ++ calls := by
  induction calls generalizing draft with
  | nil => exact ⟨draft, rfl, sound, (List.append_nil _).symm⟩
  | cons call calls ih =>
    obtain ⟨knows, onward⟩ := proper
    obtain ⟨builder, answer, called, next⟩ := sound.exists_call? knows
    obtain ⟨drafted, rest, drafted_sound, same⟩ := ih next (onward _ called)
    refine ⟨drafted, ?_, drafted_sound, ?_⟩
    · rw [calls?, List.foldlM_cons, called]
      exact rest
    · rw [same, List.map_append, List.append_assoc]
      rfl

namespace Sound

variable {cursor : RawCursor}

private theorem exists_exchange (sound : draft.Sound)
    (inside : index < draft.builder.raw.cursors.size) (apart : index ≠ root) :
    ∃ exchange ∈ draft.exchanges, exchange.answer = .cursor index := by
  have member := (List.mem_cons.1 (sound.mem_cursors.2 inside)).resolve_left apart
  obtain ⟨exchange, member, answered⟩ := List.mem_filterMap.1 member
  exact ⟨exchange, member, Exchange.answer_of_cursor? answered⟩

private theorem parent_lt (sound : draft.Sound)
    (there : draft.builder.raw.cursors[index]? = some cursor)
    {link : UInt64} (linked : cursor.semanticParent = some link) : link.toNat < index := by
  have accounts := sound.accounts index cursor there
  by_cases first : index = root
  · rw [(accounts.root first).2] at linked
    cases linked
  · have inside := (Array.getElem?_eq_some_iff.1 there).1
    obtain ⟨exchange, member, answered⟩ := sound.exists_exchange inside first
    obtain ⟨parent, -, older, stored⟩ := accounts.parent exchange member answered
    rw [linked] at stored
    cases stored
    exact toNat_ofNat_lt older

/-- Whatever is placed somewhere is there. -/
theorem placed_lt (sound : draft.Sound) {place : Call → Option Nat} {above position : Nat}
    (member : position ∈ draft.exchanges.filterMap (Exchange.placed? place above)) :
    position < draft.builder.raw.cursors.size := by
  obtain ⟨exchange, member, placed⟩ := List.mem_filterMap.1 member
  unfold Exchange.placed? at placed
  split at placed
  · exact sound.lt_of_cursor? member placed
  · cases placed

private theorem closed (sound : draft.Sound)
    (there : draft.builder.raw.cursors[index]? = some cursor) :
    cursor.Closed draft.builder.raw := by
  have accounts := sound.accounts index cursor there
  have inside := (Array.getElem?_eq_some_iff.1 there).1
  have listed : ∀ {place : Call → Option Nat}, ∀ link ∈
      (draft.exchanges.filterMap (Exchange.placed? place index)).map UInt64.ofNat,
        link.toNat < draft.builder.raw.cursors.size := by
    intro place link member
    obtain ⟨position, placed, rfl⟩ := List.mem_map.1 member
    exact toNat_ofNat_lt (sound.placed_lt placed)
  refine ⟨accounts.definition, fun link linked => ?_, ?_, ?_, ?_, ?_, ?_⟩
  · exact Nat.lt_trans (sound.parent_lt there linked) inside
  · rw [accounts.children]
    exact listed
  · rw [accounts.arguments]
    exact listed
  · exact fun link linked => accounts.types link (by simp_all [RawCursor.typeLinks])
  · exact fun link linked => accounts.types link (by simp_all [RawCursor.typeLinks])
  · exact fun link linked => accounts.types link (by simp_all [RawCursor.typeLinks])

private theorem follows_lt (sound : draft.Sound) {sort : NodeSort} {earlier later : Nat}
    (follows : draft.builder.raw.Follows sort earlier later) : later < earlier := by
  cases follows with
  | parent there linked => exact sound.parent_lt there linked
  | pointee there linked =>
    exact (sound.older _ _ there).links _ (by simp [RawType.typeLinks, linked])
  | named there linked =>
    exact (sound.older _ _ there).links _ (by simp [RawType.typeLinks, linked])

theorem wellFormed (sound : draft.Sound) : draft.builder.raw.WellFormed where
  root := by
    have inside : root < draft.builder.raw.cursors.size := sound.mem_cursors.1 List.mem_cons_self
    have there := Array.getElem?_eq_getElem inside
    exact ⟨_, there, ((sound.accounts root _ there).root rfl).1⟩
  cursors cursor member := by
    obtain ⟨index, there⟩ := Array.mem_iff_getElem?.1 member
    exact sound.closed there
  types type member := by
    obtain ⟨index, there⟩ := Array.mem_iff_getElem?.1 member
    obtain ⟨links, declaration⟩ := sound.older index type there
    have inside := (Array.getElem?_eq_some_iff.1 there).1
    refine ⟨?_, ?_, ?_, ?_, declaration⟩ <;> refine fun link linked =>
      Nat.lt_trans (links link ?_) inside
    all_goals simp_all [RawType.typeLinks]
  kinds type member := by
    obtain ⟨index, there⟩ := Array.mem_iff_getElem?.1 member
    obtain ⟨kind, known⟩ := sound.exists_kindAt? (Array.getElem?_eq_some_iff.1 there).1
    rw [RawSnapshot.kindAt?, there, Option.bind_some] at known
    cases written : type.kind with
    | code number => trivial
    | name text =>
      rw [written] at known
      exact TypeKind.isSome_ofName?_iff.1 (Option.isSome_iff_exists.2 ⟨kind, known⟩)
  acyclic sort index back := by
    have older : ∀ later, Relation.TransGen (draft.builder.raw.Follows sort) index later →
        later < index := by
      intro later way
      induction way with
      | single step => exact sound.follows_lt step
      | tail _ step ih => exact Nat.lt_trans (sound.follows_lt step) ih
    exact Nat.lt_irrefl index (older index back)

end Sound

end Draft

end SnapshotBuilder

end SymbolAtlas
