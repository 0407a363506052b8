import SymbolAtlas.Proofs.Extract.Run

/-! When a completion may start: the pending symbols are distinct, and each is that
of a cursor of the snapshot, so that the room for nested completions is enough. What
is owed to symbols meanwhile, and what each step of extraction is to keep of it. -/

namespace SymbolAtlas

open Snapshot

/-- Kinds of symbols that get a detail from every cursor they are made for. -/
def SymbolKind.isOwed : SymbolKind → Bool
  | .function _ | .typedef => true
  | _ => false

/-- Does a cursor give a detail to symbols of some kind? -/
def Snapshot.Cursor.supplies {snapshot : Snapshot} (settings : Settings) (kind : SymbolKind)
    (cursor : snapshot.Cursor) : Bool :=
  match kind, cursor.kind with
  | .function _, .functionDecl => true
  | .typedef, .typedefDecl => true
  | .record _, .structDecl | .record _, .classDecl =>
    settings.recordMembers && cursor.definition?.isSome
  | _, _ => false

theorem Snapshot.Cursor.supplies_of_isOwed {snapshot : Snapshot} {cursor : snapshot.Cursor}
    {kind : SymbolKind} (settings : Settings) (sort : cursor.symbolKind? = some kind)
    (owed : kind.isOwed) : cursor.supplies settings kind := by
  unfold symbolKind? at sort
  unfold supplies
  split at sort <;> cases sort <;> simp_all [SymbolKind.isOwed]

theorem Snapshot.Cursor.supplies_record {snapshot : Snapshot} {cursor : snapshot.Cursor}
    (settings : Settings) (keyword : RecordKeyword)
    (sort : cursor.kind = .structDecl ∨ cursor.kind = .classDecl) :
    cursor.supplies settings (.record keyword) =
      (settings.recordMembers && cursor.definition?.isSome) := by
  rcases sort with sort | sort <;> simp [supplies, sort]

namespace Registry

/-- Every symbol from an index on that is owed its detail has it, unless it is pending. -/
def Settled (registry : Registry) (kept : Nat) (pending : List Nat) : Prop :=
  ∀ index symbol, kept ≤ index → index ∉ pending → registry.get? index = some symbol →
    symbol.kind.isOwed → symbol.detail.isSome

def Supplied {snapshot : Snapshot} (registry : Registry) (settings : Settings) (index : Nat)
    (cursor : snapshot.Cursor) : Prop :=
  ∀ symbol, registry.get? index = some symbol → cursor.supplies settings symbol.kind →
    symbol.detail.isSome

/-- The symbol of a cursor shows what the cursor tells of it. -/
def Recorded {snapshot : Snapshot} (registry : Registry) (cursor : snapshot.Cursor) : Prop :=
  cursor.part.isEmpty = false →
    ∃ index, registry.find? cursor.identity = some index ∧ registry.Shows index cursor.sighting

variable {registry later : Registry} {kept index : Nat} {pending more : List Nat}

theorem Recorded.keep {snapshot : Snapshot} {cursor : snapshot.Cursor}
    (recorded : registry.Recorded cursor) (grown : registry.Grows later)
    (gathers : registry.Gathers later) : later.Recorded cursor := by
  intro named
  obtain ⟨index, found, seen⟩ := recorded named
  exact ⟨index, grown.find? found, seen.gather gathers⟩

section Supplied

variable {snapshot : Snapshot} {settings : Settings} {cursor : snapshot.Cursor} {symbol : Symbol}
  (present : registry.get? index = some symbol)

include present

theorem supplied_of_filled (filled : symbol.detail.isSome) :
    registry.Supplied settings index cursor := by
  intro current found _
  rw [present] at found
  cases found
  exact filled

theorem supplied_of_supplies (lacking : cursor.supplies settings symbol.kind = false) :
    registry.Supplied settings index cursor := by
  intro current found supplies
  rw [present] at found
  cases found
  rw [lacking] at supplies
  cases supplies

theorem supplied_settle (detail : Detail) :
    (registry.settle index detail).Supplied settings index cursor := by
  have filled : (registry.settle index detail).get? index = some (symbol.fill detail) := by
    rw [get?_settle, if_pos rfl, present]
    rfl
  exact supplied_of_filled filled rfl

end Supplied

theorem Supplied.keep {snapshot : Snapshot} {settings : Settings} {cursor : snapshot.Cursor}
    (supplied : registry.Supplied settings index cursor) (inside : index < registry.size)
    (grown : registry.Grows later) : later.Supplied settings index cursor := by
  intro symbol present supplies
  obtain ⟨old, stored, growth⟩ := grown.get?_of_lt inside present
  rw [growth.kind] at supplies
  exact growth.isSome_detail (supplied old stored supplies)

theorem settled_size (registry : Registry) (pending : List Nat) :
    registry.Settled registry.size pending :=
  fun _ _ high _ present _ => absurd (lt_size_of_get? present) (Nat.not_lt.2 high)

theorem Settled.spare (settled : registry.Settled kept pending) (index : Nat) :
    registry.Settled kept (index :: pending) :=
  fun position symbol high idle =>
    settled position symbol high fun member => idle (List.mem_cons_of_mem index member)

private theorem Settled.grow (settled : registry.Settled kept pending)
    (grown : registry.Grows later) (subset : pending ⊆ more)
    (fresh : ∀ index, registry.size ≤ index → index < later.size → index ∈ more) :
    later.Settled kept more := by
  intro index symbol high idle present owed
  have old : index < registry.size := by
    refine Nat.lt_of_not_le fun new => idle (fresh index new (lt_size_of_get? present))
  obtain ⟨before, found, growth⟩ := grown.get?_of_lt old present
  rw [growth.kind] at owed
  have idle : index ∉ pending := fun member => idle (subset member)
  exact growth.isSome_detail (settled index before high idle found owed)

theorem Settled.update (settled : registry.Settled kept pending) {change : Symbol → Symbol}
    (grown : registry.Grows (registry.update index change)) :
    (registry.update index change).Settled kept pending :=
  settled.grow grown (List.Subset.refl _) fun position low high => by
    rw [size_update] at high
    exact absurd high (Nat.not_lt.2 low)

theorem Settled.settle (settled : registry.Settled kept pending) {detail : Detail}
    (grown : registry.Grows (registry.settle index detail)) :
    (registry.settle index detail).Settled kept pending :=
  settled.grow grown (List.Subset.refl _) fun position low high => by
    rw [size_settle] at high
    exact absurd high (Nat.not_lt.2 low)

theorem Settled.enter (settled : registry.Settled kept pending) (identity : Identity)
    (symbol : Symbol) :
    (registry.enter identity symbol).Settled kept (registry.size :: pending) :=
  settled.grow (grows_enter registry identity symbol) (List.subset_cons_self _ _)
    fun position low high => by
      rw [size_enter] at high
      have same : position = registry.size := by omega
      exact same ▸ List.mem_cons_self

theorem Settled.of_cons (before : registry.Settled kept pending) (grown : registry.Grows later)
    (inside : index < registry.size) (settled : later.Settled kept (index :: pending)) :
    later.Settled kept pending := by
  intro position symbol high idle present owed
  by_cases same : position = index
  · subst same
    obtain ⟨old, found, growth⟩ := grown.get?_of_lt inside present
    rw [growth.kind] at owed
    exact growth.isSome_detail (before position old high idle found owed)
  · exact settled position symbol high (by simpa using ⟨same, idle⟩) present owed

end Registry

namespace Extract

variable {snapshot : Snapshot} {settings : Settings} {room kept index : Nat}
  {start middle : Extraction} {cursor : snapshot.Cursor}

/-- What holds wherever a completion may start: the pending symbols are distinct,
each is that of a cursor, and there is room for all other cursors. -/
structure Ready (snapshot : Snapshot) (room : Nat) (state : Extraction) : Prop where
  distinct : state.pending.Nodup
  known : ∀ index ∈ state.pending, ∃ cursor : snapshot.Cursor,
    state.registry.find? cursor.identity = some index
  ample : snapshot.raw.cursors.size ≤ room + state.pending.length

theorem Ready.advance {spared : List Nat} (ready : Ready snapshot room start)
    (advances : Advances snapshot spared start middle) : Ready snapshot room middle := by
  obtain ⟨distinct, known, ample⟩ := ready
  refine ⟨by rwa [advances.pending], fun index member => ?_, by rwa [advances.pending]⟩
  rw [advances.pending] at member
  obtain ⟨cursor, found⟩ := known index member
  exact ⟨cursor, advances.grows.find? found⟩

theorem Ready.lt_size (ready : Ready snapshot room start) (member : index ∈ start.pending) :
    index < start.registry.size := by
  obtain ⟨cursor, found⟩ := ready.known index member
  exact Registry.lt_size_of_find? found

theorem Ready.enter (ready : Ready snapshot (room + 1) start) (idle : index ∉ start.pending)
    (found : start.registry.find? cursor.identity = some index) :
    Ready snapshot room { start with pending := index :: start.pending } := by
  obtain ⟨distinct, known, ample⟩ := ready
  refine ⟨List.nodup_cons.2 ⟨idle, distinct⟩, ?_, ?_⟩
  · intro position member
    rcases List.mem_cons.1 member with rfl | member
    · exact ⟨cursor, found⟩
    · exact known position member
  · simp only [List.length_cons]
    omega

private theorem Ready.length_le (ready : Ready snapshot room start) :
    start.pending.length ≤ snapshot.raw.cursors.size := by
  have answered : start.pending ⊆ (List.finRange snapshot.raw.cursors.size).filterMap
      fun index => start.registry.find? (Cursor.mk index : snapshot.Cursor).identity := by
    intro position member
    obtain ⟨cursor, found⟩ := ready.known position member
    exact List.mem_filterMap.2 ⟨cursor.index, List.mem_finRange _, found⟩
  calc start.pending.length
      ≤ _ := (List.subperm_of_subset ready.distinct answered).length_le
    _ ≤ (List.finRange snapshot.raw.cursors.size).length := List.length_filterMap_le _ _
    _ = snapshot.raw.cursors.size := List.length_finRange

theorem Ready.mem_pending (ready : Ready snapshot 0 start)
    (found : start.registry.find? cursor.identity = some index) : index ∈ start.pending := by
  by_contra idle
  have ample := ready.ample
  have roomier : Ready snapshot (0 + 1) start := ⟨ready.distinct, ready.known, by omega⟩
  have longer := (roomier.enter idle found).length_le
  simp only [List.length_cons] at longer
  omega

/-- Completing a symbol in which its cursor has been folded only advances, leaves other
symbols settled, and gives the symbol what the cursor has for it unless it is pending. -/
def Completes (snapshot : Snapshot) (settings : Settings) (room : Nat)
    (complete : Nat → snapshot.Cursor → Extract Unit) : Prop :=
  ∀ kept start index cursor, Ready snapshot room start →
    start.registry.find? cursor.identity = some index →
    start.registry.Shows index cursor.sighting →
    start.registry.Settled kept (index :: start.pending) →
    Proceeds snapshot start.pending start (complete index cursor) fun _ registry =>
      registry.Settled kept (index :: start.pending) ∧
        (index ∉ start.pending → registry.Supplied settings index cursor)

/-- Recording a cursor only advances, leaves symbols settled, finds the symbol and has
the cursor folded in. -/
def Records (snapshot : Snapshot) (room : Nat)
    (record : snapshot.Cursor → Extract (Option Nat)) : Prop :=
  ∀ kept start cursor, Ready snapshot room start → start.registry.Settled kept start.pending →
    Proceeds snapshot start.pending start (record cursor) fun symbol registry =>
      registry.Answers cursor symbol ∧ registry.Recorded cursor ∧
        registry.Settled kept start.pending

def Resolves (snapshot : Snapshot) (room : Nat)
    (resolve : snapshot.TypeRef → Extract Ty) : Prop :=
  ∀ kept start type, Ready snapshot room start → start.registry.Settled kept start.pending →
    Proceeds snapshot start.pending start (resolve type) fun resolved registry =>
      registry.Depicts type resolved ∧ registry.Settled kept start.pending

end Extract

end SymbolAtlas
