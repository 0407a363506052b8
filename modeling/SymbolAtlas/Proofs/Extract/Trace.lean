import SymbolAtlas.Proofs.Extract.Ready
import SymbolAtlas.Proofs.Extract.Recursion

/-! Recording, resolving and completing only take registry steps, and find what
they are asked for. The induction is on the room for nested completions, on outer
cursors for recording, and on the levels of a type for resolving. -/

namespace SymbolAtlas.Extract

open Snapshot

variable {snapshot : Snapshot} {settings : Settings} {room kept index : Nat}
  {start middle : Extraction} {cursor : snapshot.Cursor}
  {complete : Nat → snapshot.Cursor → Extract Unit}

theorem merge_proceeds {spared : List Nat}
    (found : start.registry.find? cursor.identity = some index) :
    Proceeds snapshot spared start (merge index cursor) fun _ registry =>
      registry = start.registry.update index (·.sight cursor.sighting) :=
  .change (.sighted cursor index found)

theorem revisit_proceeds (completes : Completes snapshot settings room complete)
    (ready : Ready snapshot room start)
    (settled : start.registry.Settled kept (index :: start.pending))
    (found : start.registry.find? cursor.identity = some index) :
    Proceeds snapshot start.pending start (revisit complete index cursor) fun symbol registry =>
      symbol = some index ∧ registry.find? cursor.identity = some index ∧
        registry.Shows index cursor.sighting ∧ registry.Settled kept (index :: start.pending) ∧
          (index ∉ start.pending → registry.Supplied settings index cursor) := by
  refine (merge_proceeds found).bind fun _ merged onward same => ?_
  have seen : merged.registry.Shows index cursor.sighting :=
    same ▸ Registry.shows_sight (Registry.lt_size_of_find? found) cursor.sighting
  have found := onward.grows.find? found
  have settled : merged.registry.Settled kept (index :: merged.pending) := by
    rw [onward.pending, same]
    exact settled.update (same ▸ onward.grows)
  have completed := completes kept merged index cursor (ready.advance onward) found seen settled
  rw [onward.pending] at completed
  exact completed.bind fun _ final further done =>
    .pure ⟨rfl, further.grows.find? found, seen.gather further.gathers, done⟩

theorem recordOuter_proceeds (settled : start.registry.Settled kept start.pending)
    (above : ∀ outer, cursor.outer? = some outer →
      Proceeds snapshot start.pending start (recordWith complete outer) fun symbol registry =>
        registry.Answers outer symbol ∧ registry.Recorded outer ∧
          registry.Settled kept start.pending) :
    Proceeds snapshot start.pending start (recordOuter complete cursor) fun parent registry =>
      registry.Encloses cursor parent ∧ registry.Settled kept start.pending := by
  unfold recordOuter
  cases nested : cursor.outer? with
  | none => exact .pure ⟨.top nested, settled⟩
  | some outer =>
    refine (above outer nested).bind fun symbol final onward answered => ?_
    cases symbol with
    | none => exact .fail rfl
    | some parent => exact .pure ⟨.scope nested answered.1, answered.2.2⟩

theorem register_proceeds {spared : List Nat} {kind : SymbolKind} {parent : Option Nat}
    (named : cursor.part.isEmpty = false) (sort : cursor.symbolKind? = some kind)
    (fresh : start.registry.find? cursor.identity = none)
    (enclosed : start.registry.Encloses cursor parent) :
    Proceeds snapshot spared start
      (register cursor.identity { part := cursor.part, kind, parent }) fun index registry =>
        index = start.registry.size ∧
          registry = start.registry.enter cursor.identity { part := cursor.part, kind, parent } := by
  refine (Proceeds.note _).bind fun _ noted _ same => ?_
  rw [← same] at fresh enclosed ⊢
  refine .tryChange (Registry.add?_eq_enter fresh ?_)
    (.registered cursor kind parent named fresh sort enclosed)
  rintro outer rfl
  exact enclosed.lt_size

theorem recordUnder_known {spared : List Nat} {kind : SymbolKind} {parent : Option Nat}
    (known : start.registry.find? cursor.identity = some index) :
    Proceeds snapshot spared start (recordUnder complete cursor kind parent)
      fun symbol registry =>
        symbol = some index ∧
          registry = start.registry.update index (·.sight cursor.sighting) := by
  refine .read ?_
  rw [known]
  exact (merge_proceeds known).bind fun _ _ _ same => .pure ⟨rfl, same⟩

theorem recordUnder_fresh (completes : Completes snapshot settings room complete)
    (ready : Ready snapshot room start) (settled : start.registry.Settled kept start.pending)
    {kind : SymbolKind} {parent : Option Nat} (named : cursor.part.isEmpty = false)
    (sort : cursor.symbolKind? = some kind) (enclosed : start.registry.Encloses cursor parent)
    (fresh : start.registry.find? cursor.identity = none) :
    Proceeds snapshot start.pending start (recordUnder complete cursor kind parent)
      fun symbol registry =>
        symbol = some start.registry.size ∧
          registry.find? cursor.identity = some start.registry.size ∧
            registry.Shows start.registry.size cursor.sighting ∧
              registry.Settled kept start.pending ∧
                registry.Supplied settings start.registry.size cursor := by
  refine .read ?_
  rw [fresh]
  refine (register_proceeds named sort fresh enclosed).bind fun index entered onward made => ?_
  obtain ⟨rfl, same⟩ := made
  have found : entered.registry.find? cursor.identity = some start.registry.size := by
    rw [same, Registry.find?_enter_self fresh]
  have settled : entered.registry.Settled kept (start.registry.size :: entered.pending) := by
    rw [same, onward.pending]
    exact settled.enter _ _
  have visited := revisit_proceeds completes (ready.advance onward) settled found
  rw [onward.pending] at visited
  refine visited.mono fun symbol final further done => ?_
  obtain ⟨answered, found, seen, settled, supplied⟩ := done
  have idle : start.registry.size ∉ start.pending := fun member =>
    Nat.lt_irrefl _ (ready.lt_size member)
  refine ⟨answered, found, seen, ?_, supplied idle⟩
  -- the new symbol has a kind that its own cursor supplies
  intro position current high spared present owed
  by_cases new : position = start.registry.size
  · subst new
    refine supplied idle current present ?_
    have own : entered.registry.get? start.registry.size =
        some { part := cursor.part, kind, parent } := by
      rw [same, Registry.get?_enter, if_pos rfl]
    obtain ⟨later, present', growth⟩ := further.grows.get? own
    rw [present] at present'
    cases present'
    rw [growth.kind] at owed ⊢
    exact cursor.supplies_of_isOwed settings sort owed
  · exact settled position current high (by simpa using ⟨new, spared⟩) present owed

private theorem recordUnder_proceeds (completes : Completes snapshot settings room complete)
    (ready : Ready snapshot room start) (settled : start.registry.Settled kept start.pending)
    {kind : SymbolKind} {parent : Option Nat} (named : cursor.part.isEmpty = false)
    (sort : cursor.symbolKind? = some kind) (enclosed : start.registry.Encloses cursor parent) :
    Proceeds snapshot start.pending start (recordUnder complete cursor kind parent)
      fun symbol registry =>
        registry.Answers cursor symbol ∧ registry.Recorded cursor ∧
          registry.Settled kept start.pending := by
  cases known : start.registry.find? cursor.identity with
  | some index =>
    refine (recordUnder_known known).mono fun symbol final onward done => ?_
    obtain ⟨rfl, same⟩ := done
    have found := onward.grows.find? known
    have seen : final.registry.Shows index cursor.sighting :=
      same ▸ Registry.shows_sight (Registry.lt_size_of_find? known) cursor.sighting
    refine ⟨.known named found, fun _ => ⟨index, found, seen⟩, ?_⟩
    rw [same]
    exact settled.update (same ▸ onward.grows)
  | none =>
    refine (recordUnder_fresh completes ready settled named sort enclosed known).mono ?_
    rintro symbol final - ⟨rfl, found, seen, settled, -⟩
    exact ⟨.known named found, fun _ => ⟨_, found, seen⟩, settled⟩

theorem report_proceeds {spared : List Nat} (cursor : snapshot.Cursor) :
    Proceeds snapshot spared start (report cursor) fun _ registry => registry = start.registry :=
  .notes _

theorem logUnresolved_proceeds {spared : List Nat} (empty : cursor.part.isEmpty) :
    Proceeds snapshot spared start (logUnresolved cursor) fun _ registry =>
      registry = start.registry.logUnresolved cursor.spelling cursor.location := by
  refine (Proceeds.note _).bind fun _ noted _ same => ?_
  rw [← same]
  exact .change (.logged cursor empty)

theorem records_recordWith (completes : Completes snapshot settings room complete) :
    Records snapshot room (recordWith complete) := by
  intro kept start cursor ready settled
  -- the start is general: the outer cursor is recorded after the reports
  induction cursor using Cursor.outer_wellFounded.induction generalizing start with
  | _ cursor above =>
    cases named : cursor.part.isEmpty with
    | true =>
      rw [recordWith_of_isEmpty complete named]
      refine (report_proceeds cursor).bind fun _ reported _ same => ?_
      refine (logUnresolved_proceeds named).bind fun _ logged onward appended => ?_
      refine .pure ⟨.unnamed named, fun filled => ?_, ?_⟩
      · rw [named] at filled
        cases filled
      · rw [appended, same]
        exact settled
    | false =>
      obtain ⟨kind, sort⟩ := Cursor.exists_symbolKind? named
      rw [recordWith_of_named complete named sort]
      refine (report_proceeds cursor).bind fun _ reported onward same => .read ?_
      have ready := ready.advance onward
      rw [← same, ← onward.pending] at settled
      rw [← onward.pending]
      cases known : reported.registry.find? cursor.identity with
      | some index =>
        have inside := Registry.lt_size_of_find? known
        refine (revisit_proceeds completes ready (settled.spare index) known).mono ?_
        rintro symbol final further ⟨rfl, found, seen, rest, -⟩
        exact ⟨.known named found, fun _ => ⟨index, found, seen⟩,
          settled.of_cons further.grows inside rest⟩
      | none =>
        have outermost := recordOuter_proceeds settled fun outer nested =>
          above outer nested reported ready settled
        refine outermost.bind fun parent enclosing further done => ?_
        rw [← further.pending] at done ⊢
        exact recordUnder_proceeds completes (ready.advance further) done.2 named sort done.1

private theorem declaredSymbol_proceeds {record : snapshot.Cursor → Extract (Option Nat)}
    (records : Records snapshot room record) (ready : Ready snapshot room start)
    (settled : start.registry.Settled kept start.pending) (type : snapshot.TypeRef) :
    Proceeds snapshot start.pending start (declaredSymbol record type) fun symbol registry =>
      registry.Declares type symbol ∧ registry.Settled kept start.pending := by
  unfold declaredSymbol
  cases declared : type.declaration? with
  | none =>
    refine (Proceeds.note _).bind fun _ noted _ same => .pure ⟨.missing declared, ?_⟩
    rw [same]
    exact settled
  | some declaration =>
    exact (records kept start declaration ready settled).mono fun symbol _ _ done =>
      ⟨.present declared done.1, done.2.2⟩

private theorem level_proceeds {wrapper : Wrapper} {type : snapshot.TypeRef}
    (sort : type.kind.wrapper? = some wrapper)
    (below : Proceeds snapshot start.pending start (resolveWith complete type.next)
      fun resolved registry =>
        registry.Depicts type.next resolved ∧ registry.Settled kept start.pending) :
    Proceeds snapshot start.pending start
      (do return .level type.qualifiers wrapper (← resolveWith complete type.next))
      fun resolved registry =>
        registry.Depicts type resolved ∧ registry.Settled kept start.pending :=
  below.bind fun _ _ _ done => .pure ⟨.level sort done.1, done.2⟩

private theorem leaf_proceeds {type : snapshot.TypeRef} {leaf : Option Nat → Leaf}
    (records : Records snapshot room (recordWith complete)) (ready : Ready snapshot room start)
    (settled : start.registry.Settled kept start.pending)
    (ends : ∀ (registry : Registry) symbol, registry.Declares type symbol →
      registry.EndsIn type (leaf symbol)) :
    Proceeds snapshot start.pending start
      (do return .leaf type.qualifiers (leaf (← declaredSymbol (recordWith complete) type)))
      fun resolved registry =>
        registry.Depicts type resolved ∧ registry.Settled kept start.pending :=
  (declaredSymbol_proceeds records ready settled type).bind fun symbol final _ done =>
    .pure ⟨.leaf (ends final.registry symbol done.1), done.2⟩

theorem resolves_resolveWith (records : Records snapshot room (recordWith complete)) :
    Resolves snapshot room (resolveWith complete) := by
  intro kept start type ready settled
  induction type using TypeRef.next_induction with
  | invalid type invalid =>
    rw [resolveWith_eq, TypeRef.kind_of_index_eq_none invalid]
    exact .pure ⟨.absent (TypeRef.kind_of_index_eq_none invalid), settled⟩
  | valid type below =>
    rw [resolveWith_eq]
    cases sort : type.kind with
    | invalid => exact .pure ⟨.absent sort, settled⟩
    | unexposed => exact .pure ⟨.leaf (.unexposed sort), settled⟩
    | elaborated | pointer | lvalueReference | rvalueReference =>
      exact level_proceeds (by rw [sort]; rfl) below
    | record => exact leaf_proceeds records ready settled fun _ _ => .record sort
    | enumeration => exact leaf_proceeds records ready settled fun _ _ => .enumeration sort
    | typedef => exact leaf_proceeds records ready settled fun _ _ => .typedef sort
    | fundamental basic => exact .pure ⟨.leaf (.fundamental sort), settled⟩
    | unknown code => exact .fail rfl

private theorem typedNames_proceeds {resolve : snapshot.TypeRef → Extract Ty}
    (resolves : Resolves snapshot room resolve) (ready : Ready snapshot room start)
    (settled : start.registry.Settled kept start.pending) (cursors : List snapshot.Cursor) :
    Proceeds snapshot start.pending start (typedNames resolve cursors) fun items registry =>
      registry.Lists cursors items ∧ registry.Settled kept start.pending := by
  refine .mapM cursors (fun _ _ _ _ grown same => ⟨same.1, grown.depicts same.2⟩) ?_ settled
  intro cursor middle onward settled
  rw [← onward.pending] at settled ⊢
  refine (resolves kept middle cursor.type (ready.advance onward) settled).bind ?_
  exact fun resolved final _ done => .pure ⟨⟨rfl, done.1⟩, done.2⟩

private theorem membersOf_proceeds {resolve : snapshot.TypeRef → Extract Ty}
    (resolves : Resolves snapshot room resolve) (ready : Ready snapshot room start)
    (settled : start.registry.Settled kept start.pending) (keyword : RecordKeyword)
    (sort : cursor.kind = .structDecl ∨ cursor.kind = .classDecl) :
    Proceeds snapshot start.pending start (membersOf resolve settings cursor)
      fun detail registry =>
        (detail.isNone → cursor.supplies settings (.record keyword) = false) ∧
          (∀ given, detail = some given → registry.Portrays cursor (.record keyword) given) ∧
            registry.Settled kept start.pending := by
  rw [Cursor.supplies_record settings keyword sort]
  unfold membersOf
  cases wanted : settings.recordMembers with
  | false => exact .pure ⟨by simp, by simp, settled⟩
  | true =>
    cases defined : cursor.definition? with
    | none => exact .pure ⟨by simp, by simp, settled⟩
    | some definition =>
      refine (typedNames_proceeds resolves ready settled _).bind fun fields final _ listed => ?_
      refine .pure ⟨by simp, ?_, listed.2⟩
      rintro _ ⟨⟩
      exact .members sort defined listed.1

private theorem detailOf_proceeds {resolve : snapshot.TypeRef → Extract Ty}
    (resolves : Resolves snapshot room resolve) (ready : Ready snapshot room start)
    (settled : start.registry.Settled kept start.pending) (kind : SymbolKind) :
    Proceeds snapshot start.pending start (detailOf resolve settings kind cursor)
      fun detail registry =>
        (detail.isNone → cursor.supplies settings kind = false) ∧
          (∀ given, detail = some given → registry.Portrays cursor kind given) ∧
            registry.Settled kept start.pending := by
  unfold detailOf
  split
  · rename_i sort
    refine (resolves kept start cursor.resultType ready settled).bind ?_
    intro result returned onward done
    have settled := done.2
    rw [← onward.pending] at settled ⊢
    refine (typedNames_proceeds resolves (ready.advance onward) settled _).bind ?_
    intro parameters final further listed
    refine .pure ⟨by simp, ?_, listed.2⟩
    rintro _ ⟨⟩
    exact .signature sort (further.grows.depicts done.1) listed.1
  · rename_i sort
    refine (resolves kept start cursor.underlyingType ready settled).bind ?_
    intro aliased final onward done
    refine .pure ⟨by simp, ?_, done.2⟩
    rintro _ ⟨⟩
    exact .underlying sort done.1
  · rename_i keyword sort
    exact membersOf_proceeds resolves ready settled keyword (.inl sort)
  · rename_i keyword sort
    exact membersOf_proceeds resolves ready settled keyword (.inr sort)
  · rename_i noSignature noAlias noStruct noClass
    refine .pure ⟨fun _ => ?_, by simp, settled⟩
    unfold Cursor.supplies
    split <;> simp_all

theorem runFrom_store {detail : Detail}
    (awaited : (start.registry.get? index).any (·.awaits detail)) :
    runFrom start (store index cursor detail) = (.ok (), { start with
      registry := (start.registry.update index (·.fill detail)).markResolved index }) := by
  unfold store
  rw [runFrom_read, if_pos awaited]
  rfl

private theorem store_proceeds {rest : List Nat} {symbol : Symbol} {detail : Detail}
    (found : start.registry.find? cursor.identity = some index)
    (present : start.registry.get? index = some symbol) (waiting : symbol.detail = none)
    (idle : index ∉ rest) (portrayed : start.registry.Portrays cursor symbol.kind detail)
    (seen : start.registry.Shows index cursor.sighting) :
    Proceeds snapshot rest start
      (do store index cursor detail; addReferences index detail.symbols)
      fun _ registry => registry = start.registry.settle index detail := by
  have awaited : (start.registry.get? index).any (·.awaits detail) := by
    rw [present]
    simpa [Symbol.awaits, waiting] using portrayed.admits
  have linked : runFrom start (do store index cursor detail; addReferences index detail.symbols) =
      (.ok (), { start with registry := start.registry.settle index detail }) := by
    rw [runFrom_bind, runFrom_store awaited]
    refine runFrom_addReferences detail.symbols ?_ fun target mentioned => ?_
    · simpa using Registry.lt_size_of_find? found
    · simpa using portrayed.lt_size target mentioned
  exact .of_run linked
    ⟨.single (.completed cursor index symbol detail found present waiting idle portrayed seen),
      rfl⟩ rfl

private theorem completeKind_proceeds {resolve : snapshot.TypeRef → Extract Ty} {rest : List Nat}
    (resolves : Resolves snapshot room resolve) (ready : Ready snapshot room start)
    (first : start.pending = index :: rest)
    (found : start.registry.find? cursor.identity = some index)
    (seen : start.registry.Shows index cursor.sighting)
    (settled : start.registry.Settled kept (index :: rest)) :
    Proceeds snapshot rest start (completeKind resolve settings index cursor) fun _ registry =>
      registry.Settled kept (index :: rest) ∧ registry.Supplied settings index cursor := by
  refine .read ?_
  obtain ⟨symbol, present⟩ := Registry.get?_of_lt (Registry.lt_size_of_find? found)
  rw [present]
  cases waiting : symbol.detail with
  | some detail =>
    simp only [waiting, Option.isSome_some, if_true]
    exact .pure ⟨settled, Registry.supplied_of_filled present (by rw [waiting]; rfl)⟩
  | none =>
    simp only [waiting, Option.isSome_none, Bool.false_eq_true, if_false]
    have subset : rest ⊆ start.pending := by
      rw [first]
      exact List.subset_cons_self index rest
    have idle : index ∉ rest := by
      have distinct := ready.distinct
      rw [first] at distinct
      exact (List.nodup_cons.1 distinct).1
    rw [← first] at settled ⊢
    have own : index ∈ start.pending := by simp [first]
    -- nothing fills the symbol while it is pending
    refine (((detailOf_proceeds resolves ready settled symbol.kind).spare own present).weaken
      subset).bind fun detail final onward done => ?_
    obtain ⟨⟨later, present, kind, empty⟩, missing, portrays, settled⟩ := done
    have waiting : later.detail = none := empty.trans waiting
    have found := onward.grows.find? found
    cases detail with
    | none =>
      have lacking := missing rfl
      rw [← kind] at lacking
      exact .pure ⟨settled, Registry.supplied_of_supplies present lacking⟩
    | some detail =>
      have portrayed := portrays detail rfl
      rw [← kind] at portrayed
      have seen := seen.gather onward.gathers
      refine (store_proceeds found present waiting idle portrayed seen).mono fun _ _ _ same => ?_
      rw [same]
      exact ⟨settled.settle (Registry.grows_settle present waiting detail),
        Registry.supplied_settle present detail⟩

theorem completes_completeWithin (settings : Settings) (room : Nat) :
    Completes snapshot settings room (completeWithin settings room) := by
  induction room with
  | zero =>
    -- all cursors' symbols are pending, so there is nothing left to complete
    intro kept start index cursor ready found seen settled
    have busy : start.pending.contains index := by simpa using ready.mem_pending found
    refine .readPending ?_
    rw [busy]
    exact .pure ⟨settled, fun idle => absurd (ready.mem_pending found) idle⟩
  | succ room ih =>
    intro kept start index cursor ready found seen settled
    refine .readPending ?_
    by_cases busy : index ∈ start.pending
    · rw [List.contains_iff_mem.2 busy]
      exact .pure ⟨settled, fun idle => absurd busy idle⟩
    · have idle : start.pending.contains index = false := by simpa using busy
      rw [idle]
      refine .whilePending (.mono (completeKind_proceeds (resolves_resolveWith
        (records_recordWith ih)) (ready.enter busy found) rfl found seen settled) ?_)
      exact fun _ _ _ done => ⟨done.1, fun _ => done.2⟩

theorem Ready.idle (idle : start.pending = []) :
    Ready snapshot snapshot.raw.cursors.size start :=
  ⟨by simp [idle], by simp [idle], by simp⟩

theorem records_record (settings : Settings) :
    Records snapshot snapshot.raw.cursors.size (record settings) :=
  records_recordWith (completes_completeWithin settings _)

theorem record_proceeds (settings : Settings) (cursor : snapshot.Cursor)
    (idle : start.pending = []) :
    Proceeds snapshot [] start (record settings cursor) fun symbol registry =>
      registry.Answers cursor symbol := by
  have recorded := records_record settings start.registry.size start cursor (.idle idle)
    (Registry.settled_size _ _)
  rw [idle] at recorded
  exact recorded.mono fun _ _ _ done => done.1

theorem resolves_resolve (settings : Settings) :
    Resolves snapshot snapshot.raw.cursors.size (resolve settings) :=
  resolves_resolveWith (records_record settings)

end SymbolAtlas.Extract
