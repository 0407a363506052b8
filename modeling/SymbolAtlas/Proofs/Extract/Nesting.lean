import SymbolAtlas.Proofs.Extract.Visit

/-! How deep the calls of extraction nest. Recording, completing and resolving call each
other, and so do the levels of a walk. One round of them has its inner calls left open;
rounds put into each other a number of times run everything that nests no deeper. Such a
number is found here that does for a whole snapshot. -/

namespace SymbolAtlas

open Snapshot

variable {snapshot : Snapshot} {settings : Settings}

/-- Visiting a cursor, with recording left open. -/
def Walk.visitBy (record : snapshot.Cursor → Extract (Option Nat)) (settings : Settings)
    (descend : snapshot.Cursor → Walk Unit) (cursor : snapshot.Cursor) : Walk Unit := do
  if leavesOut settings cursor then
    Extract.note (.skipped cursor.kind cursor.spelling)
    modify Tally.skip
  else if cursor.kind = .fieldDecl then return
  else
    if cursor.isDeclaration || cursor.isDefinition then
      modify Tally.visit
      let _ ← record cursor
    if settings.walkScopes && cursor.kind.isScope then descend cursor

theorem Walk.visit_eq (settings : Settings) :
    @visit snapshot settings = visitBy (Extract.record settings) settings :=
  rfl

namespace Extract

/-- The functions of extraction that call each other. -/
structure Calls (snapshot : Snapshot) where
  record : snapshot.Cursor → Extract (Option Nat)
  complete : Nat → snapshot.Cursor → Extract Unit
  resolve : snapshot.TypeRef → Extract Ty
  children : Nat → snapshot.Cursor → Walk Unit

namespace Calls

/-- No call goes any further. -/
def exhausted : Calls snapshot where
  record _ := throw .exhausted
  complete _ _ := throw .exhausted
  resolve _ := throw .exhausted
  children _ _ := throw .exhausted

/-- The symbol around a cursor, which must have one unless it is at the top. -/
def enclosing (calls : Calls snapshot) (cursor : snapshot.Cursor) : Extract (Option Nat) :=
  if cursor.isTopLevel then return none
  else do
    let parent ←
      match cursor.parent? with
      | some parent => calls.record parent
      | none => pure none
    match parent with
    | some index => return some index
    | none => throw (.error (.missingParent cursor.spelling cursor.location))

/-- One round of calls. Each function is written with no bound of its own, except for the
walk, which minds how many levels down it is. -/
def round (settings : Settings) (calls : Calls snapshot) : Calls snapshot where
  record cursor := do
    report cursor
    if cursor.identity.isEmpty then
      logUnresolved cursor
      return none
    match (← registry).find? cursor.identity with
    | some index => revisit calls.complete index cursor
    | none =>
      match cursor.symbolKind? with
      | none =>
        logUnresolved cursor
        return none
      | some kind =>
        let parent ← calls.enclosing cursor
        recordUnder calls.complete cursor kind parent
  complete index cursor := do
    if ← isPending index then return
    else whilePending index (completeKind calls.resolve settings index cursor)
  resolve type :=
    match type.kind with
    | .invalid => return .absent
    | .unexposed => return .leaf type.qualifiers .unexposed
    | .elaborated => return .level type.qualifiers .elaborated (← calls.resolve type.named)
    | .pointer => return .level type.qualifiers .pointer (← calls.resolve type.pointee)
    | .lvalueReference =>
      return .level type.qualifiers .lvalueReference (← calls.resolve type.pointee)
    | .rvalueReference =>
      return .level type.qualifiers .rvalueReference (← calls.resolve type.pointee)
    | .record => return .leaf type.qualifiers (.record (← declaredSymbol calls.record type))
    | .enumeration =>
      return .leaf type.qualifiers (.enumeration (← declaredSymbol calls.record type))
    | .typedef =>
      return .leaf type.qualifiers
        (.typedef (← declaredSymbol calls.record type) type.typedefName)
    | .fundamental basic => return .leaf type.qualifiers (.fundamental basic)
    | .unknown code => throw (.error (.unmappedTypeKind code))
  children level parent :=
    parent.children.forM (Walk.visitBy calls.record settings fun scope =>
      if settings.maxDepth ≤ level + 1 then Walk.stayAbove settings scope
      else calls.children (level + 1) scope)

/-- Calls that nest at most so deep. -/
def nested (settings : Settings) : Nat → Calls snapshot
  | 0 => exhausted
  | depth + 1 => round settings (nested settings depth)

end Calls

section Matches

variable {α β : Type} {spared : List Nat} {room depth index : Nat} {start : Extraction}
  {cursor : snapshot.Cursor}

theorem runFrom_bind_congr {step other : Extract α} {next further : α → Extract β}
    {post : α → Registry → Prop} (first : runFrom start step = runFrom start other)
    (run : Proceeds snapshot spared start other post)
    (rest : ∀ value middle, Advances snapshot spared start middle → post value middle.registry →
      runFrom middle (next value) = runFrom middle (further value)) :
    runFrom start (step >>= next) = runFrom start (other >>= further) := by
  obtain ⟨advances, ends⟩ := run
  rw [runFrom_bind, runFrom_bind, first]
  revert advances ends
  cases runFrom start other with
  | mk outcome middle =>
    intro advances ends
    cases outcome with
    | error stop => rfl
    | ok value => exact rest value middle advances ends

theorem runFrom_bind_left {step other : Extract α} (next : α → Extract β)
    (first : runFrom start step = runFrom start other) :
    runFrom start (step >>= next) = runFrom start (other >>= next) := by
  rw [runFrom_bind, runFrom_bind, first]

/-- Two steps do the same wherever a completion may start. -/
def Matches (snapshot : Snapshot) (room : Nat) (step other : Extract α) : Prop :=
  ∀ start, Ready snapshot room start → runFrom start step = runFrom start other

/-- Two ways to complete symbols do the same to the symbols of cursors. -/
def CompletesMatch (snapshot : Snapshot) (room : Nat)
    (one other : Nat → snapshot.Cursor → Extract Unit) : Prop :=
  ∀ start index cursor, Ready snapshot room start →
    start.registry.find? cursor.identity = some index →
      runFrom start (one index cursor) = runFrom start (other index cursor)

section Recording

variable {one other : Nat → snapshot.Cursor → Extract Unit}
  (same : CompletesMatch snapshot room one other)

include same

private theorem revisit_matches (ready : Ready snapshot room start)
    (found : start.registry.find? cursor.identity = some index) :
    runFrom start (revisit one index cursor) = runFrom start (revisit other index cursor) := by
  have merging : Proceeds snapshot [] start (merge index cursor) _ := merge_proceeds found
  refine runFrom_bind_congr rfl merging fun _ merged onward _ => ?_
  exact runFrom_bind_left _
    (same merged index cursor (ready.advance onward) (onward.grows.find? found))

private theorem recordUnder_matches (ready : Ready snapshot room start) {kind : SymbolKind}
    {parent : Option Nat} (named : cursor.part.isEmpty = false)
    (sort : cursor.symbolKind? = some kind) (enclosed : start.registry.Encloses cursor parent) :
    runFrom start (recordUnder one cursor kind parent) =
      runFrom start (recordUnder other cursor kind parent) := by
  unfold recordUnder
  rw [runFrom_read, runFrom_read]
  cases fresh : start.registry.find? cursor.identity with
  | some index => rfl
  | none =>
    have entering : Proceeds snapshot [] start (register cursor.identity _) _ :=
      register_proceeds named sort fresh enclosed
    refine runFrom_bind_congr rfl entering ?_
    rintro _ entered onward ⟨rfl, made⟩
    refine revisit_matches same (ready.advance onward) ?_
    rw [made, Registry.find?_enter_self fresh]

end Recording

private theorem typedNames_matches {resolve further : snapshot.TypeRef → Extract Ty}
    (same : ∀ type, Matches snapshot room (resolve type) (further type))
    (resolves : Resolves snapshot room further) (cursors : List snapshot.Cursor) :
    Matches snapshot room (typedNames resolve cursors) (typedNames further cursors) := by
  intro start ready
  unfold typedNames
  induction cursors generalizing start with
  | nil => rfl
  | cons cursor cursors ih =>
    rw [List.mapM_cons, List.mapM_cons, bind_assoc, bind_assoc]
    have settled := start.registry.settled_size start.pending
    refine runFrom_bind_congr (same cursor.type start ready)
      (resolves _ start cursor.type ready settled) fun resolved middle onward _ => ?_
    rw [pure_bind, pure_bind]
    exact runFrom_bind_left _ (ih middle (ready.advance onward))

private theorem detailOf_matches {resolve further : snapshot.TypeRef → Extract Ty}
    (same : ∀ type, Matches snapshot room (resolve type) (further type))
    (resolves : Resolves snapshot room further) (kind : SymbolKind) (cursor : snapshot.Cursor) :
    Matches snapshot room (detailOf resolve settings kind cursor)
      (detailOf further settings kind cursor) := by
  intro start ready
  have names := typedNames_matches same resolves
  have members : runFrom start (membersOf resolve settings cursor) =
      runFrom start (membersOf further settings cursor) := by
    unfold membersOf
    split
    · split
      · exact runFrom_bind_left _ (names _ start ready)
      · rfl
    · rfl
  unfold detailOf
  split
  · have settled := start.registry.settled_size start.pending
    refine runFrom_bind_congr (same cursor.resultType start ready)
      (resolves _ start cursor.resultType ready settled) fun result middle onward _ => ?_
    exact runFrom_bind_left _ (names _ middle (ready.advance onward))
  · exact runFrom_bind_left _ (same _ start ready)
  · exact members
  · exact members
  · rfl

private theorem completeKind_matches {resolve further : snapshot.TypeRef → Extract Ty}
    (same : ∀ type, Matches snapshot room (resolve type) (further type))
    (resolves : Resolves snapshot room further) (index : Nat) (cursor : snapshot.Cursor) :
    Matches snapshot room (completeKind resolve settings index cursor)
      (completeKind further settings index cursor) := by
  intro start ready
  unfold completeKind
  rw [runFrom_read, runFrom_read]
  split
  · rfl
  · split
    · rfl
    · exact runFrom_bind_left _ (detailOf_matches same resolves _ cursor start ready)

end Matches

namespace Calls

variable {room depth : Nat}

/-- How deep the calls nest that complete a symbol, when that many more symbols can be
pending. In between, the calls go up to outer cursors and down the levels of a type. -/
def completionDepth (snapshot : Snapshot) (room : Nat) : Nat :=
  room * (snapshot.raw.types.size + snapshot.raw.cursors.size + 2) + 1

private theorem completionDepth_succ (snapshot : Snapshot) (room : Nat) :
    completionDepth snapshot (room + 1) =
      completionDepth snapshot room + snapshot.raw.types.size + snapshot.raw.cursors.size + 2 := by
  unfold completionDepth
  rw [Nat.succ_mul]
  omega

private theorem enclosing_matches {calls : Calls snapshot} {cursor : snapshot.Cursor}
    {start : Extraction} {complete : Nat → snapshot.Cursor → Extract Unit}
    (above : ∀ outer, cursor.outer? = some outer →
      runFrom start (calls.record outer) = runFrom start (recordWith complete outer)) :
    runFrom start (calls.enclosing cursor) = runFrom start (recordOuter complete cursor) := by
  unfold enclosing recordOuter
  rw [Cursor.isTopLevel_eq]
  cases nested : cursor.outer? with
  | none => rfl
  | some outer =>
    rw [(Cursor.outer?_eq_some.1 nested).1]
    exact runFrom_bind_left _ (above outer nested)

private theorem records_within (snapshot : Snapshot) (settings : Settings) (room : Nat) :
    Records snapshot room (recordWith (completeWithin settings room)) :=
  records_recordWith (completes_completeWithin settings room)

private theorem length_levels_of_wrapper {type : snapshot.TypeRef} {wrapper : Wrapper}
    (sort : type.kind.wrapper? = some wrapper) :
    type.levels.length = type.next.levels.length + 1 := by
  rw [TypeRef.levels_eq]
  cases own : type.index with
  | none =>
    rw [TypeRef.kind_of_index_eq_none own] at sort
    cases sort
  | some position => rfl

private theorem declaredSymbol_matches {record further : snapshot.Cursor → Extract (Option Nat)}
    (same : ∀ cursor, Matches snapshot room (record cursor) (further cursor))
    (type : snapshot.TypeRef) :
    Matches snapshot room (declaredSymbol record type) (declaredSymbol further type) := by
  intro start ready
  unfold declaredSymbol
  split
  · exact same _ start ready
  · rfl

section Round

variable
    (same : ∀ depth, completionDepth snapshot room ≤ depth →
      CompletesMatch snapshot room (nested settings depth).complete (completeWithin settings room))

include same

private theorem record_matches (cursor : snapshot.Cursor) (depth : Nat)
    (deep : cursor.lineage.length + completionDepth snapshot room ≤ depth) :
    Matches snapshot room ((nested settings depth).record cursor)
      (recordWith (completeWithin settings room) cursor) := by
  induction cursor using Cursor.outer_wellFounded.induction generalizing depth with
  | _ cursor above =>
    intro start ready
    have own : 0 < cursor.lineage.length := by
      rw [Cursor.lineage_eq]
      exact Nat.succ_pos _
    obtain ⟨depth, rfl⟩ : ∃ less, depth = less + 1 := ⟨depth - 1, by omega⟩
    have above : ∀ outer, cursor.outer? = some outer →
        Matches snapshot room ((nested settings depth).record outer)
          (recordWith (completeWithin settings room) outer) := by
      intro outer nested
      rw [Cursor.lineage_of_outer? nested, List.length_cons] at deep
      exact above outer nested depth (by omega)
    have completes : CompletesMatch snapshot room _ _ := same depth (by omega)
    rw [nested]
    cases named : cursor.part.isEmpty with
    | true =>
      have blank : cursor.identity.isEmpty := by rw [Cursor.isEmpty_identity, named]
      rw [recordWith_of_isEmpty _ named]
      simp only [round, blank, if_true]
    | false =>
      have filled : cursor.identity.isEmpty = false := by rw [Cursor.isEmpty_identity, named]
      obtain ⟨kind, sort⟩ := Cursor.exists_symbolKind? named
      rw [recordWith_of_named _ named sort]
      simp only [round, filled, sort, Bool.false_eq_true, if_false]
      have reporting : Proceeds snapshot start.pending start (report cursor) _ :=
        report_proceeds cursor
      refine runFrom_bind_congr rfl reporting fun _ reported onward _ => ?_
      have ready := ready.advance onward
      rw [runFrom_read, runFrom_read]
      cases known : reported.registry.find? cursor.identity with
      | some index => exact revisit_matches completes ready known
      | none =>
        -- the outer cursor may do anything in between, but its run is the same
        have settled := reported.registry.settled_size reported.pending
        have records := records_within snapshot settings room
        refine runFrom_bind_congr (enclosing_matches fun outer nested => above outer nested _ ready)
          (recordOuter_proceeds settled fun outer _ => records _ reported outer ready settled) ?_
        exact fun parent enclosing further done =>
          recordUnder_matches completes (ready.advance further) named sort done.1

private theorem resolve_matches (type : snapshot.TypeRef) (depth : Nat)
    (deep : type.levels.length + 1 + snapshot.raw.cursors.size + completionDepth snapshot room ≤
      depth) :
    Matches snapshot room ((nested settings depth).resolve type)
      (resolveWith (completeWithin settings room) type) := by
  induction type using TypeRef.next_induction generalizing depth with
  | invalid type invalid =>
    intro start ready
    obtain ⟨depth, rfl⟩ : ∃ less, depth = less + 1 := ⟨depth - 1, by omega⟩
    rw [resolveWith_eq, nested]
    simp only [round, TypeRef.kind_of_index_eq_none invalid]
  | valid type below =>
    intro start ready
    obtain ⟨depth, rfl⟩ : ∃ less, depth = less + 1 := ⟨depth - 1, by omega⟩
    -- a wrapping kind goes down one level, and a leaf records a cursor at most
    have below : ∀ wrapper, type.kind.wrapper? = some wrapper → runFrom start
        ((nested settings depth).resolve type.next) =
          runFrom start (resolveWith (completeWithin settings room) type.next) := by
      intro wrapper sort
      rw [length_levels_of_wrapper sort] at deep
      exact below depth (by omega) start ready
    have records : ∀ cursor, Matches snapshot room ((nested settings depth).record cursor) _ :=
      fun cursor => record_matches same cursor depth (by
        have whole := cursor.length_lineage_le
        omega)
    have declared := declaredSymbol_matches records type start ready
    rw [resolveWith_eq, nested]
    simp only [round]
    unfold TypeRef.next at below ⊢
    cases sort : type.kind with
    | invalid | unexposed | fundamental basic | unknown code => rfl
    | record | enumeration | typedef => exact runFrom_bind_left _ declared
    | elaborated | pointer | lvalueReference | rvalueReference =>
      rw [sort] at below
      exact runFrom_bind_left _ (below _ rfl)

end Round

private theorem complete_matches (settings : Settings) (room depth : Nat)
    (deep : completionDepth snapshot room ≤ depth) :
    CompletesMatch snapshot room (nested settings depth).complete
      (completeWithin settings room) := by
  -- the induction is on the room for nested completions; without room all is pending
  induction room generalizing depth with
  | zero =>
    intro start index cursor ready found
    obtain ⟨depth, rfl⟩ : ∃ less, depth = less + 1 :=
      ⟨depth - 1, by unfold completionDepth at deep; omega⟩
    have busy : start.pending.contains index := by simpa using ready.mem_pending found
    rw [nested]
    simp only [round, completeWithin]
    rw [runFrom_isPending, runFrom_isPending, busy]
    simp only [if_true]
  | succ room ih =>
    intro start index cursor ready found
    rw [completionDepth_succ] at deep
    obtain ⟨depth, rfl⟩ : ∃ less, depth = less + 1 := ⟨depth - 1, by omega⟩
    rw [nested]
    simp only [round, completeWithin]
    rw [runFrom_isPending, runFrom_isPending]
    by_cases busy : index ∈ start.pending
    · rw [List.contains_iff_mem.2 busy]
      simp only [if_true]
    · have idle : start.pending.contains index = false := by simpa using busy
      rw [idle]
      have same : ∀ type, Matches snapshot room ((nested settings depth).resolve type) _ :=
        fun type => resolve_matches ih type depth (by
          have whole := type.length_levels_le
          omega)
      have resolves := resolves_resolveWith (records_within snapshot settings room)
      simp only [Bool.false_eq_true, if_false]
      rw [runFrom_whilePending, runFrom_whilePending,
        completeKind_matches same resolves index cursor _ (ready.enter busy found)]

/-- Deep enough for recording any cursor while nothing is pending. -/
def recordDepth (snapshot : Snapshot) : Nat :=
  snapshot.raw.cursors.size + completionDepth snapshot snapshot.raw.cursors.size

theorem nested_record_matches (settings : Settings) {depth : Nat}
    (deep : recordDepth snapshot ≤ depth) (cursor : snapshot.Cursor) :
    Matches snapshot snapshot.raw.cursors.size ((nested settings depth).record cursor)
      (Extract.record settings cursor) := by
  refine record_matches (complete_matches settings snapshot.raw.cursors.size) cursor depth ?_
  have whole := cursor.length_lineage_le
  unfold recordDepth at deep
  omega

theorem nested_resolve_matches (settings : Settings) {depth : Nat}
    (deep : snapshot.raw.types.size + 1 + recordDepth snapshot ≤ depth)
    (type : snapshot.TypeRef) :
    Matches snapshot snapshot.raw.cursors.size ((nested settings depth).resolve type)
      (Extract.resolve settings type) := by
  refine resolve_matches (complete_matches settings snapshot.raw.cursors.size) type depth ?_
  have whole := type.length_levels_le
  unfold recordDepth at deep
  omega

end Calls

end Extract

end SymbolAtlas
