import SymbolAtlas.Proofs.Extract.Composition
import SymbolAtlas.Proofs.Extract.Trace

/-! The guard against completing a symbol while that is under way. Every step of recording
takes off the marks that it has put on, and fills no slot of a symbol that is marked. So
a slot is still empty when its detail has been resolved. All of this holds from any state,
for a step at any depth of the recursion. -/

namespace SymbolAtlas.Extract

open Snapshot

variable {α β : Type} {snapshot : Snapshot} {settings : Settings} {index : Nat} {spared : List Nat}
  {before between after start : Extraction} {resolve : snapshot.TypeRef → Extract Ty}

/-- From one state to another, the same symbols are pending, and no slot was filled of a
symbol that is spared. -/
structure Guarded (spared : List Nat) (before after : Extraction) : Prop where
  balanced : after.pending = before.pending
  filled : ∃ filled, before.registry.Fills after.registry filled ∧ ∀ index ∈ spared, index ∉ filled

private theorem Guarded.of_fills (balanced : after.pending = before.pending)
    (fills : before.registry.Fills after.registry []) : Guarded spared before after :=
  ⟨balanced, [], fills, fun _ _ => List.not_mem_nil⟩

theorem Guarded.refl (state : Extraction) : Guarded spared state state :=
  .of_fills rfl (.refl _)

theorem Guarded.trans (first : Guarded spared before between)
    (second : Guarded spared between after) : Guarded spared before after := by
  obtain ⟨balanced, filled, fills, kept⟩ := first
  obtain ⟨balanced', more, fills', kept'⟩ := second
  refine ⟨balanced'.trans balanced, filled ++ more, fills.trans fills', fun index member => ?_⟩
  rw [List.mem_append, not_or]
  exact ⟨kept index member, kept' index member⟩

private theorem Guarded.weaken {fewer : List Nat} (subset : fewer ⊆ spared)
    (guarded : Guarded spared before after) : Guarded fewer before after := by
  obtain ⟨balanced, filled, fills, kept⟩ := guarded
  exact ⟨balanced, filled, fills, fun index member => kept index (subset member)⟩

/-- A symbol that is spared has the same kind and the same detail afterwards. -/
theorem Guarded.spares (guarded : Guarded spared before after) (member : index ∈ spared)
    {symbol : Symbol} (present : before.registry.get? index = some symbol) :
    ∃ later, after.registry.get? index = some later ∧ later.kind = symbol.kind ∧
      later.detail = symbol.detail := by
  obtain ⟨-, filled, fills, kept⟩ := guarded
  obtain ⟨later, found, kind⟩ := fills.kinds index symbol present
  have same := fills.others index (kept index member)
  rw [Registry.slot?, Registry.slot?, found, present] at same
  exact ⟨later, found, kind, same⟩

/-- From every state, a step spares the symbols that are pending there. -/
def Guards (step : Extract α) : Prop :=
  ∀ start, Guarded start.pending start (runFrom start step).2

private theorem Guards.follow {step : Extract α} (guards : Guards step)
    (begun : Guarded start.pending start between) :
    Guarded start.pending start (runFrom between step).2 := by
  have rest := guards between
  rw [begun.balanced] at rest
  exact begun.trans rest

private theorem Guards.bind {step : Extract α} {next : α → Extract β} (first : Guards step)
    (rest : ∀ value, Guards (next value)) : Guards (step >>= next) := by
  intro start
  have begun := first start
  rw [runFrom_bind]
  revert begun
  cases runFrom start step with
  | mk outcome middle =>
    intro begun
    cases outcome with
    | error stop => exact begun
    | ok value => exact (rest value).follow begun

private theorem guards_tryRegistry {change : Registry → Option (Registry × α)}
    (quiet : ∀ registry later value, change registry = some (later, value) →
      registry.Fills later []) : Guards (tryRegistry change) := by
  intro start
  rw [runFrom_tryRegistry]
  cases changed : change start.registry with
  | none => exact .refl start
  | some made => exact .of_fills rfl (quiet start.registry made.1 made.2 changed)

private theorem guarded_register {identity : Identity} {symbol : Symbol}
    (waiting : symbol.detail = none) (fresh : start.registry.find? identity = none) :
    Guarded spared start (runFrom start (register identity symbol)).2 := by
  have ran : runFrom start (register identity symbol) =
      runFrom { start with log := start.log.push (.newSymbol symbol.kind identity) }
        (tryRegistry (·.add? identity symbol)) := rfl
  rw [ran, runFrom_tryRegistry, Registry.add?_fresh fresh]
  split
  · rename_i made
    split at made <;> cases made
    exact .of_fills rfl (.enter start.registry identity waiting)
  · exact .of_fills rfl (.refl _)

theorem guards_carries : Carries fun _ step => Guards step where
  pure _ start := .refl start
  throw _ start := .refl start
  bind := Guards.bind
  note _ _ start := .of_fills rfl (.refl start.registry)
  read _ _ start := .refl start
  change _ discreet start := .of_fills rfl (discreet.quiet start.registry)
  link edge := guards_tryRegistry fun registry later _ linked => by
    obtain ⟨_, added, ⟨⟩⟩ := Option.map_eq_some_iff.1 linked
    exact Registry.Fills.addReference? added
  make identity symbol known fresh waiting onKnown onFresh := by
    intro start
    rw [runFrom_read]
    cases absent : start.registry.find? identity with
    | some index => exact onKnown index start
    | none =>
      simp only
      rw [runFrom_bind]
      have made : Guarded start.pending start (runFrom start (register identity symbol)).2 :=
        guarded_register waiting absent
      revert made
      cases runFrom start (register identity symbol) with
      | mk outcome middle =>
        intro made
        cases outcome with
        | error stop => exact made
        | ok index => exact (onFresh index).follow made

/-- However a step ends well, its value is as described. -/
def Yields (step : Extract α) (post : α → Prop) : Prop :=
  ∀ start value final, runFrom start step = (.ok value, final) → post value

private theorem Yields.pure {post : α → Prop} {value : α} (holds : post value) :
    Yields (pure value) post := by
  rintro start _ final ⟨⟩
  exact holds

private theorem Yields.bind {step : Extract α} {next : α → Extract β} {post : β → Prop}
    (rest : ∀ value, Yields (next value) post) : Yields (step >>= next) post := by
  intro start value final ran
  rw [runFrom_bind] at ran
  split at ran
  · exact rest _ _ value final ran
  · cases ran

private theorem yields_detailOf (resolve : snapshot.TypeRef → Extract Ty) (settings : Settings)
    (kind : SymbolKind) (cursor : snapshot.Cursor) :
    Yields (detailOf resolve settings kind cursor) fun detail =>
      ∀ given, detail = some given → kind.admits given := by
  have members : ∀ keyword, Yields (membersOf resolve settings cursor) fun detail =>
      ∀ given, detail = some given → (SymbolKind.record keyword).admits given := by
    intro keyword
    unfold membersOf
    split
    · split
      · refine .bind fun fields => .pure ?_
        rintro _ ⟨⟩
        rfl
      · exact .pure (by simp)
    · exact .pure (by simp)
  unfold detailOf
  split
  · refine .bind fun result => .bind fun parameters => .pure ?_
    rintro _ ⟨⟩
    rfl
  · refine .bind fun aliased => .pure ?_
    rintro _ ⟨⟩
    rfl
  · exact members _
  · exact members _
  · exact .pure (by simp)

section Completion

variable {cursor : snapshot.Cursor} (guards : ∀ type, Guards (resolve type))

include guards

/-- A symbol that is pending still waits for the detail that has been resolved for it. -/
theorem awaits_of_detailOf {middle : Extraction} {symbol : Symbol} {detail : Detail}
    (own : index ∈ start.pending) (present : start.registry.get? index = some symbol)
    (waiting : symbol.detail = none)
    (ran : runFrom start (detailOf resolve settings symbol.kind cursor) =
      (.ok (some detail), middle)) :
    (middle.registry.get? index).any (·.awaits detail) ∧
      ∃ later, middle.registry.get? index = some later ∧ later.detail = none := by
  have step : Guards (detailOf resolve settings symbol.kind cursor) :=
    guards_carries.detailOf guards symbol.kind cursor
  have guarded := step start
  rw [ran] at guarded
  obtain ⟨later, found, kind, empty⟩ := guarded.spares own present
  have admitted := yields_detailOf resolve settings symbol.kind cursor start _ middle ran detail rfl
  refine ⟨?_, later, found, empty.trans waiting⟩
  simp [found, Symbol.awaits, kind, empty, waiting, admitted]

/-- Of the symbols that are pending, only the one that is completed may get its detail. -/
theorem completeKind_guarded (first : start.pending = index :: spared) (idle : index ∉ spared) :
    Guarded spared start (runFrom start (completeKind resolve settings index cursor)).2 := by
  have own : index ∈ start.pending := by simp [first]
  have others : spared ⊆ start.pending := by simp [first]
  unfold completeKind
  rw [runFrom_read]
  cases present : start.registry.get? index with
  | none => exact .refl start
  | some symbol =>
    cases waiting : symbol.detail with
    | some detail =>
      simp only [waiting, Option.isSome_some, if_true]
      exact .refl start
    | none =>
      simp only [waiting, Option.isSome_none, Bool.false_eq_true, if_false]
      have step : Guards (detailOf resolve settings symbol.kind cursor) :=
        guards_carries.detailOf guards symbol.kind cursor
      have resolved := (step start).weaken others
      rw [runFrom_bind]
      cases ran : runFrom start (detailOf resolve settings symbol.kind cursor) with
      | mk outcome middle =>
        rw [ran] at resolved
        cases outcome with
        | error stop => exact resolved
        | ok given =>
          cases given with
          | none => exact resolved
          | some detail =>
            obtain ⟨awaited, later, found, empty⟩ :=
              awaits_of_detailOf guards own present waiting ran
            let stored : Extraction := { middle with
              registry := (middle.registry.update index (·.fill detail)).markResolved index }
            have filled : Guarded spared middle stored :=
              ⟨rfl, [index], .fill found empty detail, by
                rintro other member rest
                cases List.mem_singleton.1 rest
                exact idle member⟩
            have linked := guards_carries.addReferences index detail.symbols stored
            have others : spared ⊆ stored.pending := resolved.balanced ▸ others
            simp only
            rw [runFrom_bind, runFrom_store awaited]
            exact (resolved.trans filled).trans (linked.weaken others)

end Completion

/-- Inside of the step, the symbol itself is not spared. -/
theorem guarded_whilePending {step : Extract α}
    (run : Guarded start.pending { start with pending := index :: start.pending }
      (runFrom { start with pending := index :: start.pending } step).2) :
    Guarded start.pending start (runFrom start (whilePending index step)).2 := by
  obtain ⟨balanced, filled⟩ := run
  rw [runFrom_whilePending]
  exact ⟨by simp [balanced], filled⟩

theorem guards_completeWithin (settings : Settings) (room index : Nat)
    (cursor : snapshot.Cursor) : Guards (completeWithin settings room index cursor) := by
  induction room generalizing index cursor with
  | zero =>
    intro start
    unfold completeWithin
    rw [runFrom_isPending]
    split <;> exact .refl start
  | succ room ih =>
    intro start
    unfold completeWithin
    rw [runFrom_isPending]
    by_cases busy : index ∈ start.pending
    · rw [List.contains_iff_mem.2 busy]
      exact .refl start
    · rw [if_neg (by simpa using busy)]
      exact guarded_whilePending (completeKind_guarded (guards_carries.resolveWith ih) rfl busy)

/-! Storing a detail has a branch for a slot that is not waiting for it. Nothing changes
when any other step stands in that branch, so it is never taken. -/

section Otherwise

variable (otherwise : snapshot.Cursor → Detail → Extract Unit)

def storeOr (index : Nat) (cursor : snapshot.Cursor) (detail : Detail) : Extract Unit := do
  if ((← registry).get? index).any (·.awaits detail) then
    changeRegistry fun registry => (registry.update index (·.fill detail)).markResolved index
  else otherwise cursor detail

def completeKindOr (resolve : snapshot.TypeRef → Extract Ty) (settings : Settings)
    (index : Nat) (cursor : snapshot.Cursor) : Extract Unit := do
  match (← registry).get? index with
  | none => return
  | some symbol =>
    if symbol.detail.isSome then return
    match ← detailOf resolve settings symbol.kind cursor with
    | none => return
    | some detail =>
      storeOr otherwise index cursor detail
      addReferences index detail.symbols

/-- Completion with another step in place of the reports that a detail was there before. -/
def completeWithinOr (settings : Settings) : Nat → Nat → snapshot.Cursor → Extract Unit
  | 0, index, _ => do
    if ← isPending index then return else throw .exhausted
  | room + 1, index, cursor => do
    if ← isPending index then return
    else
      whilePending index (completeKindOr otherwise
        (resolveWith (completeWithinOr settings room)) settings index cursor)

private theorem runFrom_completeKindOr (guards : ∀ type, Guards (resolve type))
    (cursor : snapshot.Cursor) (own : index ∈ start.pending) :
    runFrom start (completeKindOr otherwise resolve settings index cursor) =
      runFrom start (completeKind resolve settings index cursor) := by
  unfold completeKindOr completeKind
  rw [runFrom_read, runFrom_read]
  cases present : start.registry.get? index with
  | none => rfl
  | some symbol =>
    cases waiting : symbol.detail with
    | some detail => simp [waiting]
    | none =>
      simp only [waiting, Option.isSome_none, Bool.false_eq_true, if_false]
      rw [runFrom_bind, runFrom_bind]
      cases ran : runFrom start (detailOf resolve settings symbol.kind cursor) with
      | mk outcome middle =>
        cases outcome with
        | error stop => rfl
        | ok given =>
          cases given with
          | none => rfl
          | some detail =>
            obtain ⟨awaited, -⟩ := awaits_of_detailOf guards own present waiting ran
            have stored : runFrom middle (storeOr otherwise index cursor detail) =
                runFrom middle (store index cursor detail) := by
              rw [runFrom_store awaited, storeOr, runFrom_read, if_pos awaited]
              rfl
            simp only
            rw [runFrom_bind, runFrom_bind, stored]

theorem completeWithinOr_eq (settings : Settings) (room : Nat) :
    completeWithinOr otherwise settings room = completeWithin settings room := by
  induction room with
  | zero => rfl
  | succ room ih =>
    funext index cursor start
    change runFrom start (completeWithinOr otherwise settings (room + 1) index cursor) =
      runFrom start (completeWithin settings (room + 1) index cursor)
    rw [completeWithinOr, completeWithin, ih, runFrom_isPending, runFrom_isPending]
    split
    · rfl
    · have guards : ∀ type : snapshot.TypeRef,
          Guards (resolveWith (completeWithin settings room) type) :=
        guards_carries.resolveWith (guards_completeWithin settings room)
      rw [runFrom_whilePending, runFrom_whilePending,
        runFrom_completeKindOr otherwise guards cursor (List.mem_cons_self ..)]

end Otherwise

theorem Step.fills {spared : List Nat} {before after : Registry}
    (step : Step snapshot spared before after) : ∃ filled, before.Fills after filled := by
  cases step with
  | logged => exact ⟨[], .of_symbols rfl fun _ => rfl⟩
  | sighted cursor index => exact ⟨[], .of_core (before.core_sight index cursor.sighting)⟩
  | registered cursor kind parent => exact ⟨[], .enter before _ rfl⟩
  | completed cursor index symbol detail found present waiting =>
    exact ⟨[index], .settle present waiting detail⟩

end SymbolAtlas.Extract
