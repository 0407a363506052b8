import SymbolAtlas.Proofs.Extract.Blind
import SymbolAtlas.Proofs.Extract.Trace

/-! What a recorded symbol gets from its cursor. Recording a cursor completes the
symbol it finds or makes, with one exception: when recording the outer cursor has
made the symbol in the meantime, the cursor is only folded in. -/

namespace SymbolAtlas

open Snapshot

/-- Is there a symbol under an identity that has no detail? -/
def Registry.lacks (registry : Registry) (identity : Identity) : Bool :=
  ((registry.find? identity).bind registry.get?).any (·.detail.isNone)

private theorem Registry.lacks_of_core {one other : Registry} (same : one.core = other.core) :
    one.lacks = other.lacks := by
  funext identity
  have cored : ∀ registry : Registry, registry.core.lacks identity = registry.lacks identity := by
    intro registry
    unfold lacks
    rw [find?_core]
    cases registry.find? identity with
    | none => rfl
    | some index =>
      simp only [Option.bind_some, get?_core]
      cases registry.get? index <;> rfl
  rw [← cored one, same, cored other]

private theorem Registry.lacks_eq {registry : Registry} {identity : Identity} {index : Nat}
    {symbol : Symbol} (found : registry.find? identity = some index)
    (present : registry.get? index = some symbol) :
    registry.lacks identity = symbol.detail.isNone := by
  rw [lacks, found, Option.bind_some, present]
  rfl

private theorem Registry.lacks_of_fresh {registry : Registry} {identity : Identity}
    (fresh : registry.find? identity = none) : registry.lacks identity = false := by
  rw [lacks, fresh]
  rfl

namespace Extract

variable {snapshot : Snapshot} {settings : Settings} {index : Nat} {start middle : Extraction}
  {cursor : snapshot.Cursor}

/-- Does recording the outer cursor of a new cursor make its symbol, without a detail? -/
def overtaken (settings : Settings) (start : Extraction) (cursor : snapshot.Cursor) : Bool :=
  (start.registry.find? cursor.identity).isNone && cursor.outer?.any fun outer =>
    (runFrom start (record settings outer)).2.registry.lacks cursor.identity

theorem overtaken_of_known (known : start.registry.find? cursor.identity = some index) :
    overtaken settings start cursor = false := by
  rw [overtaken, known]
  rfl

private theorem registry_recordOuter (start : Extraction)
    (complete : Nat → snapshot.Cursor → Extract Unit) {outer : snapshot.Cursor}
    (nested : cursor.outer? = some outer) :
    (runFrom start (recordOuter complete cursor)).2.registry =
      (runFrom start (recordWith complete outer)).2.registry := by
  unfold recordOuter
  rw [nested]
  simp only
  rw [runFrom_bind]
  cases runFrom start (recordWith complete outer) with
  | mk outcome reached =>
    cases outcome with
    | error stop => rfl
    | ok symbol => cases symbol <;> rfl

/-- It shows in what recording the outer cursor leads to, from any state alike. -/
theorem overtaken_eq (alike : Alike middle start)
    (fresh : middle.registry.find? cursor.identity = none) :
    overtaken settings start cursor =
      (runFrom middle (recordOuter (complete settings) cursor)).2.registry.lacks
        cursor.identity := by
  rw [overtaken, ← Registry.find?_of_core alike.core, fresh]
  simp only [Option.isNone_none, Bool.true_and]
  cases nested : cursor.outer? with
  | none =>
    unfold recordOuter
    rw [nested]
    exact (Registry.lacks_of_fresh fresh).symm
  | some outer =>
    rw [registry_recordOuter middle _ nested]
    have reached := (record_blind settings outer middle start alike).2.core
    exact congrFun (Registry.lacks_of_core reached.symm) cursor.identity

/-- What recording a cursor makes of its symbol. A symbol that was overtaken is of a
kind that not every cursor supplies. -/
def Concludes (settings : Settings) (start : Extraction) (cursor : snapshot.Cursor)
    (symbol : Option Nat) (registry : Registry) : Prop :=
  ∀ index, symbol = some index → ∃ current, registry.get? index = some current ∧
    if overtaken settings start cursor then current.detail = none ∧ current.kind.isOwed = false
    else cursor.supplies settings current.kind → current.detail.isSome

private theorem concludes_of_supplied {registry : Registry}
    (found : registry.find? cursor.identity = some index)
    (supplied : registry.Supplied settings index cursor)
    (timely : overtaken settings start cursor = false) :
    Concludes settings start cursor (some index) registry := by
  rintro _ ⟨⟩
  obtain ⟨current, present⟩ := Registry.get?_of_lt (Registry.lt_size_of_find? found)
  refine ⟨current, present, ?_⟩
  rw [timely]
  exact supplied current present

private theorem recordUnder_concludes {kind : SymbolKind} {parent : Option Nat}
    (known : middle.registry.find? cursor.identity = some index)
    (settled : middle.registry.Settled start.registry.size [])
    (later : start.registry.size ≤ index)
    (agrees : overtaken settings start cursor = middle.registry.lacks cursor.identity) :
    Proceeds snapshot [] middle (recordUnder (complete settings) cursor kind parent)
      (Concludes settings start cursor) := by
  obtain ⟨symbol, present⟩ := Registry.get?_of_lt (Registry.lt_size_of_find? known)
  refine (recordUnder_known known).mono ?_
  rintro _ final - ⟨rfl, same⟩ _ ⟨⟩
  refine ⟨symbol.sight cursor.sighting, ?_, ?_⟩
  · rw [same, Registry.get?_update_self, present]
    rfl
  · have kept : (symbol.sight cursor.sighting).detail = symbol.detail := rfl
    have kind : (symbol.sight cursor.sighting).kind = symbol.kind := rfl
    rw [agrees, Registry.lacks_eq known present, kept, kind]
    cases waiting : symbol.detail with
    | some detail => exact fun _ => rfl
    | none =>
      refine ⟨rfl, ?_⟩
      by_contra owed
      have filled := settled index symbol later (List.not_mem_nil) present (by simpa using owed)
      rw [waiting] at filled
      cases filled

private theorem recordNew_concludes (idle : middle.pending = [])
    (same : middle.registry = start.registry) (alike : Alike middle start) {kind : SymbolKind}
    (named : cursor.part.isEmpty = false)
    (sort : cursor.symbolKind? = some kind)
    (fresh : middle.registry.find? cursor.identity = none) :
    Proceeds snapshot [] middle
      (do
        let parent ← recordOuter (complete settings) cursor
        recordUnder (complete settings) cursor kind parent)
      (Concludes settings start cursor) := by
  have settled : middle.registry.Settled start.registry.size middle.pending := by
    rw [same]
    exact Registry.settled_size _ _
  have outermost : Proceeds snapshot middle.pending middle (recordOuter (complete settings) cursor)
      fun parent registry => registry.Encloses cursor parent ∧
        registry.Settled start.registry.size middle.pending :=
    recordOuter_proceeds settled fun outer _ =>
      records_record settings _ middle outer (.idle idle) settled
  rw [idle] at outermost
  refine outermost.ran.bind fun parent enclosing onward done => ?_
  obtain ⟨led, enclosed, settled⟩ := done
  have idle : enclosing.pending = [] := onward.pending.trans idle
  have agrees : overtaken settings start cursor = enclosing.registry.lacks cursor.identity := by
    rw [led]
    exact overtaken_eq alike fresh
  cases found : enclosing.registry.find? cursor.identity with
  | some index =>
    have later := onward.grows.size_le_of_find? fresh found
    rw [same] at later
    exact recordUnder_concludes found settled later agrees
  | none =>
    rw [Registry.lacks_of_fresh found] at agrees
    rw [← idle] at settled ⊢
    refine (recordUnder_fresh (completes_completeWithin settings _) (.idle idle) settled named
      sort enclosed found).mono ?_
    rintro _ final - ⟨rfl, present, -, -, supplied⟩
    exact concludes_of_supplied present supplied agrees

/-- Recording a cursor supplies its symbol, unless the symbol is overtaken. -/
theorem record_concludes (settings : Settings) (idle : start.pending = [])
    (cursor : snapshot.Cursor) :
    Proceeds snapshot [] start (record settings cursor) (Concludes settings start cursor) := by
  cases named : cursor.part.isEmpty with
  | true =>
    rw [record, recordWith_of_isEmpty _ named]
    refine (report_proceeds cursor).bind fun _ reported _ _ => ?_
    refine (logUnresolved_proceeds named).bind fun _ logged _ _ => .pure ?_
    rintro _ ⟨⟩
  | false =>
    obtain ⟨kind, sort⟩ := Cursor.exists_symbolKind? named
    rw [record, recordWith_of_named _ named sort]
    refine (report_proceeds cursor).bind fun _ reported onward same => .read ?_
    have idle : reported.pending = [] := onward.pending.trans idle
    have alike : Alike reported start := ⟨by rw [same], onward.pending⟩
    cases known : reported.registry.find? cursor.identity with
    | none => exact recordNew_concludes idle same alike named sort known
    | some index =>
      have settled := (reported.registry.settled_size reported.pending).spare index
      rw [← idle]
      refine (revisit_proceeds (completes_completeWithin settings _) (.idle idle) settled
        known).mono ?_
      rintro _ final - ⟨rfl, found, -, -, supplied⟩
      refine concludes_of_supplied found (supplied (by simp [idle])) ?_
      exact overtaken_of_known (same ▸ known)

end Extract

end SymbolAtlas
