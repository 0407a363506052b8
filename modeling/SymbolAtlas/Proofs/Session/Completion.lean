import SymbolAtlas.Proofs.Extract.Completion
import SymbolAtlas.Proofs.Extract.Guard
import SymbolAtlas.Proofs.Session.History

/-! Which details a recorded symbol is sure to have, in every session, and which slots the
change log names: every slot that is filled, and that once, whatever has been recorded, has
failed or has been taken back before. -/

namespace SymbolAtlas

open Snapshot Extract

/-- A symbol's detail, if it has one, is of the sort that its kind has. -/
def Symbol.Fits (symbol : Symbol) : Prop :=
  ∀ detail, symbol.detail = some detail → symbol.kind.admits detail

namespace Symbol.Fits

variable {symbol : Symbol}

private theorem clear : symbol.clear.Fits :=
  fun _ filled => by cases filled

private theorem sight (fits : symbol.Fits) (sighting : Sighting) : (symbol.sight sighting).Fits :=
  fits

private theorem admitted (fits : symbol.Fits) (filled : symbol.detail.isSome) :
    ∃ detail, symbol.detail = some detail ∧ symbol.kind.admits detail := by
  obtain ⟨detail, stored⟩ := Option.isSome_iff_exists.1 filled
  exact ⟨detail, stored, fits detail stored⟩

private theorem signature (fits : symbol.Fits) {mangling : String}
    (sort : symbol.kind = .function mangling) (filled : symbol.detail.isSome) :
    ∃ result parameters, symbol.detail = some (.signature result parameters) := by
  obtain ⟨detail, stored, admitted⟩ := fits.admitted filled
  rw [sort] at admitted
  cases detail with
  | signature result parameters => exact ⟨result, parameters, stored⟩
  | members | underlying => cases admitted

private theorem underlying (fits : symbol.Fits) (sort : symbol.kind = .typedef)
    (filled : symbol.detail.isSome) : ∃ aliased, symbol.detail = some (.underlying aliased) := by
  obtain ⟨detail, stored, admitted⟩ := fits.admitted filled
  rw [sort] at admitted
  cases detail with
  | underlying aliased => exact ⟨aliased, stored⟩
  | members | signature => cases admitted

private theorem members (fits : symbol.Fits) {keyword : RecordKeyword}
    (sort : symbol.kind = .record keyword) (filled : symbol.detail.isSome) :
    ∃ fields, symbol.detail = some (.members fields) := by
  obtain ⟨detail, stored, admitted⟩ := fits.admitted filled
  rw [sort] at admitted
  cases detail with
  | members fields => exact ⟨fields, stored⟩
  | signature | underlying => cases admitted

end Symbol.Fits

private theorem Symbol.lasts_fits : Symbol.Lasts Symbol.Fits where
  made _ _ _ _ filled := by cases filled
  sight _ sighting fits := fits.sight sighting
  fill := by
    rintro symbol detail admitted fits _ ⟨⟩
    exact admitted
  clear _ _ := .clear

namespace Registry

variable {registry : Registry} {index : Nat}

def Fitting (registry : Registry) : Prop :=
  ∀ (index : Nat) (entry : Entry), registry.entries[index]? = some entry → entry.symbol.Fits

private theorem fitting_iff : registry.Fitting ↔ registry.Everywhere Symbol.Fits := by
  constructor
  · intro fitting index symbol present
    obtain ⟨entry, found, rfl⟩ := Option.map_eq_some_iff.1 present
    exact fitting index entry found
  · intro holds index entry found
    exact holds index entry.symbol (by rw [get?, found]; rfl)

private theorem Fitting.get? (fitting : registry.Fitting) {symbol : Symbol}
    (present : registry.get? index = some symbol) : symbol.Fits :=
  fitting_iff.1 fitting index symbol present

end Registry

private theorem Extract.Step.fitting {snapshot : Snapshot} {spared : List Nat}
    {before after : Registry} (step : Step snapshot spared before after)
    (fitting : before.Fitting) : after.Fitting :=
  Registry.fitting_iff.2 (step.everywhere Symbol.lasts_fits (Registry.fitting_iff.1 fitting))

namespace Session

private theorem fitting_run (operations : List Operation) : (run operations).registry.Fitting :=
  Registry.fitting_iff.2 (everywhere_run Symbol.lasts_fits operations)

/-- In every session, recording a cursor leaves a function with the signature and a
typedef with the type that the cursor declares. A record has its members unless
recording the outer cursor has made its symbol without them. -/
theorem details_given (operations : List Operation) (settings : Settings) (log : Array Event)
    {snapshot : Snapshot} (cursor : snapshot.Cursor) (index : Nat) (final : Extraction) :
    let start : Extraction := { registry := (run operations).registry, log }
    runFrom start (Extract.record settings cursor) = (.ok (some index), final) →
      ∃ symbol, final.registry.get? index = some symbol ∧
        (∀ mangling, symbol.kind = .function mangling → cursor.kind = .functionDecl →
          ∃ result parameters, symbol.detail = some (.signature result parameters)) ∧
        (symbol.kind = .typedef → cursor.kind = .typedefDecl →
          ∃ aliased, symbol.detail = some (.underlying aliased)) ∧
        (∀ keyword, settings.recordMembers → symbol.kind = .record keyword →
          cursor.kind = .structDecl ∨ cursor.kind = .classDecl → cursor.definition?.isSome →
            ((∃ fields, symbol.detail = some (.members fields)) ↔
              overtaken settings start cursor = false)) := by
  intro start recorded
  have run : Proceeds snapshot [] start (Extract.record settings cursor)
      (Concludes settings start cursor) := record_concludes settings rfl cursor
  obtain ⟨⟨steps, -⟩, ends⟩ := run
  rw [recorded] at steps ends
  obtain ⟨symbol, present, supplied⟩ := ends index rfl
  have fitting : final.registry.Fitting :=
    steps.keep (fun before after step => step.fitting) (fitting_run operations)
  have fits := fitting.get? present
  have owed : symbol.kind.isOwed → cursor.supplies settings symbol.kind → symbol.detail.isSome := by
    intro owed
    split at supplied
    · rw [supplied.2] at owed
      cases owed
    · exact supplied
  refine ⟨symbol, present, ?_, ?_, ?_⟩
  · intro mangling function declared
    refine fits.signature function (owed ?_ ?_)
    · rw [function]
      rfl
    · simp [Cursor.supplies, function, declared]
  · intro typedef declared
    refine fits.underlying typedef (owed ?_ ?_)
    · rw [typedef]
      rfl
    · simp [Cursor.supplies, typedef, declared]
  · intro keyword wanted structured declared defined
    have supplies : cursor.supplies settings symbol.kind := by
      rcases declared with declared | declared <;>
        simp [Cursor.supplies, structured, declared, wanted, defined]
    cases late : overtaken settings start cursor with
    | true =>
      rw [late] at supplied
      simp [supplied.1]
    | false =>
      rw [late] at supplied
      exact iff_of_true (fits.members structured (supplied supplies)) rfl

/-- A record in another one, declared first and then with a body. A field of the outer
one points to it by way of the first declaration. -/
def nested : Snapshot where
  raw := {
    mainFile := ⟨"m.c"⟩
    cursors := #[{ kind := .translationUnit, children := [1] },
      { RawCursor.named .structDecl "Outer" with
        isDefinition := true, semanticParent := some 0, children := [2, 3, 4] },
      { RawCursor.named .structDecl "Inner" with semanticParent := some 1 },
      { RawCursor.named .fieldDecl "p" with semanticParent := some 1, type := some 1 },
      { RawCursor.named .structDecl "Inner" with
        isDefinition := true, semanticParent := some 1, children := [5] },
      { RawCursor.named .fieldDecl "x" with semanticParent := some 4, type := some 2 }]
    types := #[{ kind := .code 105, declaration := some 2 },
      { kind := .code 101, pointee := some 0 }, { kind := .code 17 }] }
  checked := by rfl

def bodied : nested.Cursor :=
  ⟨4, by decide⟩

/-- Recording the declaration with the body first misses its members, since the outer
record leads to the other declaration. Recording it again fills them in. -/
theorem details_given_nested :
    let record (start : Extraction) := runFrom start (Extract.record {} bodied)
    let again : Extraction := { registry := (run [.record {} nested bodied]).registry }
    (∃ symbol, (record {}).2.registry.get? 1 = some symbol ∧
      ¬ ∃ fields, symbol.detail = some (.members fields)) ∧
    ∃ symbol, (record again).2.registry.get? 1 = some symbol ∧
      ∃ fields, symbol.detail = some (.members fields) := by
  intro record again
  have first : (record {}).1 = .ok (some 1) := by decide +kernel
  have second : (record again).1 = .ok (some 1) := by decide +kernel
  have kinds : ((record {}).2.registry.get? 1).map Symbol.kind = some (.record .structKeyword) ∧
      ((record again).2.registry.get? 1).map Symbol.kind = some (.record .structKeyword) := by
    decide +kernel
  have defined : bodied.definition?.isSome := by decide
  obtain ⟨symbol, present, -, -, members⟩ :=
    details_given [] {} #[] bodied 1 _ (Prod.ext first rfl)
  obtain ⟨other, stored, -, -, fields⟩ :=
    details_given [.record {} nested bodied] {} #[] bodied 1 _ (Prod.ext second rfl)
  refine ⟨⟨symbol, present, fun given => ?_⟩, other, stored, ?_⟩
  · have kind : symbol.kind = .record .structKeyword :=
      Option.some.inj ((congrArg (Option.map Symbol.kind) present).symm.trans kinds.1)
    have timely : overtaken {} {} bodied = false :=
      (members .structKeyword rfl kind (.inl rfl) defined).1 given
    have late : overtaken {} {} bodied = true := by decide +kernel
    rw [late] at timely
    cases timely
  · have kind : other.kind = .record .structKeyword :=
      Option.some.inj ((congrArg (Option.map Symbol.kind) stored).symm.trans kinds.2)
    exact (fields .structKeyword rfl kind (.inl rfl) defined).2 (by decide +kernel)

private theorem tallied_run (operations : List Operation) : (run operations).registry.Tallied := by
  refine run_keeps_core ?_ ?_ operations ?_
  · exact fun before after same _ tallied => tallied.onward (.of_core same)
  · exact .refl {}
  · intro _ _ snapshot _ before after step tallied
    obtain ⟨filled, fills⟩ := step.fills
    exact tallied.onward fills

/-- From every state, recording, resolving and completing fill no slot of a pending symbol; the
slots that they fill were empty and enter the change log, once each. What stands for the reports
that a detail was there makes no difference. In every session the log names exactly the slots
that are filled. -/
theorem slots_filled_once (operations : List Operation) :
    (∀ (settings : Settings) (snapshot : Snapshot) (room : Nat),
      (∀ cursor : snapshot.Cursor, Guards (recordWith (completeWithin settings room) cursor)) ∧
      (∀ type : snapshot.TypeRef, Guards (resolveWith (completeWithin settings room) type)) ∧
      (∀ index (cursor : snapshot.Cursor), Guards (completeWithin settings room index cursor)) ∧
      ∀ otherwise : snapshot.Cursor → Detail → Extract Unit,
        completeWithinOr otherwise settings room = completeWithin settings room) ∧
    let registry := (run operations).registry
    registry.resolved.Nodup ∧
      ∀ index, index ∈ registry.resolved ↔ (registry.slot? index).isSome := by
  refine ⟨fun settings snapshot room => ?_, ?_⟩
  · have completes : ∀ index (cursor : snapshot.Cursor),
        Guards (completeWithin settings room index cursor) := guards_completeWithin settings room
    exact ⟨guards_carries.recordWith completes, guards_carries.resolveWith completes, completes,
      fun otherwise => completeWithinOr_eq otherwise settings room⟩
  · have tallied := tallied_run operations
    exact ⟨tallied.distinct, fun _ => tallied.mem_iff⟩

end Session

end SymbolAtlas
