import SymbolAtlas.Proofs.Snapshot.WellFormed
import SymbolAtlas.Snapshot.Builder

/-! The calls of a builder, with what they answer, and what each of them does to the data:
it declares a cursor, edits one, or adds a type. -/

namespace SymbolAtlas

section Kinds

private theorem TypeKind.resolve?_fundamental (type : Fundamental) :
    (TypeKind.fundamental type).written.resolve? = some (.fundamental type) := by
  have listed : ∀ type ∈ Fundamental.all,
      TypeKind.ofName? type.name = some (.fundamental type) := by decide +kernel
  exact listed type type.mem_all

/-- A kind that a number stands for is read back, also one that is not known. -/
theorem TypeKind.resolve?_ofCode (code : Int32) :
    (ofCode code).written.resolve? = some (ofCode code) := by
  have composite : ∀ row ∈ compositeCodes, row.2.written.resolve? = some row.2 := by decide
  cases found : compositeCodes.lookup code with
  | some kind =>
    obtain ⟨before, after, whole, -⟩ := List.lookup_eq_some_iff.1 found
    rw [ofCode, found]
    exact composite (code, kind) (by rw [whole]; simp)
  | none =>
    cases known : Fundamental.ofCode? code with
    | some type =>
      have own : ofCode code = .fundamental type := by simp [ofCode, found, known]
      rw [own]
      exact resolve?_fundamental type
    | none =>
      have own : ofCode code = .unknown code := by simp [ofCode, found, known]
      rw [own, written, WrittenKind.resolve?, own]

end Kinds

namespace SnapshotBuilder

/-- A call of a builder, which names cursors and types by their indices. -/
inductive Call where
  | declare (parent : Nat) (kind : CursorKind) (name : String)
  | argument (function : Nat) (name : String) (type : Nat)
  | field (record : Nat) (name : String) (type : Nat)
  | define (cursor : Nat)
  | linkDefinition (declaration definition : Nat)
  | locate (cursor : Nat) (location : Location)
  | comment (cursor : Nat) (brief raw : String)
  | setType (cursor type : Nat)
  | setResultType (cursor type : Nat)
  | setUnderlyingType (cursor type : Nat)
  | fundamental (type : Fundamental)
  | unexposed
  | codedType (code : Int32)
  | pointerTo (pointee : Nat)
  | lvalueReferenceTo (pointee : Nat)
  | rvalueReferenceTo (pointee : Nat)
  | elaborated (named : Nat)
  | recordType (declaration : Nat)
  | enumerationType (declaration : Nat)
  | typedefType (declaration : Nat) (name : String)
  | qualified (type : Nat) (isConst isVolatile : Bool)
deriving DecidableEq, Repr

inductive Answer where
  | cursor (index : Nat)
  | type (index : Nat)
  | nothing
deriving DecidableEq, Repr

namespace Call

/-- The cursor under which a cursor is declared. -/
def parent? : Call → Option Nat
  | declare parent _ _ => some parent
  | argument function _ _ => some function
  | field record _ _ => some record
  | _ => none

/-- The function that gets an argument. -/
def function? : Call → Option Nat
  | argument function _ _ => some function
  | _ => none

def relocated? : Call → Option Nat
  | locate cursor _ => some cursor
  | _ => none

def cursors : Call → List Nat
  | declare cursor _ _ | argument cursor _ _ | field cursor _ _ | define cursor | locate cursor _
  | comment cursor _ _ | setType cursor _ | setResultType cursor _ | setUnderlyingType cursor _
  | recordType cursor | enumerationType cursor | typedefType cursor _ => [cursor]
  | linkDefinition declaration definition => [declaration, definition]
  | _ => []

def types : Call → List Nat
  | argument _ _ type | field _ _ type | setType _ type | setResultType _ type
  | setUnderlyingType _ type | pointerTo type | lvalueReferenceTo type | rvalueReferenceTo type
  | elaborated type | qualified type _ _ => [type]
  | _ => []

/-- The kind that a new type is asked to have. A copy has that of the copied type. -/
def kind? (kindAt : Nat → Option TypeKind) : Call → Option TypeKind
  | fundamental type => some (.fundamental type)
  | unexposed => some .unexposed
  | codedType code => some (.ofCode code)
  | pointerTo _ => some .pointer
  | lvalueReferenceTo _ => some .lvalueReference
  | rvalueReferenceTo _ => some .rvalueReference
  | elaborated _ => some .elaborated
  | recordType _ => some .record
  | enumerationType _ => some .enumeration
  | typedefType _ _ => some .typedef
  | qualified type _ _ => kindAt type
  | _ => none

theorem parent?_of_function? {call : Call} {function : Nat}
    (own : call.function? = some function) : call.parent? = some function := by
  cases call <;> first | exact own | cases own

theorem function?_eq_none {call : Call} (apart : call.parent? = none) :
    call.function? = none := by
  cases own : call.function? with
  | none => rfl
  | some function =>
    rw [parent?_of_function? own] at apart
    cases apart

/-- A kind that is known stays the same when more kinds get known. -/
theorem kind?_mono {call : Call} {kindAt later : Nat → Option TypeKind} {kind : TypeKind}
    (known : ∀ index kind, kindAt index = some kind → later index = some kind)
    (asked : call.kind? kindAt = some kind) : call.kind? later = some kind := by
  cases call with
  | qualified type => exact known type kind asked
  | _ => exact asked

end Call

section Answers

def answersCursor : SnapshotBuilder × Nat → SnapshotBuilder × Answer :=
  Prod.map id Answer.cursor

def answersType : SnapshotBuilder × Nat → SnapshotBuilder × Answer :=
  Prod.map id Answer.type

def answersNothing (builder : SnapshotBuilder) : SnapshotBuilder × Answer :=
  (builder, .nothing)

end Answers

def call? (builder : SnapshotBuilder) : Call → Option (SnapshotBuilder × Answer)
  | .declare parent kind name => (builder.declare? parent kind name).map answersCursor
  | .argument function name type => (builder.argument? function name type).map answersCursor
  | .field record name type => (builder.field? record name type).map answersCursor
  | .define cursor => (builder.define? cursor).map answersNothing
  | .linkDefinition declaration definition =>
    (builder.linkDefinition? declaration definition).map answersNothing
  | .locate cursor location => (builder.locate? cursor location).map answersNothing
  | .comment cursor brief raw => (builder.comment? cursor brief raw).map answersNothing
  | .setType cursor type => (builder.setType? cursor type).map answersNothing
  | .setResultType cursor type => (builder.setResultType? cursor type).map answersNothing
  | .setUnderlyingType cursor type => (builder.setUnderlyingType? cursor type).map answersNothing
  | .fundamental type => some (answersType (builder.fundamental type))
  | .unexposed => some (answersType builder.unexposed)
  | .codedType code => some (answersType (builder.codedType code))
  | .pointerTo pointee => some (answersType (builder.pointerTo pointee))
  | .lvalueReferenceTo pointee => some (answersType (builder.lvalueReferenceTo pointee))
  | .rvalueReferenceTo pointee => some (answersType (builder.rvalueReferenceTo pointee))
  | .elaborated named => some (answersType (builder.elaborated named))
  | .recordType declaration => some (answersType (builder.recordType declaration))
  | .enumerationType declaration => some (answersType (builder.enumerationType declaration))
  | .typedefType declaration name => some (answersType (builder.typedefType declaration name))
  | .qualified type isConst isVolatile =>
    (builder.qualified? type isConst isVolatile).map answersType

/-- A call together with its answer. -/
structure Exchange where
  call : Call
  answer : Answer
deriving DecidableEq, Repr

namespace Exchange

def cursor? (exchange : Exchange) : Option Nat :=
  match exchange.answer with
  | .cursor index => some index
  | _ => none

def type? (exchange : Exchange) : Option Nat :=
  match exchange.answer with
  | .type index => some index
  | _ => none

theorem answer_of_cursor? {exchange : Exchange} {index : Nat}
    (answered : exchange.cursor? = some index) : exchange.answer = .cursor index := by
  unfold cursor? at answered
  split at answered <;> simp_all

theorem answer_of_type? {exchange : Exchange} {index : Nat}
    (answered : exchange.type? = some index) : exchange.answer = .type index := by
  unfold type? at answered
  split at answered <;> simp_all

/-- The new cursor of an exchange whose call has put it in some place. -/
def placed? (place : Call → Option Nat) (above : Nat) (exchange : Exchange) : Option Nat :=
  if place exchange.call = some above then exchange.cursor? else none

end Exchange

/-- A builder in use, with all exchanges so far. -/
structure Draft where
  builder : SnapshotBuilder
  exchanges : List Exchange := []
deriving DecidableEq, Repr

namespace Draft

def call? (draft : Draft) (call : Call) : Option Draft :=
  (draft.builder.call? call).map fun (builder, answer) =>
    { builder, exchanges := draft.exchanges ++ [⟨call, answer⟩] }

def calls? (draft : Draft) (calls : List Call) : Option Draft :=
  calls.foldlM call? draft

/-- The cursors that a call names are the root and others that have been answered, and so
are its types. -/
def Knows (draft : Draft) (call : Call) : Prop :=
  (∀ cursor ∈ call.cursors, cursor ∈ root :: draft.exchanges.filterMap Exchange.cursor?) ∧
    ∀ type ∈ call.types, type ∈ draft.exchanges.filterMap Exchange.type?

instance (draft : Draft) (call : Call) : Decidable (draft.Knows call) :=
  inferInstanceAs (Decidable (_ ∧ _))

/-- Every call names only what is known when its turn comes. -/
def Proper : Draft → List Call → Prop
  | _, [] => True
  | draft, call :: calls => draft.Knows call ∧ ∀ next ∈ draft.call? call, Proper next calls

instance decidableProper : (draft : Draft) → (calls : List Call) → Decidable (draft.Proper calls)
  | _, [] => inferInstanceAs (Decidable True)
  | draft, call :: calls =>
    have : ∀ next, Decidable (Proper next calls) := fun next => decidableProper next calls
    inferInstanceAs (Decidable (draft.Knows call ∧ ∀ next ∈ draft.call? call, Proper next calls))

end Draft

section Effects

variable {builder after : SnapshotBuilder} {call : Call} {answer : Answer}

/-- A cursor gets a child, and perhaps an argument with it. -/
def adopt (argued : Bool) (index : Nat) (cursor : RawCursor) : RawCursor :=
  { cursor with
    children := cursor.children ++ [.ofNat index]
    arguments := cursor.arguments ++ if argued then [.ofNat index] else [] }

/-- Puts a new cursor below a parent, and takes a line for it. -/
def grow (builder : SnapshotBuilder) (parent : Nat) (argued : Bool) (cursor : RawCursor) :
    SnapshotBuilder where
  raw := { builder.raw with
    cursors := (builder.raw.cursors.modify parent (adopt argued builder.raw.cursors.size)).push
      cursor }
  nextLine := builder.nextLine + 1

def editCursor (builder : SnapshotBuilder) (index : Nat) (edit : RawCursor → RawCursor) :
    SnapshotBuilder :=
  { builder with raw := { builder.raw with cursors := builder.raw.cursors.modify index edit } }

/-- The cursors and the types that a call names are there. -/
structure Call.Inside (call : Call) (raw : RawSnapshot) : Prop where
  cursors : ∀ cursor ∈ call.cursors, cursor < raw.cursors.size
  types : ∀ type ∈ call.types, type < raw.types.size

/-- The cursor that a call declares, before it is given anything but a type. -/
structure Call.Declares (call : Call) (builder : SnapshotBuilder) (parent : Nat)
    (cursor : RawCursor) : Prop where
  parent : cursor.semanticParent = some (.ofNat parent)
  children : cursor.children = []
  arguments : cursor.arguments = []
  location : cursor.location = builder.freshLocation
  definition : cursor.definition = none
  types : ∀ link ∈ cursor.typeLinks, ∃ type ∈ call.types, link = .ofNat type

/-- What a call may change of a cursor. -/
structure Call.Edits (call : Call) (index : Nat) (before after : RawCursor) : Prop where
  kind : after.kind = before.kind
  parent : after.semanticParent = before.semanticParent
  children : after.children = before.children
  arguments : after.arguments = before.arguments
  location : call.relocated? ≠ some index → after.location = before.location
  definition : ∀ link ∈ after.definition,
    link ∈ before.definition ∨ ∃ cursor ∈ call.cursors, link = .ofNat cursor
  types : ∀ link ∈ after.typeLinks,
    link ∈ before.typeLinks ∨ ∃ type ∈ call.types, link = .ofNat type

/-- The type that a call adds: one of a kind that is asked for, or a copy. -/
inductive Call.Makes (call : Call) (builder : SnapshotBuilder) : RawType → Prop
  | plain {type : RawType} {kind : TypeKind} (resolved : type.kind.resolve? = some kind)
      (asked : ∀ kindAt, call.kind? kindAt = some kind)
      (links : ∀ link ∈ type.typeLinks, ∃ lower ∈ call.types, link = .ofNat lower)
      (declaration : ∀ link ∈ type.declaration, ∃ cursor ∈ call.cursors, link = .ofNat cursor) :
      Makes call builder type
  | copy {index : Nat} {original : RawType} (isConst isVolatile : Bool)
      (there : builder.raw.types[index]? = some original)
      (asked : ∀ kindAt, call.kind? kindAt = kindAt index) :
      Makes call builder { original with isConst, isVolatile }

/-- What a call does to a builder. -/
inductive Effect (builder : SnapshotBuilder) (call : Call) : SnapshotBuilder → Answer → Prop
  | declared {parent : Nat} {cursor : RawCursor} (above : call.parent? = some parent)
      (inside : parent < builder.raw.cursors.size) (fresh : call.Declares builder parent cursor) :
      Effect builder call (builder.grow parent call.function?.isSome cursor)
        (.cursor builder.raw.cursors.size)
  | edited {index : Nat} {edit : RawCursor → RawCursor} (apart : call.parent? = none)
      (edits : ∀ before, call.Edits index before (edit before)) :
      Effect builder call (builder.editCursor index edit) .nothing
  | typed {type : RawType} (apart : call.parent? = none) (makes : call.Makes builder type) :
      Effect builder call (builder.addType type).1 (.type builder.raw.types.size)

theorem getElem?_grow (builder : SnapshotBuilder) (parent : Nat) (argued : Bool)
    (cursor : RawCursor) (position : Nat) :
    (builder.grow parent argued cursor).raw.cursors[position]? =
      if position = builder.raw.cursors.size then some cursor
      else builder.raw.cursors[position]?.map fun before =>
        if parent = position then adopt argued builder.raw.cursors.size before else before := by
  simp only [grow, Array.getElem?_push, Array.size_modify, Array.getElem?_modify]
  by_cases here : parent = position <;> simp [here]

theorem getElem?_editCursor (builder : SnapshotBuilder) (index : Nat)
    (edit : RawCursor → RawCursor) (position : Nat) :
    (builder.editCursor index edit).raw.cursors[position]? =
      if index = position then builder.raw.cursors[position]?.map edit
      else builder.raw.cursors[position]? := by
  simp only [editCursor, Array.getElem?_modify]

theorem getElem?_addType (builder : SnapshotBuilder) (type : RawType) (position : Nat) :
    (builder.addType type).1.raw.types[position]? =
      if position = builder.raw.types.size then some type else builder.raw.types[position]? := by
  simp only [addType, Array.getElem?_push]

private theorem editCursor?_eq {index : Nat} (inside : index < builder.raw.cursors.size)
    (edit : RawCursor → RawCursor) :
    builder.editCursor? index edit = some (builder.editCursor index edit) :=
  if_pos inside

private theorem modify_push_of_lt {α : Type} {xs : Array α} {index : Nat} (inside : index < xs.size)
    (x : α) (edit : α → α) : (xs.push x).modify index edit = (xs.modify index edit).push x := by
  apply Array.ext_getElem?
  intro position
  simp only [Array.getElem?_modify, Array.getElem?_push, Array.size_modify]
  by_cases last : position = xs.size
  · rw [if_neg (by omega), if_pos last, if_pos last]
  · simp [last]

private theorem modify_push_of_eq {α : Type} {xs : Array α} {index : Nat} (last : index = xs.size)
    (x : α) (edit : α → α) : (xs.push x).modify index edit = xs.push (edit x) := by
  subst last
  apply Array.ext_getElem?
  intro position
  simp only [Array.getElem?_modify, Array.getElem?_push]
  by_cases last : position = xs.size
  · simp [last]
  · rw [if_neg (Ne.symm last)]
    simp [last]

private theorem modify_modify {α : Type} (xs : Array α) (index : Nat) (first second : α → α) :
    (xs.modify index first).modify index second = xs.modify index (second ∘ first) := by
  apply Array.ext_getElem?
  intro position
  simp only [Array.getElem?_modify]
  split <;> simp

/-- The cursor of a declaration, without its type. -/
def declaration (builder : SnapshotBuilder) (parent : Nat) (kind : CursorKind) (name : String) :
    RawCursor :=
  { RawCursor.named kind name with
    mangledName := linkerName kind name
    semanticParent := some (.ofNat parent)
    location := builder.freshLocation }

private theorem declare?_eq {parent : Nat} (inside : parent < builder.raw.cursors.size)
    (kind : CursorKind) (name : String) :
    builder.declare? parent kind name =
      some (builder.grow parent false (builder.declaration parent kind name),
        builder.raw.cursors.size) := by
  have bare : (fun cursor : RawCursor =>
      { cursor with children := cursor.children ++ [.ofNat builder.raw.cursors.size] }) =
        adopt false builder.raw.cursors.size := by
    funext cursor
    simp [adopt]
  have room : parent < (builder.raw.cursors.push (builder.declaration parent kind name)).size := by
    rw [Array.size_push]
    omega
  unfold declare?
  simp only [bare]
  rw [editCursor?_eq room, editCursor, modify_push_of_lt inside]
  rfl

/-- Right after a cursor has been declared, it is edited in place. -/
theorem editCursor?_grow (builder : SnapshotBuilder) (parent : Nat) (argued : Bool)
    (cursor : RawCursor) (edit : RawCursor → RawCursor) :
    (builder.grow parent argued cursor).editCursor? builder.raw.cursors.size edit =
      some (builder.grow parent argued (edit cursor)) := by
  have room : builder.raw.cursors.size < (builder.grow parent argued cursor).raw.cursors.size := by
    simp [grow]
  rw [editCursor?_eq room, editCursor, grow]
  simp only
  rw [modify_push_of_eq (by simp)]
  rfl

private theorem field?_eq {record : Nat} (inside : record < builder.raw.cursors.size)
    (name : String) (type : Nat) :
    builder.field? record name type = some (builder.grow record false
      { builder.declaration record .fieldDecl name with type := some (.ofNat type) },
        builder.raw.cursors.size) := by
  unfold field?
  rw [declare?_eq inside]
  simp only [Option.bind_eq_bind, Option.bind_some, setType?, editCursor?_grow]

private theorem argument?_eq {function : Nat} (inside : function < builder.raw.cursors.size)
    (name : String) (type : Nat) :
    builder.argument? function name type = some (builder.grow function true
      { builder.declaration function .parmDecl name with type := some (.ofNat type) },
        builder.raw.cursors.size) := by
  have both : (fun cursor : RawCursor =>
      { cursor with arguments := cursor.arguments ++ [.ofNat builder.raw.cursors.size] }) ∘
        adopt false builder.raw.cursors.size = adopt true builder.raw.cursors.size := by
    funext cursor
    simp [adopt]
  unfold argument?
  rw [declare?_eq inside]
  simp only [Option.bind_eq_bind, Option.bind_some, setType?, editCursor?_grow]
  rw [editCursor?_eq (by simp [grow]; omega), editCursor, grow]
  simp only
  rw [modify_push_of_lt (by simpa using inside), modify_modify, both]
  rfl

private theorem Call.declares_declaration (call : Call) (builder : SnapshotBuilder) (parent : Nat)
    (kind : CursorKind) (name : String) {type : Option UInt64}
    (known : ∀ link ∈ type, ∃ index ∈ call.types, link = .ofNat index) :
    call.Declares builder parent { builder.declaration parent kind name with type } where
  parent := rfl
  children := rfl
  arguments := rfl
  location := rfl
  definition := rfl
  types := by simpa [RawCursor.typeLinks, declaration, RawCursor.named] using known

private theorem exists_edited {index : Nat} {edit : RawCursor → RawCursor}
    (inside : index < builder.raw.cursors.size) (apart : call.parent? = none)
    (edits : ∀ before, call.Edits index before (edit before)) :
    ∃ after answer, (builder.editCursor? index edit).map answersNothing = some (after, answer) ∧
      Effect builder call after answer :=
  ⟨_, _, by rw [editCursor?_eq inside]; rfl, .edited apart edits⟩

/-- A call that names only what is there has its effect. -/
theorem exists_effect (inside : call.Inside builder.raw) :
    ∃ after answer, builder.call? call = some (after, answer) ∧
      Effect builder call after answer := by
  obtain ⟨cursors, types⟩ := inside
  have named : ∀ {kind : TypeKind}, kind.written.resolve? = some kind →
      (∀ kindAt, call.kind? kindAt = some kind) → call.Makes builder (.ofKind kind) :=
    fun resolved asked => .plain resolved asked (by simp [RawType.typeLinks, RawType.ofKind])
      (by simp [RawType.ofKind])
  cases call with
  | declare parent kind name =>
    have inside := cursors parent (by simp [Call.cursors])
    exact ⟨_, _, by rw [call?, declare?_eq inside]; rfl, .declared rfl inside
      (Call.declares_declaration _ builder parent kind name (by simp [RawCursor.named]))⟩
  | argument function name type =>
    have inside := cursors function (by simp [Call.cursors])
    exact ⟨_, _, by rw [call?, argument?_eq inside]; rfl, .declared rfl inside
      (Call.declares_declaration _ builder function .parmDecl name (by simp [Call.types]))⟩
  | field record name type =>
    have inside := cursors record (by simp [Call.cursors])
    exact ⟨_, _, by rw [call?, field?_eq inside]; rfl, .declared rfl inside
      (Call.declares_declaration _ builder record .fieldDecl name (by simp [Call.types]))⟩
  | define cursor =>
    exact exists_edited (cursors cursor (by simp [Call.cursors])) rfl fun before =>
      ⟨rfl, rfl, rfl, rfl, fun _ => rfl, fun _ => .inl, fun _ => .inl⟩
  | linkDefinition declaration definition =>
    exact exists_edited (cursors declaration (by simp [Call.cursors])) rfl fun before =>
      ⟨rfl, rfl, rfl, rfl, fun _ => rfl,
        fun link member => .inr ⟨definition, by simp [Call.cursors], (Option.some.inj member).symm⟩,
        fun _ => .inl⟩
  | locate cursor location =>
    exact exists_edited (cursors cursor (by simp [Call.cursors])) rfl fun before =>
      ⟨rfl, rfl, rfl, rfl, fun kept => absurd rfl kept, fun _ => .inl, fun _ => .inl⟩
  | comment cursor brief raw =>
    exact exists_edited (cursors cursor (by simp [Call.cursors])) rfl fun before =>
      ⟨rfl, rfl, rfl, rfl, fun _ => rfl, fun _ => .inl, fun _ => .inl⟩
  | setType cursor type | setResultType cursor type | setUnderlyingType cursor type =>
    exact exists_edited (cursors cursor (by simp [Call.cursors])) rfl fun before =>
      ⟨rfl, rfl, rfl, rfl, fun _ => rfl, fun _ => .inl, by grind [RawCursor.typeLinks, Call.types]⟩
  | fundamental type =>
    exact ⟨_, _, rfl, .typed rfl (named (TypeKind.resolve?_fundamental type) fun _ => rfl)⟩
  | unexposed => exact ⟨_, _, rfl, .typed rfl (named rfl fun _ => rfl)⟩
  | codedType code =>
    exact ⟨_, _, rfl, .typed rfl (named (TypeKind.resolve?_ofCode code) fun _ => rfl)⟩
  | pointerTo type | lvalueReferenceTo type | rvalueReferenceTo type | elaborated type =>
    refine ⟨_, _, rfl, .typed rfl (.plain rfl (fun _ => rfl) ?_ ?_)⟩
    · simp [RawType.typeLinks, RawType.ofKind, Call.types]
    · simp [RawType.ofKind]
  | recordType declaration | enumerationType declaration | typedefType declaration name =>
    refine ⟨_, _, rfl, .typed rfl (.plain rfl (fun _ => rfl) ?_ ?_)⟩
    · simp [RawType.typeLinks, RawType.ofKind]
    · simp [Call.cursors]
  | qualified type isConst isVolatile =>
    have inside := types type (by simp [Call.types])
    have there : builder.raw.types[type]? = some builder.raw.types[type] :=
      Array.getElem?_eq_getElem inside
    refine ⟨_, _, ?_, .typed rfl (.copy isConst isVolatile there fun _ => rfl)⟩
    rw [call?, qualified?, there]
    rfl

end Effects

end SnapshotBuilder

end SymbolAtlas
