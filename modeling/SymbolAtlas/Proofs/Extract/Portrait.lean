import SymbolAtlas.Proofs.Lineage
import SymbolAtlas.Proofs.Registry.Growth

/-! What extraction finds out about cursors and types, as relations to a registry:
the symbol of a cursor, the symbol around it, the resolved form of a type and the
detail of a declaration. A registry that grows does not disturb them. -/

namespace SymbolAtlas

open Snapshot

def TypeKind.wrapper? : TypeKind → Option Wrapper
  | .elaborated => some .elaborated
  | .pointer => some .pointer
  | .lvalueReference => some .lvalueReference
  | .rvalueReference => some .rvalueReference
  | _ => none

namespace Registry

variable {snapshot : Snapshot} {registry later : Registry}

/-- What recording a cursor answers: nothing for a cursor without a part, and the
index of its identity otherwise. -/
inductive Answers (registry : Registry) (cursor : snapshot.Cursor) : Option Nat → Prop
  | unnamed (empty : cursor.part.isEmpty) : Answers registry cursor none
  | known {index : Nat} (named : cursor.part.isEmpty = false)
      (found : registry.find? cursor.identity = some index) : Answers registry cursor (some index)

/-- The parent of a symbol is that of the outer cursor, and a cursor without one
is at the top. -/
inductive Encloses (registry : Registry) (cursor : snapshot.Cursor) : Option Nat → Prop
  | top (outermost : cursor.outer? = none) : Encloses registry cursor none
  | scope {outer : snapshot.Cursor} {index : Nat} (nested : cursor.outer? = some outer)
      (recorded : registry.Answers outer (some index)) : Encloses registry cursor (some index)

inductive Declares (registry : Registry) (type : snapshot.TypeRef) : Option Nat → Prop
  | missing (undeclared : type.declaration? = none) : Declares registry type none
  | present {declaration : snapshot.Cursor} {symbol : Option Nat}
      (declared : type.declaration? = some declaration)
      (recorded : registry.Answers declaration symbol) : Declares registry type symbol

inductive EndsIn (registry : Registry) (type : snapshot.TypeRef) : Leaf → Prop
  | unexposed (sort : type.kind = .unexposed) : EndsIn registry type .unexposed
  | record {symbol : Option Nat} (sort : type.kind = .record)
      (declared : registry.Declares type symbol) : EndsIn registry type (.record symbol)
  | enumeration {symbol : Option Nat} (sort : type.kind = .enumeration)
      (declared : registry.Declares type symbol) : EndsIn registry type (.enumeration symbol)
  | typedef {symbol : Option Nat} (sort : type.kind = .typedef)
      (declared : registry.Declares type symbol) :
      EndsIn registry type (.typedef symbol type.typedefName)
  | fundamental {basic : Fundamental} (sort : type.kind = .fundamental basic) :
      EndsIn registry type (.fundamental basic)

/-- A resolved type shows a type level by level down to its leaf. -/
inductive Depicts (registry : Registry) : snapshot.TypeRef → Ty → Prop
  | absent {type : snapshot.TypeRef} (sort : type.kind = .invalid) : Depicts registry type .absent
  | leaf {type : snapshot.TypeRef} {base : Leaf} (ends : registry.EndsIn type base) :
      Depicts registry type (.leaf type.qualifiers base)
  | level {type : snapshot.TypeRef} {wrapper : Wrapper} {inner : Ty}
      (sort : type.kind.wrapper? = some wrapper) (below : Depicts registry type.next inner) :
      Depicts registry type (.level type.qualifiers wrapper inner)

def Lists (registry : Registry) (cursors : List snapshot.Cursor) (items : List Variable) :
    Prop :=
  List.Forall₂ (fun cursor item => item.name = cursor.spelling ∧
    registry.Depicts cursor.type item.type) cursors items

inductive Portrays (registry : Registry) (cursor : snapshot.Cursor) : SymbolKind → Detail → Prop
  | signature {mangling : String} {result : Ty} {parameters : List Variable}
      (sort : cursor.kind = .functionDecl) (returned : registry.Depicts cursor.resultType result)
      (listed : registry.Lists cursor.arguments parameters) :
      Portrays registry cursor (.function mangling) (.signature result parameters)
  | underlying {aliased : Ty} (sort : cursor.kind = .typedefDecl)
      (depicted : registry.Depicts cursor.underlyingType aliased) :
      Portrays registry cursor .typedef (.underlying aliased)
  | members {keyword : RecordKeyword} {definition : snapshot.Cursor} {fields : List Variable}
      (sort : cursor.kind = .structDecl ∨ cursor.kind = .classDecl)
      (defined : cursor.definition? = some definition)
      (listed : registry.Lists (definition.children.filter (·.kind == .fieldDecl)) fields) :
      Portrays registry cursor (.record keyword) (.members fields)

namespace Grows

variable (grown : registry.Grows later)

include grown

private theorem answers {cursor : snapshot.Cursor} {symbol : Option Nat}
    (recorded : registry.Answers cursor symbol) : later.Answers cursor symbol := by
  cases recorded with
  | unnamed empty => exact .unnamed empty
  | known named found => exact .known named (grown.find? found)

private theorem declares {type : snapshot.TypeRef} {symbol : Option Nat}
    (declared : registry.Declares type symbol) : later.Declares type symbol := by
  cases declared with
  | missing undeclared => exact .missing undeclared
  | present declared recorded => exact .present declared (grown.answers recorded)

private theorem endsIn {type : snapshot.TypeRef} {base : Leaf} (ends : registry.EndsIn type base) :
    later.EndsIn type base := by
  cases ends with
  | unexposed sort => exact .unexposed sort
  | record sort declared => exact .record sort (grown.declares declared)
  | enumeration sort declared => exact .enumeration sort (grown.declares declared)
  | typedef sort declared => exact .typedef sort (grown.declares declared)
  | fundamental sort => exact .fundamental sort

theorem depicts {type : snapshot.TypeRef} {resolved : Ty}
    (depicted : registry.Depicts type resolved) : later.Depicts type resolved := by
  induction depicted with
  | absent sort => exact .absent sort
  | leaf ends => exact .leaf (grown.endsIn ends)
  | level sort _ ih => exact .level sort ih

private theorem lists {cursors : List snapshot.Cursor} {items : List Variable}
    (listed : registry.Lists cursors items) : later.Lists cursors items :=
  listed.imp fun _ _ same => ⟨same.1, grown.depicts same.2⟩

theorem portrays {cursor : snapshot.Cursor} {kind : SymbolKind} {detail : Detail}
    (portrayed : registry.Portrays cursor kind detail) : later.Portrays cursor kind detail := by
  cases portrayed with
  | signature sort returned listed =>
    exact .signature sort (grown.depicts returned) (grown.lists listed)
  | underlying sort depicted => exact .underlying sort (grown.depicts depicted)
  | members sort defined listed => exact .members sort defined (grown.lists listed)

end Grows

private theorem Answers.lt_size {cursor : snapshot.Cursor} {index : Nat}
    (recorded : registry.Answers cursor (some index)) : index < registry.size := by
  cases recorded with
  | known _ found => exact lt_size_of_find? found

theorem Encloses.lt_size {cursor : snapshot.Cursor} {parent : Nat}
    (enclosed : registry.Encloses cursor (some parent)) : parent < registry.size := by
  cases enclosed with
  | scope _ recorded => exact recorded.lt_size

private theorem EndsIn.lt_size {type : snapshot.TypeRef} {base : Leaf} {index : Nat}
    (ends : registry.EndsIn type base) (named : base.symbol? = some index) :
    index < registry.size := by
  have declared : ∀ symbol, registry.Declares type symbol → symbol = some index →
      index < registry.size := by
    intro symbol found same
    subst same
    cases found with
    | present _ recorded => exact recorded.lt_size
  cases ends with
  | unexposed | fundamental => cases named
  | record _ found | enumeration _ found | typedef _ found => exact declared _ found named

private theorem Depicts.lt_size {type : snapshot.TypeRef} {resolved : Ty}
    (depicted : registry.Depicts type resolved) :
    ∀ index ∈ resolved.symbols, index < registry.size := by
  induction depicted with
  | absent => simp [Ty.symbols]
  | leaf ends => simpa [Ty.symbols] using fun index named => ends.lt_size named
  | level _ _ ih => exact ih

private theorem Lists.lt_size {cursors : List snapshot.Cursor} {items : List Variable}
    (listed : registry.Lists cursors items) :
    ∀ item ∈ items, ∀ index ∈ item.type.symbols, index < registry.size := by
  induction listed with
  | nil => simp
  | cons same _ ih => simpa using ⟨same.2.lt_size, ih⟩

theorem Portrays.lt_size {cursor : snapshot.Cursor} {kind : SymbolKind} {detail : Detail}
    (portrayed : registry.Portrays cursor kind detail) :
    ∀ index ∈ detail.symbols, index < registry.size := by
  intro index mentioned
  obtain ⟨type, held, named⟩ := List.mem_flatMap.1 mentioned
  cases portrayed with
  | signature _ returned listed =>
    rcases List.mem_cons.1 held with rfl | held
    · exact returned.lt_size index named
    · obtain ⟨item, member, rfl⟩ := List.mem_map.1 held
      exact listed.lt_size item member index named
  | underlying _ depicted =>
    cases List.mem_singleton.1 held
    exact depicted.lt_size index named
  | members _ _ listed =>
    obtain ⟨item, member, rfl⟩ := List.mem_map.1 held
    exact listed.lt_size item member index named

theorem Portrays.admits {cursor : snapshot.Cursor} {kind : SymbolKind} {detail : Detail}
    (portrayed : registry.Portrays cursor kind detail) : kind.admits detail := by
  cases portrayed <;> rfl

end Registry

end SymbolAtlas
