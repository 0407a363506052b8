import SymbolAtlas.Proofs.Cycle
import SymbolAtlas.Snapshot.Validity

/-! Which snapshots pass the check, said without it: the root is a translation unit,
every link leads to a node that is there, every kind of a type is known, and neither
the parents of cursors nor the components of types go round. -/

namespace SymbolAtlas

/-- Every link of a cursor leads to a node that is there. -/
structure RawCursor.Closed (raw : RawSnapshot) (cursor : RawCursor) : Prop where
  definition : ∀ link ∈ cursor.definition, link.toNat < raw.cursors.size
  semanticParent : ∀ link ∈ cursor.semanticParent, link.toNat < raw.cursors.size
  children : ∀ link ∈ cursor.children, link.toNat < raw.cursors.size
  arguments : ∀ link ∈ cursor.arguments, link.toNat < raw.cursors.size
  type : ∀ link ∈ cursor.type, link.toNat < raw.types.size
  resultType : ∀ link ∈ cursor.resultType, link.toNat < raw.types.size
  underlyingType : ∀ link ∈ cursor.underlyingType, link.toNat < raw.types.size

structure RawType.Closed (raw : RawSnapshot) (type : RawType) : Prop where
  pointee : ∀ link ∈ type.pointee, link.toNat < raw.types.size
  named : ∀ link ∈ type.named, link.toNat < raw.types.size
  resultType : ∀ link ∈ type.resultType, link.toNat < raw.types.size
  argTypes : ∀ link ∈ type.argTypes, link.toNat < raw.types.size
  declaration : ∀ link ∈ type.declaration, link.toNat < raw.cursors.size

/-- A kind is written as a number, or by the name of some kind. -/
def WrittenKind.Known : WrittenKind → Prop
  | .code _ => True
  | .name text => ∃ kind : TypeKind, kind.name? = some text

namespace RawSnapshot

variable {raw : RawSnapshot}

/-- A link that must not go round: from a cursor to its semantic parent, from a type to
what it points to or names. -/
inductive Follows (raw : RawSnapshot) : NodeSort → Nat → Nat → Prop
  | parent {index : Nat} {cursor : RawCursor} {link : UInt64}
      (there : raw.cursors[index]? = some cursor) (linked : cursor.semanticParent = some link) :
      Follows raw .cursor index link.toNat
  | pointee {index : Nat} {type : RawType} {link : UInt64}
      (there : raw.types[index]? = some type) (linked : type.pointee = some link) :
      Follows raw .type index link.toNat
  | named {index : Nat} {type : RawType} {link : UInt64}
      (there : raw.types[index]? = some type) (linked : type.named = some link) :
      Follows raw .type index link.toNat

def OnCycle (raw : RawSnapshot) (sort : NodeSort) (index : Nat) : Prop :=
  Relation.TransGen (raw.Follows sort) index index

/-- A snapshot whose only defects can be cycles. -/
structure Complete (raw : RawSnapshot) : Prop where
  root : ∃ root, raw.cursors[0]? = some root ∧ root.kind = .translationUnit
  cursors : ∀ cursor ∈ raw.cursors, cursor.Closed raw
  types : ∀ type ∈ raw.types, type.Closed raw
  kinds : ∀ type ∈ raw.types, type.kind.Known

structure WellFormed (raw : RawSnapshot) : Prop extends Complete raw where
  acyclic : ∀ sort index, ¬ raw.OnCycle sort index

end RawSnapshot

section Kinds

private theorem TypeKind.name?_of_lookup_composites {text : String} {kind : TypeKind}
    (found : composites.lookup text = some kind) : kind.name? = some text := by
  obtain ⟨before, after, whole, -⟩ := List.lookup_eq_some_iff.1 found
  have listed : ∀ row ∈ composites, row.2.name? = some row.1 := by decide
  exact listed (text, kind) (by rw [whole]; simp)

theorem Fundamental.mem_all (type : Fundamental) : type ∈ all :=
  List.mem_map.2 ⟨type.index, List.mem_finRange _, rfl⟩

theorem TypeKind.isSome_ofName?_iff {text : String} :
    (ofName? text).isSome ↔ ∃ kind : TypeKind, kind.name? = some text := by
  unfold ofName?
  constructor
  · intro known
    split at known
    · rename_i kind found
      exact ⟨kind, name?_of_lookup_composites found⟩
    · obtain ⟨type, found⟩ := Option.isSome_iff_exists.1 (Option.isSome_map ▸ known)
      exact ⟨.fundamental type, by simpa [name?] using List.find?_some found⟩
  · rintro ⟨kind, own⟩
    split
    · rfl
    · rename_i absent
      rw [Option.isSome_map, Fundamental.ofName?, List.find?_isSome]
      cases kind with
      | fundamental type => exact ⟨type, type.mem_all, by simpa [name?] using own⟩
      | unknown code => cases own
      | _ =>
        cases own
        cases absent

theorem WrittenKind.Known.isSome_resolve? {kind : WrittenKind} (known : kind.Known) :
    kind.resolve?.isSome := by
  cases kind with
  | code number => rfl
  | name text => exact TypeKind.isSome_ofName?_iff.2 known

private theorem RawSnapshot.checkKind_eq_ok_iff {kind : WrittenKind} :
    checkKind kind = .ok () ↔ kind.Known := by
  cases kind with
  | code number => exact ⟨fun _ => trivial, fun _ => rfl⟩
  | name text =>
    rw [WrittenKind.Known, ← TypeKind.isSome_ofName?_iff, checkKind]
    split
    · rename_i known
      exact ⟨fun _ => known, fun _ => rfl⟩
    · rename_i unknown
      refine ⟨fun accepted => ?_, fun known => absurd known unknown⟩
      cases accepted

end Kinds

namespace RawSnapshot

variable {raw : RawSnapshot}

private theorem checkRoot_eq_ok_iff :
    raw.checkRoot = .ok () ↔
      ∃ root, raw.cursors[0]? = some root ∧ root.kind = .translationUnit := by
  unfold checkRoot
  cases raw.cursors[0]? with
  | none => simp
  | some root => by_cases unit : root.kind = .translationUnit <;> simp [unit]

private theorem lt_of_checkLinks {sort : NodeSort} {bound owner : Nat} {links : List UInt64}
    (ok : checkLinks sort bound owner links = .ok ()) : ∀ link ∈ links, link.toNat < bound := by
  intro link member
  have single := Outcome.forM_ok ok link member
  split at single
  · assumption
  · cases single

private theorem checkLinks_eq_ok_iff {sort : NodeSort} {bound owner : Nat} {links : List UInt64} :
    checkLinks sort bound owner links = .ok () ↔ ∀ link ∈ links, link.toNat < bound := by
  refine ⟨lt_of_checkLinks, fun inside => Outcome.forM_eq_ok_iff.2 fun link member => ?_⟩
  rw [if_pos (inside link member)]

private theorem checkCursor_eq_ok_iff {cursor : RawCursor} {owner : Nat} :
    raw.checkCursor cursor owner = .ok () ↔ cursor.Closed raw := by
  unfold checkCursor
  rw [Outcome.seq_eq_ok_iff, checkLinks_eq_ok_iff, checkLinks_eq_ok_iff]
  simp only [RawCursor.cursorLinks, RawCursor.typeLinks, List.forall_mem_append,
    Option.mem_toList]
  constructor
  · rintro ⟨⟨⟨⟨definition, parent⟩, children⟩, arguments⟩, ⟨type, result⟩, underlying⟩
    exact ⟨definition, parent, children, arguments, type, result, underlying⟩
  · rintro ⟨definition, parent, children, arguments, type, result, underlying⟩
    exact ⟨⟨⟨⟨definition, parent⟩, children⟩, arguments⟩, ⟨type, result⟩, underlying⟩

private theorem checkType_eq_ok_iff {type : RawType} {owner : Nat} :
    raw.checkType type owner = .ok () ↔ type.Closed raw ∧ type.kind.Known := by
  unfold checkType
  rw [Outcome.seq_eq_ok_iff, Outcome.seq_eq_ok_iff, checkLinks_eq_ok_iff, checkLinks_eq_ok_iff,
    checkKind_eq_ok_iff]
  simp only [RawType.typeLinks, List.forall_mem_append, Option.mem_toList]
  constructor
  · rintro ⟨⟨⟨⟨pointee, named⟩, result⟩, arguments⟩, declaration, known⟩
    exact ⟨⟨pointee, named, result, arguments, declaration⟩, known⟩
  · rintro ⟨⟨pointee, named, result, arguments, declaration⟩, known⟩
    exact ⟨⟨⟨⟨pointee, named⟩, result⟩, arguments⟩, declaration, known⟩

theorem complete_iff :
    raw.Complete ↔ raw.checkRoot = .ok () ∧
      (raw.cursors.toList.zipIdx.forM fun (cursor, index) => raw.checkCursor cursor index) =
        .ok () ∧
      (raw.types.toList.zipIdx.forM fun (type, index) => raw.checkType type index) = .ok () := by
  rw [checkRoot_eq_ok_iff, Outcome.forM_eq_ok_iff, Outcome.forM_eq_ok_iff]
  simp only [Prod.forall, checkCursor_eq_ok_iff, checkType_eq_ok_iff,
    List.mem_zipIdx_iff_getElem?, Array.getElem?_toList]
  constructor
  · rintro ⟨root, cursors, types, kinds⟩
    refine ⟨root, fun cursor index there => ?_, fun type index there => ?_⟩
    · exact cursors cursor (Array.mem_of_getElem? there)
    · exact ⟨types type (Array.mem_of_getElem? there), kinds type (Array.mem_of_getElem? there)⟩
  · rintro ⟨root, cursors, types⟩
    refine ⟨root, fun cursor member => ?_, fun type member => ?_, fun type member => ?_⟩
    · obtain ⟨index, there⟩ := Array.mem_iff_getElem?.1 member
      exact cursors cursor index there
    · obtain ⟨index, there⟩ := Array.mem_iff_getElem?.1 member
      exact (types type index there).1
    · obtain ⟨index, there⟩ := Array.mem_iff_getElem?.1 member
      exact (types type index there).2

def count (raw : RawSnapshot) : NodeSort → Nat
  | .cursor => raw.cursors.size
  | .type => raw.types.size

def followed (raw : RawSnapshot) : NodeSort → Nat → List Nat
  | .cursor => raw.parentLinks
  | .type => raw.componentLinks

private theorem mem_followed {sort : NodeSort} {earlier later : Nat} :
    later ∈ raw.followed sort earlier ↔ raw.Follows sort earlier later := by
  constructor
  · intro member
    cases sort with
    | cursor =>
      have member : later ∈ raw.parentLinks earlier := member
      unfold parentLinks at member
      split at member
      · rename_i cursor there
        obtain ⟨link, linked, rfl⟩ := List.mem_map.1 member
        exact .parent there (by simpa using linked)
      · cases member
    | type =>
      have member : later ∈ raw.componentLinks earlier := member
      unfold componentLinks at member
      split at member
      · rename_i type there
        obtain ⟨link, linked, rfl⟩ := List.mem_map.1 member
        rcases List.mem_append.1 linked with pointee | named
        · exact .pointee there (by simpa using pointee)
        · exact .named there (by simpa using named)
      · cases member
  · intro follows
    cases follows with
    | parent there linked => simp [followed, parentLinks, there, linked]
    | pointee there linked =>
      simp [followed, componentLinks, there, RawType.componentLinks, linked]
    | named there linked => simp [followed, componentLinks, there, RawType.componentLinks, linked]

private theorem leads_followed {sort : NodeSort} {index : Nat} :
    Cycle.Leads (raw.followed sort) index index ↔ raw.OnCycle sort index := by
  have same : (fun earlier later => later ∈ raw.followed sort earlier) = raw.Follows sort := by
    funext earlier later
    exact propext mem_followed
  rw [Cycle.Leads, OnCycle, same]

private theorem Complete.lt_count (complete : raw.Complete) {sort : NodeSort} {earlier later : Nat}
    (follows : raw.Follows sort earlier later) : later < raw.count sort := by
  cases follows with
  | parent there linked =>
    exact (complete.cursors _ (Array.mem_of_getElem? there)).semanticParent _ linked
  | pointee there linked => exact (complete.types _ (Array.mem_of_getElem? there)).pointee _ linked
  | named there linked => exact (complete.types _ (Array.mem_of_getElem? there)).named _ linked

private theorem clear_of_checkAcyclic {sort : NodeSort} {count : Nat} {next : Nat → List Nat}
    (ok : checkAcyclic sort count next = .ok ()) : Cycle.find? count next = none := by
  unfold checkAcyclic at ok
  split at ok
  · assumption
  · cases ok

private theorem Complete.checkAcyclic_eq_ok_iff (complete : raw.Complete) {sort : NodeSort} :
    checkAcyclic sort (raw.count sort) (raw.followed sort) = .ok () ↔
      ∀ index, ¬ raw.OnCycle sort index := by
  simp only [← leads_followed]
  rw [← Cycle.find?_eq_none_iff fun earlier later member =>
    complete.lt_count (mem_followed.1 member)]
  refine ⟨clear_of_checkAcyclic, fun clear => ?_⟩
  rw [checkAcyclic, clear]

private theorem onCycle_of_checkAcyclic {sort : NodeSort} {defect : SnapshotDefect}
    (failed : checkAcyclic sort (raw.count sort) (raw.followed sort) = .error defect) :
    ∃ index, defect = .cycle sort index ∧ raw.OnCycle sort index := by
  unfold checkAcyclic at failed
  split at failed
  · cases failed
  · rename_i index found
    cases failed
    exact ⟨index, rfl, leads_followed.1 (Cycle.leads_of_find?_eq_some found)⟩

private theorem Complete.check_eq (complete : raw.Complete) :
    raw.check = (do
      checkAcyclic .cursor (raw.count .cursor) (raw.followed .cursor)
      checkAcyclic .type (raw.count .type) (raw.followed .type)) := by
  obtain ⟨root, cursors, types⟩ := complete_iff.1 complete
  unfold check
  rw [root, cursors, types]
  rfl

theorem check_eq_ok_iff : raw.check = .ok () ↔ raw.WellFormed := by
  constructor
  · intro ok
    have complete : raw.Complete := by
      obtain ⟨⟨⟩, root, later⟩ := Outcome.bind_ok ok
      obtain ⟨⟨⟩, cursors, later⟩ := Outcome.bind_ok later
      obtain ⟨⟨⟩, types, -⟩ := Outcome.bind_ok later
      exact complete_iff.2 ⟨root, cursors, types⟩
    rw [complete.check_eq, Outcome.seq_eq_ok_iff, complete.checkAcyclic_eq_ok_iff,
      complete.checkAcyclic_eq_ok_iff] at ok
    refine ⟨complete, fun sort => ?_⟩
    cases sort with
    | cursor => exact ok.1
    | type => exact ok.2
  · rintro ⟨complete, acyclic⟩
    rw [complete.check_eq, Outcome.seq_eq_ok_iff, complete.checkAcyclic_eq_ok_iff,
      complete.checkAcyclic_eq_ok_iff]
    exact ⟨acyclic .cursor, acyclic .type⟩

/-- No way along links that must not go round is endless. -/
theorem WellFormed.accessible (wellFormed : raw.WellFormed) {sort : NodeSort} {index : Nat}
    (inside : index < raw.count sort) :
    Acc (fun later earlier => raw.Follows sort earlier later) index := by
  have closed : ∀ earlier, ∀ later ∈ raw.followed sort earlier, later < raw.count sort :=
    fun earlier later member => wellFormed.lt_count (mem_followed.1 member)
  have clear := (Cycle.find?_eq_none_iff closed).2 fun index back =>
    wellFormed.acyclic sort index (leads_followed.1 back)
  exact Subrelation.accessible mem_followed.2
    (Cycle.grounded_of_find?_eq_none (fun earlier _ => closed earlier) clear inside)

theorem Complete.onCycle_of_check (complete : raw.Complete) {defect : SnapshotDefect}
    (failed : raw.check = .error defect) :
    ∃ sort index, defect = .cycle sort index ∧ raw.OnCycle sort index := by
  rw [complete.check_eq] at failed
  cases first : checkAcyclic .cursor (raw.count .cursor) (raw.followed .cursor) with
  | error found =>
    rw [first] at failed
    cases failed
    exact ⟨.cursor, onCycle_of_checkAcyclic first⟩
  | ok =>
    rw [first] at failed
    exact ⟨.type, onCycle_of_checkAcyclic failed⟩

end RawSnapshot

end SymbolAtlas
