import SymbolAtlas.Proofs.Extract.Image
import SymbolAtlas.Proofs.Session.Coherence
import SymbolAtlas.Proofs.Session.History

/-! Resolved types show the types they come from, also those that are kept as details:
each has been seen at a cursor that its symbol shows. -/

namespace SymbolAtlas

open Snapshot Extract

namespace Registry

variable {registry later : Registry} {index : Nat} {kind : SymbolKind} {detail : Detail}

/-- A detail of the symbol at an index is what a recorded cursor declares. -/
structure Attests (registry : Registry) (index : Nat) (kind : SymbolKind) (detail : Detail)
    {snapshot : Snapshot} (cursor : snapshot.Cursor) : Prop where
  found : registry.find? cursor.identity = some index
  portrayed : registry.Portrays cursor kind detail
  seen : registry.Shows index cursor.sighting

private theorem Attests.keep {snapshot : Snapshot} {cursor : snapshot.Cursor}
    (attests : registry.Attests index kind detail cursor) (grown : registry.Grows later)
    (gathers : registry.Gathers later) : later.Attests index kind detail cursor :=
  ⟨grown.find? attests.found, grown.portrays attests.portrayed, attests.seen.gather gathers⟩

/-- Every detail comes from a cursor of one of some units. -/
def Attested (among : Snapshot → Prop) (registry : Registry) : Prop :=
  ∀ index symbol detail, registry.get? index = some symbol → symbol.detail = some detail →
    ∃ snapshot, among snapshot ∧
      ∃ cursor : snapshot.Cursor, registry.Attests index symbol.kind detail cursor

variable {among : Snapshot → Prop}

private theorem Attested.restore (attested : registry.Attested among)
    (same : later.core = registry.core) (gathers : registry.Gathers later) :
    later.Attested among := by
  intro index symbol detail present filled
  obtain ⟨old, stored, growth⟩ := (Grows.of_core same.symm).get? present
  obtain ⟨snapshot, own, cursor, attests⟩ :=
    attested index old detail stored (growth.detail detail filled)
  rw [growth.kind] at attests
  exact ⟨snapshot, own, cursor, attests.keep (.of_core same) gathers⟩

end Registry

namespace Extract

variable {snapshot : Snapshot} {spared : List Nat} {before after : Registry}

/-- A detail has been there before, or it is what the step has resolved. -/
theorem Step.detail_origin (step : Step snapshot spared before after) {index : Nat}
    {symbol : Symbol} {detail : Detail} (present : after.get? index = some symbol)
    (filled : symbol.detail = some detail) :
    (∃ old, before.get? index = some old ∧ old.kind = symbol.kind ∧ old.detail = some detail) ∨
      ∃ cursor : snapshot.Cursor, before.Attests index symbol.kind detail cursor := by
  cases step with
  | logged => exact .inl ⟨symbol, present, rfl, filled⟩
  | sighted cursor position =>
    rw [Registry.get?_update] at present
    split at present
    · obtain ⟨old, stored, rfl⟩ := Option.map_eq_some_iff.1 present
      exact .inl ⟨old, stored, rfl, filled⟩
    · exact .inl ⟨symbol, present, rfl, filled⟩
  | registered =>
    rw [Registry.get?_enter] at present
    split at present
    · -- a new symbol has no detail yet
      cases present
      cases filled
    · exact .inl ⟨symbol, present, rfl, filled⟩
  | completed cursor position old given found stored waiting idle portrayed seen =>
    rw [Registry.get?_settle] at present
    split at present
    · rename_i same
      subst same
      rw [stored] at present
      cases present
      cases filled
      exact .inr ⟨cursor, found, portrayed, seen⟩
    · exact .inl ⟨symbol, present, rfl, filled⟩

private theorem Step.attested {among : Snapshot → Prop} (own : among snapshot)
    (step : Step snapshot spared before after) (attested : before.Attested among) :
    after.Attested among := by
  intro index symbol detail present filled
  rcases step.detail_origin present filled with ⟨old, stored, kind, kept⟩ | ⟨cursor, attests⟩
  · obtain ⟨unit, known, cursor, attests⟩ := attested index old detail stored kept
    rw [← kind]
    exact ⟨unit, known, cursor, attests.keep step.grows step.gathers⟩
  · exact ⟨snapshot, own, cursor, attests.keep step.grows step.gathers⟩

end Extract

namespace Session

private theorem attested_run (operations : List Operation) :
    (run operations).registry.Attested fun snapshot =>
      ∃ operation ∈ operations, operation.unit? = some snapshot := by
  refine run_keeps_core ?_ ?_ operations ?_
  · exact fun before after same gathers attested => attested.restore same gathers
  · exact fun index symbol detail present => by simp [Registry.get?] at present
  · exact fun operation member snapshot own before after step =>
      step.attested ⟨operation, member, own⟩

/-- In every session, a type that comes down to a leaf of an unknown kind is refused and changes
nothing. What another type is resolved to is its only image in the registry that is left. Every
detail of a symbol is the image of what a cursor declares that has its identity and that it
shows. -/
theorem types_depicted (operations : List Operation) :
    let registry := (run operations).registry
    (∀ (settings : Settings) (log : Array Event) (snapshot : Snapshot)
        (type : snapshot.TypeRef), let start : Extraction := { registry, log }
      (∃ leaf, type.EndsAt leaf) ∧
      (∀ leaf code, type.EndsAt leaf → leaf.kind = .unknown code →
        runFrom start (Extract.resolve settings type) =
          (.error (.error (.unmappedTypeKind code)), start)) ∧
      ∀ resolved final, runFrom start (Extract.resolve settings type) = (.ok resolved, final) →
        (resolved = .absent ↔ type.kind = .invalid) ∧
          ∀ image, final.registry.Depicts type image ↔ image = resolved) ∧
    ∀ index symbol detail, registry.get? index = some symbol → symbol.detail = some detail →
      ∃ operation ∈ operations, ∃ snapshot, operation.unit? = some snapshot ∧
        ∃ cursor : snapshot.Cursor, registry.identityOf? index = some cursor.identity ∧
          registry.Portrays cursor symbol.kind detail ∧
            registry.Shows index cursor.sighting := by
  intro registry
  refine ⟨fun settings log snapshot type => ⟨type.exists_endsAt, ?_, ?_⟩, ?_⟩
  · exact fun leaf code ends unknown => resolve_unmapped settings ends unknown
  · intro resolved final ran
    have run := (resolves_resolve settings registry.size ⟨registry, [], log⟩ type (.idle rfl)
      (Registry.settled_size _ _)).ends
    rw [ran] at run
    obtain ⟨depicted, -⟩ := run
    refine ⟨depicted.absent_iff, fun image => ⟨fun other => other.unique depicted, ?_⟩⟩
    rintro rfl
    exact depicted
  · intro index symbol detail present filled
    obtain ⟨snapshot, ⟨operation, member, own⟩, cursor, attests⟩ :=
      attested_run operations index symbol detail present filled
    have coherent := Registry.coherent_of_rooted (rooted_run operations)
    have named := coherent.rebuilt _ _ attests.found
    exact ⟨operation, member, snapshot, own, cursor, named, attests.portrayed, attests.seen⟩

/-- A typedef of a volatile pointer to a constant record, and a reference to a type of
an unknown kind. -/
def qualified : Snapshot where
  raw := {
    mainFile := ⟨"m.cc"⟩
    cursors := #[{ kind := .translationUnit, children := [1, 2] },
      { RawCursor.named .structDecl "S" with semanticParent := some 0 },
      { RawCursor.named .typedefDecl "T" with
        semanticParent := some 0, underlyingType := some 1 }]
    types := #[{ kind := .code 105, isConst := true, declaration := some 1 },
      { kind := .code 101, isVolatile := true, pointee := some 0 },
      { kind := .code 103, pointee := some 3 }, { kind := .code 999 }] }
  checked := by rfl

/-- The reference is refused. The pointer resolves to what the typedef keeps, which is the
image of what a cursor of the unit declares. -/
theorem types_depicted_qualified :
    let registry := (run [.parse .headersToo qualified]).registry
    let start : Extraction := { registry }
    let pointer := Ty.level ⟨false, true⟩ .pointer (.leaf ⟨true, false⟩ (.record (some 0)))
    runFrom start (Extract.resolve {} (qualified.type 2)) =
        (.error (.error (.unmappedTypeKind 999)), start) ∧
      (∃ final, runFrom start (Extract.resolve {} (qualified.type 1)) = (.ok pointer, final) ∧
        final.registry.Depicts (qualified.type 1) pointer) ∧
      ∃ cursor : qualified.Cursor,
        registry.identityOf? 1 = some cursor.identity ∧
          registry.Portrays cursor .typedef (.underlying pointer) := by
  intro registry start pointer
  obtain ⟨resolves, attested⟩ := types_depicted [.parse .headersToo qualified]
  obtain ⟨-, refused, -⟩ := resolves {} #[] qualified (qualified.type 2)
  obtain ⟨-, -, depicted⟩ := resolves {} #[] qualified (qualified.type 1)
  have ends : (qualified.type 2).EndsAt (qualified.type 3) :=
    .down (by decide : (qualified.type 2).kind.wrapper? = some .lvalueReference)
      (.here (by decide +kernel))
  have resolved : (runFrom start (Extract.resolve {} (qualified.type 1))).1 = .ok pointer := by
    decide +kernel
  have kept : (registry.get? 1).map (fun symbol => (symbol.kind, symbol.detail)) =
      some (.typedef, some (.underlying pointer)) := by
    decide +kernel
  refine ⟨refused _ 999 ends (by decide +kernel), ⟨_, Prod.ext resolved rfl, ?_⟩, ?_⟩
  · exact ((depicted _ _ (Prod.ext resolved rfl)).2 pointer).2 rfl
  · obtain ⟨symbol, present, same⟩ := Option.map_eq_some_iff.1 kept
    obtain ⟨kind, filled⟩ := Prod.mk.inj same
    obtain ⟨operation, member, snapshot, own, cursor, named, portrayed, -⟩ :=
      attested 1 symbol _ present filled
    cases List.mem_singleton.1 member
    cases own
    rw [kind] at portrayed
    exact ⟨cursor, named, portrayed⟩

end Session

end SymbolAtlas
