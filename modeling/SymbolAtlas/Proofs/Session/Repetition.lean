import SymbolAtlas.Proofs.Extract.Rest
import SymbolAtlas.Proofs.Session.Counting

/-! Reading a unit again right after it has been read well. -/

namespace SymbolAtlas

open Snapshot Extract

private theorem Snapshot.Cursor.supplies_cases {snapshot : Snapshot} {cursor : snapshot.Cursor}
    {settings : Settings} {kind : SymbolKind} (supplies : cursor.supplies settings kind) :
    kind.isOwed ∨ ∃ keyword, kind = .record keyword ∧
      (cursor.kind = .structDecl ∨ cursor.kind = .classDecl) ∧ settings.recordMembers ∧
        cursor.definition?.isSome := by
  unfold Cursor.supplies at supplies
  split at supplies
  · exact .inl rfl
  · exact .inl rfl
  · rename_i keyword sort
    rw [Bool.and_eq_true] at supplies
    exact .inr ⟨keyword, rfl, .inl sort, supplies⟩
  · rename_i keyword sort
    rw [Bool.and_eq_true] at supplies
    exact .inr ⟨keyword, rfl, .inr sort, supplies⟩
  · cases supplies

namespace Atlas

variable {atlas after : Atlas} {snapshot : Snapshot} {report : UnitReport}

/-- Reading a unit once more goes well, counts the same cursors as a report does, makes
no symbol, and leaves all details and edges as they are. -/
structure Rereads (atlas : Atlas) (snapshot : Snapshot) (report again : UnitReport)
    (later : Atlas) : Prop where
  read : atlas.parseUnit snapshot = (.ok again, later)
  visited : again.visited = report.visited
  skipped : again.skipped = report.skipped
  newSymbols : again.newSymbols = 0
  graph : later.registry.graph = atlas.registry.graph

private theorem rereads_furnished
    (skipped : report.skipped =
      .ofNat (Walk.routesTo atlas.settings snapshot (Walk.leavesOut atlas.settings)).ncard)
    (visited : report.visited =
      .ofNat (Walk.routesTo atlas.settings snapshot (Walk.takes atlas.settings)).ncard)
    (furnished : ∀ cursor : snapshot.Cursor, Walk.Visits atlas.settings cursor →
      atlas.registry.Furnished atlas.settings cursor) :
    ∃ again later, atlas.Rereads snapshot report again later := by
  obtain ⟨value, final, ran, graph, -⟩ :=
    (Walk.repeats_additive atlas.settings atlas.registry).unit
      (fun cursor member taken => furnished cursor ⟨Walk.mem_reached.1 member, taken⟩)
      atlas.opening {} rfl
  obtain ⟨again, later, read, graph⟩ : ∃ again later,
      atlas.parseUnit snapshot = (.ok again, later) ∧
        later.registry.graph = atlas.registry.graph := by
    have concluded : atlas.parseUnit snapshot = atlas.concluded snapshot (.ok value, final) := by
      rw [parseUnit_eq, Atlas.visited, ran]
    exact ⟨_, _, concluded, graph⟩
  obtain ⟨-, -, ⟨skipped', visited', -⟩, newSymbols, -⟩ :=
    reported (atlas.visited_accounts snapshot) read
  refine ⟨again, later, read, visited'.trans visited.symm, skipped'.trans skipped.symm, ?_, graph⟩
  rw [newSymbols, Registry.size_of_graph graph, Nat.sub_self]

private theorem furnished_of_accounted {before : Registry} {cursor : snapshot.Cursor}
    (accounted : Registry.Accounted atlas.settings before atlas.registry cursor)
    (defined : ∀ index symbol keyword, atlas.registry.find? cursor.identity = some index →
      atlas.registry.get? index = some symbol → symbol.kind = .record keyword →
        cursor.kind = .structDecl ∨ cursor.kind = .classDecl → atlas.settings.recordMembers →
          cursor.definition?.isSome → symbol.detail.isSome) :
    atlas.registry.Furnished atlas.settings cursor := by
  intro named
  obtain ⟨index, found, -⟩ := accounted.recorded named
  refine ⟨index, found, fun symbol present supplies => ?_⟩
  rcases Cursor.supplies_cases supplies with owed | ⟨keyword, kind, sort, wanted, known⟩
  · exact accounted.supplied index symbol named found present supplies (.inl owed)
  · exact defined index symbol keyword found present kind sort wanted known

/-- Symbols that are there before a unit is read well get what its cursors give them. -/
theorem supplied_known (read : atlas.parseUnit snapshot = (.ok report, after))
    {cursor : snapshot.Cursor} (visits : Walk.Visits atlas.settings cursor)
    (named : cursor.part.isEmpty = false) {index : Nat}
    (found : atlas.registry.find? cursor.identity = some index) :
    after.registry.find? cursor.identity = some index ∧
      after.registry.Supplied atlas.settings index cursor := by
  obtain ⟨steps, -, ⟨-, -, accounted⟩, -⟩ := reported (atlas.visited_accounts snapshot) read
  have kept := steps.grows.find? found
  refine ⟨kept, fun symbol stored supplies => ?_⟩
  refine (accounted cursor visits).supplied index symbol named kept stored supplies ?_
  exact .inr (Option.isSome_iff_exists.2 ⟨index, found⟩)

end Atlas

namespace Session

/-- In every session, nothing new comes of reading a unit again that has just been read
well if and only if the first reading has left no record without its members: the symbol of
every record that is visited and defined has them. Nothing new comes of a third reading
after two that went well. -/
theorem unit_repeated (operations : List Operation) (settings : Settings) (snapshot : Snapshot)
    (log : Array Event) (report : UnitReport) (after : Atlas) :
    let before := (run operations).registry
    Atlas.parseUnit ⟨settings, before, log⟩ snapshot = (.ok report, after) →
      ((∃ again later, after.Rereads snapshot report again later) ↔
        ∀ cursor : snapshot.Cursor, Walk.Visits settings cursor → cursor.part.isEmpty = false →
          cursor.kind = .structDecl ∨ cursor.kind = .classDecl → settings.recordMembers →
          cursor.definition?.isSome → ∀ index symbol keyword,
            after.registry.find? cursor.identity = some index →
              after.registry.get? index = some symbol → symbol.kind = .record keyword →
                symbol.detail.isSome) ∧
      ∀ again later, after.parseUnit snapshot = (.ok again, later) →
        ∃ third last, later.Rereads snapshot report third last := by
  intro before read
  obtain ⟨-, rfl, ⟨skipped, visited, accounted⟩, -⟩ :=
    Atlas.reported (Atlas.visited_accounts ⟨settings, before, log⟩ snapshot) read
  refine ⟨⟨?_, fun members => ?_⟩, fun again later read' => ?_⟩
  · rintro ⟨again, later, read', -, -, -, graph⟩
    intro cursor visits named sort wanted known index symbol keyword found present kind
    obtain ⟨-, supplied⟩ := Atlas.supplied_known read' visits named found
    refine supplied.of_graph graph symbol present ?_
    rw [kind, Cursor.supplies_record after.settings keyword sort, wanted, known]
    rfl
  · refine Atlas.rereads_furnished skipped visited fun cursor visits named => ?_
    refine Atlas.furnished_of_accounted (accounted cursor visits) ?_ named
    intro index symbol keyword found present kind sort wanted known
    exact members cursor visits named sort wanted known index symbol keyword found present kind
  · -- what the second reading visits was there before it, and so is furnished after it
    obtain ⟨-, kept, -⟩ := Atlas.reported (after.visited_accounts snapshot) read'
    rw [← kept] at skipped visited
    refine Atlas.rereads_furnished skipped visited fun cursor visits named => ?_
    rw [kept] at visits ⊢
    obtain ⟨index, found, -⟩ := (accounted cursor visits).recorded named
    exact ⟨index, Atlas.supplied_known read' visits named found⟩

/-- A record of a header, and in the unit itself the body of a record inside it. A field
of the outer one points to the inner one by way of its first declaration. -/
def apart : Snapshot where
  raw := {
    mainFile := ⟨"m.cc"⟩
    cursors := #[{ kind := .translationUnit, children := [1, 4] },
      { RawCursor.named .structDecl "Outer" with
        isDefinition := true, semanticParent := some 0, children := [2, 3]
        location := ⟨⟨"o.h"⟩, 1, 8, 7⟩ },
      { RawCursor.named .structDecl "Inner" with
        semanticParent := some 1, location := ⟨⟨"o.h"⟩, 2, 10, 24⟩ },
      { RawCursor.named .fieldDecl "p" with
        semanticParent := some 1, type := some 1, location := ⟨⟨"o.h"⟩, 3, 10, 40⟩ },
      { RawCursor.named .structDecl "Inner" with
        isDefinition := true, semanticParent := some 1, children := [5]
        location := ⟨⟨"m.cc"⟩, 2, 15, 31⟩ },
      { RawCursor.named .fieldDecl "x" with
        semanticParent := some 4, type := some 2, location := ⟨⟨"m.cc"⟩, 3, 7, 45⟩ }]
    types := #[{ kind := .code 105, declaration := some 2 },
      { kind := .code 101, pointee := some 0 }, { kind := .code 17 }] }
  checked := by rfl

def cursorApart (index : Fin 6) : apart.Cursor :=
  ⟨index⟩

/-- The second reading gives the inner record its members, and the third changes nothing. -/
theorem unit_repeated_apart :
    ∃ report first, Atlas.parseUnit ⟨{}, {}, #[]⟩ apart = (.ok report, first) ∧
      (¬ ∃ again later, first.Rereads apart report again later) ∧
      ∃ again second, first.parseUnit apart = (.ok again, second) ∧
        ∃ third last, second.Rereads apart report third last := by
  have read : (Atlas.parseUnit ⟨{}, {}, #[]⟩ apart).1 = .ok ⟨⟨""⟩, 1, 2, 0, 1⟩ := by
    decide +kernel
  have again : ((Atlas.parseUnit ⟨{}, {}, #[]⟩ apart).2.parseUnit apart).1 =
      .ok ⟨⟨""⟩, 1, 0, 0, 1⟩ := by
    decide +kernel
  obtain ⟨repeated, settles⟩ := unit_repeated [] {} apart #[] _ _ (Prod.ext read rfl)
  refine ⟨_, _, Prod.ext read rfl, fun rereads => ?_, _, _, Prod.ext again rfl,
    settles _ _ (Prod.ext again rfl)⟩
  have there : apart.root.children[1]? = some (cursorApart 4) := by decide +kernel
  have visits : Walk.Visits {} (cursorApart 4) :=
    ⟨⟨[1], .child there, by decide⟩, by decide +kernel⟩
  have found : (Atlas.parseUnit ⟨{}, {}, #[]⟩ apart).2.registry.find? (cursorApart 4).identity =
      some 1 := by
    decide +kernel
  have inner : ((Atlas.parseUnit ⟨{}, {}, #[]⟩ apart).2.registry.get? 1).map
      (fun symbol => (symbol.kind, symbol.detail)) =
        some (.record .structKeyword, none) := by
    decide +kernel
  obtain ⟨symbol, present, same⟩ := Option.map_eq_some_iff.1 inner
  obtain ⟨kind, waiting⟩ := Prod.mk.inj same
  have filled := repeated.1 rereads (cursorApart 4) visits (by decide +kernel) (.inl (by decide))
    rfl (by decide) 1 symbol .structKeyword found present kind
  rw [waiting] at filled
  cases filled

end Session

end SymbolAtlas
