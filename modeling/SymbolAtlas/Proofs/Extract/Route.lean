import Mathlib.Data.List.Nodup
import SymbolAtlas.Extract.Walk

/-! Routes down a unit, by positions among children. The walk over a unit goes every
route once, and all that it does is done at their ends. -/

namespace SymbolAtlas.Walk

open Snapshot

variable {snapshot : Snapshot} {settings : Settings}

def opens (settings : Settings) (cursor : snapshot.Cursor) : Bool :=
  !leavesOut settings cursor && (settings.walkScopes && cursor.kind.isScope)

def takes (settings : Settings) (cursor : snapshot.Cursor) : Bool :=
  !leavesOut settings cursor && cursor.kind != .fieldDecl &&
    (cursor.isDeclaration || cursor.isDefinition)

theorem takes_of_leavesOut {cursor : snapshot.Cursor} (left : leavesOut settings cursor) :
    takes settings cursor = false := by
  simp [takes, left]

/-- The positions lead from one cursor down to another, through scopes that are opened. -/
inductive Route (settings : Settings) : snapshot.Cursor → List Nat → snapshot.Cursor → Prop
  | child {parent cursor : snapshot.Cursor} {position : Nat}
      (there : parent.children[position]? = some cursor) :
      Route settings parent [position] cursor
  | deeper {parent scope cursor : snapshot.Cursor} {position : Nat} {positions : List Nat}
      (there : parent.children[position]? = some scope) (opened : opens settings scope)
      (onward : Route settings scope positions cursor) :
      Route settings parent (position :: positions) cursor

private theorem Route.ne_nil {parent cursor : snapshot.Cursor} {positions : List Nat}
    (route : Route settings parent positions cursor) : positions ≠ [] := by
  cases route <;> exact List.cons_ne_nil _ _

structure Station (snapshot : Snapshot) where
  positions : List Nat
  cursor : snapshot.Cursor

def Station.under (position : Nat) (station : Station snapshot) : Station snapshot :=
  ⟨position :: station.positions, station.cursor⟩

def stationsAt (settings : Settings) (below : snapshot.Cursor → List (Station snapshot))
    (child : snapshot.Cursor × Nat) : List (Station snapshot) :=
  ⟨[child.2], child.1⟩ ::
    if opens settings child.1 then (below child.1).map (Station.under child.2) else []

/-- All stations under a cursor, down as many levels below its children as there is room for. -/
def stations (settings : Settings) : Nat → snapshot.Cursor → List (Station snapshot)
  | 0, parent => parent.children.zipIdx.flatMap (stationsAt settings fun _ => [])
  | room + 1, parent =>
    parent.children.zipIdx.flatMap (stationsAt settings (stations settings room))

section Stops

variable {below : snapshot.Cursor → List (Station snapshot)} {parent : snapshot.Cursor} {room : Nat}

private theorem mem_stationsAt {child : snapshot.Cursor × Nat} {station : Station snapshot} :
    station ∈ stationsAt settings below child ↔ station = ⟨[child.2], child.1⟩ ∨
      opens settings child.1 ∧ ∃ inner ∈ below child.1, station = inner.under child.2 := by
  unfold stationsAt
  rw [List.mem_cons]
  split
  · rename_i opened
    simp [opened, eq_comm]
  · rename_i closed
    simp [closed]

private theorem mem_flatMap_stationsAt {station : Station snapshot} :
    station ∈ parent.children.zipIdx.flatMap (stationsAt settings below) ↔
      ∃ child position, parent.children[position]? = some child ∧
        station ∈ stationsAt settings below (child, position) := by
  simp only [List.mem_flatMap, Prod.exists, List.mem_zipIdx_iff_getElem?]

private theorem mem_stations {station : Station snapshot} :
    station ∈ stations settings room parent ↔
      Route settings parent station.positions station.cursor ∧
        station.positions.length ≤ room + 1 := by
  induction room generalizing parent station with
  | zero =>
    rw [stations, mem_flatMap_stationsAt]
    constructor
    · rintro ⟨child, position, there, member⟩
      rcases mem_stationsAt.1 member with rfl | ⟨-, inner, none, -⟩
      · exact ⟨.child there, Nat.le_refl 1⟩
      · cases none
    · rintro ⟨route, short⟩
      obtain ⟨positions, cursor⟩ := station
      cases route with
      | child there => exact ⟨cursor, _, there, mem_stationsAt.2 (.inl rfl)⟩
      | deeper there opened onward =>
        -- no room is left for a second position
        have longer := List.length_pos_of_ne_nil onward.ne_nil
        simp only [List.length_cons] at short
        omega
  | succ room ih =>
    rw [stations, mem_flatMap_stationsAt]
    constructor
    · rintro ⟨child, position, there, member⟩
      rcases mem_stationsAt.1 member with rfl | ⟨opened, inner, within, rfl⟩
      · exact ⟨.child there, by simp⟩
      · obtain ⟨onward, short⟩ := ih.1 within
        exact ⟨.deeper there opened onward, Nat.succ_le_succ short⟩
    · rintro ⟨route, short⟩
      obtain ⟨positions, cursor⟩ := station
      cases route with
      | child there => exact ⟨cursor, _, there, mem_stationsAt.2 (.inl rfl)⟩
      | @deeper _ scope _ position rest there opened onward =>
        have within : ⟨rest, cursor⟩ ∈ stations settings room scope :=
          ih.2 ⟨onward, Nat.le_of_succ_le_succ short⟩
        exact ⟨scope, position, there, mem_stationsAt.2 (.inr ⟨opened, _, within, rfl⟩)⟩

private theorem positions_stationsAt {child : snapshot.Cursor × Nat} {station : Station snapshot}
    (member : station ∈ stationsAt settings below child) :
    station.positions.head? = some child.2 := by
  rcases mem_stationsAt.1 member with rfl | ⟨-, inner, -, rfl⟩ <;> rfl

private theorem nodup_stationsAt {child : snapshot.Cursor × Nat}
    (routed : ∀ station ∈ below child.1, station.positions ≠ [])
    (once : ((below child.1).map Station.positions).Nodup) :
    ((stationsAt settings below child).map Station.positions).Nodup := by
  unfold stationsAt
  split
  · rw [List.map_cons, List.map_map]
    have under : Station.positions ∘ Station.under child.2 =
        List.cons child.2 ∘ (Station.positions : Station snapshot → List Nat) := rfl
    rw [under, ← List.map_map, List.nodup_cons]
    refine ⟨fun member => ?_, once.map List.cons_injective⟩
    obtain ⟨positions, inner, same⟩ := List.mem_map.1 member
    obtain ⟨station, within, rfl⟩ := List.mem_map.1 inner
    exact routed station within (List.cons.inj same).2
  · exact List.nodup_singleton _

private theorem nodup_flatMap_stationsAt
    (each : ∀ child : snapshot.Cursor × Nat,
      ((stationsAt settings below child).map Station.positions).Nodup) :
    ((parent.children.zipIdx.flatMap (stationsAt settings below)).map Station.positions).Nodup := by
  rw [List.map_flatMap, List.nodup_flatMap]
  refine ⟨fun child _ => each child, ?_⟩
  -- a child may be listed twice, so two of them are told apart by their positions
  have apart : parent.children.zipIdx.Pairwise fun one other => one.2 ≠ other.2 := by
    have once : (parent.children.zipIdx.map Prod.snd).Nodup := by
      rw [List.zipIdx_map_snd]
      exact List.nodup_range'
    exact List.pairwise_map.1 once
  refine apart.imp fun differ positions one other => differ ?_
  obtain ⟨station, member, rfl⟩ := List.mem_map.1 one
  obtain ⟨same, member', alike⟩ := List.mem_map.1 other
  have first := positions_stationsAt member
  rw [← alike, positions_stationsAt member'] at first
  exact (Option.some.inj first).symm

theorem nodup_stations (settings : Settings) (room : Nat) (parent : snapshot.Cursor) :
    ((stations settings room parent).map Station.positions).Nodup := by
  induction room generalizing parent with
  | zero => exact nodup_flatMap_stationsAt fun child => nodup_stationsAt (by simp) List.nodup_nil
  | succ room ih =>
    refine nodup_flatMap_stationsAt fun child => nodup_stationsAt ?_ (ih child.1)
    exact fun station member => (mem_stations.1 member).1.ne_nil

end Stops

/-- The cursors that the walk over a unit comes to, one for each route to it. -/
def reached (settings : Settings) (snapshot : Snapshot) : List snapshot.Cursor :=
  (stations settings (settings.maxDepth - 1) snapshot.root).map Station.cursor

theorem mem_stations_root {station : Station snapshot} :
    station ∈ stations settings (settings.maxDepth - 1) snapshot.root ↔
      Route settings snapshot.root station.positions station.cursor ∧
        station.positions.length ≤ max 1 settings.maxDepth := by
  -- without any depth the children of the root are still come to
  have deepest : settings.maxDepth - 1 + 1 = max 1 settings.maxDepth := by omega
  rw [mem_stations, deepest]

theorem mem_reached {cursor : snapshot.Cursor} :
    cursor ∈ reached settings snapshot ↔ ∃ positions,
      Route settings snapshot.root positions cursor ∧
        positions.length ≤ max 1 settings.maxDepth := by
  rw [reached, List.mem_map]
  constructor
  · rintro ⟨station, member, rfl⟩
    exact ⟨station.positions, mem_stations_root.1 member⟩
  · rintro ⟨positions, there⟩
    exact ⟨⟨positions, cursor⟩, mem_stations_root.2 there, rfl⟩

structure Visits (settings : Settings) (cursor : snapshot.Cursor) : Prop where
  route : ∃ positions, Route settings snapshot.root positions cursor ∧
    positions.length ≤ max 1 settings.maxDepth
  taken : takes settings cursor

def arrive (settings : Settings) (cursor : snapshot.Cursor) : Walk Unit :=
  if leavesOut settings cursor then do
    Extract.note (.skipped cursor.kind cursor.spelling)
    modify Tally.skip
  else if takes settings cursor then do
    modify Tally.visit
    let _ ← Extract.record settings cursor
  else pure ()

/-- Comes to a cursor and then goes down into it if it is a scope that is opened. -/
def comeBy (arrive : snapshot.Cursor → Walk Unit) (settings : Settings)
    (descend : snapshot.Cursor → Walk Unit) (cursor : snapshot.Cursor) : Walk Unit := do
  arrive cursor
  if opens settings cursor then descend cursor

/-- The walk under a cursor, with the arrivals left open. -/
def roam (arrive : snapshot.Cursor → Walk Unit) (settings : Settings) :
    Nat → snapshot.Cursor → Walk Unit
  | 0, parent => parent.children.forM (comeBy arrive settings (stayAbove settings))
  | room + 1, parent => parent.children.forM (comeBy arrive settings (roam arrive settings room))

private theorem visit_eq_comeBy (descend : snapshot.Cursor → Walk Unit) :
    visit settings descend = comeBy (arrive settings) settings descend := by
  funext cursor
  unfold visit comeBy arrive
  cases left : leavesOut settings cursor with
  | true => simp [opens, left]
  | false =>
    by_cases field : cursor.kind = .fieldDecl
    · simp [opens, takes, left, field, CursorKind.isScope]
    · cases declared : cursor.isDeclaration || cursor.isDefinition <;>
        simp [opens, takes, left, field, declared]

theorem children_eq_roam (room : Nat) (parent : snapshot.Cursor) :
    children settings room parent = roam (arrive settings) settings room parent := by
  induction room generalizing parent with
  | zero => rw [children, roam, visit_eq_comeBy]
  | succ room ih => rw [children, roam, visit_eq_comeBy, funext ih]

/-- A property of two walks side by side and of the cursors that they come to, in order,
that goes from arrivals to the whole. -/
structure Coupled (settings : Settings) (arrive beside : snapshot.Cursor → Walk Unit)
    (law : Walk Unit → Walk Unit → List snapshot.Cursor → Prop) : Prop where
  pure : law (pure ()) (pure ()) []
  note : ∀ event, law (liftM (Extract.note event)) (liftM (Extract.note event)) []
  bind : ∀ {first other : Walk Unit} {rest further : Unit → Walk Unit}
    {earlier later : List snapshot.Cursor}, law first other earlier →
      law (rest ()) (further ()) later → law (first >>= rest) (other >>= further) (earlier ++ later)
  arrive : ∀ cursor, law (arrive cursor) (beside cursor) [cursor]

namespace Coupled

variable {arrive beside : snapshot.Cursor → Walk Unit}
  {law : Walk Unit → Walk Unit → List snapshot.Cursor → Prop}
  (coupled : Coupled settings arrive beside law)

include coupled

private theorem comeBy (descend further : snapshot.Cursor → Walk Unit)
    (below : snapshot.Cursor → List (Station snapshot))
    (descends : ∀ cursor, law (descend cursor) (further cursor)
      ((below cursor).map Station.cursor)) (child : snapshot.Cursor × Nat) :
    law (comeBy arrive settings descend child.1) (comeBy beside settings further child.1)
      ((stationsAt settings below child).map Station.cursor) := by
  refine coupled.bind (coupled.arrive child.1) ?_
  split
  · rw [List.map_map]
    exact descends child.1
  · exact coupled.pure

private theorem forM {descend further : snapshot.Cursor → Walk Unit}
    {below : snapshot.Cursor → List (Station snapshot)}
    (descends : ∀ cursor, law (descend cursor) (further cursor)
      ((below cursor).map Station.cursor)) (cursors : List snapshot.Cursor) (first : Nat) :
    law (cursors.forM (Walk.comeBy arrive settings descend))
      (cursors.forM (Walk.comeBy beside settings further))
      (((cursors.zipIdx first).flatMap (stationsAt settings below)).map Station.cursor) := by
  induction cursors generalizing first with
  | nil => exact coupled.pure
  | cons cursor cursors ih =>
    rw [List.zipIdx_cons, List.flatMap_cons, List.map_append]
    have come := coupled.comeBy descend further below descends (cursor, first)
    exact coupled.bind come (ih (first + 1))

theorem roam (room : Nat) (parent : snapshot.Cursor) :
    law (roam arrive settings room parent) (roam beside settings room parent)
      ((stations settings room parent).map Station.cursor) := by
  induction room generalizing parent with
  | zero => exact coupled.forM (fun scope => coupled.note _) _ 0
  | succ room ih => exact coupled.forM ih _ 0

end Coupled

/-- A property of one walk that goes from arrivals to the whole. -/
abbrev Additive (settings : Settings) (law : Walk Unit → List snapshot.Cursor → Prop) : Prop :=
  Coupled settings (arrive settings) (arrive settings) fun walk _ => law walk

namespace Additive

variable {law : Walk Unit → List snapshot.Cursor → Prop} (additive : Additive settings law)

include additive

theorem visit {descend : snapshot.Cursor → Walk Unit}
    (below : snapshot.Cursor → List (Station snapshot))
    (descends : ∀ cursor, law (descend cursor) ((below cursor).map Station.cursor))
    (child : snapshot.Cursor × Nat) :
    law (visit settings descend child.1)
      ((stationsAt settings below child).map Station.cursor) := by
  rw [visit_eq_comeBy]
  exact additive.comeBy descend descend below descends child

theorem children (room : Nat) (parent : snapshot.Cursor) :
    law (children settings room parent) ((stations settings room parent).map Station.cursor) := by
  rw [children_eq_roam]
  exact additive.roam room parent

theorem unit : law (unit settings snapshot) (reached settings snapshot) :=
  additive.children _ snapshot.root

end Additive

end SymbolAtlas.Walk
