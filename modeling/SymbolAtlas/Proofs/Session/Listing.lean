import Mathlib.Data.List.Forall2
import SymbolAtlas.Listing
import SymbolAtlas.Proofs.Registry.Preorder
import SymbolAtlas.Proofs.Session.Coherence

/-! Listings of a session are walks through the scopes of its registry, and they name every
symbol the way that types name it. -/

namespace SymbolAtlas

private theorem forall₂_filterMap {α β : Type} {f : α → Option β} {xs : List α}
    (total : ∀ x ∈ xs, ∃ y, f x = some y) :
    List.Forall₂ (fun x y => f x = some y) xs (xs.filterMap f) := by
  induction xs with
  | nil => exact .nil
  | cons x xs ih =>
    obtain ⟨y, same⟩ := total x List.mem_cons_self
    rw [List.filterMap_cons_some same]
    exact .cons same (ih fun z later => total z (List.mem_cons_of_mem x later))

private theorem exists_mem_zip {α β : Type} {related : α → β → Prop} {xs : List α} {ys : List β}
    (matched : List.Forall₂ related xs ys) {x : α} (member : x ∈ xs) :
    ∃ y, (x, y) ∈ xs.zip ys := by
  induction matched with
  | nil => cases member
  | cons _ _ ih =>
    rcases List.mem_cons.mp member with rfl | later
    · exact ⟨_, List.mem_cons_self⟩
    · exact (ih later).imp fun y paired => List.mem_cons_of_mem _ paired

namespace Registry

variable {registry : Registry} {index parent : Nat} {row : Row} {symbol : Symbol}

/-- The order visits every symbol once, right before all that lies within it, and the symbols of
one scope by display name, then spelling, then key. -/
structure Preordered (registry : Registry) (order : List (Identity × Nat)) : Prop where
  complete : (order.map Prod.snd).Perm (List.range registry.size)
  own : ∀ entry ∈ order, registry.find? entry.1 = some entry.2 ∧
    registry.identityOf? entry.2 = some entry.1
  ascending : order.Pairwise fun first second => first.1.Before second.1
  nested : ∀ earlier entry later, order = earlier ++ entry :: later →
    ∃ block rest, later = block ++ rest ∧
      ∀ index, registry.Above entry.2 index ↔ index ∈ block.map Prod.snd
  siblings : order.Pairwise fun first second => ∀ symbol other,
    registry.get? first.2 = some symbol → registry.get? second.2 = some other →
      symbol.parent = other.parent → symbol.part.Before other.part

private theorem preordered (rooted : Rooted registry.seats) :
    registry.Preordered registry.sorted where
  complete := registry.sorted_indices
  own entry member := by
    obtain ⟨seat, stored, own⟩ := mem_sorted.mp member
    rw [← own]
    exact ⟨find?_of_seat rooted stored, identityOf?_of_seat rooted stored⟩
  ascending := sorted_ascending rooted
  nested _ _ _ := exists_block rooted
  siblings := siblings_ascending rooted

/-- The row of a symbol stands among the rows where the symbol stands in the order. -/
def RowOf (registry : Registry) (index : Nat) (row : Row) : Prop :=
  ∃ identity, ((identity, index), row) ∈ registry.sorted.zip (Listing.ofRegistry registry).rows

/-- The row is the one that shows the symbol of the entry under its identity. -/
def Displays (registry : Registry) (entry : Identity × Nat) (row : Row) : Prop :=
  ∃ symbol, registry.get? entry.2 = some symbol ∧ row = symbol.row registry.nameOf? entry.1

private theorem exists_symbol {entry : Identity × Nat} (member : entry ∈ registry.sorted) :
    ∃ symbol, registry.get? entry.2 = some symbol := by
  obtain ⟨seat, stored, -⟩ := mem_sorted.mp member
  rw [getElem?_seats] at stored
  obtain ⟨entry, present, -⟩ := Option.map_eq_some_iff.mp stored
  exact ⟨entry.symbol, by rw [get?, present]; rfl⟩

private theorem rows_displayed (registry : Registry) :
    List.Forall₂ registry.Displays registry.sorted (Listing.ofRegistry registry).rows := by
  refine (forall₂_filterMap fun entry member => ?_).imp fun entry row shown => ?_
  · obtain ⟨symbol, found⟩ := exists_symbol member
    exact ⟨symbol.row registry.nameOf? entry.1, congrArg (Option.map _) found⟩
  · obtain ⟨symbol, found, same⟩ := Option.map_eq_some_iff.mp shown
    exact ⟨symbol, found, same.symm⟩

private theorem identity_unique {identity other : Identity}
    (member : (identity, index) ∈ registry.sorted)
    (member' : (other, index) ∈ registry.sorted) : identity = other := by
  obtain ⟨seat, stored, rfl⟩ := mem_sorted.mp member
  obtain ⟨same, stored', rfl⟩ := mem_sorted.mp member'
  rw [Option.some.inj (stored.symm.trans stored')]

private theorem rowOf_iff : registry.RowOf index row ↔
    ∃ identity, (identity, index) ∈ registry.sorted ∧ registry.Displays (identity, index) row := by
  constructor
  · rintro ⟨identity, paired⟩
    exact ⟨identity, (List.of_mem_zip paired).1,
      (List.forall₂_iff_zip.mp registry.rows_displayed).2 paired⟩
  · rintro ⟨identity, member, symbol, found, rfl⟩
    obtain ⟨row, paired⟩ := exists_mem_zip registry.rows_displayed member
    obtain ⟨same, found', rfl⟩ := (List.forall₂_iff_zip.mp registry.rows_displayed).2 paired
    obtain rfl := Option.some.inj (found.symm.trans found')
    exact ⟨identity, paired⟩

/-- Every symbol has one row, in the place of the symbol in the order. It is named after the
row of the symbol around it, and types name the symbol as its row does. -/
structure Listed (registry : Registry) : Prop where
  displayed : List.Forall₂ registry.Displays registry.sorted (Listing.ofRegistry registry).rows
  single : ∀ index, index < registry.size → ∃! row, registry.RowOf index row
  qualified : ∀ index row symbol parent, registry.RowOf index row →
    registry.get? index = some symbol → symbol.parent = some parent →
      ∃ outer, registry.RowOf parent outer ∧
        row.qualifiedName = outer.qualifiedName ++ "::" ++ symbol.spelling
  rendered : ∀ index row, registry.RowOf index row →
    ∀ base ∈ [Leaf.record (some index), Leaf.enumeration (some index)],
      (Ty.leaf {} base).spelling registry.nameOf? = row.qualifiedName

private theorem listed (rooted : Rooted registry.seats) : registry.Listed where
  displayed := registry.rows_displayed
  single index inside := by
    obtain ⟨⟨identity, _⟩, member, rfl⟩ := List.mem_map.mp
      (registry.sorted_indices.mem_iff.mpr (List.mem_range.mpr inside))
    obtain ⟨symbol, found⟩ := exists_symbol member
    refine ⟨_, rowOf_iff.mpr ⟨identity, member, symbol, found, rfl⟩, fun row other => ?_⟩
    obtain ⟨same, member', symbol', found', rfl⟩ := rowOf_iff.mp other
    rw [identity_unique member' member, Option.some.inj (found'.symm.trans found)]
  qualified index row symbol parent shown found nested := by
    obtain ⟨identity, member, same, found', rfl⟩ := rowOf_iff.mp shown
    obtain rfl := Option.some.inj (found.symm.trans found')
    obtain ⟨seat, stored, -, linked⟩ := seat_of_get? found
    obtain ⟨-, above, stored', -⟩ := rooted.below index seat parent stored (linked.trans nested)
    have member' : (above.identity, parent) ∈ registry.sorted :=
      mem_sorted.mpr ⟨above, stored', rfl⟩
    obtain ⟨outer, around⟩ := exists_symbol member'
    refine ⟨_, rowOf_iff.mpr ⟨above.identity, member', outer, around, rfl⟩, ?_⟩
    have own : identity = (registry.scope symbol.parent).child symbol.part :=
      identity_of_mem_sorted rooted member found
    rw [nested, scope_some stored'] at own
    change identity.spelling = above.identity.spelling ++ "::" ++ symbol.part.spelling
    rw [own]
    exact Identity.joined_child Part.spelling (isEmpty_identity_of_seat rooted stored') symbol.part
  rendered index row shown base member := by
    obtain ⟨identity, inside, symbol, found, rfl⟩ := rowOf_iff.mp shown
    obtain ⟨seat, stored, rfl⟩ := mem_sorted.mp inside
    have named : registry.nameOf? index = some seat.identity.spelling := by
      rw [nameOf?, identityOf?_of_seat rooted stored, Option.map_some]
    simp only [List.mem_cons, List.not_mem_nil, or_false] at member
    rcases member with rfl | rfl <;>
      simp [Ty.spelling, Ty.innerSpelling, Ty.withQualifiers, Qualifiers.words, Leaf.text, named,
        Symbol.row]

end Registry

namespace Session

/-- In every registry that a session leads to, the symbols in identity order are a walk through
the scopes that visits each symbol right before all within it. The listing has their rows in this
order, and the name of a row is the one that record and enumeration types give its symbol. -/
theorem listing_walks_scopes (operations : List Operation) :
    let registry := (run operations).registry
    registry.Preordered registry.sorted ∧ registry.Listed :=
  ⟨Registry.preordered (rooted_run operations), Registry.listed (rooted_run operations)⟩

def scattered : Snapshot where
  raw := {
    mainFile := ⟨"m.cpp"⟩
    cursors := #[{ kind := .translationUnit, children := [1, 4] },
      { RawCursor.named .namespaceDecl "N" with semanticParent := some 0, children := [2, 3] },
      { RawCursor.named .functionDecl "f" with
        mangledName := "_ZN1N1fEv", semanticParent := some 1 },
      { RawCursor.named .structDecl "B" with semanticParent := some 1 },
      { RawCursor.named .structDecl "M" with semanticParent := some 0 }] }
  checked := by rfl

example : (Listing.ofRegistry (run [.parse .headersToo scattered]).registry).rows.map
    Row.qualifiedName = ["M", "N", "N::B", "N::f"] := by
  cbv

end Session

end SymbolAtlas
