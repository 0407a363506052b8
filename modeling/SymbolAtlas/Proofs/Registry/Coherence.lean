import SymbolAtlas.Proofs.Registry.Operations
import SymbolAtlas.Registry

/-! Where symbols stand: under which identity, with which part and below which
parent. The identity of every symbol is spelled out by the parts of its parents and
its own, and no operation of extraction or rollback changes that. -/

namespace SymbolAtlas

/-- What ties a symbol to its identity. -/
structure Seat where
  identity : Identity
  part : Part
  parent : Option Nat

def Entry.seat (entry : Entry) : Seat :=
  ⟨entry.identity, entry.symbol.part, entry.symbol.parent⟩

/-- Identities are distinct, and each is the part of its symbol below the identity
of the parent, which comes earlier. -/
structure Rooted (seats : Array Seat) : Prop where
  distinct : ∀ (first second : Nat) seat other, seats[first]? = some seat →
    seats[second]? = some other → seat.identity = other.identity → first = second
  named : ∀ (index : Nat) seat, seats[index]? = some seat → seat.part.isEmpty = false
  top : ∀ (index : Nat) seat, seats[index]? = some seat → seat.parent = none →
    seat.identity = .ofPart seat.part
  below : ∀ (index : Nat) seat parent, seats[index]? = some seat →
    seat.parent = some parent → parent < index ∧
      ∃ outer, seats[parent]? = some outer ∧ seat.identity = outer.identity.child seat.part

namespace Rooted

variable {seats : Array Seat}

theorem empty : Rooted #[] := by
  constructor <;> simp

theorem push (rooted : Rooted seats) {seat : Seat}
    (fresh : ∀ (index : Nat) other, seats[index]? = some other → other.identity ≠ seat.identity)
    (named : seat.part.isEmpty = false)
    (top : seat.parent = none → seat.identity = .ofPart seat.part)
    (below : ∀ parent, seat.parent = some parent →
      ∃ outer, seats[parent]? = some outer ∧ seat.identity = outer.identity.child seat.part) :
    Rooted (seats.push seat) := by
  have old : ∀ {index : Nat} {other : Seat}, seats[index]? = some other →
      (seats.push seat)[index]? = some other := fun found => by
    rw [Array.getElem?_push, if_neg (Nat.ne_of_lt (Array.getElem?_eq_some_iff.1 found).1), found]
  have split : ∀ {index : Nat} {other : Seat}, (seats.push seat)[index]? = some other →
      index = seats.size ∧ other = seat ∨ seats[index]? = some other := fun found => by
    rw [Array.getElem?_push] at found
    split at found
    · exact .inl ⟨‹_›, (Option.some.inj found).symm⟩
    · exact .inr found
  constructor
  · intro first second one other found found' same
    rcases split found with ⟨rfl, rfl⟩ | earlier <;> rcases split found' with ⟨rfl, rfl⟩ | earlier'
    · rfl
    · exact absurd same.symm (fresh second other earlier')
    · exact absurd same (fresh first one earlier)
    · exact rooted.distinct first second one other earlier earlier' same
  · intro index other found
    rcases split found with ⟨rfl, rfl⟩ | earlier
    · exact named
    · exact rooted.named index other earlier
  · intro index other found outermost
    rcases split found with ⟨rfl, rfl⟩ | earlier
    · exact top outermost
    · exact rooted.top index other earlier outermost
  · intro index other parent found nested
    rcases split found with ⟨rfl, rfl⟩ | earlier
    · obtain ⟨outer, present, same⟩ := below parent nested
      exact ⟨(Array.getElem?_eq_some_iff.1 present).1, outer, old present, same⟩
    · obtain ⟨less, outer, present, same⟩ := rooted.below index other parent earlier nested
      exact ⟨less, outer, old present, same⟩

theorem take (rooted : Rooted seats) (count : Nat) : Rooted (seats.take count) := by
  have kept : ∀ {index : Nat} {seat : Seat}, (seats.take count)[index]? = some seat →
      index < count ∧ seats[index]? = some seat := fun found => by
    rw [Array.take_eq_extract, Array.getElem?_extract] at found
    split at found
    · rename_i inside
      exact ⟨by omega, by simpa using found⟩
    · cases found
  have keep : ∀ {index : Nat} {seat : Seat}, index < count → seats[index]? = some seat →
      (seats.take count)[index]? = some seat := fun inside found => by
    have bound := (Array.getElem?_eq_some_iff.1 found).1
    rw [Array.take_eq_extract, Array.getElem?_extract, if_pos (by omega)]
    simpa using found
  constructor
  · exact fun first second one other found found' =>
      rooted.distinct first second one other (kept found).2 (kept found').2
  · exact fun index seat found => rooted.named index seat (kept found).2
  · exact fun index seat found => rooted.top index seat (kept found).2
  · intro index seat parent found nested
    obtain ⟨less, outer, present, same⟩ := rooted.below index seat parent (kept found).2 nested
    exact ⟨less, outer, keep (Nat.lt_trans less (kept found).1) present, same⟩

private theorem keyed (rooted : Rooted seats) (index : Nat) (seat : Seat)
    (found : seats[index]? = some seat) : ∀ part ∈ seat.identity.parts, part.isEmpty = false := by
  induction index using Nat.strongRecOn generalizing seat with
  | _ index earlier =>
    have own := rooted.named index seat found
    cases nested : seat.parent with
    | none =>
      rw [rooted.top index seat found nested]
      simpa [Identity.ofPart] using own
    | some parent =>
      obtain ⟨less, outer, present, same⟩ := rooted.below index seat parent found nested
      have above := earlier parent less outer present
      rw [same]
      simpa [Identity.child, or_imp, forall_and] using ⟨above, own⟩

end Rooted

namespace Registry

variable {registry : Registry}

def seats (registry : Registry) : Array Seat :=
  registry.entries.map Entry.seat

private theorem size_seats (registry : Registry) : registry.seats.size = registry.size := by
  simp [seats, size]

theorem getElem?_seats (registry : Registry) (index : Nat) :
    registry.seats[index]? = registry.entries[index]?.map Entry.seat := by
  simp [seats]

theorem parent?_eq_seat (registry : Registry) (index : Nat) :
    registry.parent? index = registry.seats[index]?.bind Seat.parent := by
  rw [getElem?_seats, parent?, get?]
  cases registry.entries[index]? <;> rfl

private theorem seats_update {index : Nat} {change : Symbol → Symbol}
    (part : ∀ symbol, (change symbol).part = symbol.part)
    (parent : ∀ symbol, (change symbol).parent = symbol.parent) :
    (registry.update index change).seats = registry.seats := by
  apply Array.ext_getElem?
  intro position
  rw [getElem?_seats, getElem?_seats, getElem?_update]
  split
  · simp only [Option.map_map]
    congr 1
    funext entry
    simp [Entry.seat, part, parent]
  · rfl

theorem seats_sight (registry : Registry) (index : Nat) (sighting : Sighting) :
    (registry.update index (·.sight sighting)).seats = registry.seats :=
  seats_update (fun _ => rfl) fun _ => rfl

theorem seats_enter (registry : Registry) (identity : Identity) (symbol : Symbol) :
    (registry.enter identity symbol).seats =
      registry.seats.push ⟨identity, symbol.part, symbol.parent⟩ := by
  simp [seats, enter, Entry.seat]

theorem seats_settle (registry : Registry) (index : Nat) (detail : Detail) :
    (registry.settle index detail).seats = registry.seats := by
  rw [seats, entries_settle, ← seats]
  exact seats_update (fun _ => rfl) fun _ => rfl

private theorem seats_undo (registry : Registry) (change : Change) :
    (registry.undo change).seats = registry.seats := by
  cases change with
  | resolved index => exact seats_update (fun _ => rfl) fun _ => rfl
  | referenced edge => rfl

private theorem seats_foldl_undo (registry : Registry) (changes : List Change) :
    (changes.foldl undo registry).seats = registry.seats := by
  induction changes generalizing registry with
  | nil => rfl
  | cons change changes ih => exact (ih _).trans (registry.seats_undo change)

theorem seats_rollback (registry : Registry) (mark : Mark) :
    (registry.rollback mark).seats = registry.seats.take mark.symbols := by
  have undone := (registry.keepSymbols mark.symbols).seats_foldl_undo
    (registry.changesSince mark.changes)
  have kept : (registry.keepSymbols mark.symbols).seats = registry.seats.take mark.symbols := by
    simp [seats, keepSymbols, Array.take_eq_extract]
  exact undone.trans kept

theorem exists_seat_of_find? {identity : Identity} {index : Nat}
    (found : registry.find? identity = some index) :
    ∃ seat, registry.seats[index]? = some seat ∧ seat.identity = identity := by
  obtain ⟨⟨entry, present, rfl⟩, -⟩ := find?_eq_some.1 found
  exact ⟨entry.seat, by rw [getElem?_seats, present]; rfl, rfl⟩

theorem identity_ne_of_find?_eq_none {identity : Identity}
    (absent : registry.find? identity = none) (index : Nat) (seat : Seat)
    (found : registry.seats[index]? = some seat) : seat.identity ≠ identity := by
  rw [getElem?_seats] at found
  obtain ⟨entry, present, rfl⟩ := Option.map_eq_some_iff.1 found
  exact find?_eq_none.1 absent index entry present

theorem find?_of_seat (rooted : Rooted registry.seats) {index : Nat} {seat : Seat}
    (found : registry.seats[index]? = some seat) :
    registry.find? seat.identity = some index := by
  have own := found
  rw [getElem?_seats] at found
  obtain ⟨entry, present, rfl⟩ := Option.map_eq_some_iff.1 found
  refine find?_eq_some.2 ⟨⟨entry, present, rfl⟩, fun before other less earlier same => ?_⟩
  have stored : registry.seats[before]? = some other.seat := by
    rw [getElem?_seats, earlier]
    rfl
  exact Nat.ne_of_lt less (rooted.distinct before index _ _ stored own same)

theorem find?_of_child (rooted : Rooted registry.seats)
    {identity : Identity} {part : Part} {index : Nat} (deep : identity.isEmpty = false)
    (found : registry.find? (identity.child part) = some index) :
    ∃ parent, registry.parent? index = some parent ∧ registry.find? identity = some parent := by
  obtain ⟨⟨entry, present, own⟩, -⟩ := find?_eq_some.1 found
  have seated : registry.seats[index]? = some entry.seat := by
    rw [getElem?_seats, present]
    rfl
  cases nested : entry.symbol.parent with
  | none =>
    have alone := own.symm.trans (rooted.top index entry.seat seated nested)
    obtain ⟨parts⟩ := identity
    cases parts with
    | nil => cases deep
    | cons first rest => simp [Identity.child, Identity.ofPart] at alone
  | some parent =>
    obtain ⟨-, outer, above, same⟩ := rooted.below index entry.seat parent seated nested
    have outermost : outer.identity = identity := by
      have parts := congrArg (·.parts.dropLast) (own.symm.trans same)
      exact congrArg Identity.mk (by simpa [Identity.child] using parts.symm)
    refine ⟨parent, by rw [parent?, get?, present]; exact nested, ?_⟩
    rw [← outermost]
    exact find?_of_seat rooted above

private theorem partsUpward_of_seat (rooted : Rooted registry.seats) (index : Nat) (seat : Seat)
    (found : registry.seats[index]? = some seat) (room : Nat) (ample : index < room) :
    registry.partsUpward room index = some seat.identity.parts.reverse := by
  induction index using Nat.strongRecOn generalizing seat room with
  | _ index earlier =>
    obtain ⟨entry, present, rfl⟩ := Option.map_eq_some_iff.1
      ((registry.getElem?_seats index).symm.trans found)
    obtain ⟨room, rfl⟩ : ∃ less, room = less + 1 := ⟨room - 1, by omega⟩
    rw [partsUpward, get?, present, Option.map_some]
    cases nested : entry.symbol.parent with
    | none =>
      have alone := rooted.top index entry.seat found nested
      simp only [nested, alone, Identity.ofPart, List.reverse_singleton]
      rfl
    | some parent =>
      obtain ⟨less, outer, stored, same⟩ := rooted.below index entry.seat parent found nested
      have above := earlier parent less outer stored room (by omega)
      simp only [nested, above, same, Identity.child, List.reverse_append, List.reverse_singleton]
      rfl

theorem identityOf?_of_seat (rooted : Rooted registry.seats) {index : Nat} {seat : Seat}
    (found : registry.seats[index]? = some seat) :
    registry.identityOf? index = some seat.identity := by
  have inside := (Array.getElem?_eq_some_iff.1 found).1
  rw [size_seats] at inside
  rw [identityOf?, partsUpward_of_seat rooted index seat found registry.size inside]
  simp

/-- Registered identities and indices correspond one to one, and every identity is
rebuilt from the stored parents of its symbol, which come earlier. -/
structure Coherent (registry : Registry) : Prop where
  inside : ∀ identity index, registry.find? identity = some index → index < registry.size
  injective : ∀ identity other index, registry.find? identity = some index →
    registry.find? other = some index → identity = other
  onto : ∀ index, index < registry.size → ∃ identity, registry.find? identity = some index
  keyed : ∀ identity index, registry.find? identity = some index →
    ∀ part ∈ identity.parts, part.key ≠ ""
  rebuilt : ∀ identity index, registry.find? identity = some index →
    registry.identityOf? index = some identity
  nested : ∀ index parent, registry.parent? index = some parent →
    parent < registry.size ∧ parent < index ∧
      ∃ symbol outer, registry.get? index = some symbol ∧
        registry.identityOf? parent = some outer ∧
        registry.identityOf? index = some (outer.child symbol.part)

theorem coherent_of_rooted (rooted : Rooted registry.seats) : registry.Coherent where
  inside _ _ := lt_size_of_find?
  injective _ _ _ := find?_injective
  onto index inside := by
    rw [← size_seats] at inside
    exact ⟨_, find?_of_seat rooted (Array.getElem?_eq_getElem inside)⟩
  keyed identity index found := by
    obtain ⟨seat, stored, rfl⟩ := exists_seat_of_find? found
    intro part member
    simpa [Part.isEmpty] using rooted.keyed index seat stored part member
  rebuilt identity index found := by
    obtain ⟨seat, stored, rfl⟩ := exists_seat_of_find? found
    exact identityOf?_of_seat rooted stored
  nested index parent linked := by
    obtain ⟨symbol, present, linked⟩ := Option.bind_eq_some_iff.1 linked
    obtain ⟨entry, stored, rfl⟩ := Option.map_eq_some_iff.1 present
    have found : registry.seats[index]? = some entry.seat := by
      rw [getElem?_seats, stored]
      rfl
    obtain ⟨less, outer, above, same⟩ := rooted.below index entry.seat parent found linked
    have inside := (Array.getElem?_eq_some_iff.1 above).1
    rw [size_seats] at inside
    refine ⟨inside, less, entry.symbol, outer.identity, present, ?_, ?_⟩
    · exact identityOf?_of_seat rooted above
    · rw [identityOf?_of_seat rooted found, same]
      rfl

end Registry

end SymbolAtlas
