import Mathlib.Logic.Relation
import SymbolAtlas.Proofs.Registry.Coherence
import SymbolAtlas.Proofs.Registry.Order
import SymbolAtlas.Registry

/-! The symbols of a registry in identity order are a walk through the scopes that visits
every symbol right before all that lies within it. -/

namespace SymbolAtlas

private theorem mem_takeWhile_iff {α : Type} {p : α → Bool} {xs : List α}
    (closed : xs.Pairwise fun x y => p y = true → p x = true) {y : α} :
    y ∈ xs.takeWhile p ↔ y ∈ xs ∧ p y = true := by
  induction xs with
  | nil => simp
  | cons x xs ih =>
    obtain ⟨head, tail⟩ := List.pairwise_cons.mp closed
    rw [List.takeWhile_cons]
    split
    · rename_i own
      rw [List.mem_cons, List.mem_cons, ih tail, or_and_right]
      exact or_congr_left ⟨fun same => ⟨same, same ▸ own⟩, And.left⟩
    · rename_i other
      refine ⟨fun none => by simp at none, fun ⟨member, own⟩ => absurd ?_ other⟩
      rcases List.mem_cons.mp member with rfl | later
      · exact own
      · exact head y later own

namespace Registry

variable {registry : Registry}

/-- One symbol is in the chain of parents of the other. -/
def Above (registry : Registry) : Nat → Nat → Prop :=
  Relation.TransGen fun parent index => registry.parent? index = some parent

private theorem parent?_eq_some_iff {index parent : Nat} :
    registry.parent? index = some parent ↔
      ∃ seat, registry.seats[index]? = some seat ∧ seat.parent = some parent := by
  rw [parent?_eq_seat, Option.bind_eq_some_iff]

/-- The identity that the identities of all symbols below a parent extend. -/
def scope (registry : Registry) (parent : Option Nat) : Identity :=
  ((parent.bind fun index => registry.seats[index]?).map Seat.identity).getD .empty

theorem scope_some {parent : Nat} {seat : Seat} (found : registry.seats[parent]? = some seat) :
    registry.scope (some parent) = seat.identity := by
  rw [scope, Option.bind_some, found]
  rfl

section Rooted

variable (rooted : Rooted registry.seats) {outer inner : Nat} {seat other : Seat}
include rooted

private theorem identity_of_seat (found : registry.seats[outer]? = some seat) :
    seat.identity = (registry.scope seat.parent).child seat.part := by
  cases nested : seat.parent with
  | none => exact rooted.top outer seat found nested
  | some parent =>
    obtain ⟨-, above, stored, same⟩ := rooted.below outer seat parent found nested
    rw [same, scope_some stored]

theorem isEmpty_identity_of_seat (found : registry.seats[outer]? = some seat) :
    seat.identity.isEmpty = false := by
  simp [identity_of_seat rooted found, Identity.child, Identity.isEmpty]

private theorem child_of_parent? (linked : registry.parent? inner = some outer)
    (found : registry.seats[inner]? = some other) :
    outer < inner ∧ ∃ seat, registry.seats[outer]? = some seat ∧
      other.identity = seat.identity.child other.part := by
  obtain ⟨same, stored, nested⟩ := parent?_eq_some_iff.mp linked
  obtain rfl := Option.some.inj (found.symm.trans stored)
  exact rooted.below inner other outer found nested

private theorem heads_of_above (above : registry.Above outer inner)
    (found : registry.seats[inner]? = some other) :
    outer < inner ∧ ∃ seat, registry.seats[outer]? = some seat ∧
      seat.identity.Heads other.identity := by
  induction above generalizing other with
  | single linked =>
    obtain ⟨less, seat, stored, same⟩ := child_of_parent? rooted linked found
    exact ⟨less, seat, stored, same ▸ List.prefix_append _ _⟩
  | tail _ linked ih =>
    obtain ⟨less, between, stored, same⟩ := child_of_parent? rooted linked found
    obtain ⟨before, seat, above, heads⟩ := ih stored
    exact ⟨before.trans less, seat, above, heads.trans (same ▸ List.prefix_append _ _)⟩

private theorem above_of_heads (found : registry.seats[outer]? = some seat)
    (stored : registry.seats[inner]? = some other) (heads : seat.identity.Heads other.identity) :
    outer = inner ∨ registry.Above outer inner := by
  induction inner using Nat.strongRecOn generalizing other with
  | _ inner earlier =>
    have apart : ∀ {parts : List Part}, other.identity = ⟨parts⟩ → seat.identity.parts = parts →
        outer = inner := by
      intro parts own same
      exact rooted.distinct outer inner seat other found stored
        ((congrArg Identity.mk same).trans own.symm)
    cases nested : other.parent with
    | none =>
      have alone := rooted.top inner other stored nested
      rw [Identity.Heads, alone, Identity.ofPart, ← List.nil_append [_],
        List.prefix_concat_iff] at heads
      rcases heads with same | none
      · exact .inl (apart alone same)
      · have deep := isEmpty_identity_of_seat rooted found
        rw [Identity.isEmpty, List.prefix_nil.mp none] at deep
        cases deep
    | some parent =>
      obtain ⟨less, above, present, same⟩ := rooted.below inner other parent stored nested
      have linked : registry.parent? inner = some parent :=
        parent?_eq_some_iff.mpr ⟨other, stored, nested⟩
      rw [Identity.Heads, same, Identity.child, List.prefix_concat_iff] at heads
      rcases heads with whole | heads
      · exact .inl (apart same whole)
      · rcases earlier parent less present heads with rfl | above
        · exact .inr (.single linked)
        · exact .inr (.tail above linked)

end Rooted

private theorem seat_of_above {outer inner : Nat} (above : registry.Above outer inner) :
    ∃ seat, registry.seats[inner]? = some seat := by
  obtain ⟨parent, -, linked⟩ := Relation.TransGen.tail'_iff.mp above
  obtain ⟨seat, found, -⟩ := parent?_eq_some_iff.mp linked
  exact ⟨seat, found⟩

private theorem mem_registered {entry : Identity × Nat} :
    entry ∈ registry.registered ↔
      ∃ seat, registry.seats[entry.2]? = some seat ∧ seat.identity = entry.1 := by
  obtain ⟨identity, index⟩ := entry
  simp only [registered, List.mem_map, Prod.mk.injEq, getElem?_seats, Option.map_eq_some_iff]
  constructor
  · rintro ⟨⟨entry, position⟩, member, rfl, rfl⟩
    rw [List.mk_mem_zipIdx_iff_getElem?, Array.getElem?_toList] at member
    exact ⟨entry.seat, ⟨entry, member, rfl⟩, rfl⟩
  · rintro ⟨_, ⟨entry, stored, rfl⟩, rfl⟩
    refine ⟨(entry, index), ?_, rfl, rfl⟩
    rwa [List.mk_mem_zipIdx_iff_getElem?, Array.getElem?_toList]

theorem mem_sorted {entry : Identity × Nat} :
    entry ∈ registry.sorted ↔
      ∃ seat, registry.seats[entry.2]? = some seat ∧ seat.identity = entry.1 :=
  List.mem_mergeSort.trans mem_registered

private theorem registered_indices (registry : Registry) :
    registry.registered.map Prod.snd = List.range registry.size := by
  have indices := List.zipIdx_map_snd 0 registry.entries.toList
  rw [← List.range_eq_range', Array.length_toList] at indices
  rw [registered, List.map_map]
  exact indices

theorem sorted_indices (registry : Registry) :
    (registry.sorted.map Prod.snd).Perm (List.range registry.size) :=
  registry.registered_indices ▸ (List.mergeSort_perm registry.registered _).map Prod.snd

instance : Std.TransCmp fun a b : Identity × Nat => a.1.compare b.1 where
  eq_swap := Std.OrientedCmp.eq_swap
  isLE_trans := Std.TransCmp.isLE_trans

instance : Std.TransCmp compareRegistered :=
  inferInstanceAs (Std.TransCmp
    (compareLex (fun a b : Identity × Nat => a.1.compare b.1) (compareOn Prod.snd)))

private theorem strict_sorted (registry : Registry) :
    Ascending.Strict compareRegistered registry.sorted := by
  have distinct : (registry.registered.map Prod.snd).Nodup :=
    registry.registered_indices ▸ List.nodup_range
  refine Ascending.strict_sort ((List.pairwise_map.mp distinct).imp fun differs same => differs ?_)
  exact compare_eq_iff_eq.mp (Ordering.then_eq_eq.mp same).2

theorem sorted_ascending (rooted : Rooted registry.seats) :
    registry.sorted.Pairwise fun first second => first.1.Before second.1 := by
  refine registry.strict_sorted.imp_of_mem fun {first second} member member' less => ?_
  rcases Ordering.then_eq_lt.mp less with less | ⟨same, later⟩
  · exact Identity.compare_eq_lt_iff.mp less
  · obtain ⟨seat, stored, own⟩ := mem_sorted.mp member
    obtain ⟨other, stored', own'⟩ := mem_sorted.mp member'
    have equal : seat.identity = other.identity := by
      rw [own, own', Identity.eq_of_compare same]
    rw [rooted.distinct _ _ _ _ stored stored' equal] at later
    exact absurd (compare_lt_iff_lt.mp later) (Nat.lt_irrefl _)

section Around

variable (rooted : Rooted registry.seats) {earlier later : List (Identity × Nat)}
variable {entry other : Identity × Nat} (split : registry.sorted = earlier ++ entry :: later)
include rooted split

private theorem ascending_around :
    (∀ other ∈ earlier, other.1.Before entry.1) ∧ (∀ other ∈ later, entry.1.Before other.1) ∧
      later.Pairwise fun first second => first.1.Before second.1 := by
  have ascending := sorted_ascending rooted
  rw [split, List.pairwise_append, List.pairwise_cons] at ascending
  obtain ⟨-, ⟨follows, ordered⟩, precedes⟩ := ascending
  exact ⟨fun other member => precedes other member entry List.mem_cons_self, follows, ordered⟩

private theorem mem_later_of_above {index : Nat} (above : registry.Above entry.2 index) :
    ∃ other ∈ later, other.2 = index ∧ entry.1.Heads other.1 := by
  obtain ⟨precedes, -, -⟩ := ascending_around rooted split
  obtain ⟨seat, stored, own⟩ := mem_sorted.mp (split ▸ List.mem_append_cons_self)
  obtain ⟨below, found⟩ := seat_of_above above
  obtain ⟨less, same, stored', heads⟩ := heads_of_above rooted above found
  obtain rfl := Option.some.inj (stored.symm.trans stored')
  rw [own] at heads
  have member : (below.identity, index) ∈ earlier ++ entry :: later :=
    split ▸ mem_sorted.mpr ⟨below, found, rfl⟩
  refine ⟨(below.identity, index), ?_, rfl, heads⟩
  rcases List.mem_append.mp member with before | member
  · exact absurd (precedes _ before) heads.not_before
  · refine (List.mem_cons.mp member).resolve_left fun self => ?_
    exact absurd (congrArg Prod.snd self) (Nat.ne_of_gt less)

private theorem above_of_mem_later (after : other ∈ later) (heads : entry.1.Heads other.1) :
    registry.Above entry.2 other.2 := by
  obtain ⟨-, follows, -⟩ := ascending_around rooted split
  obtain ⟨seat, stored, own⟩ := mem_sorted.mp (split ▸ List.mem_append_cons_self)
  obtain ⟨below, found, own'⟩ := mem_sorted.mp (split ▸ List.mem_append_right _ (.tail _ after))
  rw [← own, ← own'] at heads
  refine (above_of_heads rooted stored found heads).resolve_left fun same => ?_
  have equal : entry.1 = other.1 := by
    rw [← own, ← own', Option.some.inj (stored.symm.trans (same ▸ found))]
  have less := follows other after
  rw [equal] at less
  exact less.asymm less

/-- What follows a symbol begins with all that lies within it and nothing else. -/
theorem exists_block :
    ∃ block rest, later = block ++ rest ∧
      ∀ index, registry.Above entry.2 index ↔ index ∈ block.map Prod.snd := by
  obtain ⟨-, follows, ordered⟩ := ascending_around rooted split
  let within (other : Identity × Nat) : Bool := decide (entry.1.Heads other.1)
  -- identities between one and another that it heads are headed by it too
  have closed : later.Pairwise fun first second => within second = true → within first = true :=
    ordered.imp_of_mem fun {first second} member _ less heads =>
      decide_eq_true ((follows first member).heads less (of_decide_eq_true heads))
  refine ⟨later.takeWhile within, later.dropWhile within, List.takeWhile_append_dropWhile.symm,
    fun index => ⟨fun above => ?_, fun member => ?_⟩⟩
  · obtain ⟨other, after, same, heads⟩ := mem_later_of_above rooted split above
    exact List.mem_map.mpr
      ⟨other, (mem_takeWhile_iff closed).mpr ⟨after, decide_eq_true heads⟩, same⟩
  · obtain ⟨other, kept, rfl⟩ := List.mem_map.mp member
    obtain ⟨after, headed⟩ := (mem_takeWhile_iff closed).mp kept
    exact above_of_mem_later rooted split after (of_decide_eq_true headed)

end Around

theorem seat_of_get? {index : Nat} {symbol : Symbol} (found : registry.get? index = some symbol) :
    ∃ seat, registry.seats[index]? = some seat ∧ seat.part = symbol.part ∧
      seat.parent = symbol.parent := by
  obtain ⟨entry, stored, rfl⟩ := Option.map_eq_some_iff.mp found
  exact ⟨entry.seat, by rw [getElem?_seats, stored]; rfl, rfl, rfl⟩

theorem identity_of_mem_sorted (rooted : Rooted registry.seats) {entry : Identity × Nat}
    {symbol : Symbol} (member : entry ∈ registry.sorted)
    (found : registry.get? entry.2 = some symbol) :
    entry.1 = (registry.scope symbol.parent).child symbol.part := by
  obtain ⟨seat, stored, own⟩ := mem_sorted.mp member
  obtain ⟨same, again, part, parent⟩ := seat_of_get? found
  obtain rfl := Option.some.inj (stored.symm.trans again)
  rw [← own, identity_of_seat rooted stored, part, parent]

theorem siblings_ascending (rooted : Rooted registry.seats) :
    registry.sorted.Pairwise fun first second => ∀ symbol other,
      registry.get? first.2 = some symbol → registry.get? second.2 = some other →
        symbol.parent = other.parent → symbol.part.Before other.part := by
  refine (sorted_ascending rooted).imp_of_mem fun {first second} member member' less => ?_
  intro symbol other found found' same
  rw [identity_of_mem_sorted rooted member found, identity_of_mem_sorted rooted member' found',
    same] at less
  exact Identity.before_of_child less

end Registry

end SymbolAtlas
