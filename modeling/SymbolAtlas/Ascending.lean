/-! Lists kept in ascending order of a comparison: sets that keep the first of
two equal elements, maps whose last write wins, and a stable sort. Insertion of
either sort keeps a list strictly ascending, and sorting makes a list strictly
ascending unless two elements are equal. -/

namespace SymbolAtlas

namespace Ascending

variable {α : Type}

/-- Adds an element to an ascending list; one that compares equal to a present
element is dropped. -/
def insert (cmp : α → α → Ordering) (x : α) : List α → List α
  | [] => [x]
  | y :: ys =>
    match cmp x y with
    | .lt => x :: y :: ys
    | .eq => y :: ys
    | .gt => y :: insert cmp x ys

/-- Adds an element to an ascending list in place of the one it compares equal
to, if any. -/
def put (cmp : α → α → Ordering) (x : α) : List α → List α
  | [] => [x]
  | y :: ys =>
    match cmp x y with
    | .lt => x :: y :: ys
    | .eq => x :: ys
    | .gt => y :: put cmp x ys

def ofList (cmp : α → α → Ordering) (xs : List α) : List α :=
  xs.foldl (fun set x => insert cmp x set) []

/-- Stable sort: equal elements keep their order. -/
def sort (cmp : α → α → Ordering) (xs : List α) : List α :=
  xs.mergeSort fun x y => (cmp x y).isLE

def Strict (cmp : α → α → Ordering) (xs : List α) : Prop :=
  xs.Pairwise fun x y => cmp x y = .lt

instance (cmp : α → α → Ordering) (xs : List α) : Decidable (Strict cmp xs) :=
  inferInstanceAs (Decidable (xs.Pairwise _))

theorem eq_or_mem_of_mem_insert {cmp : α → α → Ordering} {x y : α} {xs : List α}
    (member : y ∈ insert cmp x xs) : y = x ∨ y ∈ xs := by
  induction xs with
  | nil => simpa [insert] using member
  | cons z zs ih =>
    simp only [insert] at member
    split at member
    · simpa using member
    · exact .inr member
    · rcases List.mem_cons.1 member with rfl | later
      · exact .inr List.mem_cons_self
      · exact (ih later).imp_right (List.mem_cons_of_mem z)

theorem sublist_insert (cmp : α → α → Ordering) (x : α) (xs : List α) :
    xs.Sublist (insert cmp x xs) := by
  induction xs with
  | nil => exact List.nil_sublist _
  | cons y ys ih =>
    simp only [insert]
    split
    · exact List.sublist_cons_self x _
    · exact List.Sublist.refl _
    · exact ih.cons_cons y

theorem exists_mem_insert (cmp : α → α → Ordering) [Std.ReflCmp cmp] (x : α) (xs : List α) :
    ∃ y ∈ insert cmp x xs, cmp x y = .eq := by
  induction xs with
  | nil => exact ⟨x, List.mem_singleton_self x, Std.ReflCmp.compare_self⟩
  | cons y ys ih =>
    simp only [insert]
    split
    · exact ⟨x, List.mem_cons_self, Std.ReflCmp.compare_self⟩
    · rename_i same
      exact ⟨y, List.mem_cons_self, same⟩
    · obtain ⟨z, member, same⟩ := ih
      exact ⟨z, List.mem_cons_of_mem y member, same⟩

theorem mem_insert_of_apart {cmp : α → α → Ordering} {x y : α} {xs : List α}
    (apart : ∀ z ∈ xs, cmp x z ≠ .eq) : y ∈ insert cmp x xs ↔ y = x ∨ y ∈ xs := by
  induction xs with
  | nil => simp [insert]
  | cons z zs ih =>
    have later := ih fun other member => apart other (List.mem_cons_of_mem z member)
    simp only [insert]
    split
    · exact List.mem_cons
    · rename_i same
      exact absurd same (apart z List.mem_cons_self)
    · rw [List.mem_cons, later, List.mem_cons, or_left_comm]

theorem eq_or_mem_of_mem_put {cmp : α → α → Ordering} {x y : α} {xs : List α}
    (member : y ∈ put cmp x xs) : y = x ∨ y ∈ xs := by
  induction xs with
  | nil => simpa [put] using member
  | cons z zs ih =>
    simp only [put] at member
    split at member
    · simpa using member
    · exact (List.mem_cons.1 member).imp_right (List.mem_cons_of_mem z)
    · rcases List.mem_cons.1 member with rfl | later
      · exact .inr List.mem_cons_self
      · exact (ih later).imp_right (List.mem_cons_of_mem z)

theorem Strict.insert {cmp : α → α → Ordering} [Std.TransCmp cmp] {xs : List α}
    (strict : Strict cmp xs) (x : α) : Strict cmp (insert cmp x xs) := by
  induction xs with
  | nil => simp [Ascending.insert, Strict]
  | cons y ys ih =>
    obtain ⟨below, rest⟩ := List.pairwise_cons.1 strict
    simp only [Ascending.insert]
    split
    · rename_i first
      refine List.pairwise_cons.2 ⟨fun z member => ?_, strict⟩
      rcases List.mem_cons.1 member with rfl | later
      · exact first
      · exact Std.TransCmp.lt_trans first (below z later)
    · exact strict
    · rename_i first
      refine List.pairwise_cons.2 ⟨fun z member => ?_, ih rest⟩
      rcases eq_or_mem_of_mem_insert member with rfl | later
      · exact Std.OrientedCmp.lt_of_gt first
      · exact below z later

theorem Strict.insert_eq_self {cmp : α → α → Ordering} [Std.TransCmp cmp] {x : α} {xs : List α}
    (strict : Strict cmp xs) (known : ∃ y ∈ xs, cmp x y = .eq) :
    Ascending.insert cmp x xs = xs := by
  induction xs with
  | nil => simp at known
  | cons y ys ih =>
    obtain ⟨below, rest⟩ := List.pairwise_cons.1 strict
    obtain ⟨z, member, same⟩ := known
    simp only [Ascending.insert]
    split
    · rename_i first
      -- nothing from here on is equal to the new element
      rcases List.mem_cons.1 member with rfl | later
      · rw [same] at first
        cases first
      · rw [Std.TransCmp.lt_trans first (below z later)] at same
        cases same
    · rfl
    · rename_i first
      rcases List.mem_cons.1 member with rfl | later
      · rw [same] at first
        cases first
      · rw [ih rest ⟨z, later, same⟩]

private theorem Strict.put {cmp : α → α → Ordering} [Std.TransCmp cmp] {xs : List α}
    (strict : Strict cmp xs) (x : α) : Strict cmp (put cmp x xs) := by
  induction xs with
  | nil => simp [Ascending.put, Strict]
  | cons y ys ih =>
    obtain ⟨below, rest⟩ := List.pairwise_cons.1 strict
    simp only [Ascending.put]
    split
    · rename_i first
      refine List.pairwise_cons.2 ⟨fun z member => ?_, strict⟩
      rcases List.mem_cons.1 member with rfl | later
      · exact first
      · exact Std.TransCmp.lt_trans first (below z later)
    · rename_i same
      refine List.pairwise_cons.2 ⟨fun z later => ?_, rest⟩
      exact Std.TransCmp.lt_of_eq_of_lt same (below z later)
    · rename_i first
      refine List.pairwise_cons.2 ⟨fun z member => ?_, ih rest⟩
      rcases eq_or_mem_of_mem_put member with rfl | later
      · exact Std.OrientedCmp.lt_of_gt first
      · exact below z later

private theorem isLE_total (cmp : α → α → Ordering) [Std.OrientedCmp cmp] (x y : α) :
    (cmp x y).isLE || (cmp y x).isLE := by
  have swapped : cmp y x = (cmp x y).swap := Std.OrientedCmp.eq_swap
  rw [swapped]
  cases cmp x y <;> rfl

theorem strict_sort {cmp : α → α → Ordering} [Std.TransCmp cmp] {xs : List α}
    (apart : xs.Pairwise fun x y => cmp x y ≠ .eq) : Strict cmp (sort cmp xs) := by
  have ordered : (sort cmp xs).Pairwise fun x y => (cmp x y).isLE :=
    List.pairwise_mergeSort (fun _ _ _ => Std.TransCmp.isLE_trans) (isLE_total cmp) xs
  have differ : (sort cmp xs).Pairwise fun x y => cmp x y ≠ .eq :=
    (List.mergeSort_perm xs _).symm.pairwise apart fun differs same =>
      differs (Std.OrientedCmp.eq_symm same)
  refine (ordered.and differ).imp fun ⟨below, other⟩ => ?_
  exact (Ordering.isLE_iff_eq_lt_or_eq_eq.1 below).resolve_right other

end Ascending

/-- A strictly ascending list: no two elements of it compare equal. -/
structure Chain {α : Type} (cmp : α → α → Ordering) where
  toList : List α
  strict : Ascending.Strict cmp toList
deriving DecidableEq

namespace Chain

variable {α : Type} {cmp : α → α → Ordering}

def empty : Chain cmp := ⟨[], .nil⟩

instance : Inhabited (Chain cmp) := ⟨empty⟩

instance [Repr α] : Repr (Chain cmp) := ⟨fun chain => reprPrec chain.toList⟩

variable [Std.TransCmp cmp]

def insert (chain : Chain cmp) (x : α) : Chain cmp where
  toList := Ascending.insert cmp x chain.toList
  strict := chain.strict.insert x

def put (chain : Chain cmp) (x : α) : Chain cmp where
  toList := Ascending.put cmp x chain.toList
  strict := chain.strict.put x

def insertAll (chain : Chain cmp) (xs : List α) : Chain cmp :=
  xs.foldl insert chain

def putAll (chain : Chain cmp) (xs : List α) : Chain cmp :=
  xs.foldl put chain

end Chain

end SymbolAtlas
