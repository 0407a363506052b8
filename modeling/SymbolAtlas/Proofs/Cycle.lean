import Mathlib.Data.Fintype.Card
import Mathlib.Logic.Relation
import SymbolAtlas.Proofs.Outcome
import SymbolAtlas.Snapshot.Validity

/-! The search for a cycle is right both ways: a node that it names leads back to
itself, and where it names none, every way through the successors of a node comes
to an end. -/

namespace SymbolAtlas.Cycle

variable {next : Nat → List Nat} {count : Nat}

/-- A node from which no endless way leads on. -/
def Grounded (next : Nat → List Nat) : Nat → Prop :=
  Acc fun later earlier => later ∈ next earlier

/-- What a finished search knows: its nodes are grounded, and it has not lost
any that were known before. -/
structure Extends (next : Nat → List Nat) (done result : List Nat) : Prop where
  grounded : ∀ node ∈ result, Grounded next node
  kept : ∀ node ∈ done, node ∈ result

private theorem Extends.refl {done : List Nat} (grounded : ∀ node ∈ done, Grounded next node) :
    Extends next done done :=
  ⟨grounded, fun _ member => member⟩

theorem Extends.trans {first second third : List Nat} (left : Extends next first second)
    (right : Extends next second third) : Extends next first third :=
  ⟨right.grounded, fun node member => right.kept node (left.kept node member)⟩

private theorem foldlM_extends {step : List Nat → Nat → Except Nat (List Nat)} (nodes : List Nat)
    (settles : ∀ done result node, node ∈ nodes → (∀ x ∈ done, Grounded next x) →
      step done node = .ok result → Extends next done result ∧ node ∈ result)
    (done result : List Nat) (grounded : ∀ x ∈ done, Grounded next x)
    (ok : nodes.foldlM step done = .ok result) :
    Extends next done result ∧ ∀ node ∈ nodes, node ∈ result := by
  induction nodes generalizing done with
  | nil =>
    simp only [List.foldlM_nil, pure, Except.pure, Except.ok.injEq] at ok
    subst ok
    exact ⟨.refl grounded, by simp⟩
  | cons node nodes ih =>
    rw [List.foldlM_cons] at ok
    obtain ⟨middle, first, rest⟩ := Outcome.bind_ok ok
    obtain ⟨left, found⟩ := settles done middle node List.mem_cons_self grounded first
    have later := fun done result node member =>
      settles done result node (List.mem_cons_of_mem _ member)
    obtain ⟨right, all⟩ := ih later middle left.grounded rest
    refine ⟨left.trans right, fun x member => ?_⟩
    rcases List.mem_cons.1 member with rfl | member
    · exact right.kept _ found
    · exact all x member

private theorem length_le_of_nodup {path : List Nat} (distinct : path.Nodup)
    (inside : ∀ x ∈ path, x < count) : path.length ≤ count := by
  have bounded : path ⊆ List.range count := fun x member => List.mem_range.2 (inside x member)
  simpa using distinct.length_le_of_subset bounded

private theorem search_extends (inside : ∀ x, x < count → ∀ y ∈ next x, y < count) (room : Nat)
    (path done result : List Nat) (node : Nat) (distinct : path.Nodup)
    (bounded : ∀ x ∈ path, x < count) (ample : count ≤ path.length + room) (bound : node < count)
    (grounded : ∀ x ∈ done, Grounded next x) (ok : search next room path done node = .ok result) :
    Extends next done result ∧ node ∈ result := by
  induction room generalizing path done result node with
  | zero =>
    rw [search] at ok
    split at ok
    · cases ok
      exact ⟨.refl grounded, by simp_all⟩
    · split at ok
      · cases ok
      · -- a path without room holds every node already
        rename_i absent
        have longer : (node :: path).length ≤ count :=
          length_le_of_nodup (List.nodup_cons.2 ⟨by simpa using absent, distinct⟩)
            (by simpa using ⟨bound, bounded⟩)
        simp only [List.length_cons] at longer
        omega
  | succ room ih =>
    rw [search] at ok
    split at ok
    · cases ok
      exact ⟨.refl grounded, by simp_all⟩
    · split at ok
      · cases ok
      · rename_i absent
        obtain ⟨below, descended, ok⟩ := Outcome.bind_ok ok
        cases ok
        have settles := fun done result later (member : later ∈ next node) =>
          ih (node :: path) done result later
            (List.nodup_cons.2 ⟨by simpa using absent, distinct⟩)
            (by simpa using ⟨bound, bounded⟩)
            (by simp only [List.length_cons]; omega) (inside node bound later member)
        obtain ⟨extended, reached⟩ :=
          foldlM_extends (next node) settles done below grounded descended
        have own : Grounded next node :=
          .intro node fun later member => extended.grounded later (reached later member)
        refine ⟨⟨?_, fun x member => List.mem_cons_of_mem _ (extended.kept x member)⟩, by simp⟩
        intro x member
        rcases List.mem_cons.1 member with rfl | member
        · exact own
        · exact extended.grounded x member

theorem grounded_of_find?_eq_none (inside : ∀ x, x < count → ∀ y ∈ next x, y < count)
    (clear : find? count next = none) {node : Nat} (bound : node < count) :
    Grounded next node := by
  unfold find? at clear
  split at clear
  · rename_i result ok
    have settles := fun done result later (member : later ∈ List.range count) =>
      search_extends inside count [] done result later List.nodup_nil (by simp) (by simp)
        (List.mem_range.1 member)
    obtain ⟨extended, reached⟩ :=
      foldlM_extends (List.range count) settles [] result (by simp) ok
    exact extended.grounded node (reached node (List.mem_range.2 bound))
  · cases clear

/-- One node leads to another over one successor or more. -/
def Leads (next : Nat → List Nat) : Nat → Nat → Prop :=
  Relation.TransGen fun earlier later => later ∈ next earlier

private theorem Grounded.not_leads {node : Nat} (grounded : Grounded next node) :
    ¬ Leads next node node := by
  induction grounded with
  | intro node _ ih =>
    intro back
    obtain ⟨later, step, rest⟩ := Relation.TransGen.head'_iff.1 back
    exact ih later step (.trans_right rest (.single step))

private theorem exists_of_foldlM_error {step : List Nat → Nat → Except Nat (List Nat)}
    {nodes done : List Nat} {back : Nat} (failed : nodes.foldlM step done = .error back) :
    ∃ known, ∃ node ∈ nodes, step known node = .error back := by
  induction nodes generalizing done with
  | nil => cases failed
  | cons node nodes ih =>
    rw [List.foldlM_cons] at failed
    cases own : step done node with
    | error found =>
      rw [own] at failed
      cases failed
      exact ⟨done, node, List.mem_cons_self, own⟩
    | ok known =>
      rw [own] at failed
      obtain ⟨further, later, member, own⟩ := ih failed
      exact ⟨further, later, List.mem_cons_of_mem _ member, own⟩

/-- A search comes back to a node of its path, and every node of the path leads to
the node that is searched. -/
theorem search_leads {room : Nat} {path done : List Nat} {node back : Nat}
    (above : ∀ earlier ∈ path, Leads next earlier node)
    (failed : search next room path done node = .error back) : Leads next back back := by
  induction room generalizing path done node with
  | zero =>
    rw [search] at failed
    split at failed
    · cases failed
    · split at failed
      · rename_i visited
        cases failed
        exact above back (by simpa using visited)
      · cases failed
  | succ room ih =>
    rw [search] at failed
    split at failed
    · cases failed
    · split at failed
      · rename_i visited
        cases failed
        exact above back (by simpa using visited)
      · cases descended : (next node).foldlM (search next room (node :: path)) done with
        | ok below =>
          rw [descended] at failed
          cases failed
        | error found =>
          rw [descended] at failed
          cases failed
          obtain ⟨known, later, successor, failed⟩ := exists_of_foldlM_error descended
          refine ih (fun earlier visited => ?_) failed
          rcases List.mem_cons.1 visited with rfl | visited
          · exact .single successor
          · exact (above earlier visited).tail successor

theorem leads_of_find?_eq_some {node : Nat} (found : find? count next = some node) :
    Leads next node node := by
  unfold find? at found
  split at found
  · cases found
  · rename_i back failed
    cases found
    obtain ⟨known, start, -, failed⟩ := exists_of_foldlM_error failed
    exact search_leads (by simp) failed

theorem find?_eq_none_iff (inside : ∀ x, ∀ y ∈ next x, y < count) :
    find? count next = none ↔ ∀ node, ¬ Leads next node node := by
  constructor
  · intro clear node back
    obtain ⟨earlier, -, last⟩ := Relation.TransGen.tail'_iff.1 back
    have bound := inside earlier node last
    exact (grounded_of_find?_eq_none (fun x _ => inside x) clear bound).not_leads back
  · intro straight
    cases found : find? count next with
    | none => rfl
    | some node => exact absurd (leads_of_find?_eq_some found) (straight node)

end SymbolAtlas.Cycle
