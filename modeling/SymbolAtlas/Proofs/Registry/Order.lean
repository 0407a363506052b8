import Mathlib.Data.List.Lex
import Mathlib.Data.String.Basic
import SymbolAtlas.Identity

/-! The order of identities. It is lexicographic on the parts, so an identity comes before all
that lies below it, and what comes between lies below it as well. -/

namespace SymbolAtlas

namespace Part

variable {a b c : Part}

/-- By display name, then spelling, then key. -/
def Before (a b : Part) : Prop :=
  a.display < b.display ∨ a.display = b.display ∧
    (a.spelling < b.spelling ∨ a.spelling = b.spelling ∧ a.key < b.key)

instance : Std.TransCmp compare :=
  inferInstanceAs (Std.TransCmp (compareLex (compareOn display)
    (compareLex (compareOn spelling) (compareOn key))))

private theorem compare_eq_lt_iff : a.compare b = .lt ↔ a.Before b := by
  simp only [compare, compareLex, compareOn, Ordering.then_eq_lt, compare_lt_iff_lt,
    compare_eq_iff_eq, Before]

instance : Std.LawfulEqCmp compare where
  eq_of_compare {a b} same := by
    obtain ⟨key, spelling, display⟩ := a
    simp only [compare, compareLex, compareOn, Ordering.then_eq_eq, compare_eq_iff_eq] at same
    obtain ⟨rfl, rfl, rfl⟩ := same
    rfl

private theorem Before.asymm (first : a.Before b) : ¬ b.Before a := by
  rw [← compare_eq_lt_iff] at first ⊢
  rw [Std.OrientedCmp.gt_of_lt first]
  decide

end Part

section Lists

variable {α : Type} {before : α → α → Prop} {a b rest : List α}

private theorem lex_append {first : α} : List.Lex before a (a ++ first :: rest) := by
  simpa using List.Lex.append_left before (.nil (a := first) (l := rest)) a

private theorem prefix_of_lex (asymm : ∀ x y, before x y → ¬ before y x)
    (first : List.Lex before a b) (second : List.Lex before b (a ++ rest)) : a <+: b := by
  induction a generalizing b with
  | nil => exact b.nil_prefix
  | cons x a ih =>
    cases first with
    | rel less =>
      cases second with
      | rel greater => exact absurd greater (asymm _ _ less)
      | cons _ => exact absurd less (asymm _ _ less)
    | cons first =>
      cases second with
      | rel less => exact absurd less (asymm _ _ less)
      | cons second => exact List.cons_prefix_cons.mpr ⟨rfl, ih first second⟩

private theorem before_of_lex {first second : α} (asymm : ∀ x y, before x y → ¬ before y x)
    (less : List.Lex before (a ++ [first]) (a ++ [second])) : before first second := by
  induction a with
  | nil =>
    cases less with
    | rel less => exact less
    | cons none => cases none
  | cons x a ih =>
    cases less with
    | rel less => exact absurd less (asymm _ _ less)
    | cons less => exact ih less

end Lists

namespace Identity

variable {a b c : Identity}

/-- By the first part in which the two differ; an identity comes before all below it. -/
def Before (a b : Identity) : Prop :=
  List.Lex Part.Before a.parts b.parts

/-- One identity is the other with parts added to it, or the same. -/
def Heads (outer inner : Identity) : Prop :=
  outer.parts <+: inner.parts

instance : DecidableRel Heads :=
  fun outer inner => inferInstanceAs (Decidable (outer.parts <+: inner.parts))

instance : Std.TransCmp compare where
  eq_swap {a b} := @Std.OrientedCmp.eq_swap _ (List.compareLex Part.compare) _ a.parts b.parts
  isLE_trans {a b c} :=
    @Std.TransCmp.isLE_trans _ (List.compareLex Part.compare) _ a.parts b.parts c.parts

theorem compare_eq_lt_iff : a.compare b = .lt ↔ a.Before b := by
  obtain ⟨a⟩ := a
  obtain ⟨b⟩ := b
  simp only [compare, Before]
  induction a generalizing b with
  | nil =>
    cases b with
    | nil => simp [List.compareLex_nil_nil]
    | cons y b => simp [List.compareLex_nil_cons]
  | cons x a ih =>
    cases b with
    | nil => simp [List.compareLex_cons_nil]
    | cons y b =>
      rw [List.compareLex_cons_cons, Ordering.then_eq_lt, Part.compare_eq_lt_iff,
        Std.LawfulEqCmp.compare_eq_iff_eq, ih]
      constructor
      · rintro (less | ⟨rfl, less⟩)
        · exact .rel less
        · exact .cons less
      · rintro (_ | less | less)
        · exact .inl ‹_›
        · exact .inr ⟨rfl, less⟩

theorem eq_of_compare (same : a.compare b = .eq) : a = b :=
  congrArg mk (Std.LawfulEqCmp.eq_of_compare same)

theorem Before.asymm (first : a.Before b) : ¬ b.Before a := by
  rw [← compare_eq_lt_iff] at first ⊢
  rw [Std.OrientedCmp.gt_of_lt first]
  decide

theorem Before.heads (first : a.Before b) (second : b.Before c) (headed : a.Heads c) :
    a.Heads b := by
  obtain ⟨rest, same⟩ := headed
  rw [Before, ← same] at second
  exact prefix_of_lex (fun _ _ => Part.Before.asymm) first second

theorem Heads.not_before (headed : a.Heads b) : ¬ b.Before a := by
  intro less
  obtain ⟨rest, same⟩ := headed
  cases rest with
  | nil =>
    obtain rfl : a = b := congrArg mk ((List.append_nil _).symm.trans same)
    exact less.asymm less
  | cons part rest =>
    have further : a.Before b := by
      rw [Before, ← same]
      exact lex_append
    exact less.asymm further

theorem before_of_child {outer : Identity} {first second : Part}
    (less : (outer.child first).Before (outer.child second)) : first.Before second :=
  before_of_lex (fun _ _ => Part.Before.asymm) less

theorem joined_child (field : Part → String) {outer : Identity} (deep : outer.isEmpty = false)
    (part : Part) :
    (outer.child part).joined field = outer.joined field ++ "::" ++ field part := by
  have nonempty : outer.parts.map field ≠ [] := by simpa [isEmpty] using deep
  rw [joined, child, List.map_append, List.map_singleton,
    String.intercalate_append_of_ne_nil nonempty (List.cons_ne_nil _ []),
    String.intercalate_singleton, joined]

end Identity

end SymbolAtlas
