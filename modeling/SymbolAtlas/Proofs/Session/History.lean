import SymbolAtlas.Proofs.Session.Abort

/-! What every registry step keeps of the core of a registry, a session keeps too:
going back to a mark restores the core that the registry had when it was marked, and
leaves the sightings since then. -/

namespace SymbolAtlas

open Snapshot Extract

/-- From a later registry, going back to any mark that an earlier one had reached
leads to the same core as from the earlier one. All sightings are still there. -/
structure Registry.Recalls (later earlier : Registry) : Prop where
  back : ∀ mark : Mark, mark.Within earlier →
    mark.Within later ∧ (later.rollback mark).core = (earlier.rollback mark).core
  gathers : earlier.Gathers later

namespace Registry.Recalls

variable {first second third registry : Registry}

private theorem refl (registry : Registry) : registry.Recalls registry :=
  ⟨fun _ inside => ⟨inside, rfl⟩, .refl registry⟩

theorem trans (left : third.Recalls second) (right : second.Recalls first) :
    third.Recalls first := by
  refine ⟨fun mark inside => ?_, right.gathers.trans left.gathers⟩
  obtain ⟨between, same⟩ := right.back mark inside
  obtain ⟨later, same'⟩ := left.back mark between
  exact ⟨later, same'.trans same⟩

private theorem of_core {later : Registry} (same : later.core = registry.core)
    (gathers : registry.Gathers later) : later.Recalls registry := by
  refine ⟨fun mark inside => ?_, gathers⟩
  have reached : later.mark = registry.mark := (undone_of_core same).mark
  refine ⟨?_, by rw [core_rollback, same, core_rollback]⟩
  simp only [Registry.mark, Mark.mk.injEq] at reached
  exact inside.of_le (Nat.le_of_eq reached.1.symm) (Nat.le_of_eq reached.2.1.symm)
    (Nat.le_of_eq reached.2.2.symm)

private theorem of_steps {snapshot : Snapshot} {spared : List Nat} {later : Registry}
    (steps : Steps snapshot spared registry later) : later.Recalls registry :=
  ⟨fun _ inside => steps.undone inside, steps.gathers⟩

private theorem core_rollback_mark {later : Registry} (recalls : later.Recalls registry)
    (anchored : registry.Anchored) : (later.rollback registry.mark).core = registry.core := by
  rw [(recalls.back registry.mark registry.within_mark).2, rollback_mark anchored]

end Registry.Recalls

/-- A registry and its marks, latest first, each taken of a registry as described that
everything later still recalls. -/
inductive Registry.Retraces (kept : Registry → Prop) : Registry → List Mark → Prop
  | unmarked {registry : Registry} (holds : kept registry) : Retraces kept registry []
  | marked {registry past : Registry} {marks : List Mark} (holds : kept registry)
      (recalls : registry.Recalls past) (earlier : Retraces kept past marks) :
      Retraces kept registry (past.mark :: marks)

namespace Registry.Retraces

variable {kept : Registry → Prop} {registry later : Registry} {marks : List Mark}

private theorem holds (retraces : Retraces kept registry marks) : kept registry := by
  cases retraces with
  | unmarked holds => exact holds
  | marked holds => exact holds

private theorem advance (retraces : Retraces kept registry marks) (holds : kept later)
    (recalls : later.Recalls registry) : Retraces kept later marks := by
  cases retraces with
  | unmarked => exact .unmarked holds
  | marked _ before earlier => exact .marked holds (recalls.trans before) earlier

private theorem drop (retraces : Retraces kept registry marks) (ago : Nat) {mark : Mark}
    {older : List Mark} (left : marks.drop ago = mark :: older) :
    ∃ past, past.mark = mark ∧ registry.Recalls past ∧ Retraces kept past older := by
  induction ago generalizing registry marks with
  | zero =>
    rw [List.drop_zero] at left
    subst left
    cases retraces with
    | marked _ recalls earlier => exact ⟨_, rfl, recalls, earlier⟩
  | succ ago ih =>
    cases retraces with
    | unmarked => simp at left
    | marked _ recalls earlier =>
      obtain ⟨past, marked, before, older⟩ := ih earlier left
      exact ⟨past, marked, recalls.trans before, older⟩

end Registry.Retraces

namespace Session

section Core

variable {invariant : Registry → Prop}

/-- A registry as described whose edges stay between its symbols. -/
def Kept (invariant : Registry → Prop) (registry : Registry) : Prop :=
  invariant registry ∧ registry.Anchored

private theorem Kept.of_steps {snapshot : Snapshot} (steps : ∀ before after,
      Step snapshot [] before after → invariant before → invariant after)
    {before after : Registry} (made : Steps snapshot [] before after)
    (kept : Kept invariant before) : Kept invariant after :=
  made.keep (fun before after step kept => ⟨steps before after step kept.1, step.anchored kept.2⟩)
    kept

variable (restored : ∀ before after : Registry, after.core = before.core →
  before.Gathers after → invariant before → invariant after)

include restored

private theorem Kept.restore {before after : Registry} (same : after.core = before.core)
    (gathers : before.Gathers after) (kept : Kept invariant before) : Kept invariant after :=
  ⟨restored before after same gathers kept.1, kept.2.of_core same⟩

private theorem step_retraces (session : Session) (operation : Operation)
    (steps : ∀ snapshot, operation.unit? = some snapshot → ∀ before after,
      Step snapshot [] before after → invariant before → invariant after)
    (retraces : Registry.Retraces (Kept invariant) session.registry session.marks) :
    Registry.Retraces (Kept invariant) (session.step operation).registry
      (session.step operation).marks := by
  have kept := retraces.holds
  cases session.moves_step operation with
  | onward own made marks =>
    rw [marks]
    exact retraces.advance (.of_steps (steps _ own) made kept) (.of_steps made)
  | @aborted _ reached own made undone marks =>
    -- the core is back where it was, so the marks are as good as before
    have same := (kept.2.undone made).core
    have gathers := made.gathers.rollback (Nat.le_refl session.registry.mark.symbols)
    rw [undone, marks]
    exact retraces.advance (.restore restored same gathers kept) (.of_core same gathers)
  | marked own registry marks =>
    rw [registry, marks]
    exact .marked kept (.refl _) retraces
  | returned own left undone marks =>
    obtain ⟨past, rfl, recalls, earlier⟩ := retraces.drop _ left
    -- the mark stays, since the core is again that of the registry it was taken of
    have same := recalls.core_rollback_mark earlier.holds.2
    have gathers := recalls.gathers.rollback (Nat.le_refl past.mark.symbols)
    rw [undone, marks]
    exact .marked (.restore restored same gathers earlier.holds) (.of_core same gathers) earlier
  | unmarked own left same => rwa [same]

/-- What holds of the empty registry, is kept by every registry step and comes back with
the core of a registry and its sightings holds throughout a session. -/
theorem run_keeps_core (empty : invariant {}) (operations : List Operation)
    (steps : ∀ operation ∈ operations, ∀ snapshot, operation.unit? = some snapshot →
      ∀ before after, Step snapshot [] before after → invariant before → invariant after) :
    invariant (run operations).registry := by
  have retraced : Registry.Retraces (Kept invariant) (run operations).registry
      (run operations).marks := by
    unfold run
    induction operations using List.reverseRecOn with
    | nil => exact .unmarked ⟨empty, by simp [Registry.Anchored]⟩
    | append_singleton earlier operation ih =>
      rw [List.foldl_append]
      obtain ⟨before, last⟩ := List.forall_mem_append.1 steps
      exact step_retraces restored _ operation (last operation (List.mem_singleton_self _))
        (ih before)
  exact retraced.holds.1

end Core

end Session

end SymbolAtlas
