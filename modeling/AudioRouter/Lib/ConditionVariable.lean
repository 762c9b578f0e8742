import AudioRouter.Lib.Transition

/-!
# Waiting for a condition variable

A thread waits with a predicate: it tests the predicate under the mutex, and where that
fails it releases the mutex and falls asleep in one step, until it is notified or wakes by
itself.  A reason to wake comes with a notification, which reaches a thread that is asleep
and no other.  So a reason is forgotten exactly where the thread falls asleep behind the
notification, which the mutex rules out for a reason that is given under it.
-/

namespace AudioRouter.ConditionVariable

open Transition

/-- Where a thread stands in a wait. -/
inductive Wait where
  | locking
  | testing
  /-- The predicate has failed, the mutex is still held. -/
  | leaving
  | asleep
  /-- The predicate has held, and so is the mutex. -/
  | passed
  deriving DecidableEq, Repr

/-- The waiting thread holds the mutex. -/
def Wait.holds : Wait → Bool
  | .testing | .leaving | .passed => true
  | .locking | .asleep => false

/-- A step of the waiting thread while the mutex is with nobody else. -/
def Wait.step (ready : Bool) : Wait → Option Wait
  | .locking => some .testing
  | .testing => some (if ready then .passed else .leaving)
  | .leaving => some .asleep
  | .asleep | .passed => none

/-- A notification, or a wakeup without one. -/
def Wait.wake : Wait → Wait
  | .asleep => .locking
  | wait => wait

@[simp]
theorem Wait.wake_ne_asleep (wait : Wait) : wait.wake ≠ .asleep := by
  cases wait <;> simp [wake]

/-- Who holds the mutex has not just woken. -/
theorem Wait.of_wake_eq {wait place : Wait} (holds : place.holds = true)
    (woken : wait.wake = place) : wait = place := by
  subst woken
  cases wait with
  | asleep => cases holds
  | _ => rfl

theorem Wait.step_eq_asleep {ready : Bool} {wait : Wait}
    (falls : wait.step ready = some .asleep) : wait = .leaving := by
  cases wait with
  | testing => cases ready <;> cases falls
  | leaving => rfl
  | locking | asleep | passed => cases falls

/-- A thread that waits in a system, and one of the reasons that it waits for. -/
structure Waiting (S A : Type) where
  step : S → A → Option S
  wait : S → Wait
  /-- The actions of the thread that waits. -/
  own : A → Bool
  reason : S → Bool
  /-- Somebody who has given the reason is about to notify. -/
  owed : S → Bool

namespace Waiting

variable {S A : Type}

/-- The thread sleeps on the reason, and nobody is going to tell it. -/
def Forgotten (w : Waiting S A) (s : S) : Prop :=
  w.wait s = .asleep ∧ w.reason s = true ∧ w.owed s = false

/-- The thread falls asleep on a reason behind its notification. -/
def misses (w : Waiting S A) (s : S) (a : A) : Bool :=
  decide (w.wait s = .leaving) && w.own a && w.reason s && !w.owed s

/-- The parties keep to the rules of the condition variable. -/
structure Lawful (w : Waiting S A) (invariant : S → Prop) : Prop where
  preserved : ∀ {s a t}, invariant s → w.step s a = some t → invariant t
  falls :
    ∀ {s a t}, invariant s → w.step s a = some t → w.wait t = .asleep →
      w.wait s = .asleep ∨ w.wait s = .leaving ∧ w.own a = true
  sleeps :
    ∀ {s a t}, invariant s → w.step s a = some t → w.wait s = .leaving → w.own a = true →
      w.wait t = .asleep ∧ w.reason t = w.reason s ∧ w.owed t = w.owed s
  announced :
    ∀ {s a t}, invariant s → w.step s a = some t → w.reason t = true →
      w.reason s = true ∨ w.owed t = true
  notified :
    ∀ {s a t}, invariant s → w.step s a = some t → w.owed s = true →
      w.owed t = true ∨ w.wait t ≠ .asleep

section

variable {w : Waiting S A} {invariant : S → Prop} {s t : S} {a : A}

/-- One step forgets a reason exactly where it misses the notification. -/
theorem Lawful.forgotten_step (lawful : w.Lawful invariant) (known : invariant s)
    (remembered : ¬ w.Forgotten s) (stepped : w.step s a = some t) :
    ¬ w.Forgotten t ↔ w.misses s a = false := by
  rw [← Bool.not_eq_true, not_iff_not]
  constructor
  · rintro ⟨asleep, reason, silent⟩
    rcases lawful.falls known stepped asleep with already | ⟨leaving, own⟩
    · exfalso
      have before : w.reason s = true :=
        (lawful.announced known stepped reason).resolve_right (by simp [silent])
      cases owed : w.owed s with
      | false => exact remembered ⟨already, before, owed⟩
      | true =>
        rcases lawful.notified known stepped owed with still | awake
        · rw [silent] at still
          cases still
        · exact awake asleep
    · rcases lawful.sleeps known stepped leaving own with ⟨-, sameReason, sameOwed⟩
      rw [misses, leaving, own, ← sameReason, ← sameOwed, reason, silent]
      rfl
  · intro missed
    simp only [misses, Bool.and_eq_true, decide_eq_true_eq, Bool.not_eq_true'] at missed
    rcases missed with ⟨⟨⟨leaving, own⟩, reason⟩, silent⟩
    rcases lawful.sleeps known stepped leaving own with ⟨asleep, sameReason, sameOwed⟩
    exact ⟨asleep, sameReason.trans reason, sameOwed.trans silent⟩

/-- No state of a run forgets a reason if and only if no step misses the notification. -/
theorem Lawful.never_forgotten_iff (lawful : w.Lawful invariant) (actions : List A)
    (known : invariant s) (remembered : ¬ w.Forgotten s)
    (reached : run w.step s actions = some t) :
    (∀ before u, before <+: actions → run w.step s before = some u → ¬ w.Forgotten u) ↔
      EveryStep w.step (fun u a => w.misses u a = false) s actions :=
  everyState_iff (fun _ _ _ known stepped => lawful.preserved known stepped)
    (fun _ _ _ known remembered stepped => lawful.forgotten_step known remembered stepped)
    actions known remembered reached

/-- A reason that the thread cannot be given while it holds the mutex is never forgotten. -/
theorem Lawful.run_remembers (lawful : w.Lawful invariant)
    (guarded : ∀ u, invariant u → w.wait u = .leaving → w.reason u = false)
    (actions : List A) (known : invariant s) (remembered : ¬ w.Forgotten s)
    (reached : run w.step s actions = some t) : ¬ w.Forgotten t := by
  have kept :
      ∀ u a v, invariant u ∧ ¬ w.Forgotten u → w.step u a = some v →
        invariant v ∧ ¬ w.Forgotten v := by
    rintro u a v ⟨known, remembered⟩ stepped
    refine ⟨lawful.preserved known stepped, ?_⟩
    rw [lawful.forgotten_step known remembered stepped]
    by_cases leaving : w.wait u = .leaving
    · simp [misses, guarded u known leaving]
    · simp [misses, leaving]
  exact (run_preserves kept actions ⟨known, remembered⟩ reached).2

end

end Waiting

end AudioRouter.ConditionVariable
