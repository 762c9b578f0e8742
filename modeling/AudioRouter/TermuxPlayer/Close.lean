import AudioRouter.TermuxPlayer.Handoff

/-!
# `close()` returns, or waits for a wakeup

`close()` stores `stop_issuer_` and notifies without `handoff_mutex_`.  Where both fall
between the test of the predicate in the issuer and its sleep, nobody is there to be
notified: the issuer sleeps on, and `close()` waits for the issuer.
-/

namespace AudioRouter

namespace TermuxApiPlayer

open Transition ConditionVariable

/-- How many steps the watchdog takes at most once it has been told to stop. -/
def WatchdogPc.left : WatchdogPc → Nat
  | .asking => 3
  | .sleeping | .resuming | .recovering => 2
  | .testing | .awake => 1
  | .ended => 0

namespace Threads

/-- The issuer waits to be stopped, and `close()` notifies it. -/
def stopping : Waiting Threads Action where
  step := step
  wait := wait
  own := Action.isIssue
  reason := fun s => s.player.stopIssuer
  owed := fun s => decide (s.closing = .notifyAll)

theorem stopping_lawful : stopping.Lawful Orderly where
  preserved := fun orderly stepped => orderly.step stepped
  falls := fun _ stepped asleep => falls_asleep stepped asleep
  sleeps := by
    intro s a t orderly stepped leaving own
    obtain rfl := leaving_step orderly stepped leaving own
    exact ⟨rfl, rfl, rfl⟩
  announced := by
    intro s a t orderly stepped stop
    simp only [stopping, decide_eq_true_eq] at stop ⊢
    cases step_does stepped with
    | aside aside =>
      rw [aside.player.stopIssuer] at stop
      exact Or.inl stop
    | hands _ _ _ _ _ same _ _ _ result =>
      subst result
      exact Or.inl (same.symm.trans stop)
    | takesBack _ _ _ result | notifies _ result | wakes _ result =>
      subst result
      exact Or.inl stop
    | issues issues =>
      cases issues with
      | waits _ _ _ result | returns _ _ _ result | takes _ _ _ _ _ result =>
        subst result
        exact Or.inl stop
      | works _ _ same _ _ _ _ result =>
        subst result
        exact Or.inl (same.symm.trans stop)
    | closes closes =>
      cases closes with
      | storesStopIssuer _ result =>
        subst result
        exact Or.inr rfl
      | cleansUp _ _ _ _ same _ result =>
        subst result
        exact Or.inl (same.symm.trans stop)
      | storesStopWatchdog _ result | joinsWatchdog _ _ result | notifies _ result
      | joinsIssuer _ _ result =>
        subst result
        exact Or.inl stop
  notified := by
    intro s a t orderly stepped owed
    simp only [stopping, decide_eq_true_eq] at owed ⊢
    cases step_does stepped with
    | aside aside => exact Or.inl (aside.closing.trans owed)
    | hands _ _ _ _ _ _ _ _ _ result | takesBack _ _ _ result | notifies _ result
    | wakes _ result =>
      subst result
      exact Or.inl owed
    | issues issues =>
      cases issues with
      | waits _ _ _ result | returns _ _ _ result | takes _ _ _ _ _ result
      | works _ _ _ _ _ _ _ result =>
        subst result
        exact Or.inl owed
    | closes closes =>
      cases closes with
      | notifies _ result =>
        subst result
        exact Or.inr (Wait.wake_ne_asleep _)
      | storesStopWatchdog place | joinsWatchdog place | storesStopIssuer place
      | joinsIssuer place | cleansUp _ place =>
        rw [place] at owed
        cases owed

section

variable {s t : Threads} {a : Action}

/-! ## Without a missed wakeup -/

theorem goes_on (orderly : s.Orderly) (remembered : ¬ stopping.Forgotten s)
    (waits : s.closing ≠ .returned) : ∃ a ∈ unaided, (s.step a).isSome := by
  have closes (enabled : s.closeStep.isSome) : ∃ a ∈ unaided, (s.step a).isSome :=
    ⟨.close, by simp [unaided], enabled⟩
  cases place : s.closing with
  | storeStopWatchdog | notifyAll => exact closes (by simp [closeStep, place])
  | storeStopIssuer => exact closes (by simp [closeStep, place, act, TermuxApiPlayer.step])
  | joinWatchdog =>
    by_cases busy : s.player.recorder = .idle
    · cases watchdog : s.watchdog with
      | ended => exact closes (by simp [closeStep, place, watchdog])
      | recovering =>
        refine ⟨.watch .nothing 0, by simp [unaided], ?_⟩
        simp [step, watchStep, watchdog, act, TermuxApiPlayer.step, busy]
      | testing | sleeping | awake | asking | resuming =>
        exact ⟨.watch .nothing 0, by simp [unaided], by simp [step, watchStep, watchdog]⟩
    · exact recorder_goes_on orderly busy
  | joinIssuer =>
    by_cases returned : s.player.issuer = .returned
    · exact closes (by simp [closeStep, place, returned])
    · refine issuer_goes_on orderly (fun asleep => remembered ⟨asleep, ?_, ?_⟩) returned
      · exact orderly.requested.2 (by simp [place, CloseStep.phase])
      · simp [stopping, place]
  | cleanUp =>
    by_cases busy : s.player.recorder = .idle
    · have returned := orderly.joined (by simp [place, CloseStep.phase])
      exact closes (by simp [closeStep, place, act, TermuxApiPlayer.step, busy, returned])
    · exact recorder_goes_on orderly busy
  | returned => exact absurd place waits

/-! ## How long it takes -/

def Action.isWatch : Action → Bool
  | .watch _ _ => true
  | _ => false

/-- A step of `close()` or of the issuer. -/
def Action.isStop : Action → Bool
  | .issue _ _ | .close => true
  | _ => false

/-- One step of the watchdog behind the store of `stop_watchdog_`. -/
theorem watchStep_left {news : News} {nowMs : Millis} (stopping : s.stopWatchdog = true)
    (stepped : s.watchStep news nowMs = some t) : t.watchdog.left + 1 ≤ s.watchdog.left := by
  unfold watchStep at stepped
  cases place : s.watchdog with
  | testing | awake =>
    simp only [place, stopping] at stepped
    cases stepped
    simp [WatchdogPc.left]
  | sleeping | resuming =>
    simp only [place] at stepped
    cases stepped
    simp [WatchdogPc.left]
  | asking =>
    simp only [place] at stepped
    cases stepped
    cases news <;> simp [WatchdogPc.left]
  | recovering =>
    simp only [place] at stepped
    obtain ⟨u, -, rfl⟩ := Option.map_eq_some_iff.1 stepped
    simp [WatchdogPc.left]
  | ended => simp [place] at stepped

theorem watch_step (stopping : s.stopWatchdog = true) (stepped : s.step a = some t) :
    t.stopWatchdog = true ∧
      t.watchdog.left + (if a.isWatch then 1 else 0) ≤ s.watchdog.left := by
  cases step_does stepped with
  | aside aside own closes watchdog =>
    refine ⟨aside.stopWatchdog.trans stopping, ?_⟩
    cases a with
    | watch news nowMs => exact watchStep_left stopping stepped
    | _ =>
      rcases watchdog with same | ⟨news, nowMs, equal⟩
      · rw [same]
        exact Nat.le_refl _
      · cases equal
  | hands _ _ _ _ _ _ _ _ _ result | takesBack _ _ _ result | notifies _ result
  | wakes _ result =>
    subst result
    exact ⟨stopping, Nat.le_refl _⟩
  | issues issues =>
    cases issues with
    | waits _ _ _ result | returns _ _ _ result | takes _ _ _ _ _ result
    | works _ _ _ _ _ _ _ result =>
      subst result
      exact ⟨stopping, Nat.le_refl _⟩
  | closes closes =>
    cases closes with
    | storesStopWatchdog _ result =>
      subst result
      exact ⟨rfl, Nat.le_refl _⟩
    | joinsWatchdog _ _ result | storesStopIssuer _ result | notifies _ result
    | joinsIssuer _ _ result | cleansUp _ _ _ _ _ _ result =>
      subst result
      exact ⟨stopping, Nat.le_refl _⟩

/-- How many steps the issuer takes at most once it has been told to stop. -/
def issuerLeft (s : Threads) : Nat :=
  match s.player.issuer, s.wait with
  | .returned, _ => 0
  | .waiting, .passed => 1
  | .waiting, .testing => 2
  | .waiting, .leaving => 4
  | issuer, _ => issuer.left + 3

def rank (s : Threads) : Nat := s.issuerLeft + (6 - s.closing.phase)

theorem issuerLeft_works (outside : s.wait = .locking) (runs : s.player.issuer ≠ .returned) :
    s.issuerLeft = s.player.issuer.left + 3 := by
  unfold issuerLeft
  rw [outside]
  cases issuer : s.player.issuer with
  | returned => exact absurd issuer runs
  | _ => rfl

theorem issues_left (orderly : s.Orderly) (stop : s.player.stopIssuer = true)
    (issues : Issues s t) : t.issuerLeft + 1 ≤ s.issuerLeft := by
  cases issues with
  | waits wait place moves result =>
    subst result
    have ready : s.ready = true := by simp [Threads.ready, stop]
    cases from_ : s.wait with
    | locking | testing | leaving =>
      rw [from_, Wait.step] at moves
      simp only [ready, if_true, Option.some.injEq] at moves
      subst moves
      simp [issuerLeft, place, from_, IssuerPc.left]
    | asleep | passed =>
      rw [from_] at moves
      cases moves
  | returns place passed _ result =>
    subst result
    simp [issuerLeft, place, passed]
  | takes job place passed running =>
    rw [stop] at running
    cases running
  | works player place _ _ _ left stays result =>
    subst result
    have outside := orderly.outside place
    have runs : s.player.issuer ≠ .returned := by
      intro returned
      rw [returned] at left
      simp [IssuerPc.left] at left
    rw [issuerLeft_works outside runs, issuerLeft_works (by exact outside) stays]
    exact Nat.add_le_add_right left 3

theorem issuerLeft_wake : issuerLeft { s with wait := s.wait.wake } = s.issuerLeft := by
  unfold issuerLeft
  cases s.wait <;> cases s.player.issuer <;> rfl

theorem stop_step (orderly : s.Orderly) (stop : s.player.stopIssuer = true)
    (stepped : s.step a = some t) :
    t.player.stopIssuer = true ∧ t.rank + (if a.isStop then 1 else 0) ≤ s.rank := by
  cases step_does stepped with
  | aside aside own closes watchdog =>
    refine ⟨aside.player.stopIssuer.trans stop, ?_⟩
    have other : a.isStop = false := by
      cases a with
      | issue outcome nowMs => cases own
      | close => exact absurd rfl closes
      | _ => rfl
    rw [other, rank, rank, issuerLeft, issuerLeft, aside.player.issuer, aside.wait, aside.closing]
    exact Nat.le_refl _
  | hands player job _ _ issuer stopIssuer _ _ _ result =>
    subst result
    refine ⟨stopIssuer.trans stop, ?_⟩
    rw [rank, rank, issuerLeft, issuerLeft, issuer]
    exact Nat.le_refl _
  | takesBack _ _ _ result =>
    subst result
    exact ⟨stop, Nat.le_refl _⟩
  | notifies _ result =>
    subst result
    refine ⟨stop, ?_⟩
    have same : issuerLeft { s with wait := s.wait.wake, notifying := false } = s.issuerLeft :=
      issuerLeft_wake
    rw [rank, rank, same]
    exact Nat.le_refl _
  | issues issues =>
    have less := issues_left orderly stop issues
    have same : t.player.stopIssuer = true ∧ t.closing = s.closing := by
      cases issues with
      | waits _ _ _ result | returns _ _ _ result | takes _ _ _ _ _ result =>
        subst result
        exact ⟨stop, rfl⟩
      | works _ _ stopIssuer _ _ _ _ result =>
        subst result
        exact ⟨stopIssuer.trans stop, rfl⟩
    refine ⟨same.1, ?_⟩
    simp only [rank, same.2, Action.isStop, if_true]
    omega
  | closes closes =>
    have late := orderly.requested.1 stop
    cases closes with
    | storesStopWatchdog place | joinsWatchdog place | storesStopIssuer place =>
      simp [place, CloseStep.phase] at late
    | notifies place result =>
      subst result
      refine ⟨stop, ?_⟩
      have same : issuerLeft { s with wait := s.wait.wake, closing := .joinIssuer } =
          s.issuerLeft := issuerLeft_wake
      rw [rank, rank, same, place]
      simp [CloseStep.phase, Action.isStop]
    | joinsIssuer place _ result =>
      subst result
      refine ⟨stop, ?_⟩
      rw [rank, rank, place]
      simp [CloseStep.phase, Action.isStop, issuerLeft]
    | cleansUp player place returned issuer stopIssuer _ result =>
      subst result
      refine ⟨stopIssuer.trans stop, ?_⟩
      rw [rank, rank, place, issuerLeft, issuerLeft, issuer, returned]
      simp [CloseStep.phase, Action.isStop]
  | wakes asleep result =>
    subst result
    refine ⟨stop, ?_⟩
    have place := orderly.waiting (by simp [asleep])
    simp [rank, issuerLeft, asleep, place, Action.isStop]

theorem rank_le (late : 3 ≤ s.closing.phase) : s.rank ≤ 8 := by
  have near : s.issuerLeft ≤ 5 := by
    unfold issuerLeft
    split
    · decide
    · decide
    · decide
    · decide
    · cases s.player.issuer <;> simp [IssuerPc.left]
  rw [rank]
  omega

/-! ## Behind a missed wakeup -/

/-- A step that wakes nobody. -/
def Action.isQuiet : Action → Bool
  | .notify | .spurious => false
  | _ => true

/-- The issuer sleeps, and `close()` waits for it. -/
structure Sleeps (s : Threads) : Prop where
  orderly : s.Orderly
  asleep : s.wait = .asleep
  requested : s.player.stopIssuer = true
  notified : s.closing ≠ .notifyAll

theorem Sleeps.waits (sleeps : s.Sleeps) : s.closing = .joinIssuer := by
  have place := sleeps.orderly.waiting (by simp [sleeps.asleep])
  have late := sleeps.orderly.requested.1 sleeps.requested
  have early : ¬ 5 ≤ s.closing.phase := by
    intro joined
    rw [sleeps.orderly.joined joined] at place
    cases place
  have notified := sleeps.notified
  cases closing : s.closing <;> simp_all [CloseStep.phase]

theorem Sleeps.step (sleeps : s.Sleeps) (quiet : a.isQuiet = true)
    (stepped : s.step a = some t) : t.Sleeps := by
  have orderly := sleeps.orderly.step stepped
  have place := sleeps.orderly.waiting (by simp [sleeps.asleep])
  cases step_does stepped with
  | aside aside =>
    refine ⟨orderly, aside.wait.trans sleeps.asleep, ?_, ?_⟩
    · exact aside.player.stopIssuer.trans sleeps.requested
    · rw [aside.closing]
      exact sleeps.notified
  | hands _ _ _ _ _ stopIssuer _ _ _ result =>
    subst result
    exact ⟨orderly, sleeps.asleep, stopIssuer.trans sleeps.requested, sleeps.notified⟩
  | takesBack _ _ _ result =>
    subst result
    exact ⟨orderly, sleeps.asleep, sleeps.requested, sleeps.notified⟩
  | notifies | wakes => cases quiet
  | issues issues =>
    cases issues with
    | waits wait _ moves =>
      rw [sleeps.asleep] at moves
      cases moves
    | returns _ passed | takes _ _ passed =>
      rw [sleeps.asleep] at passed
      cases passed
    | works _ works => exact absurd place works
  | closes closes =>
    have waits := sleeps.waits
    cases closes with
    | joinsIssuer _ returned =>
      rw [place] at returned
      cases returned
    | storesStopWatchdog at_ | joinsWatchdog at_ | storesStopIssuer at_ | notifies at_
    | cleansUp _ at_ =>
      rw [waits] at at_
      cases at_

end

/-- No state of a run has the issuer asleep behind the notification of `close()` if and only
if no step of the issuer falls asleep there.  As long as it does not, somebody can always go
on until `close()` has returned, with at most three steps of the watchdog once it has been
told to stop, and at most eight of `close()` and the issuer once the issuer has.  After such
a step `close()` does not return in any run in which nobody wakes the issuer. -/
theorem close_returns_or_sleeps {config : AudioConfig} {requested : Option Int}
    {resultChannel : Bool} {actions : List Action} {s : Threads}
    (reached : run step (opened config requested resultChannel) actions = some s) :
    ((∀ before u, before <+: actions →
        run step (opened config requested resultChannel) before = some u →
          ¬ stopping.Forgotten u) ↔
      EveryStep step (fun u a => stopping.misses u a = false)
        (opened config requested resultChannel) actions) ∧
    (¬ stopping.Forgotten s → s.closing ≠ .returned → ∃ a ∈ unaided, (s.step a).isSome) ∧
    (∀ later t, run step s later = some t →
      (s.stopWatchdog = true → later.countP Action.isWatch ≤ 3) ∧
      (s.player.stopIssuer = true → later.countP Action.isStop ≤ 8)) ∧
    ∀ a u, stopping.misses s a = true → s.step a = some u →
      ∀ later t, (∀ b ∈ later, b.isQuiet = true) → run step u later = some t →
        t.closing ≠ .returned := by
  have orderly := run_orderly reached
  refine ⟨?_, goes_on orderly, fun later t continued => ⟨fun told => ?_, fun told => ?_⟩, ?_⟩
  · exact stopping_lawful.never_forgotten_iff actions
      (opened_orderly config requested resultChannel) (by simp [Waiting.Forgotten, stopping, opened])
      reached
  · have moves :
        ∀ (u : Threads) (a : Action) (v : Threads), u.stopWatchdog = true → u.step a = some v →
          v.stopWatchdog = true ∧
            v.watchdog.left + (if a.isWatch then 1 else 0) ≤ u.watchdog.left :=
      fun _ _ _ told stepped => watch_step told stepped
    have few := run_countP_le moves later told continued
    have bound : s.watchdog.left ≤ 3 := by cases s.watchdog <;> decide
    omega
  · have moves :
        ∀ (u : Threads) (a : Action) (v : Threads), u.Orderly ∧ u.player.stopIssuer = true →
          u.step a = some v →
            (v.Orderly ∧ v.player.stopIssuer = true) ∧
              v.rank + (if a.isStop then 1 else 0) ≤ u.rank := by
      intro u a v both stepped
      have next := stop_step both.1 both.2 stepped
      exact ⟨⟨both.1.step stepped, next.1⟩, next.2⟩
    have few := run_countP_le moves later ⟨orderly, told⟩ continued
    have bound := rank_le (orderly.requested.1 told)
    omega
  · intro a u misses stepped later t quiet continued
    have next := orderly.step stepped
    have forgotten : stopping.Forgotten u := by
      have remembered : ¬ stopping.Forgotten s := by
        rintro ⟨asleep, -, -⟩
        have leaving : s.wait = .leaving := by
          simp only [Waiting.misses, Bool.and_eq_true, decide_eq_true_eq] at misses
          exact misses.1.1.1
        rw [show s.wait = .asleep from asleep] at leaving
        cases leaving
      by_contra awake
      rw [(stopping_lawful.forgotten_step orderly remembered stepped).1 awake] at misses
      cases misses
    have sleeps : u.Sleeps :=
      ⟨next, forgotten.1, forgotten.2.1, of_decide_eq_false forgotten.2.2⟩
    have every : EveryStep step (fun _ b => b.isQuiet = true) u later :=
      everyStep_of_mem u later fun b member _ => quiet b member
    have waits := run_invariant
      (fun (v : Threads) b w (sleeps : v.Sleeps) quiet stepped => sleeps.step quiet stepped) later
      sleeps every continued
    rw [waits.waits]
    simp

/-- The issuer has found nothing to do, and `close()` gets as far as its wait for it. -/
def closesAtOnce : List Action :=
  List.replicate 2 (.issue .confirmed 0) ++ List.replicate 4 .close

def closingPlayer : Threads :=
  (run step (opened {} none false) closesAtOnce).getD (opened {} none false)

theorem closesAtOnce_sleeps :
    closingPlayer.closing = .joinIssuer ∧
      ∀ later t, (∀ b ∈ later, b.isQuiet = true) →
        run step { closingPlayer with wait := .asleep } later = some t → t.closing ≠ .returned := by
  have reached : run step (opened {} none false) closesAtOnce = some closingPlayer :=
    run_eq_some_getD (by decide +kernel)
  refine ⟨by decide +kernel, ?_⟩
  exact (close_returns_or_sleeps reached).2.2.2 (.issue .confirmed 0) _ (by decide +kernel)
    (by decide +kernel)

end Threads

end TermuxApiPlayer

end AudioRouter
