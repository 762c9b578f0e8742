import AudioRouter.DeviceOpen.Slot

/-!
# Stopping while devices are being opened

`AudioRouterClient::stop()` as one more thread over `DeviceOpenShared`: it clears
`is_running_`, stores `shutdown`, closes the player that it finds in the slot, and
returns without having waited for the attempts.  An attempt reads `shutdown` before
it takes the lock, so its locked section can come after the one of `stop()`.
-/

namespace AudioRouter

namespace DeviceOpen

/-- Where `stop()` stands. -/
inductive StopPc where
  | notCalled
  | clearRunning
  | setShutdown
  | closePlayer
  | join
  | returned
  deriving DecidableEq, Repr

end DeviceOpen

open DeviceOpen

/-- A streaming client on which `stop()` is called; `stopped` says whether `state_`
is `STOPPED`. -/
structure Stopping where
  shared : DeviceOpen
  stopped : Bool := false
  pc : StopPc := .notCalled

namespace Stopping

def start (deviceName : String) (pulseWorthTrying : Bool) (initial : Option Initial) :
    Stopping :=
  { shared := DeviceOpen.start deviceName pulseWorthTrying initial }

inductive Action where
  | stop
  | attempt (i : Nat) (openFn : Bool)
  | supervisor (timeout : Bool)
  | call
  | selfClose (p : Player)
  deriving DecidableEq, Repr

/-- The step of another thread than the one in `stop()`. -/
def Action.thread : Action → Option DeviceOpen.Action
  | .stop => none
  | .attempt i openFn => some (.attempt i openFn)
  | .supervisor timeout => some (.supervisor timeout)
  | .call => some .call
  | .selfClose p => some (.selfClose p)

/-- `stop()` is called where it has not been called or has returned; it may be
called again, as the destructor does. -/
def stopStep (s : Stopping) : Option Stopping :=
  match s.pc with
  | .notCalled | .returned =>
      some
        { s with
          pc := if s.stopped && !s.shared.isRunning then .returned else .clearRunning }
  | .clearRunning =>
      (DeviceOpen.step s.shared .stop).map fun shared =>
        { s with shared := shared, pc := .setShutdown }
  | .setShutdown =>
      (DeviceOpen.step s.shared .setShutdown).map fun shared =>
        { s with shared := shared, pc := .closePlayer }
  | .closePlayer =>
      (DeviceOpen.step s.shared .closePlayer).map fun shared =>
        { s with shared := shared, pc := .join }
  | .join => some { s with stopped := true, pc := .returned }

def step (s : Stopping) (action : Action) : Option Stopping :=
  match action.thread with
  | none => s.stopStep
  | some other =>
      (DeviceOpen.step s.shared other).map fun shared => { s with shared := shared }

end Stopping

/-! ## Behind the locked section of `stop()` -/

namespace DeviceOpen

/-- The attempt holds an open device and will close it once it sees `shutdown`. -/
def AttemptPc.discarding : AttemptPc → Bool
  | .recheckShutdown | .closeDuplicate | .closeRaced => true
  | _ => false

theorem AttemptPc.discarding_of_holding {pc : AttemptPc} (holding : pc.holding = true)
    (notLocking : pc ≠ .lock) : pc.discarding = true := by
  cases pc <;> first | rfl | exact absurd rfl notLocking | exact nomatch holding

theorem AttemptPc.discarding_not_ended {pc : AttemptPc}
    (discarding : pc.discarding = true) : pc.ended = false := by
  cases pc <;> first | rfl | exact nomatch discarding

/-- No device is open, except those that an attempt is about to close. -/
structure Draining (s : DeviceOpen) : Prop where
  shutdown : s.shutdown = true
  discarding :
    ∀ i, s.isOpen (.device i) = true → (s.attempts i).discarding = true

section

variable {s s' : DeviceOpen} {i : Nat}

theorem Draining.not_open (draining : Draining s)
    (stands : (s.attempts i).discarding = false) : s.isOpen (.device i) = false := by
  by_contra isOpen
  have discarding := draining.discarding i (eq_true_of_ne_false isOpen)
  rw [stands] at discarding
  exact nomatch discarding

/-- The devices other than that of attempt `i` are as open as before, at most. -/
theorem Draining.update (draining : Draining s) (shutdown : s'.shutdown = true)
    (others : ∀ j, j ≠ i → s'.attempts j = s.attempts j)
    (fewer : ∀ j, j ≠ i → s'.isOpen (.device j) = true → s.isOpen (.device j) = true)
    (own : s'.isOpen (.device i) = true → (s'.attempts i).discarding = true) :
    Draining s' where
  shutdown := shutdown
  discarding := by
    intro j isOpen
    by_cases same : j = i
    · subst same
      exact own isOpen
    · rw [others j same]
      exact draining.discarding j (fewer j same isOpen)

theorem isOpen_of_markClosed {p q : Player} (isOpen : (s.markClosed p).isOpen q = true) :
    q ≠ p ∧ s.isOpen q = true := by
  by_cases same : q = p
  · simp [DeviceOpen.markClosed, same] at isOpen
  · exact ⟨same, by simpa [DeviceOpen.markClosed, Function.update_of_ne same] using isOpen⟩

theorem Draining.markClosed (draining : Draining s) (p : Player) :
    Draining (s.markClosed p) where
  shutdown := draining.shutdown
  discarding := fun i isOpen => draining.discarding i (isOpen_of_markClosed isOpen).2

/-- With `shutdown` set no attempt reaches its locked section any more. -/
theorem Moves.discarding {pc : AttemptPc} (moved : Moves (s.attempts i) pc)
    (known : (s.attempts i).discarding = true) (notLocking : pc ≠ .lock) :
    pc.discarding = true := by
  generalize s.attempts i = before at moved known
  cases moved with
  | raced => rfl
  | locks => exact absurd rfl notLocking
  | _ => exact nomatch known

theorem attemptStep_lock {openFn : Bool} (shutdown : s.shutdown = true)
    (stepped : s.attemptStep i openFn = some s') : s'.attempts i ≠ .lock := by
  rw [attemptStep] at stepped
  split at stepped
  case h_2 | h_4 =>
    obtain rfl := Option.some.inj stepped
    rw [setAttempt_self, shutdown]
    rintro ⟨⟩
  case h_3 =>
    obtain rfl := Option.some.inj stepped
    rw [setAttempt_self]
    split <;> rintro ⟨⟩
  case h_5 =>
    split at stepped <;> obtain rfl := Option.some.inj stepped <;> rw [setAttempt_self] <;>
      rintro ⟨⟩
  case h_1 | h_12 => cases stepped
  all_goals
    obtain rfl := Option.some.inj stepped
    rw [setAttempt_self]
    rintro ⟨⟩

theorem AttemptEffect.draining (effect : AttemptEffect s i s') (draining : Draining s)
    (notLocking : s'.attempts i ≠ .lock) : Draining s' := by
  have others : ∀ j, j ≠ i → s'.attempts j = s.attempts j := fun j other =>
    effect.others other
  cases effect with
  | moves moved =>
    refine draining.update draining.shutdown others (fun _ _ isOpen => isOpen) ?_
    intro isOpen
    rw [setAttempt_self] at notLocking ⊢
    exact moved.discarding (draining.discarding i isOpen) notLocking
  | opens _ =>
    refine draining.update draining.shutdown others ?_ ?_
    · intro j other isOpen
      have device : Player.device j ≠ .device i := fun eq => other (Player.device.inj eq)
      simpa only [DeviceOpen.setAttempt, DeviceOpen.openReturned,
        Function.update_of_ne device] using isOpen
    · intro _
      rw [setAttempt_self]
      rfl
  | cannotOpen _ =>
    refine draining.update draining.shutdown others ?_ ?_
    · intro j other isOpen
      have device : Player.device j ≠ .device i := fun eq => other (Player.device.inj eq)
      simpa only [DeviceOpen.setAttempt, DeviceOpen.openReturned,
        Function.update_of_ne device] using isOpen
    · intro isOpen
      simp [DeviceOpen.setAttempt, DeviceOpen.openReturned] at isOpen
  | installs locking _ =>
    refine draining.update draining.shutdown others (fun _ _ isOpen => isOpen) ?_
    intro isOpen
    have dead := draining.not_open (i := i) (by rw [locking]; rfl)
    exact Bool.noConfusion (dead.symm.trans isOpen)
  | discards _ =>
    refine draining.update draining.shutdown others ?_ ?_
    · exact fun j _ isOpen => (isOpen_of_markClosed (s := s) isOpen).2
    · exact fun isOpen => absurd rfl (isOpen_of_markClosed (s := s) isOpen).1
  | displaces taking =>
    refine draining.update draining.shutdown others ?_ ?_
    · exact fun j _ isOpen => (isOpen_of_markClosed (s := s) isOpen).2
    · intro isOpen
      have dead := draining.not_open (i := i) (by rw [taking]; rfl)
      exact Bool.noConfusion (dead.symm.trans (isOpen_of_markClosed (s := s) isOpen).2)
  | fails failing =>
    refine draining.update draining.shutdown others (fun _ _ isOpen => isOpen) ?_
    intro isOpen
    have dead := draining.not_open (i := i) (by rw [failing]; rfl)
    exact Bool.noConfusion (dead.symm.trans isOpen)

theorem Draining.callAttempt (draining : Draining s) (accounted : Accounted s) :
    Draining s.callAttempt := by
  refine
    draining.update (i := s.called) draining.shutdown
      (fun j other => setAttempt_of_ne other s _) (fun _ _ isOpen => isOpen) ?_
  intro isOpen
  have fresh := accounted.fresh s.called (Nat.le_refl _)
  have dead := draining.not_open (i := s.called) (by rw [fresh]; rfl)
  exact Bool.noConfusion (dead.symm.trans isOpen)

/-- The locked section of `stop()` closes the player of the slot; where no attempt
with an open device is about to enter its own, every other device is doomed. -/
theorem Accounted.closePlayer (accounted : Accounted s)
    (noneAtLock :
      ∀ i < s.called, s.attempts i = .lock → s.isOpen (.device i) = false)
    (stepped : DeviceOpen.step s .closePlayer = some s') : Draining s' := by
  have doomed :
      ∀ i, s.isOpen (.device i) = true → s.player ≠ some (.device i) →
        (s.attempts i).discarding = true := by
    intro i isOpen elsewhere
    rcases accounted.devices i (accounted.openedOpen i isOpen) with
      holding | installed | closed | ⟨j, taking⟩
    · refine AttemptPc.discarding_of_holding holding fun locking => ?_
      have called := accounted.called (i := i) (by rw [locking]; rintro ⟨⟩)
      exact Bool.noConfusion ((noneAtLock i called locking).symm.trans isOpen)
    · exact absurd installed elsewhere
    · exact Bool.noConfusion ((accounted.closedDead _ closed).symm.trans isOpen)
    · have dead := ((accounted.displaced j _ taking).2 i rfl).2
      exact Bool.noConfusion (dead.symm.trans isOpen)
  rw [DeviceOpen.step] at stepped
  split at stepped
  next shutdown =>
    split at stepped
    next empty =>
      obtain rfl := Option.some.inj stepped
      exact ⟨shutdown, fun i isOpen => doomed i isOpen (by rw [empty]; rintro ⟨⟩)⟩
    next p slot =>
      obtain rfl := Option.some.inj stepped
      refine ⟨shutdown, fun i isOpen => ?_⟩
      obtain ⟨other, before⟩ := isOpen_of_markClosed (s := s) isOpen
      refine doomed i before fun installed => ?_
      exact other (Option.some.inj (installed.symm.trans slot))
  · cases stepped

end

end DeviceOpen

/-! ## Steps and runs -/

namespace Stopping

open Transition

/-- What is known of the client in every state of a run. -/
structure Known (s : Stopping) : Prop where
  accounted : Accounted s.shared
  fresh : s.pc = .notCalled → s.stopped = false
  running : s.pc ≠ .notCalled → s.pc ≠ .clearRunning → s.shared.isRunning = false
  stopped : s.pc = .returned → s.stopped = true
  draining : s.pc = .join ∨ s.pc = .returned → Draining s.shared

/-- `stop()` does not close the slot's player while an attempt with an open device
stands between its second look at `shutdown` and its locked section. -/
def NoneAtLock (s : Stopping) (action : Action) : Prop :=
  action = .stop → s.pc = .closePlayer →
    ∀ i < s.shared.called,
      s.shared.attempts i = .lock → s.shared.isOpen (.device i) = false

instance (s : Stopping) (action : Action) : Decidable (NoneAtLock s action) := by
  unfold NoneAtLock
  infer_instance

theorem start_known (deviceName : String) (pulseWorthTrying : Bool)
    (initial : Option Initial) : Known (start deviceName pulseWorthTrying initial) where
  accounted := start_accounted deviceName pulseWorthTrying initial
  fresh := fun _ => rfl
  running := fun notCalled => absurd rfl notCalled
  stopped := nofun
  draining := by rintro (eq | eq) <;> exact nomatch eq

section

variable {s s' : Stopping} {action : Action}

/-- A step of another thread keeps what `stop()` has done. -/
theorem thread_known {other : DeviceOpen.Action} {shared : DeviceOpen}
    (known : Known s) (threaded : action.thread = some other)
    (stepped : DeviceOpen.step s.shared other = some shared) :
    Known { s with shared := shared } := by
  have accounted := step_accounted known.accounted stepped
  have kept :
      shared.isRunning = s.shared.isRunning ∧ (Draining s.shared → Draining shared) := by
    cases action with
    | stop => exact nomatch threaded
    | attempt i openFn =>
      obtain rfl := Option.some.inj threaded
      have effect := attemptStep_effect stepped
      refine ⟨by cases effect <;> rfl, fun draining => ?_⟩
      exact effect.draining draining (attemptStep_lock draining.shutdown stepped)
    | supervisor timeout =>
      obtain rfl := Option.some.inj threaded
      cases supervisorStep_effect stepped with
      | spawns _ =>
        refine ⟨rfl, fun draining => ?_⟩
        exact { draining.callAttempt known.accounted with }
      | _ => exact ⟨rfl, fun draining => { draining with }⟩
    | call =>
      obtain rfl := Option.some.inj threaded
      obtain rfl := Option.some.inj stepped
      exact ⟨rfl, fun draining => draining.callAttempt known.accounted⟩
    | selfClose p =>
      obtain rfl := Option.some.inj threaded
      obtain rfl := Option.some.inj stepped
      exact ⟨rfl, fun draining => draining.markClosed p⟩
  exact
    { accounted := accounted
      fresh := known.fresh
      running := fun called past => kept.1.trans (known.running called past)
      stopped := known.stopped
      draining := fun behind => kept.2 (known.draining behind) }

/-- The four atomic accesses and the locked section of `stop()`. -/
theorem stopStep_known (known : Known s) (noneAtLock : NoneAtLock s .stop)
    (stepped : stopStep s = some s') : Known s' := by
  have accounted := known.accounted
  rw [stopStep] at stepped
  split at stepped
  next notCalled =>
    obtain rfl := Option.some.inj stepped
    rw [known.fresh notCalled]
    exact
      ⟨accounted, nofun, fun _ past => absurd rfl past, nofun, by
        rintro (eq | eq) <;> exact nomatch eq⟩
  next returned =>
    obtain rfl := Option.some.inj stepped
    have running := known.running (by rw [returned]; exact nofun) (by rw [returned]; exact nofun)
    have draining := known.draining (Or.inr returned)
    rw [known.stopped returned, running]
    exact ⟨accounted, nofun, fun _ _ => running, fun _ => rfl, fun _ => draining⟩
  next clears =>
    obtain ⟨shared, moved, rfl⟩ := Option.map_eq_some_iff.1 stepped
    have after := step_accounted accounted moved
    obtain rfl := Option.some.inj moved
    exact ⟨after, nofun, fun _ _ => rfl, nofun, by rintro (eq | eq) <;> exact nomatch eq⟩
  next sets =>
    obtain ⟨shared, moved, rfl⟩ := Option.map_eq_some_iff.1 stepped
    have after := step_accounted accounted moved
    obtain ⟨running, rfl⟩ := step_setShutdown moved
    exact ⟨after, nofun, fun _ _ => running, nofun, by rintro (eq | eq) <;> exact nomatch eq⟩
  next closes =>
    obtain ⟨shared, moved, rfl⟩ := Option.map_eq_some_iff.1 stepped
    have after := step_accounted accounted moved
    have draining := accounted.closePlayer (noneAtLock rfl closes) moved
    have running := known.running (by rw [closes]; exact nofun) (by rw [closes]; exact nofun)
    have kept : shared.isRunning = s.shared.isRunning := by
      obtain ⟨_, rfl | ⟨p, _, rfl⟩⟩ := step_closePlayer moved <;> rfl
    exact ⟨after, nofun, fun _ _ => kept.trans running, nofun, fun _ => draining⟩
  next joins =>
    obtain rfl := Option.some.inj stepped
    have running := known.running (by rw [joins]; exact nofun) (by rw [joins]; exact nofun)
    have draining := known.draining (Or.inl joins)
    exact ⟨accounted, nofun, fun _ _ => running, fun _ => rfl, fun _ => draining⟩

/-- What one step preserves. -/
theorem step_known (known : Known s) (noneAtLock : NoneAtLock s action)
    (stepped : step s action = some s') : Known s' := by
  rw [step] at stepped
  split at stepped
  next stops =>
    obtain rfl : action = .stop := by
      cases action <;> first | rfl | exact nomatch stops
    exact stopStep_known known noneAtLock stepped
  next other threaded =>
    obtain ⟨shared, moved, rfl⟩ := Option.map_eq_some_iff.1 stepped
    exact thread_known known threaded moved

end

/-- Where `stop()` never closes the slot while an attempt with an open device is
about to enter its locked section, no device is open any more once `stop()` and
every attempt have returned. -/
theorem stop_closes_devices {deviceName : String} {pulseWorthTrying : Bool}
    {initial : Option Initial} {actions : List Action} {s : Stopping}
    (reached : run step (start deviceName pulseWorthTrying initial) actions = some s)
    (noneAtLock :
      EveryStep step NoneAtLock (start deviceName pulseWorthTrying initial) actions)
    (returned : s.pc = .returned) (ended : ∀ i, (s.shared.attempts i).ended = true) :
    ∀ i, s.shared.opened i = true → s.shared.isOpen (.device i) = false := by
  intro i _
  have known : Known s := by
    refine run_invariant ?_ actions (start_known deviceName pulseWorthTrying initial)
      noneAtLock reached
    exact fun _ _ _ before good stepped => step_known before good stepped
  have draining := known.draining (Or.inr returned)
  by_contra isOpen
  have discarding := draining.discarding i (eq_true_of_ne_false isOpen)
  have still := AttemptPc.discarding_not_ended discarding
  exact nomatch still.symm.trans (ended i)

/-- The attempt opens its device and has seen `shutdown` unset for the second time
before `stop()` begins; it returns before `stop()` closes the slot. -/
def promptAttempt : List Action :=
  [.call, .attempt 0 true, .attempt 0 true, .attempt 0 true, .stop, .attempt 0 true,
    .attempt 0 true, .stop, .stop, .stop, .stop]

/-- The same attempt takes the slot behind the locked section of `stop()`. -/
def lateInstall : List Action :=
  [.call, .attempt 0 true, .attempt 0 true, .attempt 0 true, .stop, .stop, .stop, .stop,
    .stop, .attempt 0 true, .attempt 0 true]

def after (actions : List Action) : Stopping :=
  (run step (start "aaudio" false none) actions).getD (start "aaudio" false none)

theorem after_promptAttempt_ended (i : Nat) :
    ((after promptAttempt).shared.attempts i).ended = true := by
  cases i with
  | zero => decide +kernel
  | succ n => rfl

theorem after_lateInstall_ended (i : Nat) :
    ((after lateInstall).shared.attempts i).ended = true := by
  cases i with
  | zero => decide +kernel
  | succ n => rfl

theorem stop_closes_devices_prompt :
    (after promptAttempt).shared.opened 0 = true ∧
      (∀ i, (after promptAttempt).shared.opened i = true →
        (after promptAttempt).shared.isOpen (.device i) = false) :=
  ⟨by decide +kernel,
    stop_closes_devices (run_eq_some_getD (by decide +kernel)) (by decide +kernel)
      (by decide +kernel) after_promptAttempt_ended⟩

theorem late_install_stays_open :
    run step (start "aaudio" false none) lateInstall = some (after lateInstall) ∧
      (after lateInstall).pc = .returned ∧
      (∀ i, ((after lateInstall).shared.attempts i).ended = true) ∧
      (after lateInstall).shared.opened 0 = true ∧
      (after lateInstall).shared.isOpen (.device 0) = true :=
  ⟨run_eq_some_getD (by decide +kernel), by decide +kernel, after_lateInstall_ended,
    by decide +kernel, by decide +kernel⟩

end Stopping

end AudioRouter
