import AudioRouter.DeviceOpen.Model

/-!
# The steps of the threads

What each step of an attempt, of the supervisor and of `stop()` can do, with the
guard under which it does so.  The invariants are read off from these cases.
-/

namespace AudioRouter.DeviceOpen

/-! ## Stages of an attempt -/

/-- Before `open_fn` has returned. -/
def AttemptPc.early : AttemptPc → Bool
  | .notCalled | .checkShutdown | .opening => true
  | _ => false

/-- With a device that has been opened and neither installed nor closed. -/
def AttemptPc.holding : AttemptPc → Bool
  | .recheckShutdown | .lock | .closeDuplicate | .closeRaced => true
  | _ => false

/-- Behind the locked section that installs the device. -/
def AttemptPc.settled : AttemptPc → Bool
  | .takeOver _ | .returned | .finished => true
  | _ => false

/-- The attempt has returned, or was never called. -/
def AttemptPc.ended : AttemptPc → Bool
  | .notCalled | .returned | .finished => true
  | _ => false

/-- How many steps the attempt is from `finished`, at most. -/
def AttemptPc.remaining : AttemptPc → Nat
  | .notCalled => 0
  | .checkShutdown => 7
  | .opening => 6
  | .recheckShutdown => 5
  | .lock => 4
  | .closeDuplicate => 3
  | .closeRaced => 3
  | .takeOver _ => 2
  | .fail => 2
  | .returned => 1
  | .finished => 0

/-! ## What a step of an attempt does -/

/-- One attempt moves on from `before` to `after` without touching the slot or a
device. -/
inductive Moves : AttemptPc → AttemptPc → Prop where
  | refused : Moves .checkShutdown .fail
  | allowed : Moves .checkShutdown .opening
  | raced : Moves .recheckShutdown .closeRaced
  | locks : Moves .recheckShutdown .lock
  | superseded : Moves .lock .closeDuplicate
  | tookFreeSlot : Moves (.takeOver none) .returned
  | ends : Moves .returned .finished

/-- The effects that a step of attempt `i` can have. -/
inductive AttemptEffect (s : DeviceOpen) (i : Nat) : DeviceOpen → Prop where
  | moves {pc : AttemptPc} (moved : Moves (s.attempts i) pc) :
      AttemptEffect s i (s.setAttempt i pc)
  | opens (opening : s.attempts i = .opening) :
      AttemptEffect s i ((s.openReturned i true).setAttempt i .recheckShutdown)
  | cannotOpen (opening : s.attempts i = .opening) :
      AttemptEffect s i ((s.openReturned i false).setAttempt i .fail)
  | installs (locking : s.attempts i = .lock) (free : s.isPlaying = false) :
      AttemptEffect s i ((s.install i).setAttempt i (.takeOver s.player))
  | discards (holds : (s.attempts i).holding = true) :
      AttemptEffect s i ((s.close (.device i)).setAttempt i .fail)
  | displaces {p : Player} (taking : s.attempts i = .takeOver (some p)) :
      AttemptEffect s i ((s.close p).setAttempt i .returned)
  | fails (failing : s.attempts i = .fail) :
      AttemptEffect s i
        ({ s with result := false, pending := false }.setAttempt i .returned)

theorem attemptStep_effect {s s' : DeviceOpen} {i : Nat} {openFn : Bool}
    (stepped : s.attemptStep i openFn = some s') : AttemptEffect s i s' := by
  rw [attemptStep] at stepped
  split at stepped
  · exact nomatch stepped
  next pc =>
    obtain rfl := Option.some.inj stepped
    split
    · exact .moves (pc ▸ .refused)
    · exact .moves (pc ▸ .allowed)
  next pc =>
    obtain rfl := Option.some.inj stepped
    cases openFn with
    | true => exact .opens pc
    | false => exact .cannotOpen pc
  next pc =>
    obtain rfl := Option.some.inj stepped
    split
    · exact .moves (pc ▸ .raced)
    · exact .moves (pc ▸ .locks)
  next pc =>
    split at stepped <;> obtain rfl := Option.some.inj stepped
    · exact .moves (pc ▸ .superseded)
    next free => exact .installs pc (eq_false_of_ne_true free)
  next pc =>
    obtain rfl := Option.some.inj stepped
    exact .discards (by rw [pc]; rfl)
  next pc =>
    obtain rfl := Option.some.inj stepped
    exact .discards (by rw [pc]; rfl)
  next pc =>
    obtain rfl := Option.some.inj stepped
    exact .moves (pc ▸ .tookFreeSlot)
  next pc =>
    obtain rfl := Option.some.inj stepped
    exact .displaces pc
  next pc =>
    obtain rfl := Option.some.inj stepped
    exact .fails pc
  next pc =>
    obtain rfl := Option.some.inj stepped
    exact .moves (pc ▸ .ends)
  · exact nomatch stepped

/-! ## What a step of the supervisor does -/

def SupervisorPc.returned : SupervisorPc → Bool
  | .exited _ => true
  | _ => false

/-- Inside the loop over the attempts of one strategy, apart from `look`, where the
budget still has room, and from `leave`. -/
def SupervisorPc.counting : SupervisorPc → Bool
  | .inner | .spawn | .waiting _ | .recheckShutdown _ | .readResult _
  | .checkFinished _ _ | .checkShutdown _ | .backoff => true
  | _ => false

def Supervisor.current (v : Supervisor) : Option OpenStrategy :=
  v.strategies[v.strategyIndex]?

/-- The effects that a step of the supervisor can have. -/
inductive SupervisorEffect (s : DeviceOpen) : DeviceOpen → Prop where
  | beginsStrategy (outer : s.supervisor.pc = .outer)
      (left : s.supervisor.strategyIndex < s.supervisor.strategies.length) :
      SupervisorEffect s
        { s with
          supervisor := { s.supervisor with attemptsInStrategy := 0, pc := .inner } }
  | endsLoop (outer : s.supervisor.pc = .outer)
      (ended : s.shutdown = false →
        s.supervisor.strategies.length ≤ s.supervisor.strategyIndex) :
      SupervisorEffect s
        (s.enter (.exited (if s.shutdown then .shutdown else .exhausted)))
  | looks {strategy : OpenStrategy} (inner : s.supervisor.pc = .inner)
      (current : s.supervisor.current = some strategy)
      (left : s.supervisor.attemptsInStrategy < maxAttempts strategy) :
      SupervisorEffect s (s.enter .look)
  | leaves {strategy : OpenStrategy} (inner : s.supervisor.pc = .inner)
      (current : s.supervisor.current = some strategy)
      (ended : s.shutdown = false →
        maxAttempts strategy ≤ s.supervisor.attemptsInStrategy) :
      SupervisorEffect s (s.enter .leave)
  | alreadyPlaying (look : s.supervisor.pc = .look) (playing : s.isPlaying = true) :
      SupervisorEffect s (s.enter (.exited .playing))
  | counts (look : s.supervisor.pc = .look) :
      SupervisorEffect s
        { s with
          supervisor :=
            { s.supervisor with
              attemptsInStrategy := s.supervisor.attemptsInStrategy + 1
              pc := .spawn } }
  | spawns (spawn : s.supervisor.pc = .spawn) :
      SupervisorEffect s (s.callAttempt.enter (.waiting s.called))
  | stays
      (kept : ∀ i, s.supervisor.pc = .checkFinished i true → s.attempts i ≠ .finished) :
      SupervisorEffect s s
  | moves {pc : SupervisorPc} (before : s.supervisor.pc.counting = true)
      (after : pc.counting = true)
      (kept : ∀ i, s.supervisor.pc = .checkFinished i true → s.attempts i ≠ .finished)
      (reads : ∀ i, pc = .checkFinished i true → s.result = true) :
      SupervisorEffect s (s.enter pc)
  | succeeds {i : Nat} (checks : s.supervisor.pc = .checkFinished i true)
      (finished : s.attempts i = .finished) :
      SupervisorEffect s (s.enter (.exited .success))
  | breaks {i : Nat} (checks : s.supervisor.pc = .checkShutdown i)
      (stopped : s.shutdown = true) : SupervisorEffect s (s.enter .leave)
  | nextStrategy (leave : s.supervisor.pc = .leave) (running : s.shutdown = false) :
      SupervisorEffect s
        { s with
          supervisor :=
            { s.supervisor with
              strategyIndex := s.supervisor.strategyIndex + 1
              attemptsInStrategy := 0
              spent := s.supervisor.spent ++ [s.supervisor.attemptsInStrategy]
              pc := .outer } }
  | quits (leave : s.supervisor.pc = .leave) (stopped : s.shutdown = true) :
      SupervisorEffect s (s.enter .outer)

theorem supervisorStep_effect {s s' : DeviceOpen} {timeout : Bool}
    (stepped : s.supervisorStep timeout = some s') : SupervisorEffect s s' := by
  simp only [supervisorStep] at stepped
  split at stepped
  next outer =>
    split at stepped <;> obtain rfl := Option.some.inj stepped
    next left => exact .beginsStrategy outer left.2
    next ended =>
      exact
        .endsLoop outer fun running => Nat.le_of_not_lt fun left => ended ⟨running, left⟩
  next inner =>
    split at stepped
    · exact nomatch stepped
    next strategy current =>
      split at stepped <;> obtain rfl := Option.some.inj stepped
      next left => exact .looks inner current left.2
      next ended =>
        exact
          .leaves inner current fun running =>
            Nat.le_of_not_lt fun left => ended ⟨running, left⟩
  next look =>
    split at stepped <;> obtain rfl := Option.some.inj stepped
    next playing => exact .alreadyPlaying look playing
    · exact .counts look
  next spawn =>
    obtain rfl := Option.some.inj stepped
    exact .spawns spawn
  next i waiting =>
    split at stepped <;> obtain rfl := Option.some.inj stepped
    · exact .moves (by rw [waiting]; rfl) rfl (by rw [waiting]; exact nofun) nofun
    · exact .stays (by rw [waiting]; exact nofun)
  next i recheck =>
    obtain rfl := Option.some.inj stepped
    refine .moves (by rw [recheck]; rfl) ?_ (by rw [recheck]; exact nofun) ?_
    · split <;> rfl
    · split <;> exact nofun
  next i reads =>
    obtain rfl := Option.some.inj stepped
    refine .moves (by rw [reads]; rfl) rfl (by rw [reads]; exact nofun) fun j same => ?_
    exact (SupervisorPc.checkFinished.inj same).2
  next i ok checks =>
    split at stepped <;> obtain rfl := Option.some.inj stepped
    next success =>
      obtain ⟨finished, rfl⟩ := success
      exact .succeeds checks finished
    next failed =>
      refine .moves (by rw [checks]; rfl) rfl (fun j same finished => ?_) nofun
      obtain ⟨rfl, rfl⟩ := SupervisorPc.checkFinished.inj (checks.symm.trans same)
      exact failed ⟨finished, rfl⟩
  next i checks =>
    obtain rfl := Option.some.inj stepped
    split
    next stopped => exact .breaks checks stopped
    · exact .moves (by rw [checks]; rfl) rfl (by rw [checks]; exact nofun) nofun
  next backoff =>
    split at stepped <;> obtain rfl := Option.some.inj stepped
    · exact .moves (by rw [backoff]; rfl) rfl (by rw [backoff]; exact nofun) nofun
    · exact .stays (by rw [backoff]; exact nofun)
  next leave =>
    split at stepped <;> obtain rfl := Option.some.inj stepped
    next stopped => exact .quits leave stopped
    next running => exact .nextStrategy leave (eq_false_of_ne_true running)
  · exact nomatch stepped

/-! ## What a step of `stop()` does -/

section

variable {s s' : DeviceOpen}

theorem step_setShutdown (stepped : step s .setShutdown = some s') :
    s.isRunning = false ∧ s' = { s with shutdown := true } := by
  rw [step] at stepped
  split at stepped
  · exact nomatch stepped
  next stopped =>
    exact ⟨eq_false_of_ne_true stopped, (Option.some.inj stepped).symm⟩

theorem step_closePlayer (stepped : step s .closePlayer = some s') :
    s.shutdown = true ∧
      (s' = s ∨ ∃ p, s.player = some p ∧ s' = s.close p) := by
  rw [step] at stepped
  split at stepped
  next stopped =>
    refine ⟨stopped, ?_⟩
    split at stepped
    · exact Or.inl (Option.some.inj stepped).symm
    next p slot => exact Or.inr ⟨p, slot, (Option.some.inj stepped).symm⟩
  · exact nomatch stepped

end

end AudioRouter.DeviceOpen
