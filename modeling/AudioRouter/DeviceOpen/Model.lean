import AudioRouter.Lib.Transition
import Mathlib.Algebra.Group.Nat.Defs
import Mathlib.Data.List.Basic
import Mathlib.Logic.Function.Basic

/-!
# Opening the audio device

`attempt_device_open` and `device_open_supervisor` (`client/client.cpp`) as
threads over `DeviceOpenShared`.  Each locked section, and each access to an
atomic between them, is one step; the order of a list of actions is an
interleaving.  An attempt that hangs in its `open_fn` takes no further step.
-/

namespace AudioRouter

namespace DeviceOpen

/-! ## Strategies -/

inductive OpenStrategy where
  | pulse
  | aaudio
  | termuxapi
  | agm
  | nodes
  | legacy
  deriving DecidableEq, Repr

/-- `device_name.rfind(start, 0) == 0`. -/
def startsWith (deviceName start : String) : Bool :=
  start.toList.isPrefixOf deviceName.toList

def isPulseDevice (deviceName : String) : Bool :=
  deviceName == "pulse" || deviceName == "pulseaudio" || deviceName == "pa" ||
    startsWith deviceName "pulse:" || startsWith deviceName "pulse@" ||
    startsWith deviceName "pulseaudio:" || startsWith deviceName "pulseaudio@" ||
    startsWith deviceName "pa:" || startsWith deviceName "pa@"

def isAaudioDevice (deviceName : String) : Bool :=
  startsWith deviceName "aaudio:" || deviceName == "aaudio"

def isTermuxDevice (deviceName : String) : Bool :=
  startsWith deviceName "termux:" || deviceName == "termux" ||
    deviceName == "termux-api"

def isAgmDevice (deviceName : String) : Bool :=
  startsWith deviceName "agm:" || deviceName == "agm"

def isNodeBasedDevice (deviceName : String) : Bool :=
  startsWith deviceName "direct:" || startsWith deviceName "/dev/"

def buildOpenStrategies (deviceName : String) (pulseWorthTrying : Bool) :
    List OpenStrategy :=
  if isPulseDevice deviceName then [.pulse, .aaudio, .termuxapi, .agm, .nodes, .legacy]
  else if isAaudioDevice deviceName then [.aaudio, .termuxapi, .agm, .nodes, .legacy]
  else if isTermuxDevice deviceName then [.termuxapi, .aaudio, .agm, .nodes, .legacy]
  else if isAgmDevice deviceName then [.agm, .nodes, .legacy]
  else if isNodeBasedDevice deviceName then [.nodes]
  else if pulseWorthTrying then [.pulse, .aaudio, .termuxapi, .legacy]
  else [.legacy]

/-- The attempt budget of a strategy; the last one is
`std::numeric_limits<size_t>::max()`. -/
def maxAttempts : OpenStrategy → Nat
  | .pulse => 2
  | .aaudio => 2
  | .termuxapi => 2
  | .agm => 2
  | .nodes => 8
  | .legacy => 2 ^ 64 - 1

/-! ## Threads -/

/-- A player: the one that was in the slot before the first attempt, or the
device that an attempt was called with. -/
inductive Player where
  | initial
  | device (i : Nat)
  deriving DecidableEq, Repr

/-- Where `attempt_device_open` stands, and whether its thread has stored
`finished`. -/
inductive AttemptPc where
  | notCalled
  | checkShutdown
  | opening
  | recheckShutdown
  | lock
  | closeDuplicate
  | closeRaced
  | takeOver (displaced : Option Player)
  | fail
  | returned
  | finished
  deriving DecidableEq, Repr

/-- Why the supervisor has returned. -/
inductive Exit where
  | playing
  | success
  | exhausted
  | shutdown
  deriving DecidableEq, Repr

/-- Where `device_open_supervisor` stands; `i` is the attempt that it waits
for. -/
inductive SupervisorPc where
  | outer
  | inner
  | look
  | spawn
  | waiting (i : Nat)
  | recheckShutdown (i : Nat)
  | readResult (i : Nat)
  | checkFinished (i : Nat) (ok : Bool)
  | checkShutdown (i : Nat)
  | backoff
  | leave
  | exited (reason : Exit)
  deriving DecidableEq, Repr

/-- The supervisor's locals; `spent` records the attempts made in each strategy
that it has left, `attemptsInStrategy` starts again with each strategy. -/
structure Supervisor where
  strategies : List OpenStrategy
  strategyIndex : Nat := 0
  attemptsInStrategy : Nat := 0
  spent : List Nat := []
  pc : SupervisorPc := .outer
  deriving DecidableEq, Repr

end DeviceOpen

open DeviceOpen

/-- `DeviceOpenShared`, the players, the attempts and the supervisor.  For each
player there is `is_open()` and whether `close()` has been called, for each
attempt whether its `open_fn` has returned true. -/
structure DeviceOpen where
  pending : Bool := true
  result : Bool := false
  shutdown : Bool := false
  player : Option Player := none
  isOpen : Player → Bool := fun _ => false
  closed : Player → Bool := fun _ => false
  initialPlaceholder : Bool := false
  attempts : Nat → AttemptPc := fun _ => .notCalled
  called : Nat := 0
  opened : Nat → Bool := fun _ => false
  supervisor : Supervisor
  isRunning : Bool := true

namespace DeviceOpen

/-- `is_placeholder()`: attempts are called with real backends. -/
def isPlaceholder (s : DeviceOpen) : Player → Bool
  | .initial => s.initialPlaceholder
  | .device _ => false

/-- The slot holds a player that is open and not a placeholder. -/
def isPlaying (s : DeviceOpen) : Bool :=
  match s.player with
  | none => false
  | some p => s.isOpen p && !s.isPlaceholder p

/-- The player that is in the slot before the first attempt. -/
structure Initial where
  isOpen : Bool
  isPlaceholder : Bool
  deriving DecidableEq, Repr

/-- What `open_player_with_timeout` leaves behind when it has started the
supervisor.  The client's slot is empty then; any other player may be in it
here. -/
def start (deviceName : String) (pulseWorthTrying : Bool) (initial : Option Initial) :
    DeviceOpen :=
  { player := initial.map fun _ => .initial
    isOpen := fun p => p == .initial && (initial.map (·.isOpen)).getD false
    initialPlaceholder := (initial.map (·.isPlaceholder)).getD false
    supervisor := { strategies := buildOpenStrategies deviceName pulseWorthTrying } }

def setAttempt (s : DeviceOpen) (i : Nat) (pc : AttemptPc) : DeviceOpen :=
  { s with attempts := Function.update s.attempts i pc }

@[simp]
theorem setAttempt_self (s : DeviceOpen) (i : Nat) (pc : AttemptPc) :
    (s.setAttempt i pc).attempts i = pc := by
  simp only [setAttempt, Function.update_self]

theorem setAttempt_of_ne {i j : Nat} (other : j ≠ i) (s : DeviceOpen) (pc : AttemptPc) :
    (s.setAttempt i pc).attempts j = s.attempts j := by
  simp only [setAttempt, Function.update_of_ne other]

/-- `is_open_ = false` in a backend. -/
def markClosed (s : DeviceOpen) (p : Player) : DeviceOpen :=
  { s with isOpen := Function.update s.isOpen p false }

def close (s : DeviceOpen) (p : Player) : DeviceOpen :=
  { s.markClosed p with closed := Function.update s.closed p true }

/-- `open_fn` has returned. -/
def openReturned (s : DeviceOpen) (i : Nat) (openFn : Bool) : DeviceOpen :=
  { s with
    isOpen := Function.update s.isOpen (.device i) openFn
    opened := Function.update s.opened i openFn }

/-- The locked section of an attempt that finds the slot free. -/
def install (s : DeviceOpen) (i : Nat) : DeviceOpen :=
  { s with player := some (.device i), result := true, pending := false }

/-- One step of `attempt_device_open`, or of its thread; `openFn` is what
`open_fn` returns. -/
def attemptStep (s : DeviceOpen) (i : Nat) (openFn : Bool) : Option DeviceOpen :=
  match s.attempts i with
  | .notCalled => none
  | .checkShutdown => some (s.setAttempt i (if s.shutdown then .fail else .opening))
  | .opening =>
      some ((s.openReturned i openFn).setAttempt i
        (if openFn then .recheckShutdown else .fail))
  | .recheckShutdown =>
      some (s.setAttempt i (if s.shutdown then .closeRaced else .lock))
  | .lock =>
      if s.isPlaying then some (s.setAttempt i .closeDuplicate)
      else some ((s.install i).setAttempt i (.takeOver s.player))
  | .closeDuplicate => some ((s.close (.device i)).setAttempt i .fail)
  | .closeRaced => some ((s.close (.device i)).setAttempt i .fail)
  | .takeOver none => some (s.setAttempt i .returned)
  | .takeOver (some displaced) => some ((s.close displaced).setAttempt i .returned)
  | .fail =>
      some ({ s with result := false, pending := false }.setAttempt i .returned)
  | .returned => some (s.setAttempt i .finished)
  | .finished => none

/-- A thread starts `attempt_device_open` with a fresh device. -/
def callAttempt (s : DeviceOpen) : DeviceOpen :=
  { s.setAttempt s.called .checkShutdown with called := s.called + 1 }

def enter (s : DeviceOpen) (pc : SupervisorPc) : DeviceOpen :=
  { s with supervisor := { s.supervisor with pc := pc } }

/-- One step of `device_open_supervisor`; `timeout` says whether the wait in which
it stands is over. -/
def supervisorStep (s : DeviceOpen) (timeout : Bool) : Option DeviceOpen :=
  let v := s.supervisor
  match v.pc with
  | .outer =>
      if s.shutdown = false ∧ v.strategyIndex < v.strategies.length then
        some { s with supervisor := { v with attemptsInStrategy := 0, pc := .inner } }
      else some (s.enter (.exited (if s.shutdown then .shutdown else .exhausted)))
  | .inner =>
      match v.strategies[v.strategyIndex]? with
      | none => none
      | some strategy =>
          if s.shutdown = false ∧ v.attemptsInStrategy < maxAttempts strategy then
            some (s.enter .look)
          else some (s.enter .leave)
  | .look =>
      if s.isPlaying then some (s.enter (.exited .playing))
      else
        some { s with
          supervisor :=
            { v with
              attemptsInStrategy := v.attemptsInStrategy + 1
              pc := .spawn } }
  | .spawn => some (s.callAttempt.enter (.waiting s.called))
  | .waiting i =>
      if timeout ∨ s.shutdown ∨ s.attempts i = .finished then
        some (s.enter (.recheckShutdown i))
      else some s
  | .recheckShutdown i =>
      some (s.enter (if s.shutdown then .checkShutdown i else .readResult i))
  | .readResult i => some (s.enter (.checkFinished i s.result))
  | .checkFinished i ok =>
      if s.attempts i = .finished ∧ ok then some (s.enter (.exited .success))
      else some (s.enter (.checkShutdown i))
  | .checkShutdown _ => some (s.enter (if s.shutdown then .leave else .backoff))
  | .backoff => if timeout ∨ s.shutdown then some (s.enter .inner) else some s
  | .leave =>
      if s.shutdown then some (s.enter .outer)
      else
        some { s with
          supervisor :=
            { v with
              strategyIndex := v.strategyIndex + 1
              attemptsInStrategy := 0
              spent := v.spent ++ [v.attemptsInStrategy]
              pc := .outer } }
  | .exited _ => none

inductive Action where
  | attempt (i : Nat) (openFn : Bool)
  | supervisor (timeout : Bool)
  /-- An attempt by another caller. -/
  | call
  /-- A backend marks itself closed, as the AAudio watchdog does. -/
  | selfClose (p : Player)
  /-- `stop()`: clears `is_running_`, sets `shutdown`, closes the player. -/
  | stop
  | setShutdown
  | closePlayer
  deriving DecidableEq, Repr

def step (s : DeviceOpen) : Action → Option DeviceOpen
  | .attempt i openFn => s.attemptStep i openFn
  | .supervisor timeout => s.supervisorStep timeout
  | .call => some s.callAttempt
  | .selfClose p => some (s.markClosed p)
  | .stop => some { s with isRunning := false }
  | .setShutdown => if s.isRunning then none else some { s with shutdown := true }
  | .closePlayer =>
      if s.shutdown then
        match s.player with
        | none => some s
        | some p => some (s.close p)
      else none

end DeviceOpen

end AudioRouter
