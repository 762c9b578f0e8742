import AudioRouter.Lib.ConditionVariable
import AudioRouter.TermuxPlayer.Truncate

/-!
# The threads of the Termux:API player

How the issuer waits on `handoff_cv_` for a segment, the recorder that hands one over, the
watchdog, and `close()`, which stops both threads and joins them.  `pending_` is guarded by
`handoff_mutex_`; `stop_issuer_` is an atomic that `close()` stores without it.  What the
threads do to the members of the player is what they do in `Model`.
-/

namespace AudioRouter

namespace TermuxApiPlayer

/-- The next step of `write_frames` hands the segment over. -/
def hands (s : TermuxApiPlayer) (nowMs : Millis) : Bool :=
  decide (s.recorder = .deciding) &&
    (!s.segIssued && s.segmentReady nowMs && s.finalizeSegment.segIssued)

/-- The next step of the recorder locks `handoff_mutex_`. -/
def locksHandoff (s : TermuxApiPlayer) (nowMs : Millis) : Bool :=
  s.hands nowMs || decide (s.recorder = .flushing)

/-- Where `watchdog_loop` stands. -/
inductive WatchdogPc where
  | testing
  | sleeping
  | awake
  | asking
  | resuming
  | recovering
  | ended
  deriving DecidableEq, Repr

/-- What the watchdog learns: before it asks, whether there is anything to ask for, and
then what the answer calls for. -/
inductive News where
  | nothing
  | paused
  | noTrack
  deriving DecidableEq, Repr

/-- The next statement of `close()`. -/
inductive CloseStep where
  | storeStopWatchdog
  | joinWatchdog
  | storeStopIssuer
  | notifyAll
  | joinIssuer
  | cleanUp
  | returned
  deriving DecidableEq, Repr

/-- How far `close()` has come. -/
def CloseStep.phase : CloseStep → Nat
  | .storeStopWatchdog => 0
  | .joinWatchdog => 1
  | .storeStopIssuer => 2
  | .notifyAll => 3
  | .joinIssuer => 4
  | .cleanUp => 5
  | .returned => 6

/-- The player with where its threads stand.  Away from the wait, the issuer is about to
lock `handoff_mutex_`; nobody but the issuer holds it from one step to the next. -/
structure Threads where
  player : TermuxApiPlayer
  wait : ConditionVariable.Wait := .locking
  /-- The recorder has handed a segment over and is about to notify. -/
  notifying : Bool := false
  stopWatchdog : Bool := false
  watchdog : WatchdogPc
  closing : CloseStep := .storeStopWatchdog
  deriving DecidableEq, Repr

namespace Threads

open ConditionVariable

inductive Action where
  | writeFrames (numFrames : Nat) (openOk : Bool)
  | flush (nowMs : Millis)
  | record (os : Os)
  | notify
  | issue (outcome : Outcome) (nowMs : Millis)
  | watch (news : News) (nowMs : Millis)
  | close
  /-- The issuer wakes without a notification. -/
  | spurious
  deriving DecidableEq, Repr

/-- A step of the player's model. -/
def act (s : Threads) (action : TermuxApiPlayer.Action) : Option Threads :=
  (s.player.step action).map fun player => { s with player := player }

def recordStep (s : Threads) (os : Os) : Option Threads :=
  if s.notifying ∨ s.player.locksHandoff os.nowMs ∧ s.wait.holds then none
  else (s.act (.record os)).map fun t => { t with notifying := s.player.hands os.nowMs }

/-- The predicate of the wait. -/
def ready (s : Threads) : Bool := s.player.stopIssuer || s.player.pending.isSome

/-- One step of `issuer_loop`.  It looks at `stop_issuer_` again behind the wait, and
unlocks where it has taken the segment. -/
def issueStep (s : Threads) (outcome : Outcome) (nowMs : Millis) : Option Threads :=
  match s.player.issuer, s.wait with
  | .waiting, .passed =>
      (s.act (.issue outcome nowMs)).map fun t => { t with wait := .locking }
  | .waiting, wait => (wait.step s.ready).map fun wait => { s with wait := wait }
  | _, _ => s.act (.issue outcome nowMs)

/-- One step of `watchdog_loop`. -/
def watchStep (s : Threads) (news : News) (nowMs : Millis) : Option Threads :=
  match s.watchdog with
  | .testing => some { s with watchdog := if s.stopWatchdog then .ended else .sleeping }
  | .sleeping => some { s with watchdog := .awake }
  | .awake =>
      some
        { s with
          watchdog :=
            if s.stopWatchdog || !s.player.isOpen then .ended
            else if news = .nothing then .testing
            else .asking }
  | .asking =>
      some
        { s with
          watchdog :=
            match news with
            | .nothing => .testing
            | .paused => .resuming
            | .noTrack => .recovering }
  | .resuming => some { s with watchdog := .testing }
  | .recovering => (s.act (.watchdog nowMs)).map fun t => { t with watchdog := .testing }
  | .ended => none

/-- One statement of `close()`. -/
def closeStep (s : Threads) : Option Threads :=
  match s.closing with
  | .storeStopWatchdog => some { s with stopWatchdog := true, closing := .joinWatchdog }
  | .joinWatchdog =>
      if s.watchdog = .ended then some { s with closing := .storeStopIssuer } else none
  | .storeStopIssuer => (s.act .stop).map fun t => { t with closing := .notifyAll }
  | .notifyAll => some { s with wait := s.wait.wake, closing := .joinIssuer }
  | .joinIssuer =>
      if s.player.issuer = .returned then some { s with closing := .cleanUp } else none
  | .cleanUp => (s.act .close).map fun t => { t with closing := .returned }
  | .returned => none

def step (s : Threads) : Action → Option Threads
  | .writeFrames numFrames openOk => s.act (.writeFrames numFrames openOk)
  | .flush nowMs => s.act (.flush nowMs)
  | .record os => s.recordStep os
  | .notify =>
      if s.notifying then some { s with wait := s.wait.wake, notifying := false } else none
  | .issue outcome nowMs => s.issueStep outcome nowMs
  | .watch news nowMs => s.watchStep news nowMs
  | .close => s.closeStep
  | .spurious => if s.wait = .asleep then some { s with wait := .locking } else none

/-- The threads that a successful `open` starts: a watchdog only where the application
answers. -/
def opened (config : AudioConfig) (requested : Option Int) (resultChannel : Bool) : Threads :=
  { player := openedPlayer config requested
    watchdog := if resultChannel then .testing else .ended }

end Threads

end TermuxApiPlayer

end AudioRouter
