import AudioRouter.AudioTypes
import AudioRouter.Lib.Transition

/-!
# The AGM player

`write_frames` and `recover` of `AgmFifoPlayer` (`client/agm_fifo_player.cpp`), which
run on the playback thread, the mixer monitor, `open` and `close()`.  Each section under
`io_mutex_` and each access to an atomic is one step; system calls in between belong to
the step behind them.  What is written is left out: only the descriptors and the numbers
of bytes matter here.
-/

namespace AudioRouter

namespace AgmFifoPlayer

/-- `get_time_ms()`. -/
abbrev Millis := BitVec 64

def kStallTriggerMs : Nat := 2500
def kMinRecoverIntervalMs : Nat := 3000
def kSessionCloseWindowMs : Nat := 2000

/-- A descriptor of the FIFO: the number of descriptors opened before it. -/
abbrev Fd := Nat

/-- An `agmplay` process: the number of processes spawned before it. -/
abbrev Pid := Nat

/-- What `write` on the FIFO says. -/
inductive WriteResult where
  | wrote (bytes : Nat)
  | interrupted
  | full
  | failed
  deriving DecidableEq, Repr

/-- What the system returns at a step of the playback thread. -/
structure Os where
  nowMs : Millis := 0
  /-- A second look at the clock. -/
  laterMs : Millis := 0
  write : WriteResult := .full
  mkfifoOk : Bool := true
  forkOk : Bool := true
  /-- `agmplay` opens the FIFO in time. -/
  readerOk : Bool := true
  deriving DecidableEq, Repr

/-- Where the playback thread stands: outside, in `write_frames`, or in `recover`. -/
inductive PlayPc where
  | idle
  | exchange (bytes : Nat)
  | writing (bytes written : Nat)
  | stalled (bytes written : Nat)
  | recover
  | rateLimit
  | teardown
  | clearFlag
  | spawn
  | adopt (pid : Pid)
  | waitReader
  | recovered
  deriving DecidableEq, Repr

/-- Where `logcat_watch_loop` stands. -/
inductive WatcherPc where
  | stopped
  | watching
  | flagging
  deriving DecidableEq, Repr

end AgmFifoPlayer

open AgmFifoPlayer

/-- The members of `AgmFifoPlayer`, where its threads stand, the descriptors that are
open, and what the playback thread has done so far. -/
structure AgmFifoPlayer where
  isOpen : Bool := false
  fifoFd : Option Fd := none
  agmplayPid : Option Pid := none
  stallStartMs : Millis := 0
  lastRecoverMs : Millis := 0
  recovering : Bool := false
  sessionClosed : Bool := false
  pc : PlayPc := .idle
  watcher : WatcherPc := .stopped
  openFds : List Fd := []
  opened : Nat := 0
  spawned : Nat := 0
  /-- The descriptors of the writes so far. -/
  writes : List Fd := []
  recoverCalls : Nat := 0
  deriving DecidableEq, Repr

namespace AgmFifoPlayer

def enter (s : AgmFifoPlayer) (pc : PlayPc) : AgmFifoPlayer := { s with pc := pc }

/-- `wait_for_reader` has opened the FIFO. -/
def openFifo (s : AgmFifoPlayer) : AgmFifoPlayer :=
  { s with
    fifoFd := some s.opened
    openFds := s.opened :: s.openFds
    opened := s.opened + 1 }

def closeFifo (s : AgmFifoPlayer) : AgmFifoPlayer :=
  match s.fifoFd with
  | none => s
  | some fd => { s with fifoFd := none, openFds := s.openFds.erase fd }

/-- `close()`, which stops the mixer monitor first. -/
def closePlayer (s : AgmFifoPlayer) : AgmFifoPlayer :=
  { { s with watcher := .stopped, isOpen := false }.closeFifo with agmplayPid := none }

/-- `open`: `respawn_subprocess` from end to end, then the mixer monitor. -/
def openPlayer (s : AgmFifoPlayer) (os : Os) (watcherOk : Bool) : AgmFifoPlayer :=
  let s := if s.isOpen then s.closePlayer else s
  let s := { s with isOpen := true }
  if os.mkfifoOk && os.forkOk then
    let s := { s with agmplayPid := some s.spawned, spawned := s.spawned + 1 }
    if os.readerOk then
      { s.openFifo with watcher := if watcherOk then .watching else .stopped }
    else s.closePlayer
  else s.closePlayer

/-! ## `write_frames` -/

/-- `write_frames` up to the end of its first section under the lock. -/
def writeFrames (s : AgmFifoPlayer) (numFrames : Nat) : AgmFifoPlayer :=
  if numFrames = 0 then s
  else if s.isOpen = false ∨ s.fifoFd = none then s
  else if s.recovering then s
  else s.enter (.exchange (numFrames * 2))

/-- One round of the loop of `write_frames`. -/
def writeSome (s : AgmFifoPlayer) (os : Os) (bytes written : Nat) : AgmFifoPlayer :=
  match s.isOpen, s.fifoFd with
  | true, some fd =>
      let s := { s with writes := s.writes ++ [fd] }
      match os.write with
      | .wrote 0 | .failed => s.enter .recover
      | .interrupted => s.enter (.writing bytes written)
      | .full => s.enter (.stalled bytes written)
      | .wrote taken =>
          let total := written + min taken (bytes - written)
          { s with stallStartMs := 0 }.enter
            (if total < bytes then .writing bytes total else .idle)
  | _, _ => s.enter .idle

/-- A FIFO that stays full for long is taken for stalled. -/
def waitForRoom (s : AgmFifoPlayer) (os : Os) (bytes written : Nat) : AgmFifoPlayer :=
  let start := if s.stallStartMs = 0 then os.nowMs else s.stallStartMs
  { s with stallStartMs := start }.enter
    (if (os.laterMs - start).toNat ≥ kStallTriggerMs then .recover
    else .writing bytes written)

/-! ## `recover` -/

/-- `recover` returns, and `write_frames` with it. -/
def leaveRecover (s : AgmFifoPlayer) : AgmFifoPlayer :=
  { s with recovering := false }.enter .idle

def recoverEntry (s : AgmFifoPlayer) : AgmFifoPlayer :=
  let s := { s with recoverCalls := s.recoverCalls + 1 }
  if s.recovering then s.enter .idle else { s with recovering := true }.enter .rateLimit

def recoverRateLimit (s : AgmFifoPlayer) (os : Os) : AgmFifoPlayer :=
  if (os.nowMs - s.lastRecoverMs).toNat < kMinRecoverIntervalMs then s.leaveRecover
  else { s with lastRecoverMs := os.nowMs }.enter .teardown

def recoverTeardown (s : AgmFifoPlayer) : AgmFifoPlayer :=
  if s.isOpen then { s.closeFifo with agmplayPid := none }.enter .clearFlag
  else s.leaveRecover

/-- `respawn_subprocess` makes the FIFO and forks. -/
def respawnSpawn (s : AgmFifoPlayer) (os : Os) : AgmFifoPlayer :=
  if os.mkfifoOk && os.forkOk then
    { s with spawned := s.spawned + 1 }.enter (.adopt s.spawned)
  else s.leaveRecover

/-- The locked section of `respawn_subprocess`: a player that has been closed kills the
child. -/
def respawnAdopt (s : AgmFifoPlayer) (pid : Pid) : AgmFifoPlayer :=
  if s.isOpen then { s with agmplayPid := some pid }.enter .waitReader else s.leaveRecover

def respawnWaitReader (s : AgmFifoPlayer) (os : Os) : AgmFifoPlayer :=
  if os.readerOk then s.openFifo.enter .recovered else s.leaveRecover

/-- One step of the playback thread inside `write_frames`. -/
def playStep (s : AgmFifoPlayer) (os : Os) : Option AgmFifoPlayer :=
  match s.pc with
  | .idle => none
  | .exchange bytes =>
      some
        ({ s with sessionClosed := false }.enter
          (if s.sessionClosed then .recover else .writing bytes 0))
  | .writing bytes written => some (s.writeSome os bytes written)
  | .stalled bytes written => some (s.waitForRoom os bytes written)
  | .recover => some s.recoverEntry
  | .rateLimit => some (s.recoverRateLimit os)
  | .teardown => some s.recoverTeardown
  | .clearFlag => some ({ s with sessionClosed := false }.enter .spawn)
  | .spawn => some (s.respawnSpawn os)
  | .adopt pid => some (s.respawnAdopt pid)
  | .waitReader => some (s.respawnWaitReader os)
  | .recovered => some { s with stallStartMs := 0 }.leaveRecover

/-! ## The threads together -/

/-- One step of the mixer monitor, which ends when `logcat` does. -/
def watchStep (s : AgmFifoPlayer) (nowMs : Millis) (routingIntact logcatExited : Bool) :
    Option AgmFifoPlayer :=
  match s.watcher with
  | .stopped => none
  | .watching =>
      if logcatExited then some { s with watcher := .stopped }
      else if s.lastRecoverMs ≠ 0 ∧
          (nowMs - s.lastRecoverMs).toNat < kSessionCloseWindowMs then some s
      else if s.isOpen && !s.recovering && !routingIntact then
        some { s with watcher := .flagging }
      else some s
  | .flagging => some { s with sessionClosed := true, watcher := .watching }

inductive Action where
  | open (os : Os) (watcherOk : Bool)
  | writeFrames (numFrames : Nat)
  | play (os : Os)
  | watch (nowMs : Millis) (routingIntact logcatExited : Bool)
  | close
  deriving DecidableEq, Repr

/-- `open` comes before and after the calls of the playback thread, and `close()` waits
for the mixer monitor. -/
def step (s : AgmFifoPlayer) : Action → Option AgmFifoPlayer
  | .open os watcherOk =>
      if s.pc = .idle ∧ s.watcher ≠ .flagging then some (s.openPlayer os watcherOk) else none
  | .writeFrames numFrames => if s.pc = .idle then some (s.writeFrames numFrames) else none
  | .play os => s.playStep os
  | .watch nowMs routingIntact logcatExited => s.watchStep nowMs routingIntact logcatExited
  | .close => if s.watcher = .flagging then none else some s.closePlayer

end AgmFifoPlayer

end AudioRouter
