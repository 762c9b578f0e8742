import AudioRouter.AudioTypes
import AudioRouter.Lib.Transition
import Mathlib.Data.List.Chain
import Mathlib.Logic.Function.Basic
import Mathlib.Tactic.Common

/-!
# The connection of the PulseAudio player

`open`, `write_frames` and `close` of `PulsePlayer` (`client/pulse_player.cpp`), called by
any number of threads once the player is open.  The look at `is_open_` is one step, the
section under `mutex_` another.  A connection is the number of connections made before it;
what is written to it, and which server answers, is left out.
-/

namespace AudioRouter

namespace PulsePlayer

/-- `get_time_ms()`. -/
abbrev Millis := BitVec 64

def kReconnectIntervalMs : Nat := 2000

def kErrorLogIntervalMs : Nat := 5000

def kWriteFailuresBeforeReconnect : Nat := 3

/-- Where a call stands. -/
inductive Call where
  | idle
  /-- In `write_frames`, past the look at `is_open_`. -/
  | writing (numFrames : Nat)
  /-- In `close`, past the exchange of `is_open_`. -/
  | closing
  deriving DecidableEq, Repr

/-- What libpulse answers in a locked section, and the clock at its end. -/
structure Daemon where
  /-- Whether `pa_simple_new` succeeds for one of the servers. -/
  connects : Bool := true
  writes : Bool := true
  laterMs : Millis := 0
  deriving DecidableEq, Repr

end PulsePlayer

open PulsePlayer

/-- The members of `PulsePlayer`, the calls, and what has been done with libpulse. -/
structure PulsePlayer where
  config : AudioConfig := {}
  stream : Option Nat := none
  isOpen : Bool := false
  lastReconnectMs : Millis := 0
  lastErrorLogMs : Millis := 0
  consecutiveWriteFailures : Nat := 0
  calls : Nat → Call := fun _ => .idle
  clock : Millis := 0
  /-- Connections made. -/
  made : Nat := 0
  /-- Connections freed. -/
  freed : List Nat := []
  /-- When `write_frames` tried to reconnect, the last time first. -/
  reconnects : List Millis := []
  /-- What `write_frames` has returned, the last result first. -/
  results : List Nat := []

namespace PulsePlayer

def setCall (p : PulsePlayer) (i : Nat) (call : Call) : PulsePlayer :=
  { p with calls := Function.update p.calls i call }

@[simp]
theorem setCall_self (p : PulsePlayer) (i : Nat) (call : Call) :
    (p.setCall i call).calls i = call := by
  simp only [setCall, Function.update_self]

theorem setCall_of_ne {i j : Nat} (other : j ≠ i) (p : PulsePlayer) (call : Call) :
    (p.setCall i call).calls j = p.calls j := by
  simp only [setCall, Function.update_of_ne other]

/-- Whether `to_pa_format` knows the format. -/
def hasPaFormat : AudioSampleFormat → Bool
  | .pcmS16le | .pcmFloat32le | .pcmS24le | .pcmS32le => true
  | .unknown | .unnamed _ => false

/-- `connect_locked`. -/
def connectLocked (p : PulsePlayer) (connects : Bool) : Option PulsePlayer :=
  if !hasPaFormat p.config.format then none
  else if p.config.sampleRate = 0 ∨ p.config.channels = 0 then none
  else if connects then some { p with stream := some p.made, made := p.made + 1 }
  else none

/-- `disconnect_locked`. -/
def disconnectLocked (p : PulsePlayer) : PulsePlayer :=
  match p.stream with
  | none => p
  | some s => { p with stream := none, freed := p.freed ++ [s] }

/-- What a failed write leaves behind before the count is looked at. -/
def countFailure (p : PulsePlayer) (nowMs : Millis) : PulsePlayer :=
  { p with
    consecutiveWriteFailures := p.consecutiveWriteFailures + 1
    lastErrorLogMs :=
      if (nowMs - p.lastErrorLogMs).toNat ≥ kErrorLogIntervalMs then nowMs
      else p.lastErrorLogMs }

/-- A broken connection is dropped, so that the next write rebuilds it. -/
def dropBroken (p : PulsePlayer) (nowMs : Millis) : PulsePlayer :=
  { p.disconnectLocked with consecutiveWriteFailures := 0, lastReconnectMs := nowMs }

/-- The write on a connection, and what becomes of a broken one. -/
def writeLocked (p : PulsePlayer) (numFrames : Nat) (d : Daemon) : Nat × PulsePlayer :=
  if d.writes then (numFrames, { p with consecutiveWriteFailures := 0 })
  else if (p.countFailure d.laterMs).consecutiveWriteFailures ≥ kWriteFailuresBeforeReconnect then
    (0, (p.countFailure d.laterMs).dropBroken d.laterMs)
  else (0, p.countFailure d.laterMs)

/-- Whether the interval since the last attempt is over. -/
def mayReconnect (p : PulsePlayer) : Bool :=
  decide ((p.clock - p.lastReconnectMs).toNat ≥ kReconnectIntervalMs)

/-- The attempt to reconnect is noted before it is made. -/
def noteReconnect (p : PulsePlayer) : PulsePlayer :=
  { p with lastReconnectMs := p.clock, reconnects := p.clock :: p.reconnects }

/-- The locked section of `write_frames`. -/
def writeSection (p : PulsePlayer) (numFrames : Nat) (d : Daemon) : Nat × PulsePlayer :=
  match p.stream with
  | some _ => p.writeLocked numFrames d
  | none =>
      if !p.mayReconnect then (0, p)
      else
        match p.noteReconnect.connectLocked d.connects with
        | none => (0, p.noteReconnect)
        | some q => writeLocked { q with consecutiveWriteFailures := 0 } numFrames d

/-- `write_frames` returns. -/
def finish (p : PulsePlayer) (result : Nat) (nowMs : Millis) : PulsePlayer :=
  { p with clock := nowMs, results := result :: p.results }

/-- `close`, while no other call is running. -/
def closeDevice (p : PulsePlayer) : PulsePlayer :=
  if p.isOpen then { p with isOpen := false }.disconnectLocked else p

/-- What `open` sets before it connects. -/
def configure (p : PulsePlayer) (config : AudioConfig) : PulsePlayer :=
  { p with config := config, consecutiveWriteFailures := 0 }

/-- `open`, while no other call is running. -/
def openDevice (p : PulsePlayer) (config : AudioConfig) (serverAvailable connects : Bool) :
    PulsePlayer :=
  let p := p.closeDevice.configure config
  if !serverAvailable then p
  else
    match p.connectLocked connects with
    | none => p
    | some q => { q with isOpen := true }

inductive Action where
  | tick (nowMs : Millis)
  | openDevice (config : AudioConfig) (serverAvailable connects : Bool)
  | callWrite (i : Nat) (hasData : Bool) (numFrames : Nat)
  | callClose (i : Nat)
  /-- The section under `mutex_` of the call that a thread is in. -/
  | section' (i : Nat) (daemon : Daemon)
  deriving DecidableEq, Repr

/-- The threads of a player; none of them is in a call while it is opened. -/
def step (threads : Nat) (p : PulsePlayer) : Action → Option PulsePlayer
  | .tick nowMs => if p.clock ≤ nowMs then some { p with clock := nowMs } else none
  | .openDevice config serverAvailable connects =>
      if ∀ i < threads, p.calls i = .idle then
        some (p.openDevice config serverAvailable connects)
      else none
  | .callWrite i hasData numFrames =>
      if i < threads ∧ p.calls i = .idle then
        if p.isOpen ∧ hasData ∧ numFrames ≠ 0 ∧ p.config.bytesPerFrame ≠ 0 then
          some (p.setCall i (.writing numFrames))
        else some { p with results := 0 :: p.results }
      else none
  | .callClose i =>
      if i < threads ∧ p.calls i = .idle then
        if p.isOpen then some ({ p with isOpen := false }.setCall i .closing)
        else some p
      else none
  | .section' i d =>
      if i < threads then
        match p.calls i with
        | .idle => none
        | .closing => some (p.disconnectLocked.setCall i .idle)
        | .writing numFrames =>
            if p.clock ≤ d.laterMs then
              some ((p.writeSection numFrames d).2.finish (p.writeSection numFrames d).1
                d.laterMs |>.setCall i .idle)
            else none
      else none

end PulsePlayer

end AudioRouter
