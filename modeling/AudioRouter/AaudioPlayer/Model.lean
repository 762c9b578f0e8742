import AudioRouter.AudioTypes
import AudioRouter.Lib.Transition

/-!
# The AAudio player

The pump thread of `AaudioFifoPlayer` (`client/aaudio_player.cpp`) and `close()`.
The pump reads the FIFO and writes to an AAudio stream; each of its locked sections,
and each stretch of code between two of them, is one step.  Every stream that is
opened gets a handle of its own.  What the FIFO holds is left out: `poll` and `read`
return what they are given.
-/

namespace AudioRouter

namespace AaudioFifoPlayer

/-- `get_time_ms()`. -/
abbrev Millis := BitVec 64

def kMinRebuildIntervalMs : Nat := 1000
def kStallRebuildThreshold : Nat := 20
def kMaxStallRebuilds : Nat := 3
def kNeverRenderThresholdMs : Nat := 1500

/-- `AAUDIO_ERROR_DISCONNECTED` -/
def errorDisconnected : Int := -899

/-- An `AAudioStream*`: the number of streams opened before it. -/
abbrev Handle := Nat

inductive StreamState where
  | starting
  | started
  | disconnected
  | other
  deriving DecidableEq, Repr

/-- A function of the AAudio library that takes a stream. -/
inductive StreamCall where
  | write
  | getState
  | getFramesWritten
  | getFramesRead
  | getSampleRate
  | getChannelCount
  | requestStart
  | close
  deriving DecidableEq, Repr

/-- A call that the pump made: the handle that it passed, and `stream_` at the time. -/
structure Use where
  call : StreamCall
  given : Handle
  stored : Option Handle
  deriving DecidableEq, Repr

/-- What `poll` on the FIFO says. -/
inductive PollResult where
  | readable
  | nothing
  | interrupted
  | failed
  deriving DecidableEq, Repr

/-- What the system and the AAudio library return at a step of the pump. -/
structure Hal where
  poll : PollResult := .readable
  bytesRead : Int := 0
  nowMs : Millis := 0
  /-- The first and the second state query. -/
  state : StreamState := .started
  stateAfter : StreamState := .started
  builderOk : Bool := true
  openOk : Bool := true
  openedMs : Millis := 0
  /-- What `AAudioStream_write` returns: frames, or a negative error. -/
  write : Int := 0
  framesWritten : Int := 0
  framesRead : Int := 0
  deriving DecidableEq, Repr

/-- Where `pump_loop` stands. -/
inductive PumpPc where
  | begin
  | check
  | poll
  | read
  | resolve (frames : Nat)
  | write (stream : Handle) (frames : Nat)
  | report (stream : Handle) (result : Int)
  | failed (stream : Handle) (disconnected : Bool) (nowMs : Millis)
  | succeeded (stream : Handle)
  | returned
  deriving DecidableEq, Repr

/-- Where `close()` stands. -/
inductive ClosePc where
  | notCalled
  | closeStream
  | join
  | closed
  deriving DecidableEq, Repr

end AaudioFifoPlayer

open AaudioFifoPlayer

/-- The members of `AaudioFifoPlayer` that the pump uses, its locals, and the calls
that it has made. -/
structure AaudioFifoPlayer where
  config : AudioConfig
  stream : Option Handle := none
  stopPump : Bool := false
  isOpen : Bool := false
  framesInFlight : Int := 0
  lastRebuildMs : Millis := 0
  lastWriteWarnMs : Millis := 0
  consecutiveWriteFailures : Nat := 0
  stallRebuilds : Nat := 0
  deepRetry : Bool := false
  streamOpenedMs : Millis := 0
  pc : PumpPc := .begin
  residual : Nat := 0
  closePc : ClosePc := .notCalled
  /-- The number of streams opened so far. -/
  opened : Nat := 0
  uses : List Use := []
  deriving DecidableEq, Repr

namespace AaudioFifoPlayer

/-- The configuration that `open` makes of the negotiated one. -/
def openConfig (config : AudioConfig) : AudioConfig :=
  { config with
    sampleRate := if config.sampleRate = 0 then 48000 else config.sampleRate
    channels := if config.channels = 0 then 2 else config.channels }

/-- What a successful `open` leaves behind when it has started the pump. -/
def openedPlayer (config : AudioConfig) (openedMs : Millis) : AaudioFifoPlayer :=
  { config := openConfig config
    stream := some 0
    opened := 1
    isOpen := true
    streamOpenedMs := openedMs }

def chunkFrames (s : AaudioFifoPlayer) : Nat :=
  if s.config.sampleRate / 50 > 0 then s.config.sampleRate / 50 else 1

/-- `buffer.size()` in `pump_loop`. -/
def bufferSize (s : AaudioFifoPlayer) : Nat := s.chunkFrames * s.config.bytesPerFrame

/-- The pump passes a handle to the library. -/
def use (s : AaudioFifoPlayer) (call : StreamCall) (given : Handle) : AaudioFifoPlayer :=
  { s with uses := s.uses ++ [⟨call, given, s.stream⟩] }

def enter (s : AaudioFifoPlayer) (pc : PumpPc) : AaudioFifoPlayer := { s with pc := pc }

/-- `now_ms - last_rebuild_ms_ >= kMinRebuildIntervalMs`. -/
def mayRebuild (s : AaudioFifoPlayer) (nowMs : Millis) : Bool :=
  decide ((nowMs - s.lastRebuildMs).toNat ≥ kMinRebuildIntervalMs)

def closeStream (s : AaudioFifoPlayer) : AaudioFifoPlayer :=
  match s.stream with
  | none => s
  | some stream => { s.use .close stream with stream := none }

/-- The builder gives a stream, which is started and described in the log. -/
def openStream (s : AaudioFifoPlayer) (openedMs : Millis) : AaudioFifoPlayer :=
  let stream := s.opened
  let s := { s with stream := some stream, opened := s.opened + 1 }
  { ((s.use .requestStart stream).use .getSampleRate stream).use .getChannelCount stream with
    streamOpenedMs := openedMs }

/-- `rebuild_stream_locked`. -/
def rebuildStreamLocked (s : AaudioFifoPlayer) (hal : Hal) : AaudioFifoPlayer :=
  let s := { s.closeStream with framesInFlight := 0, consecutiveWriteFailures := 0 }
  if hal.builderOk && hal.openOk then s.openStream hal.openedMs else s

/-- `ensure_stream_started_locked` on the stream that it finds. -/
def ensureStreamStartedLocked (s : AaudioFifoPlayer) (hal : Hal) (stream : Handle) :
    AaudioFifoPlayer × Bool :=
  let s := s.use .getState stream
  if hal.state = .disconnected then
    let s :=
      if s.mayRebuild hal.nowMs then
        { s with lastRebuildMs := hal.nowMs }.rebuildStreamLocked hal
      else s
    (s, s.stream.isSome)
  else if hal.state ≠ .started ∧ hal.state ≠ .starting then
    (s.use .requestStart stream, true)
  else (s, true)

/-- The locked section before a write.  The handle is copied before the stream is
checked. -/
def resolve (s : AaudioFifoPlayer) (hal : Hal) (frames : Nat) : AaudioFifoPlayer :=
  match s.stream with
  | none => s.enter .returned
  | some stream =>
      match s.ensureStreamStartedLocked hal stream with
      | (s, true) => s.enter (.write stream frames)
      | (s, false) => s.enter .check

/-- A write that failed or was partial, up to the lock: the warning, and whether the
stream is disconnected. -/
def report (s : AaudioFifoPlayer) (hal : Hal) (stream : Handle) (result : Int) :
    AaudioFifoPlayer :=
  let s := { s with consecutiveWriteFailures := s.consecutiveWriteFailures + 1 }
  let s :=
    if (hal.nowMs - s.lastWriteWarnMs).toNat ≥ 5000 then
      (({ s with lastWriteWarnMs := hal.nowMs }.use .getState stream).use
        .getFramesWritten stream).use .getFramesRead stream
    else s
  if result = errorDisconnected then s.enter (.failed stream true hal.nowMs)
  else
    (s.use .getState stream).enter
      (.failed stream (decide (hal.stateAfter = .disconnected)) hal.nowMs)

/-- A stream that has not played a frame for long is taken for stalled. -/
def escalate (s : AaudioFifoPlayer) (hal : Hal) (stream : Handle) (nowMs : Millis) :
    AaudioFifoPlayer :=
  let s := s.use .getFramesRead stream
  if hal.framesRead = 0 ∧ (nowMs - s.streamOpenedMs).toNat ≥ kNeverRenderThresholdMs then
    { s with
      deepRetry := true
      consecutiveWriteFailures := max s.consecutiveWriteFailures kStallRebuildThreshold }
  else s

/-- The branch of a persistent stall, once the interval is over. -/
def rebuildStalled (s : AaudioFifoPlayer) (hal : Hal) (nowMs : Millis) : AaudioFifoPlayer :=
  let s := { s with lastRebuildMs := nowMs, stallRebuilds := s.stallRebuilds + 1 }
  let s := { s with deepRetry := s.deepRetry || decide (s.stallRebuilds > 1) }
  if s.stallRebuilds > kMaxStallRebuilds then
    -- gives up on AAudio
    { s.closeStream with framesInFlight := 0, isOpen := false }.enter .returned
  else (s.rebuildStreamLocked hal).enter .check

/-- The locked section behind a failed write. -/
def recoverStream (s : AaudioFifoPlayer) (hal : Hal) (stream : Handle)
    (disconnected : Bool) (nowMs : Millis) : AaudioFifoPlayer :=
  match s.stream with
  | none => s.enter .returned
  | some _ =>
      if disconnected then
        if s.mayRebuild nowMs then
          ({ s with lastRebuildMs := nowMs }.rebuildStreamLocked hal).enter .check
        else s.enter .check
      else
        let s := s.escalate hal stream nowMs
        if s.consecutiveWriteFailures ≥ kStallRebuildThreshold then
          if s.mayRebuild nowMs then s.rebuildStalled hal nowMs else s.enter .check
        else (s.use .requestStart stream).enter .check

/-- The locked section behind a full write. -/
def publish (s : AaudioFifoPlayer) (hal : Hal) (stream : Handle) : AaudioFifoPlayer :=
  let s := { s with consecutiveWriteFailures := 0 }
  match s.stream with
  | none => s.enter .returned
  | some _ =>
      let s := (s.use .getFramesWritten stream).use .getFramesRead stream
      { s with framesInFlight := hal.framesWritten - hal.framesRead }.enter .check

/-- What `read` has returned, cut into frames.  `read` returns no more than it was
asked for. -/
def takeBytes (s : AaudioFifoPlayer) (bytesRead : Int) : AaudioFifoPlayer :=
  if bytesRead ≤ 0 then s.enter .check
  else
    let total := s.residual + min bytesRead.toNat (s.bufferSize - s.residual)
    let frames := total / s.config.bytesPerFrame
    { s with residual := total % s.config.bytesPerFrame }.enter
      (if frames > 0 then .resolve frames else .check)

/-- One step of `pump_loop`. -/
def pumpStep (s : AaudioFifoPlayer) (hal : Hal) : Option AaudioFifoPlayer :=
  match s.pc with
  | .begin => some (s.enter (if s.config.bytesPerFrame = 0 then .returned else .check))
  | .check => some (s.enter (if s.stopPump then .returned else .poll))
  | .poll =>
      some
        (s.enter
          (match hal.poll with
          | .readable => .read
          | .nothing | .interrupted => .check
          | .failed => .returned))
  | .read => some (s.takeBytes hal.bytesRead)
  | .resolve frames => some (s.resolve hal frames)
  | .write stream frames =>
      let s := s.use .write stream
      some
        (s.enter
          (if hal.write < 0 ∨ hal.write < frames then .report stream hal.write
          else .succeeded stream))
  | .report stream result => some (s.report hal stream result)
  | .failed stream disconnected nowMs =>
      some (s.recoverStream hal stream disconnected nowMs)
  | .succeeded stream => some (s.publish hal stream)
  | .returned => none

/-- One step of `close()`, which waits for the pump before it closes the FIFO. -/
def closeStep (s : AaudioFifoPlayer) : Option AaudioFifoPlayer :=
  match s.closePc with
  | .notCalled => some { s with stopPump := true, closePc := .closeStream }
  | .closeStream => some { s with stream := none, closePc := .join }
  | .join =>
      if s.pc = .returned then
        some { s with framesInFlight := 0, isOpen := false, closePc := .closed }
      else none
  | .closed => none

inductive Action where
  | pump (hal : Hal)
  | close
  deriving DecidableEq, Repr

def step (s : AaudioFifoPlayer) : Action → Option AaudioFifoPlayer
  | .pump hal => s.pumpStep hal
  | .close => s.closeStep

end AaudioFifoPlayer

end AudioRouter
