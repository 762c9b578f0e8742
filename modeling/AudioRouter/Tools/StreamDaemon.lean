import AudioRouter.AaudioPlayer.Frames

/-!
# The stream daemon

`main` of `tools/stream_daemon.cpp` from the first turn of its loop on: one turn reads
the FIFO and hands the frames that are complete to `AAudioStream_write`.  It is the loop
that the pump of `AaudioFifoPlayer` was made from, in one thread and without a drain, and
it leaves its body early in the same way.
-/

namespace AudioRouter

namespace StreamDaemon

open Transition FrameCutter

def kChannels : Nat := 2
def kBufferFrames : Nat := 960
def kBytesPerFrame : Nat := kChannels * 2
def kMinRebuildIntervalNs : Int := 1000000000

/-- `sizeof(buffer)`. -/
def sizeofBuffer : Nat := kBufferFrames * kBytesPerFrame

inductive PollResult where
  | readable
  | nothing
  | interrupted
  | failed
  deriving DecidableEq, Repr

inductive StreamState where
  | disconnected
  | other
  deriving DecidableEq, Repr

/-- What the system and the AAudio library return in a turn of the loop. -/
structure Hal where
  /-- `g_stop`, set by a signal. -/
  stop : Bool := false
  poll : PollResult := .readable
  bytesRead : Int := 0
  nowNs : Int := 0
  /-- Whether `open_stream` gets a stream. -/
  openOk : Bool := true
  state : StreamState := .other
  framesWritten : Int := 0
  deriving DecidableEq, Repr

end StreamDaemon

open StreamDaemon FrameCutter in
/-- The locals of `main` that its loop uses, the FIFO, and what was passed to
`AAudioStream_write`. -/
structure StreamDaemon where
  running : Bool := true
  /-- `handle.stream != nullptr` -/
  hasStream : Bool := true
  lastRebuildNs : Int := 0
  residual : Nat := 0
  zeroWriteCount : Nat := 0
  cutter : Cutter UInt8
  deriving DecidableEq

namespace StreamDaemon

open Transition FrameCutter

/-- The daemon has opened its stream; the buffer is not initialised. -/
def start (buffer : Frame UInt8 sizeofBuffer) (frames : List (Frame UInt8 kBytesPerFrame)) :
    StreamDaemon :=
  { cutter := { buffer := buffer.val, rest := stream frames } }

/-- What a `read` puts into the buffer. -/
def readBytes (d : StreamDaemon) (hal : Hal) : Nat :=
  min hal.bytesRead.toNat (sizeofBuffer - d.residual)

/-- `framesAvailable` behind the read. -/
def framesAvailable (d : StreamDaemon) (hal : Hal) : Nat :=
  (d.residual + d.readBytes hal) / kBytesPerFrame

/-- The read, and the number of bytes behind the last complete frame. -/
def readFifo (d : StreamDaemon) (hal : Hal) : StreamDaemon :=
  { d with
    cutter := d.cutter.read d.residual (d.readBytes hal)
    residual := (d.residual + d.readBytes hal) % kBytesPerFrame }

/-- `open_stream`, at most once in an interval. -/
def reopen (d : StreamDaemon) (hal : Hal) : StreamDaemon :=
  if hal.nowNs - d.lastRebuildNs ≥ kMinRebuildIntervalNs then
    { d with lastRebuildNs := hal.nowNs, hasStream := hal.openOk }
  else d

/-- `AAudioStream_write`.  The requests to start the stream before and behind it change
nothing here. -/
def write (d : StreamDaemon) (hal : Hal) (frames : Nat) : StreamDaemon :=
  let d := { d with cutter := d.cutter.hand kBytesPerFrame frames }
  if hal.framesWritten < 0 then d
  else if hal.framesWritten = 0 then { d with zeroWriteCount := d.zeroWriteCount + 1 }
  else { d with zeroWriteCount := 0 }

/-- The end of the loop body. -/
def keepResidual (d : StreamDaemon) (frames : Nat) : StreamDaemon :=
  if d.residual > 0 then
    { d with cutter := d.cutter.move (frames * kBytesPerFrame) d.residual }
  else d

/-- One turn of the loop. -/
def turn (d : StreamDaemon) (hal : Hal) : Option StreamDaemon :=
  if !d.running then none
  else if hal.stop then some { d with running := false }
  else
    match hal.poll with
    | .failed => some { d with running := false }
    | .nothing | .interrupted => some d
    | .readable =>
        if hal.bytesRead ≤ 0 then some d
        else if d.readBytes hal ≤ d.cutter.rest.length then
          let frames := d.framesAvailable hal
          let d := d.readFifo hal
          if frames > 0 then
            if !d.hasStream || decide (hal.state = .disconnected) then some (d.reopen hal)
            else some ((d.write hal frames).keepResidual frames)
          else some (d.keepResidual frames)
        else none

/-- Whether a turn leaves the loop body by a `continue` with frames in the buffer. -/
def continues (d : StreamDaemon) (hal : Hal) : Bool :=
  decide (hal.poll = .readable ∧ 0 < hal.bytesRead ∧ 0 < d.framesAvailable hal) &&
    (!d.hasStream || decide (hal.state = .disconnected))

/-- Nothing is carried where the body is left early. -/
def KeepsFrames (d : StreamDaemon) (hal : Hal) : Prop :=
  d.continues hal = true → (d.residual + d.readBytes hal) % kBytesPerFrame = 0

instance (d : StreamDaemon) (hal : Hal) : Decidable (d.KeepsFrames hal) :=
  inferInstanceAs (Decidable (_ → _))

/-! ## The frames in the buffer -/

/-- The carried bytes and the FIFO are the frames not handed on yet. -/
structure Framed (frames : List (Frame UInt8 kBytesPerFrame)) (d : StreamDaemon) : Prop where
  capacity : d.cutter.buffer.length = sizeofBuffer
  carries : ∃ done, Carries frames done done d.residual d.cutter

section

variable {frames : List (Frame UInt8 kBytesPerFrame)} {d e : StreamDaemon} {hal : Hal}

theorem start_framed (buffer : Frame UInt8 sizeofBuffer)
    (frames : List (Frame UInt8 kBytesPerFrame)) : Framed frames (start buffer frames) :=
  ⟨buffer.property, 0, List.nil_sublist _, Nat.zero_le _, rfl⟩

@[simp]
theorem reopen_residual : (d.reopen hal).residual = d.residual := by
  unfold reopen
  split <;> rfl

@[simp]
theorem reopen_cutter : (d.reopen hal).cutter = d.cutter := by
  unfold reopen
  split <;> rfl

@[simp]
theorem write_residual (count : Nat) : (d.write hal count).residual = d.residual := by
  unfold write
  dsimp only
  split_ifs <;> rfl

@[simp]
theorem write_cutter (count : Nat) :
    (d.write hal count).cutter = d.cutter.hand kBytesPerFrame count := by
  unfold write
  dsimp only
  split_ifs <;> rfl

/-- Behind a read the buffer starts with the complete frames and the carried bytes. -/
theorem Framed.readFifo (framed : d.Framed frames)
    (enough : d.readBytes hal ≤ d.cutter.rest.length) :
    (d.readFifo hal).cutter.buffer.length = sizeofBuffer ∧
      ∃ done, Carries frames done done
        (d.framesAvailable hal * kBytesPerFrame + (d.readFifo hal).residual)
          (d.readFifo hal).cutter := by
  rcases framed with ⟨capacity, done, carries⟩
  have fits : d.residual + d.readBytes hal ≤ d.cutter.buffer.length := by
    have before := carries.fits
    unfold readBytes
    omega
  have next := carries.read fits enough
  have whole := Nat.div_add_mod' (d.residual + d.readBytes hal) kBytesPerFrame
  rw [← whole] at next
  exact ⟨(Cutter.length_read fits enough).trans capacity, done, next⟩

/-- The end of the loop body, behind the frames that were handed on. -/
theorem Framed.keepResidual (done : Nat) {count : Nat}
    (capacity : d.cutter.buffer.length = sizeofBuffer)
    (carries :
      Carries frames (done + count) done (count * kBytesPerFrame + d.residual) d.cutter) :
    (d.keepResidual count).Framed frames := by
  unfold StreamDaemon.keepResidual
  split
  · exact ⟨(Cutter.length_move carries.fits).trans capacity, done + count, carries.move⟩
  · next uncarried =>
    have none := Nat.eq_zero_of_not_pos uncarried
    rw [none] at carries
    refine ⟨capacity, done + count, ?_⟩
    rw [none]
    exact carries.leave

theorem Framed.turn (framed : d.Framed frames) (keeps : d.KeepsFrames hal)
    (turned : d.turn hal = some e) : e.Framed frames := by
  unfold StreamDaemon.turn at turned
  split at turned
  · cases turned
  split at turned
  · cases turned
    exact ⟨framed.capacity, framed.carries⟩
  cases polled : hal.poll with
  | failed =>
    rw [polled] at turned
    cases turned
    exact ⟨framed.capacity, framed.carries⟩
  | nothing | interrupted =>
    rw [polled] at turned
    cases turned
    exact framed
  | readable =>
    rw [polled] at turned
    dsimp only at turned
    split at turned
    · cases turned
      exact framed
    split at turned
    · next data enough =>
      rcases framed.readFifo enough with ⟨capacity, done, carries⟩
      split at turned
      · next some =>
        split at turned
        · next early =>
          cases turned
          have uncarried : (d.readFifo hal).residual = 0 := by
            apply keeps
            unfold continues
            rw [Bool.and_eq_true, decide_eq_true_eq]
            exact ⟨⟨polled, by omega, some⟩, early⟩
          rw [uncarried] at carries
          refine ⟨by rwa [reopen_cutter], done + d.framesAvailable hal, ?_⟩
          rw [reopen_cutter, reopen_residual, uncarried]
          exact carries.leave.mono (Nat.le_add_right _ _)
        · cases turned
          have handed := carries.hand (by decide)
          refine Framed.keepResidual done ?_ ?_
          · rwa [write_cutter]
          · rwa [write_cutter, write_residual]
      · next noFrames =>
        cases turned
        have none := Nat.eq_zero_of_not_pos noFrames
        rw [none] at carries ⊢
        exact Framed.keepResidual done capacity carries
    · cases turned

/-- What the daemon hands to AAudio are frames that were written, as long as it carries
nothing where it leaves the loop body early. -/
theorem daemon_hands_frames (buffer : Frame UInt8 sizeofBuffer)
    (frames : List (Frame UInt8 kBytesPerFrame)) (hals : List Hal)
    (keeps : EveryStep turn KeepsFrames (start buffer frames) hals)
    (reached : run turn (start buffer frames) hals = some d) :
    d.cutter.handed.Sublist (frames.map (·.val)) := by
  have framed : d.Framed frames :=
    run_invariant (fun _ _ _ framed keeps turned => Framed.turn framed keeps turned) hals
      (start_framed buffer frames) keeps reached
  rcases framed.carries with ⟨_, carries⟩
  exact carries.sublist

end

/-! ## Both loops -/

/-- In the runs of the pump with a stream of frames, what it hands to AAudio are frames of
the stream. -/
def PumpHandsFrames (good : AaudioFifoPlayer.Pumped → AaudioFifoPlayer.PumpAction → Prop)
    (config : AudioConfig) (openedMs : AaudioFifoPlayer.Millis)
    (frames : List (Frame UInt8 (AaudioFifoPlayer.openConfig config).bytesPerFrame)) : Prop :=
  ∀ (actions : List AaudioFifoPlayer.PumpAction) (p : AaudioFifoPlayer.Pumped),
    EveryStep AaudioFifoPlayer.Pumped.step good (.start config openedMs frames) actions →
      run AaudioFifoPlayer.Pumped.step (.start config openedMs frames) actions = some p →
        p.cutter.handed.Sublist (frames.map (·.val))

/-- The same for the daemon. -/
def DaemonHandsFrames (good : StreamDaemon → Hal → Prop)
    (buffer : Frame UInt8 sizeofBuffer) (frames : List (Frame UInt8 kBytesPerFrame)) : Prop :=
  ∀ (hals : List Hal) (d : StreamDaemon),
    EveryStep turn good (start buffer frames) hals →
      run turn (start buffer frames) hals = some d →
        d.cutter.handed.Sublist (frames.map (·.val))

/-- Both loops hand on whole frames of any stream, in order, in every run that carries
nothing where it leaves a loop body early and drains whole frames only. -/
theorem loops_hand_whole_frames (config : AudioConfig) (openedMs : AaudioFifoPlayer.Millis)
    (pumped : List (Frame UInt8 (AaudioFifoPlayer.openConfig config).bytesPerFrame))
    (buffer : Frame UInt8 sizeofBuffer) (frames : List (Frame UInt8 kBytesPerFrame)) :
    PumpHandsFrames AaudioFifoPlayer.Pumped.KeepsFrames config openedMs pumped ∧
      DaemonHandsFrames KeepsFrames buffer frames := by
  constructor
  · intro actions p keeps reached
    exact AaudioFifoPlayer.Pumped.pump_hands_frames config openedMs pumped actions keeps reached
  · intro hals d keeps reached
    exact daemon_hands_frames buffer frames hals keeps reached

section TornFrame

/-- Three stereo frames. -/
def threeFrames : List (Frame UInt8 kBytesPerFrame) :=
  [⟨[1, 2, 3, 4], rfl⟩, ⟨[5, 6, 7, 8], rfl⟩, ⟨[9, 10, 11, 12], rfl⟩]

/-- The pump reads a frame and a half and writes, which returns `result` and takes
`recovery` more steps; then it reads the rest and writes again. -/
def pumpTurns (result : Int) (recovery : Nat) : List AaudioFifoPlayer.PumpAction :=
  let hal : AaudioFifoPlayer.Hal := {}
  let hals :=
    [hal, hal, hal, { bytesRead := 6 }, hal, { write := result }] ++
      List.replicate recovery hal ++ [hal, hal, { bytesRead := 6 }, hal, { write := 2 }]
  hals.map fun hal => .pump hal 0 0

def pumped (actions : List AaudioFifoPlayer.PumpAction) : AaudioFifoPlayer.Pumped :=
  (run AaudioFifoPlayer.Pumped.step (.start {} 0 threeFrames) actions).getD
    (.start {} 0 threeFrames)

def emptyBuffer : Frame UInt8 sizeofBuffer :=
  ⟨List.replicate sizeofBuffer 0, List.length_replicate⟩

/-- The daemon reads a frame and a half and finds the stream in a state, and then reads
the rest. -/
def daemonTurns (state : StreamState) : List Hal :=
  [{ bytesRead := 6, state := state, nowNs := 2000000000 }, { bytesRead := 6 }]

def daemonAfter (hals : List Hal) : StreamDaemon :=
  (run turn (start emptyBuffer threeFrames) hals).getD (start emptyBuffer threeFrames)

/-- The carried half of a frame gets its other half. -/
theorem loops_hand_three_frames :
    (pumped (pumpTurns 1 1)).cutter.handed = [[1, 2, 3, 4], [5, 6, 7, 8], [9, 10, 11, 12]] ∧
      (pumped (pumpTurns 1 1)).cutter.handed.Sublist (threeFrames.map (·.val)) ∧
        (daemonAfter (daemonTurns .other)).cutter.handed.Sublist (threeFrames.map (·.val)) := by
  have whole := loops_hand_whole_frames {} 0 threeFrames emptyBuffer threeFrames
  refine ⟨by decide +kernel, ?_, ?_⟩
  · exact
      whole.1 (pumpTurns 1 1) _ (by decide +kernel) (run_eq_some_getD (by decide +kernel))
  · exact
      whole.2 (daemonTurns .other) _ (by decide +kernel) (run_eq_some_getD (by decide +kernel))

/-- A write that fails, or a stream that is rebuilt, behind a read of a frame and a half:
the next frame begins with the bytes of the first and ends with those of the second. -/
theorem loops_tear_a_frame :
    ¬ PumpHandsFrames (fun _ _ => True) {} 0 threeFrames ∧
      ¬ DaemonHandsFrames (fun _ _ => True) emptyBuffer threeFrames := by
  constructor
  · intro claim
    have whole :=
      claim (pumpTurns (-1) 2) (pumped (pumpTurns (-1) 2))
        (everyStep_of_mem _ _ fun _ _ _ => trivial) (run_eq_some_getD (by decide +kernel))
    have torn : (pumped (pumpTurns (-1) 2)).cutter.handed =
        [[1, 2, 3, 4], [1, 2, 7, 8], [9, 10, 11, 12]] := by decide +kernel
    rw [torn] at whole
    exact absurd whole (by decide)
  · intro claim
    have whole :=
      claim (daemonTurns .disconnected) (daemonAfter (daemonTurns .disconnected))
        (everyStep_of_mem _ _ fun _ _ _ => trivial) (run_eq_some_getD (by decide +kernel))
    have torn : (daemonAfter (daemonTurns .disconnected)).cutter.handed =
        [[1, 2, 7, 8], [9, 10, 11, 12]] := by decide +kernel
    rw [torn] at whole
    exact absurd whole (by decide)

end TornFrame

end StreamDaemon

end AudioRouter
