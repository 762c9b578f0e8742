import AudioRouter.AaudioPlayer.Handles
import AudioRouter.Lib.FrameCutter

/-!
# The frames that the pump hands to AAudio

`pump_loop` reads the FIFO in pieces of any length and carries the bytes of an
incomplete frame to the front of its buffer at the end of the loop body.  A `continue`
leaves the body before that, and `drain_fifo` throws away as many bytes as it finds.
-/

namespace AudioRouter

namespace AaudioFifoPlayer

open Transition FrameCutter

/-! ## The carried bytes and the place of the pump -/

/-- The size of a frame and the number of carried bytes are the same. -/
structure SameCut (s t : AaudioFifoPlayer) : Prop where
  config : t.config = s.config
  residual : t.residual = s.residual

section

variable {s t : AaudioFifoPlayer} {hal : Hal} {stream : Handle}

theorem SameCut.trans {u : AaudioFifoPlayer} (first : SameCut s t) (second : SameCut t u) :
    SameCut s u :=
  ⟨second.config.trans first.config, second.residual.trans first.residual⟩

theorem sameCut_enter (s : AaudioFifoPlayer) (pc : PumpPc) : SameCut s (s.enter pc) :=
  ⟨rfl, rfl⟩

theorem sameCut_use (s : AaudioFifoPlayer) (call : StreamCall) (given : Handle) (pc : PumpPc) :
    SameCut s ((s.use call given).enter pc) :=
  ⟨rfl, rfl⟩

theorem sameCut_closeStream (s : AaudioFifoPlayer) : SameCut s s.closeStream := by
  rw [closeStream]
  split <;> constructor <;> rfl

theorem sameCut_rebuild (s : AaudioFifoPlayer) (hal : Hal) :
    SameCut s (s.rebuildStreamLocked hal) := by
  rcases sameCut_closeStream s with ⟨config, residual⟩
  rw [rebuildStreamLocked]
  split <;> exact ⟨config, residual⟩

theorem Ensured.sameCut {result : AaudioFifoPlayer × Bool}
    (outcome : Ensured s hal stream result) : SameCut s result.1 := by
  cases outcome with
  | rebuilds _ _ =>
    rcases sameCut_rebuild { s.use .getState stream with lastRebuildMs := hal.nowMs } hal with
      ⟨config, residual⟩
    exact ⟨config, residual⟩
  | waits _ | restarts _ | runs _ => constructor <;> rfl

/-- The pump goes on to the write, or leaves the loop body. -/
theorem resolve_next (frames : Nat) :
    SameCut s (s.resolve hal frames) ∧
      ((s.resolve hal frames).pc = .returned ∨ (s.resolve hal frames).pc = .check ∨
        ∃ stream, (s.resolve hal frames).pc = .write stream frames) := by
  rw [resolve]
  cases s.stream with
  | none => exact ⟨⟨rfl, rfl⟩, .inl rfl⟩
  | some stream =>
    have same := (ensured s hal stream).sameCut
    dsimp only
    split
    · next ensuredStream =>
      rw [ensuredStream] at same
      exact ⟨⟨same.config, same.residual⟩, .inr (.inr ⟨stream, rfl⟩)⟩
    · next notEnsured =>
      rw [notEnsured] at same
      exact ⟨⟨same.config, same.residual⟩, .inr (.inl rfl)⟩

theorem report_next (result : Int) :
    SameCut s (s.report hal stream result) ∧
      ∃ disconnected nowMs, (s.report hal stream result).pc = .failed stream disconnected nowMs := by
  rcases report_eq s hal stream result with ⟨failures, warnMs, uses, disconnected, reported⟩
  rw [reported]
  exact ⟨⟨rfl, rfl⟩, disconnected, hal.nowMs, rfl⟩

theorem sameCut_escalate (nowMs : Millis) : SameCut s (s.escalate hal stream nowMs) := by
  rw [escalate]
  split <;> constructor <;> rfl

theorem rebuildStalled_next (nowMs : Millis) :
    SameCut s (s.rebuildStalled hal nowMs) ∧
      ((s.rebuildStalled hal nowMs).pc = .returned ∨ (s.rebuildStalled hal nowMs).pc = .check) := by
  rw [rebuildStalled]
  dsimp only
  split
  · rcases sameCut_closeStream _ with ⟨config, residual⟩
    exact ⟨⟨config, residual⟩, .inl rfl⟩
  · rcases sameCut_rebuild _ hal with ⟨config, residual⟩
    exact ⟨⟨config, residual⟩, .inr rfl⟩

/-- Behind a failed write the pump leaves the loop body in any case. -/
theorem recoverStream_next (disconnected : Bool) (nowMs : Millis) :
    SameCut s (s.recoverStream hal stream disconnected nowMs) ∧
      ((s.recoverStream hal stream disconnected nowMs).pc = .returned ∨
        (s.recoverStream hal stream disconnected nowMs).pc = .check) := by
  rw [recoverStream]
  split
  · exact ⟨⟨rfl, rfl⟩, .inl rfl⟩
  · dsimp only
    split
    · split
      · rcases sameCut_rebuild { s with lastRebuildMs := nowMs } hal with ⟨config, residual⟩
        exact ⟨⟨config, residual⟩, .inr rfl⟩
      · exact ⟨⟨rfl, rfl⟩, .inr rfl⟩
    · have escalated : SameCut s (s.escalate hal stream nowMs) := sameCut_escalate nowMs
      split
      · split
        · rcases rebuildStalled_next (s := s.escalate hal stream nowMs) nowMs with ⟨same, next⟩
          exact ⟨escalated.trans same, next⟩
        · exact ⟨escalated.trans ⟨rfl, rfl⟩, .inr rfl⟩
      · exact ⟨escalated.trans ⟨rfl, rfl⟩, .inr rfl⟩

theorem publish_next :
    SameCut s (s.publish hal stream) ∧
      (s.publish hal stream).pc = if s.stream.isSome then .check else .returned := by
  rw [publish]
  dsimp only
  cases s.stream <;> exact ⟨⟨rfl, rfl⟩, rfl⟩

theorem closeStep_next (stepped : s.closeStep = some t) : SameCut s t ∧ t.pc = s.pc := by
  rw [closeStep] at stepped
  split at stepped
  · cases stepped
    exact ⟨⟨rfl, rfl⟩, rfl⟩
  · cases stepped
    exact ⟨⟨rfl, rfl⟩, rfl⟩
  · split at stepped
    · cases stepped
      exact ⟨⟨rfl, rfl⟩, rfl⟩
    · cases stepped
  · cases stepped

end

/-! ## The pump with its bytes -/

/-- What `drain_fifo` reads at most. -/
def kDrainBytes : Nat := 64 * 4096

/-- Whether a step runs `drain_fifo`: behind a rebuild, or behind the first full write
after a stall, if `FIONREAD` finds as much as a buffer in the FIFO. -/
def drains (s : AaudioFifoPlayer) (hal : Hal) (fifoBytes : Int) : Bool :=
  match s.pc with
  | .failed stream disconnected nowMs =>
      let escalated := s.escalate hal stream nowMs
      s.stream.isSome && s.mayRebuild nowMs &&
        (disconnected ||
          decide (escalated.consecutiveWriteFailures ≥ kStallRebuildThreshold) &&
            decide (escalated.stallRebuilds + 1 ≤ kMaxStallRebuilds))
  | .succeeded _ =>
      s.stream.isSome && decide (s.consecutiveWriteFailures > 0) &&
        decide (fifoBytes ≥ s.bufferSize)
  | _ => false

/-- Whether a step leaves the loop body by a `continue` with frames in the buffer. -/
def continues (s : AaudioFifoPlayer) (hal : Hal) : Bool :=
  match s.pc with
  | .resolve _ | .failed _ _ _ => (s.pumpStep hal).any fun t => decide (t.pc = .check)
  | _ => false

/-- What a `read` puts into the buffer. -/
def readBytes (s : AaudioFifoPlayer) (hal : Hal) : Nat :=
  min hal.bytesRead.toNat (s.bufferSize - s.residual)

/-- The pump, with its buffer, `frames_available`, what comes through the FIFO, and what
was passed to `AAudioStream_write`. -/
structure Pumped where
  player : AaudioFifoPlayer
  cutter : Cutter UInt8
  framesAvailable : Nat := 0
  deriving DecidableEq

inductive PumpAction where
  /-- `drain_fifo` finds `drained` bytes, if it runs. -/
  | pump (hal : Hal) (fifoBytes : Int) (drained : Nat)
  | close
  deriving DecidableEq

namespace Pumped

/-- The pump of a player that has been opened, before a FIFO that `frames` are written
to. -/
def start (config : AudioConfig) (openedMs : Millis)
    (frames : List (Frame UInt8 (openConfig config).bytesPerFrame)) : Pumped :=
  { player := openedPlayer config openedMs
    cutter :=
      { buffer := List.replicate (openedPlayer config openedMs).bufferSize 0
        rest := FrameCutter.stream frames } }

def drainFifo (p : Pumped) (hal : Hal) (fifoBytes : Int) (drained : Nat) :
    Option (Cutter UInt8) :=
  if p.player.drains hal fifoBytes then
    if drained ≤ min kDrainBytes p.cutter.rest.length then some (p.cutter.discard drained)
    else none
  else some p.cutter

/-- The end of the loop body. -/
def keepResidual (p : Pumped) (cutter : Cutter UInt8) : Cutter UInt8 :=
  if p.player.residual > 0 then
    cutter.move (p.framesAvailable * p.player.config.bytesPerFrame) p.player.residual
  else cutter

/-- One step of `pump_loop`, with what it does to the bytes. -/
def pumpStep (p : Pumped) (hal : Hal) (fifoBytes : Int) (drained : Nat) : Option Pumped :=
  (p.player.pumpStep hal).bind fun player =>
    match p.player.pc with
    | .read =>
        let count := p.player.readBytes hal
        if hal.bytesRead ≤ 0 then some { p with player := player }
        else if count ≤ p.cutter.rest.length then
          some
            { player := player
              cutter := p.cutter.read p.player.residual count
              framesAvailable :=
                (p.player.residual + count) / p.player.config.bytesPerFrame }
        else none
    | .write _ frames =>
        some
          { p with
            player := player
            cutter := p.cutter.hand p.player.config.bytesPerFrame frames }
    | .failed _ _ _ =>
        (p.drainFifo hal fifoBytes drained).map fun cutter =>
          { p with player := player, cutter := cutter }
    | .succeeded _ =>
        (p.drainFifo hal fifoBytes drained).map fun cutter =>
          { p with
            player := player
            cutter := if p.player.stream.isSome then p.keepResidual cutter else cutter }
    | _ => some { p with player := player }

def step (p : Pumped) : PumpAction → Option Pumped
  | .pump hal fifoBytes drained => p.pumpStep hal fifoBytes drained
  | .close => p.player.closeStep.map fun player => { p with player := player }

/-- Nothing is carried where the body is left early, and a drain takes whole frames. -/
def KeepsFrames (p : Pumped) : PumpAction → Prop
  | .close => True
  | .pump hal fifoBytes drained =>
      (p.player.continues hal = true → p.player.residual = 0) ∧
        (p.player.drains hal fifoBytes = true → 0 < drained →
          p.player.residual = 0 ∧ p.player.config.bytesPerFrame ∣ drained)

/-- Nothing is carried where a step with frames in the buffer leaves the loop body. -/
theorem KeepsFrames.uncarried {p : Pumped} {hal : Hal} {fifoBytes : Int} {drained : Nat}
    {t : AaudioFifoPlayer} (keeps : p.KeepsFrames (.pump hal fifoBytes drained))
    (place :
      (∃ count, p.player.pc = .resolve count) ∨
        ∃ stream disconnected nowMs, p.player.pc = .failed stream disconnected nowMs)
    (moved : p.player.pumpStep hal = some t) (leaves : t.pc = .check) :
    p.player.residual = 0 := by
  apply keeps.1
  rcases place with ⟨_, pc⟩ | ⟨_, _, _, pc⟩ <;> simp [continues, pc, moved, leaves]

instance (p : Pumped) (action : PumpAction) : Decidable (p.KeepsFrames action) :=
  match action with
  | .close => inferInstanceAs (Decidable True)
  | .pump _ _ _ => inferInstanceAs (Decidable (_ ∧ _))

/-! ## The frames in the buffer -/

section

variable {size : Nat} {frames : List (Frame UInt8 size)} {p q : Pumped}

/-- What the buffer and the FIFO hold at each place of the pump: before a read and before
the write, frames that have not been handed on, and behind the write also those that
have. -/
def Place (frames : List (Frame UInt8 size)) (p : Pumped) : PumpPc → Prop
  | .begin | .check | .poll | .read =>
      ∃ done, Carries frames done done p.player.residual p.cutter
  | .resolve count | .write _ count =>
      p.framesAvailable = count ∧
        ∃ done, Carries frames done done (count * size + p.player.residual) p.cutter
  | .report _ _ | .failed _ _ _ | .succeeded _ =>
      ∃ done, Carries frames (done + p.framesAvailable) done
        (p.framesAvailable * size + p.player.residual) p.cutter
  | .returned => ∃ done start carried, Carries frames done start carried p.cutter

/-- The invariant of the pump. -/
structure Framed (frames : List (Frame UInt8 size)) (p : Pumped) : Prop where
  positive : 0 < size
  size : p.player.config.bytesPerFrame = size
  capacity : p.cutter.buffer.length = p.player.bufferSize
  place : p.Place frames p.player.pc

theorem bufferSize_congr {s t : AaudioFifoPlayer} (same : t.config = s.config) :
    t.bufferSize = s.bufferSize := by
  unfold bufferSize chunkFrames
  rw [same]

/-- Whatever the place, the frames handed on are frames of the stream. -/
theorem Place.sublist {pc : PumpPc} (place : p.Place frames pc) :
    p.cutter.handed.Sublist (frames.map (·.val)) := by
  cases pc with
  | begin | check | poll | read =>
    rcases place with ⟨_, carries⟩
    exact carries.sublist
  | resolve count | write _ count =>
    rcases place with ⟨_, _, carries⟩
    exact carries.sublist
  | report _ _ | failed _ _ _ | succeeded _ =>
    rcases place with ⟨_, carries⟩
    exact carries.sublist
  | returned =>
    rcases place with ⟨_, _, _, carries⟩
    exact carries.sublist

theorem Framed.sublist (framed : p.Framed frames) :
    p.cutter.handed.Sublist (frames.map (·.val)) :=
  framed.place.sublist

/-- A step that changes neither the carried bytes nor the buffer. -/
theorem Framed.of_sameCut (framed : p.Framed frames) {player : AaudioFifoPlayer}
    (same : SameCut p.player player) {cutter : Cutter UInt8} {framesAvailable : Nat}
    (length : cutter.buffer.length = p.cutter.buffer.length)
    (place : Place frames
      { player := player, cutter := cutter, framesAvailable := framesAvailable } player.pc) :
    Framed frames { player := player, cutter := cutter, framesAvailable := framesAvailable } := by
  refine ⟨framed.positive, ?_, ?_, place⟩
  · dsimp only
    rw [same.config, framed.size]
  · dsimp only
    rw [length, framed.capacity, bufferSize_congr same.config]

/-- A read brings the next bytes of the stream, and they are cut into frames. -/
theorem Framed.takeBytes (framed : p.Framed frames) (pc : p.player.pc = .read)
    {hal : Hal} (data : ¬ hal.bytesRead ≤ 0)
    (enough : p.player.readBytes hal ≤ p.cutter.rest.length) :
    Framed frames
      { player := p.player.takeBytes hal.bytesRead
        cutter := p.cutter.read p.player.residual (p.player.readBytes hal)
        framesAvailable :=
          (p.player.residual + p.player.readBytes hal) / p.player.config.bytesPerFrame } := by
  rcases framed with ⟨positive, sameSize, capacity, place⟩
  rw [pc] at place
  rcases place with ⟨done, carries⟩
  have fits : p.player.residual + p.player.readBytes hal ≤ p.cutter.buffer.length := by
    have before := carries.fits
    unfold readBytes
    omega
  have next := carries.read fits enough
  have whole := Nat.div_add_mod' (p.player.residual + p.player.readBytes hal) size
  rw [← whole] at next
  have taken : p.player.takeBytes hal.bytesRead =
      { p.player with
        residual := (p.player.residual + p.player.readBytes hal) % size }.enter
          (if (p.player.residual + p.player.readBytes hal) / size > 0 then
            .resolve ((p.player.residual + p.player.readBytes hal) / size)
          else .check) := by
    rw [AaudioFifoPlayer.takeBytes, if_neg data, sameSize]
    rfl
  rw [taken, sameSize]
  refine ⟨positive, sameSize, ?_, ?_⟩
  · dsimp only
    rw [Cutter.length_read fits enough, capacity]
    rfl
  · by_cases some : (p.player.residual + p.player.readBytes hal) / size > 0
    · rw [if_pos some]
      exact ⟨rfl, done, next⟩
    · rw [if_neg some]
      have none := Nat.eq_zero_of_not_pos some
      rw [none, Nat.zero_mul, Nat.zero_add] at next
      exact ⟨done, next⟩

/-- A drain takes nothing, or whole frames where nothing is carried. -/
theorem drainFifo_carries {hal : Hal} {fifoBytes : Int} {drained : Nat}
    {cutter : Cutter UInt8} (sameSize : p.player.config.bytesPerFrame = size)
    (keeps : p.KeepsFrames (.pump hal fifoBytes drained))
    (drains : p.drainFifo hal fifoBytes drained = some cutter) :
    cutter = p.cutter ∨
      p.player.residual = 0 ∧ cutter.buffer.length = p.cutter.buffer.length ∧
        ∀ done, Carries frames done done 0 p.cutter →
          ∃ later, Carries frames later later 0 cutter := by
  unfold drainFifo at drains
  split at drains
  · next runs =>
    split at drains
    · cases drains
      by_cases nothing : drained = 0
      · left
        rw [nothing]
        simp [Cutter.discard]
      · right
        rcases keeps.2 runs (by omega) with ⟨uncarried, count, whole⟩
        refine ⟨uncarried, rfl, fun done carries => ⟨done + count, ?_⟩⟩
        rw [whole, sameSize, Nat.mul_comm]
        exact (carries.discard count).mono (Nat.le_add_right done count)
    · cases drains
  · cases drains
    exact .inl rfl

/-- Behind a failed write. -/
theorem Framed.failed (framed : p.Framed frames) {hal : Hal} {fifoBytes : Int}
    {drained : Nat} {stream : Handle} {disconnected : Bool} {nowMs : Millis}
    {cutter : Cutter UInt8} (pc : p.player.pc = .failed stream disconnected nowMs)
    (keeps : p.KeepsFrames (.pump hal fifoBytes drained))
    (drains : p.drainFifo hal fifoBytes drained = some cutter) :
    Framed frames
      { p with
        player := p.player.recoverStream hal stream disconnected nowMs
        cutter := cutter } := by
  rcases @recoverStream_next p.player hal stream disconnected nowMs
    with ⟨same, next⟩
  have place := framed.place
  rw [pc] at place
  rcases place with ⟨done, carries⟩
  rcases next with returned | continued
  · -- the buffer is not used any more
    rcases drainFifo_carries framed.size keeps drains with rfl | ⟨uncarried, length, drops⟩
    · refine framed.of_sameCut same rfl ?_
      rw [returned]
      exact ⟨_, _, _, carries⟩
    · rw [uncarried] at carries
      rcases drops _ carries.leave with ⟨later, carriesLater⟩
      refine framed.of_sameCut same length ?_
      rw [returned]
      exact ⟨_, _, _, carriesLater⟩
  · have moved : p.player.pumpStep hal =
        some (p.player.recoverStream hal stream disconnected nowMs) := by
      rw [AaudioFifoPlayer.pumpStep, pc]
    have uncarried := keeps.uncarried (.inr ⟨_, _, _, pc⟩) moved continued
    have none : (p.player.recoverStream hal stream disconnected nowMs).residual = 0 :=
      same.residual.trans uncarried
    rw [uncarried] at carries
    rcases drainFifo_carries framed.size keeps drains with rfl | ⟨_, length, drops⟩
    · refine framed.of_sameCut same rfl ?_
      rw [continued]
      refine ⟨done + p.framesAvailable, ?_⟩
      dsimp only
      rw [none]
      exact carries.leave
    · rcases drops _ carries.leave with ⟨later, carriesLater⟩
      refine framed.of_sameCut same length ?_
      rw [continued]
      refine ⟨later, ?_⟩
      dsimp only
      rwa [none]

/-- At the end of the loop body the carried bytes are at the front of the buffer. -/
theorem keepResidual_carries {done : Nat} (sameSize : p.player.config.bytesPerFrame = size)
    (carries :
      Carries frames (done + p.framesAvailable) done
        (p.framesAvailable * size + p.player.residual) p.cutter) :
    Carries frames (done + p.framesAvailable) (done + p.framesAvailable) p.player.residual
        (p.keepResidual p.cutter) ∧
      (p.keepResidual p.cutter).buffer.length = p.cutter.buffer.length := by
  unfold keepResidual
  rw [sameSize]
  split
  · exact ⟨carries.move, Cutter.length_move carries.fits⟩
  · next uncarried =>
    have none := Nat.eq_zero_of_not_pos uncarried
    rw [none] at carries ⊢
    exact ⟨carries.leave, rfl⟩

/-- Behind a full write. -/
theorem Framed.succeeded (framed : p.Framed frames) {hal : Hal} {fifoBytes : Int}
    {drained : Nat} {stream : Handle} {cutter : Cutter UInt8}
    (pc : p.player.pc = .succeeded stream)
    (keeps : p.KeepsFrames (.pump hal fifoBytes drained))
    (drains : p.drainFifo hal fifoBytes drained = some cutter) :
    Framed frames
      { p with
        player := p.player.publish hal stream
        cutter := if p.player.stream.isSome then p.keepResidual cutter else cutter } := by
  rcases @publish_next p.player hal stream with ⟨same, next⟩
  have place := framed.place
  rw [pc] at place
  rcases place with ⟨done, carries⟩
  by_cases stored : p.player.stream.isSome = true
  · rw [if_pos stored] at next ⊢
    rcases drainFifo_carries framed.size keeps drains with rfl | ⟨uncarried, length, drops⟩
    · rcases keepResidual_carries framed.size carries with ⟨kept, length⟩
      refine framed.of_sameCut same length ?_
      rw [next]
      refine ⟨done + p.framesAvailable, ?_⟩
      dsimp only
      rwa [same.residual]
    · have unmoved : p.keepResidual cutter = cutter := by simp [keepResidual, uncarried]
      rw [unmoved]
      rw [uncarried] at carries
      rcases drops _ carries.leave with ⟨later, carriesLater⟩
      refine framed.of_sameCut same length ?_
      rw [next]
      refine ⟨later, ?_⟩
      dsimp only
      rwa [same.residual, uncarried]
  · rw [if_neg stored] at next ⊢
    have undrained : p.player.drains hal fifoBytes = false := by
      rw [AaudioFifoPlayer.drains, pc]
      simp [stored]
    rw [drainFifo, undrained] at drains
    cases drains
    refine framed.of_sameCut same rfl ?_
    rw [next]
    exact ⟨_, _, _, carries⟩

/-- Before a write. -/
theorem Framed.resolve (framed : p.Framed frames) {hal : Hal} {fifoBytes : Int}
    {drained count : Nat} (pc : p.player.pc = .resolve count)
    (keeps : p.KeepsFrames (.pump hal fifoBytes drained)) :
    Framed frames { p with player := p.player.resolve hal count } := by
  rcases @resolve_next p.player hal count with ⟨same, next⟩
  have place := framed.place
  rw [pc] at place
  rcases place with ⟨available, done, carries⟩
  refine framed.of_sameCut same rfl ?_
  rcases next with returned | continued | ⟨stream, writes⟩
  · rw [returned]
    exact ⟨_, _, _, carries⟩
  · have moved : p.player.pumpStep hal = some (p.player.resolve hal count) := by
      rw [AaudioFifoPlayer.pumpStep, pc]
    have uncarried := keeps.uncarried (.inl ⟨count, pc⟩) moved continued
    rw [continued]
    refine ⟨done + count, ?_⟩
    dsimp only
    rw [same.residual, uncarried]
    rw [uncarried] at carries
    exact carries.leave.mono (Nat.le_add_right done count)
  · rw [writes]
    refine ⟨available, done, ?_⟩
    dsimp only
    rwa [same.residual]

theorem Framed.pumpStep (framed : p.Framed frames) {hal : Hal} {fifoBytes : Int}
    {drained : Nat} (keeps : p.KeepsFrames (.pump hal fifoBytes drained))
    (stepped : p.pumpStep hal fifoBytes drained = some q) : q.Framed frames := by
  rcases Option.bind_eq_some_iff.1 stepped with ⟨player, moved, rest⟩
  rw [AaudioFifoPlayer.pumpStep] at moved
  have place := framed.place
  cases pc : p.player.pc with
  | begin | check | poll =>
    rw [pc] at moved rest place
    cases moved
    cases rest
    refine framed.of_sameCut (sameCut_enter _ _) rfl ?_
    rcases place with ⟨done, carries⟩
    dsimp only [enter]
    split
    all_goals
      first
      | exact ⟨done, carries⟩
      | exact ⟨done, done, _, carries⟩
  | read =>
    rw [pc] at moved rest
    cases moved
    dsimp only at rest
    split at rest
    · next noData =>
      cases rest
      have unread : p.player.takeBytes hal.bytesRead = p.player.enter .check := if_pos noData
      rw [unread]
      rw [pc] at place
      exact framed.of_sameCut (sameCut_enter _ _) rfl place
    · next data =>
      split at rest
      · next enough =>
        cases rest
        exact framed.takeBytes pc data enough
      · cases rest
  | resolve count =>
    rw [pc] at moved rest
    cases moved
    cases rest
    exact framed.resolve pc keeps
  | write stream count =>
    rw [pc] at moved rest place
    cases moved
    cases rest
    rcases place with ⟨available, done, carries⟩
    have handed := carries.hand framed.positive
    rw [framed.size]
    refine framed.of_sameCut (sameCut_use _ _ _ _) rfl ?_
    rw [← available] at handed ⊢
    dsimp only [enter]
    split <;> exact ⟨done, handed⟩
  | report stream result =>
    rw [pc] at moved rest place
    cases moved
    cases rest
    rcases @report_next p.player hal stream result with
      ⟨same, _, _, next⟩
    refine framed.of_sameCut same rfl ?_
    rw [next]
    rcases place with ⟨done, carries⟩
    refine ⟨done, ?_⟩
    dsimp only
    rwa [same.residual]
  | failed stream disconnected nowMs =>
    rw [pc] at moved rest
    cases moved
    rcases Option.map_eq_some_iff.1 rest with ⟨cutter, drains, rfl⟩
    exact framed.failed pc keeps drains
  | succeeded stream =>
    rw [pc] at moved rest
    cases moved
    rcases Option.map_eq_some_iff.1 rest with ⟨cutter, drains, rfl⟩
    exact framed.succeeded pc keeps drains
  | returned =>
    rw [pc] at moved
    cases moved

theorem Framed.step (framed : p.Framed frames) {action : PumpAction}
    (keeps : p.KeepsFrames action) (stepped : p.step action = some q) : q.Framed frames := by
  cases action with
  | pump hal fifoBytes drained => exact framed.pumpStep keeps stepped
  | close =>
    rcases Option.map_eq_some_iff.1 stepped with ⟨player, closes, rfl⟩
    rcases closeStep_next closes with ⟨same, samePc⟩
    refine framed.of_sameCut same rfl ?_
    rw [samePc]
    have place := framed.place
    cases pc : p.player.pc <;> rw [pc] at place <;> simpa [Place, same.residual] using place

theorem start_framed (config : AudioConfig) (openedMs : Millis)
    (frames : List (Frame UInt8 (openConfig config).bytesPerFrame)) :
    Framed frames (start config openedMs frames) := by
  refine ⟨?_, rfl, ?_, 0, ?_⟩
  · have channels : 0 < (openConfig config).channels := by
      rw [openConfig]
      dsimp only
      split <;> omega
    exact Nat.mul_pos (openConfig config).bytesPerSample_pos channels
  · exact List.length_replicate
  · exact ⟨List.nil_sublist _, Nat.zero_le _, rfl⟩

/-- What the pump hands to AAudio are frames that were written, as long as it carries
nothing where it leaves the loop body early, and drains whole frames only. -/
theorem pump_hands_frames (config : AudioConfig) (openedMs : Millis)
    (frames : List (Frame UInt8 (openConfig config).bytesPerFrame))
    (actions : List PumpAction) {p : Pumped}
    (keeps : EveryStep step KeepsFrames (start config openedMs frames) actions)
    (reached : run step (start config openedMs frames) actions = some p) :
    p.cutter.handed.Sublist (frames.map (·.val)) := by
  have framed : p.Framed frames :=
    run_invariant (fun _ _ _ framed keeps stepped => Framed.step framed keeps stepped) actions
      (start_framed config openedMs frames) keeps reached
  exact framed.sublist

end

end Pumped

end AaudioFifoPlayer

end AudioRouter
