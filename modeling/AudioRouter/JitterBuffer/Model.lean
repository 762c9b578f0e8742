import Mathlib.Algebra.BigOperators.Group.Finset.Basic
import Mathlib.Data.Fintype.Basic
import Mathlib.Logic.Function.Basic
import AudioRouter.AudioTypes

/-!
# The jitter buffer

A translation of `JitterBuffer` (`client/jitter_buffer.hpp` and `.cpp`).  The
code moves samples and never looks at one, so the sample type is a parameter;
`0` is the silence it writes.

Sequence numbers and clock readings keep the widths of the source, because the
code relies on their wrap-around.  A `size_t` counts frames or samples that lie
in memory and is a natural number.  The arrival-time estimate
(`last_transit_us_`, `jitter_estimate_us_`) is floating point, is read only by
`get_stats`, and is left out.
-/

namespace AudioRouter

/-- `uint32_t` packet sequence numbers. -/
abbrev SeqNum := BitVec 32

/-- `uint64_t` clock readings, in microseconds or milliseconds. -/
abbrev Clock := BitVec 64

namespace JitterBuffer

def kStartupPrefillMultiplier : Nat := 3
def kStartupPrefillMinMs : Nat := 120
def kStartupPrefillMaxMs : Nat := 500
def kStableArrivalCount : Nat := 24
def kDrainMarginMs : Nat := 25
def kDrainIntervalMs : Nat := 400
def kDrainChunkFrames : Nat := 240
def kDrainFastIntervalMs : Nat := 100
def kDrainFastChunkFrames : Nat := 480
def kDrainStartGraceMs : Nat := 3000

/-- `MAX_SLOTS`. -/
abbrev maxSlots : Nat := 256

end JitterBuffer

open JitterBuffer

/-- One entry of `slots_`. -/
structure PacketSlot (σ : Type) where
  seqNum : SeqNum := 0
  timestampUs : Clock := 0
  pcmData : List σ := []
  numFrames : Nat := 0
  isValid : Bool := false

/-- The counters of `JitterBufferStats`. -/
structure JitterBufferStats where
  packetsReceived : Nat := 0
  packetsLost : Nat := 0
  packetsOutOfOrder : Nat := 0
  packetsDuplicate : Nat := 0
  underruns : Nat := 0
  overruns : Nat := 0
  drainedFrames : Nat := 0
  deriving DecidableEq, Repr

/-- The members of `JitterBuffer`.  `slots_` has `MAX_SLOTS` entries for ever
and is indexed modulo `MAX_SLOTS` only. -/
structure JitterBuffer (σ : Type) where
  config : AudioConfig := {}
  targetLatencyMs : Nat
  targetBufferFrames : Nat := 0
  startupTargetFrames : Nat := 0
  startupPending : Bool := false
  holeFreeRun : Nat := 0
  lastArrivedSeq : SeqNum := 0
  hasLastArrivedSeq : Bool := false
  slots : Fin maxSlots → PacketSlot σ := fun _ => {}
  nextPlaySeq : SeqNum := 0
  hasFirstPacket : Bool := false
  isBuffering : Bool := true
  slotFrameOffset : Nat := 0
  lastDrainMs : Clock := 0
  startupCompleteMs : Clock := 0
  stats : JitterBufferStats := {}

namespace JitterBuffer

variable {σ : Type}

/-- The constructor. -/
def new (targetLatencyMs : Nat) : JitterBuffer σ :=
  { targetLatencyMs := targetLatencyMs }

/-- `n % MAX_SLOTS`. -/
def slotIndex (n : Nat) : Fin maxSlots :=
  ⟨n % maxSlots, Nat.mod_lt _ (by decide)⟩

def reset (b : JitterBuffer σ) : JitterBuffer σ :=
  { b with
    slots := fun i =>
      { b.slots i with isValid := false, numFrames := 0, pcmData := [] }
    nextPlaySeq := 0
    hasFirstPacket := false
    isBuffering := true
    startupPending := true
    holeFreeRun := 0
    hasLastArrivedSeq := false
    lastArrivedSeq := 0
    slotFrameOffset := 0
    lastDrainMs := 0
    startupCompleteMs := 0 }

/-- The startup prefill in milliseconds.  The multiplication is a `uint32_t`
one and wraps for huge targets. -/
def startupMs (targetLatencyMs : Nat) : Nat :=
  min (max kStartupPrefillMinMs
    (targetLatencyMs * kStartupPrefillMultiplier % 2 ^ 32))
    kStartupPrefillMaxMs

def configure (b : JitterBuffer σ) (config : AudioConfig)
    (targetLatencyMs : Nat) : JitterBuffer σ :=
  let latency := if targetLatencyMs > 5 then targetLatencyMs else 5
  reset
    { b with
      config := config
      targetLatencyMs := latency
      targetBufferFrames := config.sampleRate * latency / 1000
      startupTargetFrames := config.sampleRate * startupMs latency / 1000 }

/-! ## Scans over the slots -/

/-- The loop that adds up the unbroken run of packets from the playhead on.
The sum `next_play_seq_ + i` is a 64-bit `size_t`, so the comparison with the
32-bit `seq_num` fails from number `2 ^ 32` on. -/
def contiguousFrom (b : JitterBuffer σ) : (i fuel : Nat) → Nat
  | _, 0 => 0
  | i, fuel + 1 =>
      let slot := b.slots (slotIndex (b.nextPlaySeq.toNat + i))
      if slot.isValid ∧ slot.seqNum.toNat = b.nextPlaySeq.toNat + i then
        slot.numFrames + contiguousFrom b (i + 1) fuel
      else 0

def contiguousFrames (b : JitterBuffer σ) : Nat :=
  contiguousFrom b 0 maxSlots

/-- `total_valid_frames` of `push_packet`. -/
def totalValidFrames (b : JitterBuffer σ) : Nat :=
  ∑ i, if (b.slots i).isValid then (b.slots i).numFrames else 0

def availableFramesUnlocked (b : JitterBuffer σ) : Nat :=
  let total := b.contiguousFrames
  if total ≥ b.slotFrameOffset then total - b.slotFrameOffset else total

def availableFrames (b : JitterBuffer σ) : Nat :=
  b.availableFramesUnlocked

def isReady (b : JitterBuffer σ) : Bool :=
  !b.isBuffering && b.hasFirstPacket

/-! ## `push_packet` -/

/-- The common body of the two resync branches. -/
def resync (b : JitterBuffer σ) (seqNum : SeqNum) : JitterBuffer σ :=
  { b with
    slots := fun i => { b.slots i with isValid := false, pcmData := [] }
    nextPlaySeq := seqNum
    isBuffering := true
    slotFrameOffset := 0 }

/-- Counts the arrival and lets the first packet set the playhead. -/
def noteArrival (b : JitterBuffer σ) (seqNum : SeqNum) : JitterBuffer σ :=
  { b with
    stats := { b.stats with packetsReceived := b.stats.packetsReceived + 1 }
    hasFirstPacket := true
    nextPlaySeq := if b.hasFirstPacket then b.nextPlaySeq else seqNum
    isBuffering := if b.hasFirstPacket then b.isBuffering else true }

/-- `memcpy` of the packet into its slot.  `pcmData` is the caller's memory:
sample `j` behind the pointer is `pcmData j`, and the copy reads exactly the
first `num_frames * channels` of them. -/
def storePacket (b : JitterBuffer σ) (seqNum : SeqNum) (timestampUs : Clock)
    (pcmData : Nat → σ) (numFrames : Nat) : JitterBuffer σ :=
  { b with
    slots := Function.update b.slots (slotIndex seqNum.toNat)
      { seqNum := seqNum
        timestampUs := timestampUs
        numFrames := numFrames
        pcmData := (List.range (numFrames * b.config.channels)).map pcmData
        isValid := true } }

/-- The run of gap-free arrivals behind the stability gate. -/
def trackArrivalRun (b : JitterBuffer σ) (seqNum : SeqNum) : JitterBuffer σ :=
  { b with
    holeFreeRun :=
      if b.hasLastArrivedSeq ∧ seqNum = b.lastArrivedSeq + 1 then
        b.holeFreeRun + 1
      else 1
    lastArrivedSeq := seqNum
    hasLastArrivedSeq := true }

/-- The test that ends buffering. -/
def prefillReached (b : JitterBuffer σ) : Bool :=
  let fillTarget :=
    if b.startupPending then b.startupTargetFrames else b.targetBufferFrames
  let escapeTarget := if b.startupPending then fillTarget * 2 else fillTarget
  (decide (b.contiguousFrames ≥ fillTarget) &&
      decide (b.holeFreeRun ≥ kStableArrivalCount)) ||
    decide (b.totalValidFrames ≥ escapeTarget)

def finishBuffering (b : JitterBuffer σ) (nowMs : Clock) : JitterBuffer σ :=
  if b.isBuffering ∧ b.prefillReached then
    { b with
      isBuffering := false
      startupPending := false
      startupCompleteMs :=
        if b.startupPending then nowMs else b.startupCompleteMs }
  else b

/-- The signed distance `static_cast<int32_t>(seq_num - next_play_seq_)`. -/
def seqDiff (b : JitterBuffer σ) (seqNum : SeqNum) : Int :=
  (seqNum - b.nextPlaySeq).toInt

/-- Moves the playhead to a packet that jumps out of the window. -/
def followJump (b : JitterBuffer σ) (seqNum : SeqNum) : JitterBuffer σ :=
  if b.seqDiff seqNum < 0 then b.resync seqNum
  else if b.seqDiff seqNum ≥ maxSlots then
    { b with stats := { b.stats with overruns := b.stats.overruns + 1 } }.resync
      seqNum
  else b

/-- `push_packet`: `none` is a null `pcm_data`; `nowMs` is the clock reading
that ends the startup prefill. -/
def pushPacket (b : JitterBuffer σ) (seqNum : SeqNum) (timestampUs : Clock)
    (pcmData : Option (Nat → σ)) (numFrames : Nat) (nowMs : Clock) :
    JitterBuffer σ × Bool :=
  match pcmData with
  | none => (b, false)
  | some source =>
      if numFrames = 0 then (b, false)
      else
        let b := b.noteArrival seqNum
        if b.seqDiff seqNum < 0 ∧ b.seqDiff seqNum > -(maxSlots : Int) then
          -- late: the slot has already played
          ({ b with
              stats :=
                { b.stats with
                  packetsOutOfOrder := b.stats.packetsOutOfOrder + 1 } },
            false)
        else
          let b := b.followJump seqNum
          let slot := b.slots (slotIndex seqNum.toNat)
          if slot.isValid ∧ slot.seqNum = seqNum then
            ({ b with
                stats :=
                  { b.stats with
                    packetsDuplicate := b.stats.packetsDuplicate + 1 } },
              false)
          else
            ((((b.storePacket seqNum timestampUs source numFrames).trackArrivalRun
                seqNum).finishBuffering nowMs),
              true)

/-! ## `pop_frames` -/

/-- The slot of the playhead. -/
def headSlot (b : JitterBuffer σ) : PacketSlot σ :=
  b.slots (slotIndex b.nextPlaySeq.toNat)

/-- `slot.is_valid && slot.seq_num == next_play_seq_`. -/
def headReady (b : JitterBuffer σ) : Bool :=
  b.headSlot.isValid && b.headSlot.seqNum == b.nextPlaySeq

/-- Invalidates the slot of the playhead and steps to the next number. -/
def leaveSlot (b : JitterBuffer σ) : JitterBuffer σ :=
  { b with
    slots := Function.update b.slots (slotIndex b.nextPlaySeq.toNat)
      { b.headSlot with isValid := false, pcmData := [] }
    slotFrameOffset := 0
    nextPlaySeq := b.nextPlaySeq + 1 }

/-- The hole branch of `advance_playhead_locked`, which keeps the slot's
samples. -/
def stepOverHole (b : JitterBuffer σ) : JitterBuffer σ :=
  { b with
    slots := Function.update b.slots (slotIndex b.nextPlaySeq.toNat)
      { b.headSlot with isValid := false }
    slotFrameOffset := 0
    nextPlaySeq := b.nextPlaySeq + 1 }

/-- One turn of the loop of `advance_playhead_locked` on the frames still to
drop and the buffer. -/
def advanceStep (p : Nat × JitterBuffer σ) : Nat × JitterBuffer σ :=
  let b := p.2
  if b.headReady then
    let remaining := b.headSlot.numFrames - b.slotFrameOffset
    if p.1 < remaining then
      (0, { b with slotFrameOffset := b.slotFrameOffset + p.1 })
    else (p.1 - remaining, b.leaveSlot)
  else
    -- a hole is skipped without counting against the frames to drop
    (p.1, b.stepOverHole)

/-- The loop of `advance_playhead_locked`. -/
def advancePlayhead : (fuel : Nat) → Nat × JitterBuffer σ → JitterBuffer σ
  | 0, p => p.2
  | fuel + 1, p =>
      if p.1 > 0 then advancePlayhead fuel (advanceStep p) else p.2

/-- `advance_playhead_locked`.  Every turn of a call made by `pop_frames` sheds
a frame, so `frames` turns are enough (`WellFormed.advancePlayhead_sheds`). -/
def advancePlayheadLocked (b : JitterBuffer σ) (frames : Nat) : JitterBuffer σ :=
  advancePlayhead frames (frames, b)

/-- Frames of `ms` milliseconds at the configured rate. -/
def framesOfMs (b : JitterBuffer σ) (ms : Nat) : Nat :=
  b.config.sampleRate * ms / 1000

def pastGrace (b : JitterBuffer σ) (nowMs : Clock) : Bool :=
  b.startupCompleteMs == 0 ||
    decide ((nowMs - b.startupCompleteMs).toNat ≥ kDrainStartGraceMs)

/-- Whether the backlog calls for the fast drain. -/
def largeBacklog (b : JitterBuffer σ) : Bool :=
  decide (b.availableFramesUnlocked > b.targetBufferFrames + b.framesOfMs 100)

/-- The nested conditions around the drain. -/
def drainDue (b : JitterBuffer σ) (nowMs : Clock) : Bool :=
  !b.startupPending && decide (b.config.sampleRate > 0) && b.pastGrace nowMs &&
    decide
      (b.availableFramesUnlocked >
        b.targetBufferFrames + b.framesOfMs kDrainMarginMs) &&
    decide
      ((nowMs - b.lastDrainMs).toNat ≥
        bif b.largeBacklog then kDrainFastIntervalMs else kDrainIntervalMs)

/-- The frames the drain of this call sheds; `0` when it does not run. -/
def drainAmount (b : JitterBuffer σ) (nowMs : Clock) : Nat :=
  bif b.drainDue nowMs then
    min
      (b.availableFramesUnlocked - b.targetBufferFrames -
        b.framesOfMs kDrainMarginMs)
      (bif b.largeBacklog then kDrainFastChunkFrames else kDrainChunkFrames)
  else 0

/-- The drain-to-target block of `pop_frames`. -/
def drainToTarget (b : JitterBuffer σ) (nowMs : Clock) : JitterBuffer σ :=
  let drop := b.drainAmount nowMs
  if drop = 0 then b
  else
    let b := b.advancePlayheadLocked drop
    { b with
      stats := { b.stats with drainedFrames := b.stats.drainedFrames + drop }
      lastDrainMs := nowMs }

/-- `has_future_packets`. -/
def hasFuturePackets (b : JitterBuffer σ) : Bool :=
  (List.range maxSlots).any fun i =>
    decide (1 ≤ i) && (b.slots (slotIndex (b.nextPlaySeq.toNat + i))).isValid

/-- The variables of the delivery loop: the buffer, `frames_delivered`, and the
samples written to `dest` so far. -/
structure Delivery (σ : Type) where
  buffer : JitterBuffer σ
  framesDelivered : Nat
  dest : List σ

/-- `min(needed, frames_per_packet > 0 ? frames_per_packet : 240)`. -/
def concealFrames (b : JitterBuffer σ) (needed : Nat) : Nat :=
  min needed
    (if b.config.framesPerPacket > 0 then b.config.framesPerPacket else 240)

/-- One turn of the delivery loop.  The `break` of the dry branch needs no flag:
it has filled the request, so the loop condition is false as well. -/
def deliverStep [Zero σ] (numFrames : Nat) (d : Delivery σ) : Delivery σ :=
  let b := d.buffer
  let needed := numFrames - d.framesDelivered
  let channels := b.config.channels
  if b.headReady then
    let slot := b.headSlot
    let toCopy := min (slot.numFrames - b.slotFrameOffset) needed
    let copied :=
      (slot.pcmData.drop (b.slotFrameOffset * channels)).take (toCopy * channels)
    { buffer :=
        if b.slotFrameOffset + toCopy ≥ slot.numFrames then b.leaveSlot
        else { b with slotFrameOffset := b.slotFrameOffset + toCopy }
      framesDelivered := d.framesDelivered + toCopy
      dest := d.dest ++ copied }
  else if b.hasFuturePackets then
    let conceal := b.concealFrames needed
    { buffer :=
        { b with
          stats :=
            { b.stats with
              packetsLost := b.stats.packetsLost + 1
              underruns := b.stats.underruns + 1 } }.leaveSlot
      framesDelivered := d.framesDelivered + conceal
      dest := d.dest ++ List.replicate (conceal * channels) 0 }
  else
    { buffer :=
        { b with
          isBuffering := true
          stats := { b.stats with underruns := b.stats.underruns + 1 } }
      framesDelivered := d.framesDelivered + needed
      dest := d.dest ++ List.replicate (needed * channels) 0 }

/-- The delivery loop.  Every turn delivers a frame, so `numFrames` turns are
enough (`deliver_framesDelivered`). -/
def deliver [Zero σ] (numFrames : Nat) : (fuel : Nat) → Delivery σ → Delivery σ
  | 0, d => d
  | fuel + 1, d =>
      if d.framesDelivered < numFrames then
        deliver numFrames fuel (deliverStep numFrames d)
      else d

/-- The return value of `pop_frames` and the samples written to `dest`. -/
structure PopResult (σ : Type) where
  frames : Nat
  dest : List σ

/-- `pop_frames`: `hasDest` is false for a null `dest`; `nowMs` is the clock
reading of the drain. -/
def popFrames [Zero σ] (b : JitterBuffer σ) (hasDest : Bool) (numFrames : Nat)
    (nowMs : Clock) : JitterBuffer σ × PopResult σ :=
  if !hasDest ∨ numFrames = 0 then (b, ⟨0, []⟩)
  else if b.isBuffering ∨ !b.hasFirstPacket then
    (b, ⟨numFrames, List.replicate (numFrames * b.config.channels) 0⟩)
  else
    let d := deliver numFrames numFrames ⟨b.drainToTarget nowMs, 0, []⟩
    (d.buffer, ⟨d.framesDelivered, d.dest⟩)

/-! ## Runs -/

/-- A call of the public interface with its arguments and the clock reading it
sees. -/
inductive Call (σ : Type) where
  | configure (config : AudioConfig) (targetLatencyMs : Nat)
  | pushPacket (seqNum : SeqNum) (timestampUs : Clock)
      (pcmData : Option (Nat → σ)) (numFrames : Nat) (nowMs : Clock)
  | popFrames (hasDest : Bool) (numFrames : Nat) (nowMs : Clock)

/-- What a call returns. -/
inductive Reply (σ : Type) where
  | configured
  | pushed (stored : Bool)
  | popped (result : PopResult σ)

def call [Zero σ] (b : JitterBuffer σ) : Call σ → JitterBuffer σ × Reply σ
  | .configure config latency => (b.configure config latency, .configured)
  | .pushPacket seqNum timestampUs pcmData numFrames nowMs =>
      let r := b.pushPacket seqNum timestampUs pcmData numFrames nowMs
      (r.1, .pushed r.2)
  | .popFrames hasDest numFrames nowMs =>
      let r := b.popFrames hasDest numFrames nowMs
      (r.1, .popped r.2)

/-- The buffer after a list of calls; every call holds `mutex_`, so a run of
several threads is such a list too. -/
def run [Zero σ] (b : JitterBuffer σ) (calls : List (Call σ)) : JitterBuffer σ :=
  calls.foldl (fun b c => (b.call c).1) b

end JitterBuffer

end AudioRouter
