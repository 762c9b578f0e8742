import AudioRouter.Lib.Blocks
import AudioRouter.JitterBuffer.Invariant

/-!
# Samples are moved, never read

A buffer of whole frames, one list entry each, is run by the same code with one
channel.  Writing every frame out as a block of samples turns it into a buffer
of samples, and every call commutes with that.  What is proved about the buffer
of frames, whatever the frames are, therefore holds of the samples.
-/

namespace AudioRouter.JitterBuffer

open Blocks

variable {φ σ : Type}

/-- How a frame lies in memory. -/
structure Layout [Zero φ] [Zero σ] (channels : Nat) (block : φ → List σ) :
    Prop where
  uniform : ∀ frame, (block frame).length = channels
  silence : block 0 = List.replicate channels 0

def renderSlot (block : φ → List σ) (slot : PacketSlot φ) : PacketSlot σ :=
  { seqNum := slot.seqNum
    timestampUs := slot.timestampUs
    pcmData := slot.pcmData.flatMap block
    numFrames := slot.numFrames
    isValid := slot.isValid }

/-- The buffer of samples behind a buffer of frames. -/
def render (channels : Nat) (block : φ → List σ) (b : JitterBuffer φ) :
    JitterBuffer σ :=
  { config := { b.config with channels := channels }
    targetLatencyMs := b.targetLatencyMs
    targetBufferFrames := b.targetBufferFrames
    startupTargetFrames := b.startupTargetFrames
    startupPending := b.startupPending
    holeFreeRun := b.holeFreeRun
    lastArrivedSeq := b.lastArrivedSeq
    hasLastArrivedSeq := b.hasLastArrivedSeq
    slots := fun i => renderSlot block (b.slots i)
    nextPlaySeq := b.nextPlaySeq
    hasFirstPacket := b.hasFirstPacket
    isBuffering := b.isBuffering
    slotFrameOffset := b.slotFrameOffset
    lastDrainMs := b.lastDrainMs
    startupCompleteMs := b.startupCompleteMs
    stats := b.stats }

section Calls

variable {channels : Nat} {block : φ → List σ}

theorem renderSlot_update (slots : Fin maxSlots → PacketSlot φ)
    (i : Fin maxSlots) (slot : PacketSlot φ) :
    (fun j => renderSlot block (Function.update slots i slot j)) =
      Function.update (fun j => renderSlot block (slots j)) i
        (renderSlot block slot) :=
  Function.comp_update (renderSlot block) slots i slot

/-! ### Scans -/

@[simp]
theorem headReady_render (b : JitterBuffer φ) :
    (render channels block b).headReady = b.headReady := rfl

@[simp]
theorem headSlot_render (b : JitterBuffer φ) :
    (render channels block b).headSlot = renderSlot block b.headSlot := rfl

theorem contiguousFrom_render (b : JitterBuffer φ) :
    ∀ fuel i, (render channels block b).contiguousFrom i fuel =
      b.contiguousFrom i fuel := by
  intro fuel
  induction fuel with
  | zero => exact fun _ => rfl
  | succ fuel inductionHypothesis =>
      intro i
      rw [contiguousFrom, contiguousFrom, inductionHypothesis]
      rfl

@[simp]
theorem contiguousFrames_render (b : JitterBuffer φ) :
    (render channels block b).contiguousFrames = b.contiguousFrames :=
  contiguousFrom_render b maxSlots 0

@[simp]
theorem totalValidFrames_render (b : JitterBuffer φ) :
    (render channels block b).totalValidFrames = b.totalValidFrames := rfl

@[simp]
theorem availableFramesUnlocked_render (b : JitterBuffer φ) :
    (render channels block b).availableFramesUnlocked =
      b.availableFramesUnlocked := by
  rw [availableFramesUnlocked, availableFramesUnlocked, contiguousFrames_render]
  rfl

@[simp]
theorem prefillReached_render (b : JitterBuffer φ) :
    (render channels block b).prefillReached = b.prefillReached := by
  rw [prefillReached, prefillReached, contiguousFrames_render,
    totalValidFrames_render]
  rfl

@[simp]
theorem drainAmount_render (b : JitterBuffer φ) (nowMs : Clock) :
    (render channels block b).drainAmount nowMs = b.drainAmount nowMs := by
  have large :
      (render channels block b).largeBacklog = b.largeBacklog := by
    rw [largeBacklog, largeBacklog, availableFramesUnlocked_render]
    rfl
  have due : (render channels block b).drainDue nowMs = b.drainDue nowMs := by
    rw [drainDue, drainDue, availableFramesUnlocked_render, large]
    rfl
  rw [drainAmount, drainAmount, due, availableFramesUnlocked_render, large]
  rfl

/-! ### Pushes -/

theorem finishBuffering_render (b : JitterBuffer φ) (nowMs : Clock) :
    (render channels block b).finishBuffering nowMs =
      render channels block (b.finishBuffering nowMs) := by
  unfold finishBuffering
  rw [prefillReached_render]
  change (if b.isBuffering ∧ b.prefillReached then _ else _) = _
  split <;> rfl

theorem followJump_render (b : JitterBuffer φ) (seqNum : SeqNum) :
    (render channels block b).followJump seqNum =
      render channels block (b.followJump seqNum) := by
  unfold followJump
  change
    (if b.seqDiff seqNum < 0 then _
      else if b.seqDiff seqNum ≥ maxSlots then _ else _) = _
  split
  · rfl
  · split <;> rfl

theorem storePacket_render {b : JitterBuffer φ} (mono : b.config.channels = 1)
    {frames : Nat → φ} {samples : Nat → σ}
    (written :
      ∀ j, block (frames j) =
        (List.range channels).map fun c => samples (j * channels + c))
    (seqNum : SeqNum) (timestampUs : Clock) (numFrames : Nat) :
    (render channels block b).storePacket seqNum timestampUs samples numFrames =
      render channels block
        (b.storePacket seqNum timestampUs frames numFrames) := by
  have data :
      (List.range (numFrames * channels)).map samples =
        ((List.range (numFrames * b.config.channels)).map frames).flatMap
          block := by
    rw [mono, Nat.mul_one, map_range_mul, List.flatMap_map]
    exact List.flatMap_congr fun j _ => (written j).symm
  unfold storePacket render
  dsimp only
  rw [renderSlot_update, renderSlot, data]

theorem landing_render (b : JitterBuffer φ) (seqNum : SeqNum) :
    (render channels block b).landing seqNum =
      render channels block (b.landing seqNum) :=
  followJump_render (b.noteArrival seqNum) seqNum

theorem accept_render {b : JitterBuffer φ} (mono : b.config.channels = 1)
    {frames : Nat → φ} {samples : Nat → σ}
    (written :
      ∀ j, block (frames j) =
        (List.range channels).map fun c => samples (j * channels + c))
    (seqNum : SeqNum) (timestampUs : Clock) (numFrames : Nat) (nowMs : Clock) :
    (render channels block b).accept seqNum timestampUs samples numFrames nowMs =
      render channels block
        (b.accept seqNum timestampUs frames numFrames nowMs) := by
  have monoLanded : (b.landing seqNum).config.channels = 1 := by
    rw [landing_config, mono]
  unfold accept
  rw [landing_render, storePacket_render monoLanded written,
    ← finishBuffering_render]
  rfl

/-- A push of samples is the push of the frames they are made of. -/
theorem pushPacket_render {b : JitterBuffer φ} (mono : b.config.channels = 1)
    {frames : Nat → φ} {samples : Nat → σ}
    (written :
      ∀ j, block (frames j) =
        (List.range channels).map fun c => samples (j * channels + c))
    (seqNum : SeqNum) (timestampUs : Clock) (numFrames : Nat) (nowMs : Clock) :
    (render channels block b).pushPacket seqNum timestampUs (some samples)
        numFrames nowMs =
      (render channels block
          (b.pushPacket seqNum timestampUs (some frames) numFrames nowMs).1,
        (b.pushPacket seqNum timestampUs (some frames) numFrames nowMs).2) := by
  by_cases empty : numFrames = 0
  · rw [pushPacket_ignored (Or.inr empty), pushPacket_ignored (Or.inr empty)]
  · have positive : 1 ≤ numFrames := by omega
    rw [pushPacket_some _ seqNum timestampUs samples positive nowMs,
      pushPacket_some _ seqNum timestampUs frames positive nowMs,
      landing_render, accept_render mono written]
    change
      (if (b.noteArrival seqNum).IsLate seqNum then _
        else if
          ((b.landing seqNum).slots (slotIndex seqNum.toNat)).isValid ∧
            ((b.landing seqNum).slots (slotIndex seqNum.toNat)).seqNum =
              seqNum then _
        else _) = _
    split
    · rfl
    · split <;> rfl

/-! ### Pops -/

theorem leaveSlot_render (b : JitterBuffer φ) :
    (render channels block b).leaveSlot =
      render channels block b.leaveSlot := by
  unfold leaveSlot render
  dsimp only
  rw [renderSlot_update]
  rfl

theorem stepOverHole_render (b : JitterBuffer φ) :
    (render channels block b).stepOverHole =
      render channels block b.stepOverHole := by
  unfold stepOverHole render
  dsimp only
  rw [renderSlot_update]
  rfl

theorem advanceStep_render (frames : Nat) (b : JitterBuffer φ) :
    advanceStep (frames, render channels block b) =
      ((advanceStep (frames, b)).1,
        render channels block (advanceStep (frames, b)).2) := by
  unfold advanceStep
  dsimp only
  rw [headReady_render, headSlot_render, leaveSlot_render, stepOverHole_render]
  change
    (if b.headReady then
        if frames < b.headSlot.numFrames - b.slotFrameOffset then _ else _
      else _) = _
  split
  · split <;> rfl
  · rfl

theorem advancePlayhead_render :
    ∀ (fuel frames : Nat) (b : JitterBuffer φ),
      advancePlayhead fuel (frames, render channels block b) =
        render channels block (advancePlayhead fuel (frames, b)) := by
  intro fuel
  induction fuel with
  | zero => exact fun _ _ => rfl
  | succ fuel inductionHypothesis =>
      intro frames b
      rw [advancePlayhead, advancePlayhead, advanceStep_render, inductionHypothesis]
      split <;> rfl

theorem drainToTarget_render (b : JitterBuffer φ) (nowMs : Clock) :
    (render channels block b).drainToTarget nowMs =
      render channels block (b.drainToTarget nowMs) := by
  unfold drainToTarget advancePlayheadLocked
  dsimp only
  rw [drainAmount_render, advancePlayhead_render]
  split <;> rfl

theorem consume_render (b : JitterBuffer φ) (toCopy : Nat) :
    (render channels block b).consume toCopy =
      render channels block (b.consume toCopy) := by
  unfold consume
  rw [headSlot_render, leaveSlot_render]
  change
    (if b.slotFrameOffset + toCopy ≥ b.headSlot.numFrames then _ else _) = _
  split <;> rfl

theorem conceal_render (b : JitterBuffer φ) :
    (render channels block b).conceal = render channels block b.conceal := by
  unfold conceal
  exact
    leaveSlot_render
      { b with
        stats :=
          { b.stats with
            packetsLost := b.stats.packetsLost + 1
            underruns := b.stats.underruns + 1 } }

def renderDelivery (channels : Nat) (block : φ → List σ) (d : Delivery φ) :
    Delivery σ :=
  ⟨render channels block d.buffer, d.framesDelivered, d.dest.flatMap block⟩

variable [Zero φ] [Zero σ] (layout : Layout channels block)
include layout

theorem deliverStep_render {d : Delivery φ}
    (mono : d.buffer.config.channels = 1) (numFrames : Nat) :
    deliverStep numFrames (renderDelivery channels block d) =
      renderDelivery channels block (deliverStep numFrames d) := by
  cases ready : d.buffer.headReady with
  | true =>
      rw [deliverStep_of_ready (d := renderDelivery channels block d) ready,
        deliverStep_of_ready (d := d) ready]
      simp only [renderDelivery, headSlot_render, consume_render, mono,
        Nat.mul_one, List.flatMap_append, ← take_flatMap layout.uniform,
        ← drop_flatMap layout.uniform]
      rfl
  | false =>
      cases future : d.buffer.hasFuturePackets with
      | true =>
          rw [deliverStep_of_gap (d := renderDelivery channels block d) ready
              future,
            deliverStep_of_gap (d := d) ready future]
          simp only [renderDelivery, conceal_render, mono, Nat.mul_one,
            List.flatMap_append, replicate_flatMap layout.silence]
          rfl
      | false =>
          rw [deliverStep_of_dry (d := renderDelivery channels block d) ready
              future,
            deliverStep_of_dry (d := d) ready future]
          simp only [renderDelivery, mono, Nat.mul_one, List.flatMap_append,
            replicate_flatMap layout.silence]
          rfl

theorem deliver_render (numFrames : Nat) :
    ∀ (fuel : Nat) {d : Delivery φ}, d.buffer.config.channels = 1 →
      deliver numFrames fuel (renderDelivery channels block d) =
        renderDelivery channels block (deliver numFrames fuel d) := by
  intro fuel
  induction fuel with
  | zero => exact fun _ => rfl
  | succ fuel inductionHypothesis =>
      intro d mono
      have monoNext : (deliverStep numFrames d).buffer.config.channels = 1 := by
        rw [deliverStep_config, mono]
      rw [deliver, deliver, deliverStep_render layout mono, inductionHypothesis monoNext]
      change (if d.framesDelivered < numFrames then _ else _) = _
      split <;> rfl

def renderResult (block : φ → List σ) (result : PopResult φ) : PopResult σ :=
  ⟨result.frames, result.dest.flatMap block⟩

/-- A pop of samples delivers the samples of the frames that are popped. -/
theorem popFrames_render {b : JitterBuffer φ} (mono : b.config.channels = 1)
    (hasDest : Bool) (numFrames : Nat) (nowMs : Clock) :
    (render channels block b).popFrames hasDest numFrames nowMs =
      (render channels block (b.popFrames hasDest numFrames nowMs).1,
        renderResult block (b.popFrames hasDest numFrames nowMs).2) := by
  have monoDrained : (b.drainToTarget nowMs).config.channels = 1 := by
    rw [drainToTarget_config, mono]
  have delivered :=
    deliver_render layout numFrames numFrames
      (d := ⟨b.drainToTarget nowMs, 0, []⟩) monoDrained
  have start :
      renderDelivery channels block ⟨b.drainToTarget nowMs, 0, []⟩ =
        ⟨(render channels block b).drainToTarget nowMs, 0, []⟩ := by
    rw [drainToTarget_render]
    rfl
  rw [start] at delivered
  unfold popFrames
  rw [delivered]
  change
    (if !hasDest ∨ numFrames = 0 then _
      else if b.isBuffering ∨ !b.hasFirstPacket then _ else _) = _
  split
  · rfl
  · split
    · refine Prod.ext rfl ?_
      simp only [renderResult, mono, Nat.mul_one,
        replicate_flatMap layout.silence]
      rfl
    · rfl

end Calls

end AudioRouter.JitterBuffer
