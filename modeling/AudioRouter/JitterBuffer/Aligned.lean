import Mathlib.Data.BitVec
import AudioRouter.JitterBuffer.Level

/-!
# Buffers that differ in the numbering

Two buffers are `Aligned` when they hold the same packets at the same places of the window
and their playheads are a constant apart; all other members are equal.  What a slot keeps
of packets that are gone does not matter.  Every call keeps two buffers aligned, as long as
the scans of the unbroken run, which compare numbers of different widths, see the same.
-/

namespace AudioRouter.JitterBuffer

open SequenceWindow

variable {σ : Type}

/-- The same call with its sequence number moved by `k`. -/
def shiftCall (k : SeqNum) : Call σ → Call σ
  | .configure config latency => .configure config latency
  | .pushPacket seqNum timestampUs pcmData numFrames nowMs =>
      .pushPacket (seqNum + k) timestampUs pcmData numFrames nowMs
  | .popFrames hasDest numFrames nowMs => .popFrames hasDest numFrames nowMs

/-- What a caller sees of one call: its reply, and `is_ready`,
`available_frames` and the counters after it. -/
structure Observation (σ : Type) where
  reply : Reply σ
  ready : Bool
  available : Nat
  stats : JitterBufferStats

def observe (b : JitterBuffer σ) (reply : Reply σ) : Observation σ :=
  ⟨reply, b.isReady, b.availableFrames, b.stats⟩

/-- What a caller sees of a run. -/
def transcript [Zero σ] (b : JitterBuffer σ) :
    List (Call σ) → List (Observation σ)
  | [] => []
  | c :: calls =>
      (b.call c).1.observe (b.call c).2 :: transcript (b.call c).1 calls

/-- A caller that only pops. -/
def popCalls (pops : List (Bool × Nat × Clock)) : List (Call σ) :=
  pops.map fun pop => .popFrames pop.1 pop.2.1 pop.2.2

/-! ## Aligned buffers -/

/-- The members that do not depend on the numbering. -/
def plain (b : JitterBuffer σ) : JitterBuffer σ :=
  { b with slots := fun _ => {}, nextPlaySeq := 0, lastArrivedSeq := 0 }

/-- The second buffer is the first one with all numbers moved by `k`. -/
structure Aligned (k : SeqNum) (b c : JitterBuffer σ) : Prop where
  plain : c.plain = b.plain
  held : c.held = b.held
  next : b.hasFirstPacket → c.nextPlaySeq = b.nextPlaySeq + k
  last : b.hasLastArrivedSeq → c.lastArrivedSeq = b.lastArrivedSeq + k

namespace Aligned

variable {k : SeqNum} {b c : JitterBuffer σ}

/-- Whatever is read off the unnumbered members agrees. -/
theorem field (aligned : Aligned k b c) {α : Type} (read : JitterBuffer σ → α)
    (unnumbered : ∀ x : JitterBuffer σ, read x.plain = read x) :
    read c = read b := by
  rw [← unnumbered c, aligned.plain, unnumbered b]

theorem config (aligned : Aligned k b c) : c.config = b.config :=
  aligned.field (fun x => x.config) (fun _ => rfl)

theorem hasFirstPacket (aligned : Aligned k b c) :
    c.hasFirstPacket = b.hasFirstPacket :=
  aligned.field (fun x => x.hasFirstPacket) (fun _ => rfl)

theorem isBuffering (aligned : Aligned k b c) : c.isBuffering = b.isBuffering :=
  aligned.field (fun x => x.isBuffering) (fun _ => rfl)

theorem slotFrameOffset (aligned : Aligned k b c) :
    c.slotFrameOffset = b.slotFrameOffset :=
  aligned.field (fun x => x.slotFrameOffset) (fun _ => rfl)

theorem stats (aligned : Aligned k b c) : c.stats = b.stats :=
  aligned.field (fun x => x.stats) (fun _ => rfl)

/-- What the drain and the end of the prefill read besides the levels. -/
theorem timing (aligned : Aligned k b c) :
    c.startupPending = b.startupPending ∧
      c.startupTargetFrames = b.startupTargetFrames ∧
      c.targetBufferFrames = b.targetBufferFrames ∧
      c.holeFreeRun = b.holeFreeRun ∧
      c.hasLastArrivedSeq = b.hasLastArrivedSeq ∧
      c.lastDrainMs = b.lastDrainMs ∧
      c.startupCompleteMs = b.startupCompleteMs :=
  ⟨aligned.field (fun x => x.startupPending) (fun _ => rfl),
    aligned.field (fun x => x.startupTargetFrames) (fun _ => rfl),
    aligned.field (fun x => x.targetBufferFrames) (fun _ => rfl),
    aligned.field (fun x => x.holeFreeRun) (fun _ => rfl),
    aligned.field (fun x => x.hasLastArrivedSeq) (fun _ => rfl),
    aligned.field (fun x => x.lastDrainMs) (fun _ => rfl),
    aligned.field (fun x => x.startupCompleteMs) (fun _ => rfl)⟩

/-! ### Scans -/

theorem headReady (aligned : Aligned k b c) (bWf : b.WellFormed)
    (cWf : c.WellFormed) : c.headReady = b.headReady := by
  rw [Bool.eq_iff_iff, cWf.headReady_iff, bWf.headReady_iff, aligned.held]

theorem headPacket (aligned : Aligned k b c) (bWf : b.WellFormed)
    (cWf : c.WellFormed) (ready : b.headReady) :
    packetOf c.headSlot = packetOf b.headSlot := by
  have cReady : c.headReady := by rwa [aligned.headReady bWf cWf]
  have same := cWf.held_zero_of_headReady cReady
  rw [aligned.held, bWf.held_zero_of_headReady ready] at same
  exact (Option.some.inj same).symm

theorem hasFuturePackets (aligned : Aligned k b c) :
    c.hasFuturePackets = b.hasFuturePackets := by
  rw [Bool.eq_iff_iff, hasFuturePackets_iff, hasFuturePackets_iff, aligned.held]

theorem totalValidFrames (aligned : Aligned k b c) :
    c.totalValidFrames = b.totalValidFrames := by
  rw [totalValidFrames_eq, totalValidFrames_eq, heldFrames_congr aligned.held]

theorem availableFrames (aligned : Aligned k b c)
    (scan : c.contiguousFrames = b.contiguousFrames) :
    c.availableFramesUnlocked = b.availableFramesUnlocked := by
  rw [availableFramesUnlocked, availableFramesUnlocked, aligned.slotFrameOffset, scan]

/-- Where the scans see the same, a caller does. -/
theorem observe_eq (aligned : Aligned k b c) (scan : c.contiguousFrames = b.contiguousFrames)
    (reply : Reply σ) : c.observe reply = b.observe reply := by
  rw [observe, observe, isReady, isReady, aligned.isBuffering, aligned.hasFirstPacket,
    aligned.stats, JitterBuffer.availableFrames, JitterBuffer.availableFrames,
    aligned.availableFrames scan]

/-! ### Elementary updates -/

theorem leaveSlot (aligned : Aligned k b c) :
    Aligned k b.leaveSlot c.leaveSlot where
  plain := by
    change { c.plain with slotFrameOffset := 0 } =
      { b.plain with slotFrameOffset := 0 }
    rw [aligned.plain]
  held := by
    funext i
    simp only [held_leaveSlot, aligned.held]
  next first := by
    change c.nextPlaySeq + 1 = b.nextPlaySeq + 1 + k
    rw [aligned.next first, add_right_comm]
  last := aligned.last

theorem stepOverHole (aligned : Aligned k b c) :
    Aligned k b.stepOverHole c.stepOverHole where
  plain := by
    change { c.plain with slotFrameOffset := 0 } =
      { b.plain with slotFrameOffset := 0 }
    rw [aligned.plain]
  held := by
    funext i
    simp only [held_stepOverHole, aligned.held]
  next first := by
    change c.nextPlaySeq + 1 = b.nextPlaySeq + 1 + k
    rw [aligned.next first, add_right_comm]
  last := aligned.last

theorem readOn (aligned : Aligned k b c) (frames : Nat) :
    Aligned k { b with slotFrameOffset := b.slotFrameOffset + frames }
      { c with slotFrameOffset := c.slotFrameOffset + frames } where
  plain := by
    change
      { c.plain with slotFrameOffset := c.plain.slotFrameOffset + frames } =
        { b.plain with slotFrameOffset := b.plain.slotFrameOffset + frames }
    rw [aligned.plain]
  held := aligned.held
  next := aligned.next
  last := aligned.last

/-- Counters, clock readings and the buffering flag may be set alike. -/
theorem setStats (aligned : Aligned k b c) {bStats cStats : JitterBufferStats}
    (same : cStats = bStats) :
    Aligned k { b with stats := bStats } { c with stats := cStats } where
  plain := by
    change { c.plain with stats := cStats } = { b.plain with stats := bStats }
    rw [aligned.plain, same]
  held := aligned.held
  next := aligned.next
  last := aligned.last

theorem setDrained (aligned : Aligned k b c) (drop : Nat) (nowMs : Clock) :
    Aligned k
      { b with
        stats := { b.stats with drainedFrames := b.stats.drainedFrames + drop }
        lastDrainMs := nowMs }
      { c with
        stats := { c.stats with drainedFrames := c.stats.drainedFrames + drop }
        lastDrainMs := nowMs } where
  plain := by
    change
      { c.plain with
        stats :=
          { c.plain.stats with
            drainedFrames := c.plain.stats.drainedFrames + drop }
        lastDrainMs := nowMs } =
      { b.plain with
        stats :=
          { b.plain.stats with
            drainedFrames := b.plain.stats.drainedFrames + drop }
        lastDrainMs := nowMs }
    rw [aligned.plain]
  held := aligned.held
  next := aligned.next
  last := aligned.last

theorem runDry (aligned : Aligned k b c) : Aligned k b.runDry c.runDry where
  plain := by
    change
      { c.plain with
        isBuffering := true
        stats :=
          { c.plain.stats with underruns := c.plain.stats.underruns + 1 } } =
      { b.plain with
        isBuffering := true
        stats :=
          { b.plain.stats with underruns := b.plain.stats.underruns + 1 } }
    rw [aligned.plain]
  held := aligned.held
  next := aligned.next
  last := aligned.last

theorem conceal (aligned : Aligned k b c) : Aligned k b.conceal c.conceal := by
  refine leaveSlot (aligned.setStats ?_)
  rw [aligned.stats]

theorem consume (aligned : Aligned k b c) (bWf : b.WellFormed)
    (cWf : c.WellFormed) (ready : b.headReady) (toCopy : Nat) :
    Aligned k (b.consume toCopy) (c.consume toCopy) := by
  have frames := congrArg HeldPacket.numFrames (aligned.headPacket bWf cWf ready)
  change c.headSlot.numFrames = b.headSlot.numFrames at frames
  unfold JitterBuffer.consume
  rw [frames, aligned.slotFrameOffset]
  split
  · exact aligned.leaveSlot
  · have kept := aligned.readOn toCopy
    rwa [aligned.slotFrameOffset] at kept

/-! ### The drain -/

theorem advanceStep (aligned : Aligned k b c) (bWf : b.WellFormed)
    (cWf : c.WellFormed) (frames : Nat) :
    (JitterBuffer.advanceStep (frames, c)).1 =
        (JitterBuffer.advanceStep (frames, b)).1 ∧
      Aligned k (JitterBuffer.advanceStep (frames, b)).2
        (JitterBuffer.advanceStep (frames, c)).2 := by
  have sameReady := aligned.headReady bWf cWf
  cases ready : b.headReady with
  | false =>
      rw [ready] at sameReady
      rw [advanceStep_of_hole ready, advanceStep_of_hole sameReady]
      exact ⟨rfl, aligned.stepOverHole⟩
  | true =>
      rw [ready] at sameReady
      have numFrames :=
        congrArg HeldPacket.numFrames (aligned.headPacket bWf cWf ready)
      change c.headSlot.numFrames = b.headSlot.numFrames at numFrames
      have offset := aligned.slotFrameOffset
      by_cases inside : frames < b.headSlot.numFrames - b.slotFrameOffset
      · rw [advanceStep_of_inside ready inside,
          advanceStep_of_inside sameReady (by omega)]
        exact ⟨rfl, aligned.readOn frames⟩
      · rw [advanceStep_of_through ready (by omega),
          advanceStep_of_through sameReady (by omega), numFrames, offset]
        exact ⟨rfl, aligned.leaveSlot⟩

theorem advancePlayhead :
    ∀ (fuel frames : Nat) {b c : JitterBuffer σ}, Aligned k b c →
      b.WellFormed → c.WellFormed →
        Aligned k (JitterBuffer.advancePlayhead fuel (frames, b))
          (JitterBuffer.advancePlayhead fuel (frames, c)) := by
  intro fuel
  induction fuel with
  | zero => exact fun _ _ _ aligned _ _ => aligned
  | succ fuel inductionHypothesis =>
      intro frames b c aligned bWf cWf
      rw [JitterBuffer.advancePlayhead, JitterBuffer.advancePlayhead]
      by_cases more : frames > 0
      · rw [if_pos more, if_pos more]
        rcases aligned.advanceStep bWf cWf frames with ⟨sameFrames, stepped⟩
        have rest :=
          inductionHypothesis (JitterBuffer.advanceStep (frames, b)).1 stepped
            (bWf.advanceStep frames) (cWf.advanceStep frames)
        convert rest using 2
        exact Prod.ext sameFrames rfl
      · rw [if_neg more, if_neg more]
        exact aligned

theorem drainAmount (aligned : Aligned k b c)
    (scan : c.contiguousFrames = b.contiguousFrames) (nowMs : Clock) :
    c.drainAmount nowMs = b.drainAmount nowMs := by
  obtain ⟨pending, _, target, _, _, lastDrain, complete⟩ := aligned.timing
  have available := aligned.availableFrames scan
  have frames : c.framesOfMs = b.framesOfMs := by
    funext ms
    rw [framesOfMs, framesOfMs, aligned.config]
  have grace : c.pastGrace nowMs = b.pastGrace nowMs := by
    rw [pastGrace, pastGrace, complete]
  have large : c.largeBacklog = b.largeBacklog := by
    rw [largeBacklog, largeBacklog, available, target, frames]
  have due : c.drainDue nowMs = b.drainDue nowMs := by
    rw [drainDue, drainDue, pending, aligned.config, grace, available, target,
      frames, lastDrain, large]
  rw [JitterBuffer.drainAmount, JitterBuffer.drainAmount, due, available, target,
    frames, large]

theorem drainToTarget (aligned : Aligned k b c) (bWf : b.WellFormed)
    (cWf : c.WellFormed) (scan : c.contiguousFrames = b.contiguousFrames) (nowMs : Clock) :
    Aligned k (b.drainToTarget nowMs) (c.drainToTarget nowMs) := by
  simp only [JitterBuffer.drainToTarget, aligned.drainAmount scan nowMs]
  split
  · exact aligned
  · have advanced :=
      advancePlayhead (b.drainAmount nowMs) (b.drainAmount nowMs) aligned bWf cWf
    exact advanced.setDrained (b.drainAmount nowMs) nowMs

end Aligned

/-! ## Deliveries -/

section Delivery

variable [Zero σ] {k : SeqNum}

/-- Two deliveries that differ in the numbering of their buffers only. -/
structure AlignedDelivery (k : SeqNum) (d e : Delivery σ) : Prop where
  buffer : Aligned k d.buffer e.buffer
  framesDelivered : e.framesDelivered = d.framesDelivered
  dest : e.dest = d.dest
  leftWf : d.buffer.WellFormed
  rightWf : e.buffer.WellFormed

theorem AlignedDelivery.deliverStep {d e : Delivery σ}
    (aligned : AlignedDelivery k d e) (numFrames : Nat) :
    AlignedDelivery k (deliverStep numFrames d) (deliverStep numFrames e) := by
  have leftWf := deliverStep_wellFormed numFrames aligned.leftWf
  have rightWf := deliverStep_wellFormed numFrames aligned.rightWf
  have sameReady := aligned.buffer.headReady aligned.leftWf aligned.rightWf
  have config := aligned.buffer.config
  cases ready : d.buffer.headReady with
  | true =>
      rw [ready] at sameReady
      have packet :=
        aligned.buffer.headPacket aligned.leftWf aligned.rightWf ready
      have frames : e.buffer.headSlot.numFrames = d.buffer.headSlot.numFrames :=
        congrArg HeldPacket.numFrames packet
      have pcm : e.buffer.headSlot.pcmData = d.buffer.headSlot.pcmData :=
        congrArg HeldPacket.pcmData packet
      rw [deliverStep_of_ready ready] at leftWf ⊢
      rw [deliverStep_of_ready sameReady, frames, pcm, config,
        aligned.buffer.slotFrameOffset, aligned.framesDelivered,
        aligned.dest] at rightWf ⊢
      exact
        ⟨aligned.buffer.consume aligned.leftWf aligned.rightWf ready _,
          rfl, rfl, leftWf, rightWf⟩
  | false =>
      rw [ready] at sameReady
      have sameFuture := aligned.buffer.hasFuturePackets
      cases future : d.buffer.hasFuturePackets with
      | true =>
          rw [future] at sameFuture
          rw [deliverStep_of_gap ready future] at leftWf ⊢
          rw [deliverStep_of_gap sameReady sameFuture] at rightWf ⊢
          refine ⟨aligned.buffer.conceal, ?_, ?_, leftWf, rightWf⟩
          · simp only [concealFrames, config, aligned.framesDelivered]
          · simp only [concealFrames, config, aligned.framesDelivered,
              aligned.dest]
      | false =>
          rw [future] at sameFuture
          rw [deliverStep_of_dry ready future] at leftWf ⊢
          rw [deliverStep_of_dry sameReady sameFuture] at rightWf ⊢
          refine ⟨aligned.buffer.runDry, ?_, ?_, leftWf, rightWf⟩
          · simp only [aligned.framesDelivered]
          · simp only [config, aligned.framesDelivered, aligned.dest]

theorem AlignedDelivery.deliver (numFrames : Nat) :
    ∀ (fuel : Nat) {d e : Delivery σ}, AlignedDelivery k d e →
      AlignedDelivery k (deliver numFrames fuel d) (deliver numFrames fuel e) := by
  intro fuel
  induction fuel with
  | zero => exact fun aligned => aligned
  | succ fuel inductionHypothesis =>
      intro d e aligned
      rw [JitterBuffer.deliver, JitterBuffer.deliver, aligned.framesDelivered]
      split
      · exact inductionHypothesis (aligned.deliverStep numFrames)
      · exact aligned

theorem Aligned.popFrames {b c : JitterBuffer σ} (aligned : Aligned k b c)
    (bSound : b.Sound) (cSound : c.Sound)
    (scan : c.contiguousFrames = b.contiguousFrames) (hasDest : Bool) (numFrames : Nat)
    (nowMs : Clock) :
    (c.popFrames hasDest numFrames nowMs).2 =
        (b.popFrames hasDest numFrames nowMs).2 ∧
      Aligned k (b.popFrames hasDest numFrames nowMs).1
        (c.popFrames hasDest numFrames nowMs).1 := by
  unfold JitterBuffer.popFrames
  rw [aligned.isBuffering, aligned.hasFirstPacket, aligned.config]
  split
  · exact ⟨rfl, aligned⟩
  · split
    · exact ⟨rfl, aligned⟩
    · have start :
          AlignedDelivery k (⟨b.drainToTarget nowMs, 0, []⟩ : Delivery σ)
            ⟨c.drainToTarget nowMs, 0, []⟩ :=
        { buffer :=
            aligned.drainToTarget bSound.toWellFormed cSound.toWellFormed scan nowMs
          framesDelivered := rfl
          dest := rfl
          leftWf := bSound.drainToTarget nowMs
          rightWf := cSound.drainToTarget nowMs }
      have done := start.deliver numFrames numFrames
      dsimp only
      rw [done.framesDelivered, done.dest]
      exact ⟨rfl, done.buffer⟩

end Delivery

/-! ## Pushes -/

namespace Aligned

variable {k : SeqNum} {b c : JitterBuffer σ}

theorem noteArrival (aligned : Aligned k b c) (bSound : b.Sound)
    (cSound : c.Sound) (seqNum : SeqNum) :
    Aligned k (b.noteArrival seqNum) (c.noteArrival (seqNum + k)) := by
  have first := aligned.hasFirstPacket
  refine ⟨?_, ?_, fun _ => ?_, aligned.last⟩
  · change
      { c.plain with
        stats :=
          { c.plain.stats with
            packetsReceived := c.plain.stats.packetsReceived + 1 }
        hasFirstPacket := true
        isBuffering := if c.plain.hasFirstPacket then c.plain.isBuffering else true } =
      { b.plain with
        stats :=
          { b.plain.stats with
            packetsReceived := b.plain.stats.packetsReceived + 1 }
        hasFirstPacket := true
        isBuffering := if b.plain.hasFirstPacket then b.plain.isBuffering else true }
    rw [aligned.plain]
  · rw [bSound.held_noteArrival, cSound.held_noteArrival, aligned.held]
  · rw [noteArrival_nextPlaySeq, noteArrival_nextPlaySeq, first]
    split
    · exact aligned.next ‹_›
    · rfl

section Numbered

variable {seqNum : SeqNum} (aligned : Aligned k b c)
  (first : b.hasFirstPacket = true)
include aligned first

theorem seqDiff : c.seqDiff (seqNum + k) = b.seqDiff seqNum := by
  rw [JitterBuffer.seqDiff, JitterBuffer.seqDiff, aligned.next first,
    add_sub_add_right_eq_sub]

theorem ahead_eq :
    ahead c.nextPlaySeq (seqNum + k) = ahead b.nextPlaySeq seqNum := by
  rw [aligned.next first, ahead_add_right]

theorem isLate_iff : c.IsLate (seqNum + k) ↔ b.IsLate seqNum := by
  rw [IsLate, IsLate, aligned.seqDiff first]

omit first in
theorem resync :
    Aligned k (b.resync seqNum) (c.resync (seqNum + k)) where
  plain := by
    change { c.plain with isBuffering := true, slotFrameOffset := 0 } =
      { b.plain with isBuffering := true, slotFrameOffset := 0 }
    rw [aligned.plain]
  held := by
    funext i
    rw [(vacant_resync b seqNum).held, (vacant_resync c (seqNum + k)).held]
  next _ := rfl
  last := aligned.last

theorem followJump :
    Aligned k (b.followJump seqNum) (c.followJump (seqNum + k)) := by
  unfold JitterBuffer.followJump
  rw [aligned.seqDiff first]
  split
  · exact aligned.resync
  · split
    · refine Aligned.resync (aligned.setStats ?_)
      rw [aligned.stats]
    · exact aligned

theorem storePacket {timestampUs : Clock} {source : Nat → σ} {numFrames : Nat}
    (near : ahead b.nextPlaySeq seqNum < maxSlots) :
    Aligned k (b.storePacket seqNum timestampUs source numFrames)
      (c.storePacket (seqNum + k) timestampUs source numFrames) where
  plain := aligned.plain
  held := by
    have same :
        ahead c.nextPlaySeq (seqNum + k) = ahead b.nextPlaySeq seqNum :=
      aligned.ahead_eq first
    rw [held_storePacket near, held_storePacket (by rwa [same]), same,
      aligned.held, storedPacket, storedPacket, aligned.config]
  next := aligned.next
  last := aligned.last

omit first in
theorem trackArrivalRun :
    Aligned k (b.trackArrivalRun seqNum) (c.trackArrivalRun (seqNum + k)) := by
  obtain ⟨_, _, _, run, hasLast, _, _⟩ := aligned.timing
  have sameTest :
      (c.hasLastArrivedSeq ∧ seqNum + k = c.lastArrivedSeq + 1) ↔
        (b.hasLastArrivedSeq ∧ seqNum = b.lastArrivedSeq + 1) := by
    rw [hasLast]
    refine and_congr_right fun seen => ?_
    rw [aligned.last seen, add_right_comm, add_left_inj]
  refine ⟨?_, aligned.held, aligned.next, fun _ => rfl⟩
  change
    { c.plain with
      holeFreeRun :=
        if c.hasLastArrivedSeq ∧ seqNum + k = c.lastArrivedSeq + 1 then
          c.holeFreeRun + 1
        else 1
      hasLastArrivedSeq := true } =
    { b.plain with
      holeFreeRun :=
        if b.hasLastArrivedSeq ∧ seqNum = b.lastArrivedSeq + 1 then
          b.holeFreeRun + 1
        else 1
      hasLastArrivedSeq := true }
  rw [aligned.plain, if_congr sameTest rfl rfl, run]

end Numbered

theorem finishBuffering (aligned : Aligned k b c)
    (scan : c.contiguousFrames = b.contiguousFrames) (nowMs : Clock) :
    Aligned k (b.finishBuffering nowMs) (c.finishBuffering nowMs) := by
  obtain ⟨pending, startup, target, run, _, _, _⟩ := aligned.timing
  have reached : c.prefillReached = b.prefillReached := by
    rw [prefillReached, prefillReached, pending, startup, target, run,
      scan, aligned.totalValidFrames]
  unfold JitterBuffer.finishBuffering
  rw [aligned.isBuffering, reached]
  split
  · refine ⟨?_, aligned.held, aligned.next, aligned.last⟩
    change
      { c.plain with
        isBuffering := false
        startupPending := false
        startupCompleteMs :=
          if c.plain.startupPending then nowMs else c.plain.startupCompleteMs } =
      { b.plain with
        isBuffering := false
        startupPending := false
        startupCompleteMs :=
          if b.plain.startupPending then nowMs else b.plain.startupCompleteMs }
    rw [aligned.plain]
  · exact aligned

end Aligned

/-! ## One push -/

theorem Aligned.landing {k : SeqNum} {b c : JitterBuffer σ}
    (aligned : Aligned k b c) (bSound : b.Sound) (cSound : c.Sound)
    (seqNum : SeqNum) :
    Aligned k (b.landing seqNum) (c.landing (seqNum + k)) :=
  (aligned.noteArrival bSound cSound seqNum).followJump rfl

theorem Aligned.accept {R : JitterBuffer σ → JitterBuffer σ → Prop} {k : SeqNum}
    {b c : JitterBuffer σ}
    (aligned : Aligned k b c) (bSound : b.Sound) (cSound : c.Sound)
    {seqNum : SeqNum} {timestampUs : Clock} {source : Nat → σ} {numFrames : Nat}
    (positive : 1 ≤ numFrames)
    (absent :
      (b.landing seqNum).held
        (ahead (b.landing seqNum).nextPlaySeq seqNum) = none)
    {nowMs : Clock}
    (finishes : ∀ b c : JitterBuffer σ, Aligned k b c → b.WellFormed → c.WellFormed →
      b.hasFirstPacket = true → R (b.finishBuffering nowMs) (c.finishBuffering nowMs)) :
    R (b.accept seqNum timestampUs source numFrames nowMs)
      (c.accept (seqNum + k) timestampUs source numFrames nowMs) := by
  have landed := aligned.landing bSound cSound seqNum
  have first := landing_hasFirstPacket b seqNum
  have bNear := ahead_landing b seqNum
  have cNear := ahead_landing c (seqNum + k)
  have cAbsent :
      (c.landing (seqNum + k)).held
        (ahead (c.landing (seqNum + k)).nextPlaySeq (seqNum + k)) = none := by
    rw [landed.ahead_eq first, landed.held]
    exact absent
  have bStored :
      ((b.landing seqNum).storePacket seqNum timestampUs source numFrames).WellFormed :=
    (bSound.landing seqNum).storePacket bNear absent positive
  have cStored :
      ((c.landing (seqNum + k)).storePacket (seqNum + k) timestampUs source
        numFrames).WellFormed :=
    (cSound.landing (seqNum + k)).storePacket cNear cAbsent positive
  have stored :
      Aligned k ((b.landing seqNum).storePacket seqNum timestampUs source numFrames)
        ((c.landing (seqNum + k)).storePacket (seqNum + k) timestampUs source
          numFrames) :=
    landed.storePacket first bNear
  have tracked :
      Aligned k
        (((b.landing seqNum).storePacket seqNum timestampUs source
          numFrames).trackArrivalRun seqNum)
        (((c.landing (seqNum + k)).storePacket (seqNum + k) timestampUs source
          numFrames).trackArrivalRun (seqNum + k)) :=
    stored.trackArrivalRun
  exact
    finishes _ _ tracked (bStored.trackArrivalRun seqNum)
      (cStored.trackArrivalRun (seqNum + k)) first

/-- Both pushes answer alike, because all their tests agree; what the end of the prefill,
which scans the buffers, makes of aligned buffers is left open. -/
theorem Aligned.pushPacket {R : JitterBuffer σ → JitterBuffer σ → Prop} {k : SeqNum}
    {b c : JitterBuffer σ}
    (aligned : Aligned k b c) (bSound : b.Sound) (cSound : c.Sound)
    (seqNum : SeqNum) (timestampUs : Clock) (pcmData : Option (Nat → σ))
    (numFrames : Nat) (nowMs : Clock)
    (kept : ∀ b c : JitterBuffer σ, Aligned k b c → R b c)
    (finishes : ∀ b c : JitterBuffer σ, Aligned k b c → b.WellFormed → c.WellFormed →
      b.hasFirstPacket = true → R (b.finishBuffering nowMs) (c.finishBuffering nowMs)) :
    (c.pushPacket (seqNum + k) timestampUs pcmData numFrames nowMs).2 =
        (b.pushPacket seqNum timestampUs pcmData numFrames nowMs).2 ∧
      R (b.pushPacket seqNum timestampUs pcmData numFrames nowMs).1
        (c.pushPacket (seqNum + k) timestampUs pcmData numFrames nowMs).1 := by
  by_cases noData : pcmData = none ∨ numFrames = 0
  · rw [pushPacket_ignored noData, pushPacket_ignored noData]
    exact ⟨rfl, kept _ _ aligned⟩
  obtain ⟨source, rfl⟩ : ∃ source, pcmData = some source :=
    Option.ne_none_iff_exists'.1 fun none => noData (Or.inl none)
  have positive : 1 ≤ numFrames := by
    by_contra few
    exact noData (Or.inr (by omega))
  have arrived := aligned.noteArrival bSound cSound seqNum
  have landed := aligned.landing bSound cSound seqNum
  have sameLate :
      (c.noteArrival (seqNum + k)).IsLate (seqNum + k) ↔
        (b.noteArrival seqNum).IsLate seqNum :=
    arrived.isLate_iff rfl
  have sameAhead :
      ahead (c.landing (seqNum + k)).nextPlaySeq (seqNum + k) =
        ahead (b.landing seqNum).nextPlaySeq seqNum :=
    landed.ahead_eq (landing_hasFirstPacket b seqNum)
  rw [bSound.pushPacket_eq seqNum timestampUs source positive nowMs,
    cSound.pushPacket_eq (seqNum + k) timestampUs source positive nowMs,
    if_congr sameLate rfl rfl, sameAhead, landed.held]
  split
  · refine ⟨rfl, kept _ _ (arrived.setStats ?_)⟩
    rw [arrived.stats]
  · split
    · refine ⟨rfl, kept _ _ (landed.setStats ?_)⟩
      rw [landed.stats]
    · rename_i absent
      exact
        ⟨rfl, aligned.accept bSound cSound positive
          (Option.not_isSome_iff_eq_none.1 absent) finishes⟩

theorem Aligned.configure {k : SeqNum} {b c : JitterBuffer σ}
    (aligned : Aligned k b c) (config : AudioConfig) (latency : Nat) :
    Aligned k (b.configure config latency) (c.configure config latency) where
  plain := by
    change (c.plain.configure config latency).plain =
      (b.plain.configure config latency).plain
    rw [aligned.plain]
  held := by
    funext i
    rw [(vacant_configure b config latency).held,
      (vacant_configure c config latency).held]
  next first := by cases first
  last seen := by cases seen

end AudioRouter.JitterBuffer
