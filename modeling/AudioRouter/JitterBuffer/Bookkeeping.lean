import AudioRouter.JitterBuffer.Invariant

/-!
# What the calls do not read

No call reads the counters, and no pop reads what a push notes of the arrivals.  A buffer
with other values there goes through the same turns and puts out the same samples.
-/

namespace AudioRouter.JitterBuffer

variable {σ : Type}

/-- Counters on top of counters. -/
def addStats (s t : JitterBufferStats) : JitterBufferStats where
  packetsReceived := s.packetsReceived + t.packetsReceived
  packetsLost := s.packetsLost + t.packetsLost
  packetsOutOfOrder := s.packetsOutOfOrder + t.packetsOutOfOrder
  packetsDuplicate := s.packetsDuplicate + t.packetsDuplicate
  underruns := s.underruns + t.underruns
  overruns := s.overruns + t.overruns
  drainedFrames := s.drainedFrames + t.drainedFrames

/-- Other values for the members that no pop reads. -/
structure Bookkeeping where
  holeFreeRun : Nat → Nat := id
  lastArrivedSeq : SeqNum → SeqNum := id
  hasLastArrivedSeq : Bool → Bool := id
  stats : JitterBufferStats := {}

namespace Bookkeeping

def on (o : Bookkeeping) (b : JitterBuffer σ) : JitterBuffer σ :=
  { b with
    holeFreeRun := o.holeFreeRun b.holeFreeRun
    lastArrivedSeq := o.lastArrivedSeq b.lastArrivedSeq
    hasLastArrivedSeq := o.hasLastArrivedSeq b.hasLastArrivedSeq
    stats := addStats o.stats b.stats }

variable (o : Bookkeeping) (b : JitterBuffer σ)

/-! ## Scans -/

theorem contiguousFrom_on : ∀ fuel i, (o.on b).contiguousFrom i fuel = b.contiguousFrom i fuel := by
  intro fuel
  induction fuel with
  | zero => exact fun _ => rfl
  | succ fuel inductionHypothesis =>
    intro i
    rw [contiguousFrom, contiguousFrom, inductionHypothesis]
    rfl

@[simp]
theorem contiguousFrames_on : (o.on b).contiguousFrames = b.contiguousFrames :=
  contiguousFrom_on o b maxSlots 0

@[simp]
theorem availableFramesUnlocked_on :
    (o.on b).availableFramesUnlocked = b.availableFramesUnlocked := by
  rw [availableFramesUnlocked, availableFramesUnlocked, contiguousFrames_on]
  rfl

theorem drainAmount_on (nowMs : Clock) : (o.on b).drainAmount nowMs = b.drainAmount nowMs := by
  have large : (o.on b).largeBacklog = b.largeBacklog := by
    rw [largeBacklog, largeBacklog, availableFramesUnlocked_on]
    rfl
  have due : (o.on b).drainDue nowMs = b.drainDue nowMs := by
    rw [drainDue, drainDue, availableFramesUnlocked_on, large]
    rfl
  rw [drainAmount, drainAmount, due, availableFramesUnlocked_on, large]
  rfl

/-! ## Pops -/

theorem advanceStep_on (frames : Nat) :
    advanceStep (frames, o.on b) =
      ((advanceStep (frames, b)).1, o.on (advanceStep (frames, b)).2) := by
  cases ready : b.headReady with
  | false =>
    have readyToo : (o.on b).headReady = false := ready
    rw [advanceStep_of_hole ready, advanceStep_of_hole readyToo]
    rfl
  | true =>
    have readyToo : (o.on b).headReady = true := ready
    by_cases inside : frames < b.headSlot.numFrames - b.slotFrameOffset
    · rw [advanceStep_of_inside ready inside, advanceStep_of_inside readyToo inside]
      rfl
    · have through := Nat.not_lt.1 inside
      rw [advanceStep_of_through ready through, advanceStep_of_through readyToo through]
      rfl

theorem advancePlayhead_on :
    ∀ (fuel frames : Nat) (b : JitterBuffer σ),
      advancePlayhead fuel (frames, o.on b) = o.on (advancePlayhead fuel (frames, b)) := by
  intro fuel
  induction fuel with
  | zero => exact fun _ _ => rfl
  | succ fuel inductionHypothesis =>
    intro frames b
    rw [advancePlayhead, advancePlayhead, advanceStep_on]
    split
    · apply inductionHypothesis
    · rfl

theorem drainToTarget_on (nowMs : Clock) :
    (o.on b).drainToTarget nowMs = o.on (b.drainToTarget nowMs) := by
  rw [drainToTarget, drainToTarget, drainAmount_on]
  dsimp only
  rw [advancePlayheadLocked, advancePlayheadLocked, advancePlayhead_on]
  split
  · rfl
  · simp only [on, addStats, Nat.add_assoc]

theorem consume_on (toCopy : Nat) : (o.on b).consume toCopy = o.on (b.consume toCopy) := by
  rw [consume, consume]
  by_cases through : b.slotFrameOffset + toCopy ≥ b.headSlot.numFrames
  · rw [if_pos through]
    exact if_pos through
  · rw [if_neg through]
    exact if_neg through

variable [Zero σ]

theorem deliverStep_on (numFrames : Nat) (d : Delivery σ) :
    deliverStep numFrames { d with buffer := o.on d.buffer } =
      { deliverStep numFrames d with buffer := o.on (deliverStep numFrames d).buffer } := by
  cases ready : d.buffer.headReady with
  | true =>
    have readyToo : ({ d with buffer := o.on d.buffer } : Delivery σ).buffer.headReady = true :=
      ready
    rw [deliverStep_of_ready ready, deliverStep_of_ready readyToo]
    dsimp only
    rw [consume_on]
    rfl
  | false =>
    have readyToo : ({ d with buffer := o.on d.buffer } : Delivery σ).buffer.headReady = false :=
      ready
    cases future : d.buffer.hasFuturePackets with
    | true =>
      have futureToo :
          ({ d with buffer := o.on d.buffer } : Delivery σ).buffer.hasFuturePackets = true := future
      rw [deliverStep_of_gap ready future, deliverStep_of_gap readyToo futureToo]
      rfl
    | false =>
      have futureToo :
          ({ d with buffer := o.on d.buffer } : Delivery σ).buffer.hasFuturePackets = false := future
      rw [deliverStep_of_dry ready future, deliverStep_of_dry readyToo futureToo]
      rfl

theorem deliver_on (numFrames : Nat) :
    ∀ (fuel : Nat) (d : Delivery σ),
      deliver numFrames fuel { d with buffer := o.on d.buffer } =
        { deliver numFrames fuel d with buffer := o.on (deliver numFrames fuel d).buffer } := by
  intro fuel
  induction fuel with
  | zero => exact fun _ => rfl
  | succ fuel inductionHypothesis =>
    intro d
    rw [deliver, deliver, deliverStep_on]
    split
    · apply inductionHypothesis
    · rfl

theorem popFrames_on (hasDest : Bool) (numFrames : Nat) (nowMs : Clock) :
    (o.on b).popFrames hasDest numFrames nowMs =
      (o.on (b.popFrames hasDest numFrames nowMs).1,
        (b.popFrames hasDest numFrames nowMs).2) := by
  by_cases asked : !hasDest ∨ numFrames = 0
  · rw [popFrames, popFrames, if_pos asked, if_pos asked]
  by_cases silent : b.isBuffering ∨ !b.hasFirstPacket
  · have silentToo : (o.on b).isBuffering ∨ !(o.on b).hasFirstPacket := silent
    rw [popFrames, popFrames, if_neg asked, if_neg asked, if_pos silent, if_pos silentToo]
    rfl
  · have silentToo : ¬ ((o.on b).isBuffering ∨ !(o.on b).hasFirstPacket) := silent
    rw [popFrames, popFrames, if_neg asked, if_neg asked, if_neg silent, if_neg silentToo,
      drainToTarget_on]
    dsimp only
    have delivered :=
      deliver_on o numFrames numFrames (⟨b.drainToTarget nowMs, 0, []⟩ : Delivery σ)
    dsimp only at delivered
    rw [delivered]

end Bookkeeping

/-! ## Pushes -/

/-- The same buffer with counters that have begun elsewhere. -/
def credit (b : JitterBuffer σ) (s : JitterBufferStats) : JitterBuffer σ :=
  ({ stats := s } : Bookkeeping).on b

section Credit

variable (b : JitterBuffer σ) (s : JitterBufferStats)

theorem landing_credit (seqNum : SeqNum) :
    (b.credit s).landing seqNum = (b.landing seqNum).credit s := by
  rw [landing, landing, followJump, followJump]
  change
    (if (b.noteArrival seqNum).seqDiff seqNum < 0 then _
      else if (b.noteArrival seqNum).seqDiff seqNum ≥ maxSlots then _ else _) = _
  split
  · rfl
  · split <;> rfl

theorem finishBuffering_credit (nowMs : Clock) :
    (b.credit s).finishBuffering nowMs = (b.finishBuffering nowMs).credit s := by
  have reached : (b.credit s).prefillReached = b.prefillReached := by
    rw [prefillReached, prefillReached, credit, Bookkeeping.contiguousFrames_on]
    rfl
  rw [finishBuffering, finishBuffering, reached]
  change (if b.isBuffering ∧ b.prefillReached then _ else _) = _
  split <;> rfl

theorem accept_credit (seqNum : SeqNum) (timestampUs : Clock) (source : Nat → σ)
    (numFrames : Nat) (nowMs : Clock) :
    (b.credit s).accept seqNum timestampUs source numFrames nowMs =
      (b.accept seqNum timestampUs source numFrames nowMs).credit s := by
  rw [accept, accept, landing_credit, ← finishBuffering_credit]
  rfl

theorem pushPacket_credit (seqNum : SeqNum) (timestampUs : Clock)
    (pcmData : Option (Nat → σ)) (numFrames : Nat) (nowMs : Clock) :
    (b.credit s).pushPacket seqNum timestampUs pcmData numFrames nowMs =
      ((b.pushPacket seqNum timestampUs pcmData numFrames nowMs).1.credit s,
        (b.pushPacket seqNum timestampUs pcmData numFrames nowMs).2) := by
  by_cases empty : numFrames = 0
  · rw [pushPacket_ignored (Or.inr empty), pushPacket_ignored (Or.inr empty)]
  cases pcmData with
  | none => rw [pushPacket_ignored (Or.inl rfl), pushPacket_ignored (Or.inl rfl)]
  | some source =>
    have positive := Nat.pos_of_ne_zero empty
    rw [pushPacket_some b seqNum timestampUs source positive nowMs,
      pushPacket_some (b.credit s) seqNum timestampUs source positive nowMs, landing_credit,
      accept_credit]
    change
      (if (b.noteArrival seqNum).IsLate seqNum then _
        else if
          ((b.landing seqNum).slots (slotIndex seqNum.toNat)).isValid ∧
            ((b.landing seqNum).slots (slotIndex seqNum.toNat)).seqNum = seqNum then _
        else _) = _
    split
    · rfl
    · split <;> rfl

/-- A call does not read the counters. -/
theorem call_credit [Zero σ] (x : Call σ) :
    (b.credit s).call x = ((b.call x).1.credit s, (b.call x).2) := by
  cases x with
  | configure config latency => rfl
  | pushPacket seqNum timestampUs pcmData numFrames nowMs =>
    rw [call, call, pushPacket_credit]
  | popFrames hasDest numFrames nowMs =>
    rw [call, call, credit, Bookkeeping.popFrames_on]
    rfl

end Credit

end AudioRouter.JitterBuffer
