import Mathlib.Logic.Function.Iterate
import AudioRouter.JitterBuffer.Window

/-!
# The invariant of every reachable buffer

`Sound` adds to the representation invariant that no slot is valid before the
first packet.  Every call preserves it, and so does every turn of the two loops
of `pop_frames`.
-/

namespace AudioRouter.JitterBuffer

open SequenceWindow

variable {σ : Type}

/-- What holds between two calls. -/
structure Sound (b : JitterBuffer σ) : Prop extends WellFormed b where
  fresh : b.hasFirstPacket = false → b.Vacant

/-- Counters do not matter. -/
theorem Sound.setStats {b : JitterBuffer σ} (sound : b.Sound)
    (stats : JitterBufferStats) : { b with stats := stats }.Sound :=
  ⟨sound.toWellFormed.congr rfl rfl rfl rfl, sound.fresh⟩

/-! ## The parts of `push_packet` -/

section Push

variable {b : JitterBuffer σ} {seqNum : SeqNum}

@[simp]
theorem noteArrival_slots (b : JitterBuffer σ) (seqNum : SeqNum) :
    (b.noteArrival seqNum).slots = b.slots := rfl

@[simp]
theorem noteArrival_config (b : JitterBuffer σ) (seqNum : SeqNum) :
    (b.noteArrival seqNum).config = b.config := rfl

theorem noteArrival_nextPlaySeq (b : JitterBuffer σ) (seqNum : SeqNum) :
    (b.noteArrival seqNum).nextPlaySeq =
      if b.hasFirstPacket then b.nextPlaySeq else seqNum := rfl

theorem Sound.noteArrival (sound : b.Sound) (seqNum : SeqNum) :
    (b.noteArrival seqNum).WellFormed := by
  cases first : b.hasFirstPacket with
  | true =>
      refine sound.toWellFormed.congr rfl rfl ?_ rfl
      simp [noteArrival_nextPlaySeq, first]
  | false =>
      have vacant := sound.fresh first
      exact Vacant.wellFormed vacant (sound.offsetZero (vacant _))

theorem Sound.arrived (sound : b.Sound) (seqNum : SeqNum) :
    (b.noteArrival seqNum).Sound :=
  ⟨sound.noteArrival seqNum, fun first => by cases first⟩

/-- The first packet moves the playhead of an empty window only. -/
theorem Sound.held_noteArrival (sound : b.Sound) (seqNum : SeqNum) :
    (b.noteArrival seqNum).held = b.held := by
  cases first : b.hasFirstPacket with
  | true =>
      refine held_congr rfl ?_
      simp [noteArrival_nextPlaySeq, first]
  | false =>
      have vacant := sound.fresh first
      have arrived : (b.noteArrival seqNum).Vacant := vacant
      funext i
      rw [arrived.held, vacant.held]

/-- `push_packet` drops a packet as late. -/
def IsLate (b : JitterBuffer σ) (seqNum : SeqNum) : Prop :=
  b.seqDiff seqNum < 0 ∧ b.seqDiff seqNum > -(maxSlots : Int)

/-- The packet lies outside of the window, so that the playhead follows it. -/
def IsJump (b : JitterBuffer σ) (seqNum : SeqNum) : Prop :=
  b.seqDiff seqNum < 0 ∨ b.seqDiff seqNum ≥ maxSlots

instance (b : JitterBuffer σ) (seqNum : SeqNum) : Decidable (b.IsLate seqNum) :=
  inferInstanceAs (Decidable (_ ∧ _))

instance (b : JitterBuffer σ) (seqNum : SeqNum) : Decidable (b.IsJump seqNum) :=
  inferInstanceAs (Decidable (_ ∨ _))

theorem ahead_lt_of_not_isJump (stays : ¬ b.IsJump seqNum) :
    ahead b.nextPlaySeq seqNum < maxSlots := by
  simp only [IsJump, seqDiff, not_or, not_lt, not_le, ge_iff_le] at stays
  have same := toInt_sub_eq_ahead stays.1
  omega

theorem followJump_of_not_isJump (stays : ¬ b.IsJump seqNum) :
    b.followJump seqNum = b := by
  simp only [IsJump, not_or] at stays
  rw [followJump, if_neg stays.1, if_neg stays.2]

/-- A jump leaves an empty window whose playhead is the packet. -/
theorem followJump_of_isJump (jumps : b.IsJump seqNum) :
    (b.followJump seqNum).Vacant ∧
      (b.followJump seqNum).nextPlaySeq = seqNum ∧
      (b.followJump seqNum).slotFrameOffset = 0 ∧
      (b.followJump seqNum).config = b.config := by
  unfold followJump
  split
  · exact ⟨vacant_resync _ _, rfl, rfl, rfl⟩
  · have ahead : b.seqDiff seqNum ≥ maxSlots := jumps.resolve_left ‹_›
    rw [if_pos ahead]
    exact ⟨vacant_resync _ _, rfl, rfl, rfl⟩

theorem followJump_hasFirstPacket (b : JitterBuffer σ) (seqNum : SeqNum) :
    (b.followJump seqNum).hasFirstPacket = b.hasFirstPacket := by
  unfold followJump
  split
  · rfl
  · split <;> rfl

theorem WellFormed.followJump (wf : b.WellFormed) (seqNum : SeqNum) :
    (b.followJump seqNum).WellFormed := by
  by_cases jumps : b.IsJump seqNum
  · obtain ⟨vacant, _, offset, _⟩ := followJump_of_isJump jumps
    exact vacant.wellFormed offset
  · rw [followJump_of_not_isJump jumps]
    exact wf

theorem ahead_followJump (b : JitterBuffer σ) (seqNum : SeqNum) :
    ahead (b.followJump seqNum).nextPlaySeq seqNum < maxSlots := by
  by_cases jumps : b.IsJump seqNum
  · rw [(followJump_of_isJump jumps).2.1, ahead_self]
    decide
  · rw [followJump_of_not_isJump jumps]
    exact ahead_lt_of_not_isJump jumps

/-- Where a push puts its packet: the buffer after the arrival has been counted
and the playhead has followed a jump. -/
def landing (b : JitterBuffer σ) (seqNum : SeqNum) : JitterBuffer σ :=
  (b.noteArrival seqNum).followJump seqNum

theorem Sound.landing (sound : b.Sound) (seqNum : SeqNum) :
    (b.landing seqNum).WellFormed :=
  (sound.noteArrival seqNum).followJump seqNum

theorem ahead_landing (b : JitterBuffer σ) (seqNum : SeqNum) :
    ahead (b.landing seqNum).nextPlaySeq seqNum < maxSlots :=
  ahead_followJump _ _

theorem landing_hasFirstPacket (b : JitterBuffer σ) (seqNum : SeqNum) :
    (b.landing seqNum).hasFirstPacket = true := by
  rw [landing, followJump_hasFirstPacket]
  rfl

theorem Sound.landed (sound : b.Sound) (seqNum : SeqNum) :
    (b.landing seqNum).Sound :=
  ⟨sound.landing seqNum, fun first => by
    rw [landing_hasFirstPacket] at first
    cases first⟩

theorem landing_config (b : JitterBuffer σ) (seqNum : SeqNum) :
    (b.landing seqNum).config = b.config := by
  by_cases jumps : (b.noteArrival seqNum).IsJump seqNum
  · rw [landing, (followJump_of_isJump jumps).2.2.2, noteArrival_config]
  · rw [landing, followJump_of_not_isJump jumps, noteArrival_config]

@[simp]
theorem trackArrivalRun_slots (b : JitterBuffer σ) (seqNum : SeqNum) :
    (b.trackArrivalRun seqNum).slots = b.slots := rfl

/-- What the end of the prefill does not touch is untouched at the end of a push. -/
theorem finishBuffering_keeps {α : Type} (read : JitterBuffer σ → α) (b : JitterBuffer σ)
    (nowMs : Clock)
    (ends :
      ∀ completeMs : Clock,
        read
            { b with
              isBuffering := false
              startupPending := false
              startupCompleteMs := completeMs } =
          read b) :
    read (b.finishBuffering nowMs) = read b := by
  unfold finishBuffering
  split
  · exact ends _
  · rfl

@[simp]
theorem finishBuffering_slots (b : JitterBuffer σ) (nowMs : Clock) :
    (b.finishBuffering nowMs).slots = b.slots :=
  finishBuffering_keeps (·.slots) b nowMs fun _ => rfl

@[simp]
theorem finishBuffering_nextPlaySeq (b : JitterBuffer σ) (nowMs : Clock) :
    (b.finishBuffering nowMs).nextPlaySeq = b.nextPlaySeq :=
  finishBuffering_keeps (·.nextPlaySeq) b nowMs fun _ => rfl

@[simp]
theorem finishBuffering_slotFrameOffset (b : JitterBuffer σ) (nowMs : Clock) :
    (b.finishBuffering nowMs).slotFrameOffset = b.slotFrameOffset :=
  finishBuffering_keeps (·.slotFrameOffset) b nowMs fun _ => rfl

@[simp]
theorem finishBuffering_config (b : JitterBuffer σ) (nowMs : Clock) :
    (b.finishBuffering nowMs).config = b.config :=
  finishBuffering_keeps (·.config) b nowMs fun _ => rfl

@[simp]
theorem finishBuffering_hasFirstPacket (b : JitterBuffer σ) (nowMs : Clock) :
    (b.finishBuffering nowMs).hasFirstPacket = b.hasFirstPacket :=
  finishBuffering_keeps (·.hasFirstPacket) b nowMs fun _ => rfl

theorem WellFormed.trackArrivalRun (wf : b.WellFormed) (seqNum : SeqNum) :
    (b.trackArrivalRun seqNum).WellFormed :=
  wf.congr rfl rfl rfl rfl

theorem WellFormed.finishBuffering (wf : b.WellFormed) (nowMs : Clock) :
    (b.finishBuffering nowMs).WellFormed :=
  wf.congr (congrArg AudioConfig.channels (finishBuffering_config b nowMs))
    (finishBuffering_slots b nowMs) (finishBuffering_nextPlaySeq b nowMs)
    (finishBuffering_slotFrameOffset b nowMs)

theorem finishBuffering_stats (b : JitterBuffer σ) (nowMs : Clock) :
    (b.finishBuffering nowMs).stats = b.stats :=
  finishBuffering_keeps (·.stats) b nowMs fun _ => rfl

/-- The buffer after an accepted push. -/
def accept (b : JitterBuffer σ) (seqNum : SeqNum) (timestampUs : Clock)
    (source : Nat → σ) (numFrames : Nat) (nowMs : Clock) : JitterBuffer σ :=
  (((b.landing seqNum).storePacket seqNum timestampUs source
    numFrames).trackArrivalRun seqNum).finishBuffering nowMs

theorem held_finishBuffering (b : JitterBuffer σ) (nowMs : Clock) :
    (b.finishBuffering nowMs).held = b.held :=
  held_congr (finishBuffering_slots b nowMs) (finishBuffering_nextPlaySeq b nowMs)

section Accept

variable {timestampUs : Clock} {source : Nat → σ} {numFrames : Nat}
  {nowMs : Clock}

theorem held_accept :
    (b.accept seqNum timestampUs source numFrames nowMs).held =
      Function.update (b.landing seqNum).held
        (ahead (b.landing seqNum).nextPlaySeq seqNum)
        (some ((b.landing seqNum).storedPacket source numFrames)) := by
  rw [accept, held_finishBuffering]
  exact held_storePacket (ahead_landing b seqNum)

theorem accept_nextPlaySeq :
    (b.accept seqNum timestampUs source numFrames nowMs).nextPlaySeq =
      (b.landing seqNum).nextPlaySeq := by
  rw [accept, finishBuffering_nextPlaySeq]
  rfl

theorem accept_hasFirstPacket :
    (b.accept seqNum timestampUs source numFrames nowMs).hasFirstPacket = true := by
  rw [accept, finishBuffering_hasFirstPacket, ← landing_hasFirstPacket b seqNum]
  rfl

theorem accept_slotFrameOffset :
    (b.accept seqNum timestampUs source numFrames nowMs).slotFrameOffset =
      (b.landing seqNum).slotFrameOffset := by
  rw [accept, finishBuffering_slotFrameOffset]
  rfl

theorem accept_config :
    (b.accept seqNum timestampUs source numFrames nowMs).config = b.config := by
  rw [accept, finishBuffering_config, ← landing_config b seqNum]
  rfl

theorem accept_stats :
    (b.accept seqNum timestampUs source numFrames nowMs).stats = (b.landing seqNum).stats := by
  rw [accept, finishBuffering_stats]
  rfl

end Accept

/-- What neither the arrival nor a jump touches is untouched where a push lands. -/
theorem landing_keeps {α : Type} (read : JitterBuffer σ → α) (b : JitterBuffer σ)
    (seqNum : SeqNum) (arrives : read (b.noteArrival seqNum) = read b)
    (overrun :
      ∀ b : JitterBuffer σ,
        read { b with stats := { b.stats with overruns := b.stats.overruns + 1 } } = read b)
    (resync : ∀ b : JitterBuffer σ, read (b.resync seqNum) = read b) :
    read (b.landing seqNum) = read b := by
  rw [landing, followJump]
  split
  · exact (resync _).trans arrives
  · split
    · exact (resync _).trans ((overrun _).trans arrives)
    · exact arrives

theorem landing_drainedFrames (b : JitterBuffer σ) (seqNum : SeqNum) :
    (b.landing seqNum).stats.drainedFrames = b.stats.drainedFrames :=
  landing_keeps (fun c => c.stats.drainedFrames) b seqNum rfl (fun _ => rfl) fun _ => rfl

theorem accept_drainedFrames {timestampUs : Clock} {source : Nat → σ}
    {numFrames : Nat} {nowMs : Clock} :
    (b.accept seqNum timestampUs source numFrames nowMs).stats.drainedFrames =
      b.stats.drainedFrames := by
  rw [accept_stats, landing_drainedFrames]

/-- Counts a packet that came too late. -/
def countLate (b : JitterBuffer σ) : JitterBuffer σ :=
  { b with
    stats :=
      { b.stats with packetsOutOfOrder := b.stats.packetsOutOfOrder + 1 } }

/-- Counts a packet that is there already. -/
def countDuplicate (b : JitterBuffer σ) : JitterBuffer σ :=
  { b with
    stats := { b.stats with packetsDuplicate := b.stats.packetsDuplicate + 1 } }

/-- `push_packet` on a packet with samples, as its three exits. -/
theorem pushPacket_some (b : JitterBuffer σ) (seqNum : SeqNum)
    (timestampUs : Clock) (source : Nat → σ) {numFrames : Nat}
    (positive : 1 ≤ numFrames) (nowMs : Clock) :
    b.pushPacket seqNum timestampUs (some source) numFrames nowMs =
      if (b.noteArrival seqNum).IsLate seqNum then
        ((b.noteArrival seqNum).countLate, false)
      else if
        ((b.landing seqNum).slots (slotIndex seqNum.toNat)).isValid ∧
          ((b.landing seqNum).slots (slotIndex seqNum.toNat)).seqNum = seqNum then
        ((b.landing seqNum).countDuplicate, false)
      else (b.accept seqNum timestampUs source numFrames nowMs, true) := by
  unfold pushPacket
  dsimp only
  rw [if_neg (by omega : ¬ numFrames = 0)]
  rfl

/-- On a sound buffer the second exit is taken by a number that the window
holds. -/
theorem Sound.pushPacket_eq (sound : b.Sound) (seqNum : SeqNum)
    (timestampUs : Clock) (source : Nat → σ) {numFrames : Nat}
    (positive : 1 ≤ numFrames) (nowMs : Clock) :
    b.pushPacket seqNum timestampUs (some source) numFrames nowMs =
      if (b.noteArrival seqNum).IsLate seqNum then
        ((b.noteArrival seqNum).countLate, false)
      else if
        ((b.landing seqNum).held
          (ahead (b.landing seqNum).nextPlaySeq seqNum)).isSome then
        ((b.landing seqNum).countDuplicate, false)
      else (b.accept seqNum timestampUs source numFrames nowMs, true) := by
  have test := (sound.landing seqNum).duplicate_iff (ahead_landing b seqNum)
  rw [pushPacket_some b seqNum timestampUs source positive nowMs]
  refine if_congr Iff.rfl rfl ?_
  exact if_congr test rfl rfl

/-- The four ways a push ends. -/
inductive PushOutcome (b : JitterBuffer σ) (seqNum : SeqNum)
    (timestampUs : Clock) (pcmData : Option (Nat → σ)) (numFrames : Nat)
    (nowMs : Clock) : JitterBuffer σ × Bool → Prop
  | ignored (noData : pcmData = none ∨ numFrames = 0) :
      PushOutcome b seqNum timestampUs pcmData numFrames nowMs (b, false)
  | late (isLate : (b.noteArrival seqNum).IsLate seqNum) :
      PushOutcome b seqNum timestampUs pcmData numFrames nowMs
        ((b.noteArrival seqNum).countLate, false)
  | duplicate (inTime : ¬ (b.noteArrival seqNum).IsLate seqNum)
      (present :
        ((b.landing seqNum).held
          (ahead (b.landing seqNum).nextPlaySeq seqNum)).isSome) :
      PushOutcome b seqNum timestampUs pcmData numFrames nowMs
        ((b.landing seqNum).countDuplicate, false)
  | stored (source : Nat → σ) (data : pcmData = some source)
      (positive : 1 ≤ numFrames)
      (inTime : ¬ (b.noteArrival seqNum).IsLate seqNum)
      (absent :
        (b.landing seqNum).held
          (ahead (b.landing seqNum).nextPlaySeq seqNum) = none) :
      PushOutcome b seqNum timestampUs pcmData numFrames nowMs
        (b.accept seqNum timestampUs source numFrames nowMs, true)

theorem pushPacket_ignored {timestampUs : Clock} {pcmData : Option (Nat → σ)}
    {numFrames : Nat} {nowMs : Clock} (noData : pcmData = none ∨ numFrames = 0) :
    b.pushPacket seqNum timestampUs pcmData numFrames nowMs = (b, false) := by
  unfold pushPacket
  cases pcmData with
  | none => rfl
  | some source => exact if_pos (noData.resolve_left (by simp))

/-- Every push on a sound buffer ends in one of the four ways. -/
theorem Sound.pushPacket_outcome (sound : b.Sound) (seqNum : SeqNum)
    (timestampUs : Clock) (pcmData : Option (Nat → σ)) (numFrames : Nat)
    (nowMs : Clock) :
    PushOutcome b seqNum timestampUs pcmData numFrames nowMs
      (b.pushPacket seqNum timestampUs pcmData numFrames nowMs) := by
  by_cases noData : pcmData = none ∨ numFrames = 0
  · rw [pushPacket_ignored noData]
    exact .ignored noData
  · obtain ⟨source, rfl⟩ : ∃ source, pcmData = some source :=
      Option.ne_none_iff_exists'.1 fun none => noData (Or.inl none)
    have positive : 1 ≤ numFrames := by
      by_contra few
      exact noData (Or.inr (by omega))
    rw [sound.pushPacket_eq seqNum timestampUs source positive nowMs]
    split
    · exact .late ‹_›
    · split
      · exact .duplicate ‹_› ‹_›
      · refine .stored source rfl positive ‹_› ?_
        exact Option.not_isSome_iff_eq_none.1 ‹_›

theorem Sound.accept (sound : b.Sound) {timestampUs : Clock}
    {source : Nat → σ} {numFrames : Nat} {nowMs : Clock}
    (positive : 1 ≤ numFrames)
    (absent :
      (b.landing seqNum).held
        (ahead (b.landing seqNum).nextPlaySeq seqNum) = none) :
    (b.accept seqNum timestampUs source numFrames nowMs).Sound := by
  have stored :
      ((b.landing seqNum).storePacket seqNum timestampUs source numFrames).WellFormed :=
    (sound.landing seqNum).storePacket (ahead_landing b seqNum) absent positive
  refine ⟨(stored.trackArrivalRun seqNum).finishBuffering nowMs, fun first => ?_⟩
  rw [accept_hasFirstPacket] at first
  cases first

theorem Sound.pushPacket (sound : b.Sound) (seqNum : SeqNum)
    (timestampUs : Clock) (pcmData : Option (Nat → σ)) (numFrames : Nat)
    (nowMs : Clock) :
    (b.pushPacket seqNum timestampUs pcmData numFrames nowMs).1.Sound := by
  have outcome := sound.pushPacket_outcome seqNum timestampUs pcmData numFrames nowMs
  generalize b.pushPacket seqNum timestampUs pcmData numFrames nowMs = r at outcome
  cases outcome with
  | ignored _ => exact sound
  | late _ => exact (sound.arrived seqNum).setStats _
  | duplicate _ _ => exact (sound.landed seqNum).setStats _
  | stored source _ positive _ absent => exact sound.accept positive absent

/-- An accepted push leaves every packet that is still in the window as it was:
it writes to a free slot. -/
theorem accept_keeps {timestampUs : Clock}
    {source : Nat → σ} {numFrames : Nat} {nowMs : Clock}
    (absent :
      (b.landing seqNum).held
        (ahead (b.landing seqNum).nextPlaySeq seqNum) = none)
    (i : Fin maxSlots) (valid : ((b.landing seqNum).slots i).isValid) :
    (b.accept seqNum timestampUs source numFrames nowMs).slots i =
      (b.landing seqNum).slots i := by
  have free := slot_free (ahead_landing b seqNum) absent
  have different : i ≠ slotIndex seqNum.toNat := by
    rintro rfl
    simp [free] at valid
  simp [JitterBuffer.accept, storePacket, Function.update_of_ne different]

end Push

/-! ## The loops of `pop_frames` -/

section Pop

variable {b : JitterBuffer σ}

theorem advanceStep_of_inside {frames : Nat} (ready : b.headReady)
    (inside : frames < b.headSlot.numFrames - b.slotFrameOffset) :
    advanceStep (frames, b) =
      (0, { b with slotFrameOffset := b.slotFrameOffset + frames }) := by
  simp [advanceStep, ready, inside]

theorem advanceStep_of_through {frames : Nat} (ready : b.headReady)
    (through : b.headSlot.numFrames - b.slotFrameOffset ≤ frames) :
    advanceStep (frames, b) =
      (frames - (b.headSlot.numFrames - b.slotFrameOffset), b.leaveSlot) := by
  simp [advanceStep, ready, Nat.not_lt.2 through]

theorem advanceStep_of_hole {frames : Nat} (notReady : b.headReady = false) :
    advanceStep (frames, b) = (frames, b.stepOverHole) := by
  simp [advanceStep, notReady]

theorem WellFormed.advanceStep (wf : b.WellFormed) (frames : Nat) :
    (advanceStep (frames, b)).2.WellFormed := by
  cases ready : b.headReady with
  | false =>
      rw [advanceStep_of_hole ready]
      exact wf.stepOverHole
  | true =>
      by_cases inside : frames < b.headSlot.numFrames - b.slotFrameOffset
      · rw [advanceStep_of_inside ready inside]
        exact wf.readOn ready (by omega)
      · rw [advanceStep_of_through ready (Nat.not_lt.1 inside)]
        exact wf.leaveSlot

theorem WellFormed.advanceStep_iterate (wf : b.WellFormed) (frames n : Nat) :
    ((JitterBuffer.advanceStep^[n]) (frames, b)).2.WellFormed := by
  induction n with
  | zero => exact wf
  | succ n inductionHypothesis =>
      rw [Function.iterate_succ_apply']
      exact inductionHypothesis.advanceStep _

/-- The loop is its step, iterated. -/
theorem advancePlayhead_eq_iterate (fuel : Nat) (p : Nat × JitterBuffer σ) :
    ∃ n ≤ fuel, advancePlayhead fuel p = ((advanceStep^[n]) p).2 := by
  induction fuel generalizing p with
  | zero => exact ⟨0, Nat.le_refl 0, rfl⟩
  | succ fuel inductionHypothesis =>
      rw [advancePlayhead]
      split
      · obtain ⟨n, bound, same⟩ := inductionHypothesis (advanceStep p)
        exact ⟨n + 1, by omega, same⟩
      · exact ⟨0, by omega, rfl⟩

theorem WellFormed.advancePlayheadLocked (wf : b.WellFormed) (frames : Nat) :
    (b.advancePlayheadLocked frames).WellFormed := by
  obtain ⟨n, _, same⟩ := advancePlayhead_eq_iterate frames (frames, b)
  rw [JitterBuffer.advancePlayheadLocked, same]
  exact wf.advanceStep_iterate frames n

theorem WellFormed.drainToTarget (wf : b.WellFormed) (nowMs : Clock) :
    (b.drainToTarget nowMs).WellFormed := by
  unfold JitterBuffer.drainToTarget
  dsimp only
  split
  · exact wf
  · exact (wf.advancePlayheadLocked _).congr rfl rfl rfl rfl

/-- Whatever no turn of the loop touches is untouched by the loop. -/
theorem advancePlayhead_keeps {α : Type} (read : JitterBuffer σ → α)
    (leave : ∀ b, read b.leaveSlot = read b)
    (hole : ∀ b, read b.stepOverHole = read b)
    (readOn : ∀ b offset, read { b with slotFrameOffset := offset } = read b) :
    ∀ (fuel : Nat) (p : Nat × JitterBuffer σ),
      read (advancePlayhead fuel p) = read p.2 := by
  intro fuel
  induction fuel with
  | zero => exact fun _ => rfl
  | succ fuel inductionHypothesis =>
      intro p
      rw [advancePlayhead]
      split
      · rw [inductionHypothesis, advanceStep]
        dsimp only
        split
        · split
          · exact readOn _ _
          · exact leave _
        · exact hole _
      · rfl

theorem drainToTarget_keeps {α : Type} (read : JitterBuffer σ → α)
    (leave : ∀ b, read b.leaveSlot = read b)
    (hole : ∀ b, read b.stepOverHole = read b)
    (readOn : ∀ b offset, read { b with slotFrameOffset := offset } = read b)
    (drained :
      ∀ b stats nowMs, read { b with stats := stats, lastDrainMs := nowMs } = read b)
    (b : JitterBuffer σ) (nowMs : Clock) : read (b.drainToTarget nowMs) = read b := by
  rw [JitterBuffer.drainToTarget]
  dsimp only
  split
  · rfl
  · exact (drained _ _ _).trans (advancePlayhead_keeps read leave hole readOn _ _)

theorem drainToTarget_hasFirstPacket (b : JitterBuffer σ) (nowMs : Clock) :
    (b.drainToTarget nowMs).hasFirstPacket = b.hasFirstPacket :=
  drainToTarget_keeps JitterBuffer.hasFirstPacket (fun _ => rfl) (fun _ => rfl)
    (fun _ _ => rfl) (fun _ _ _ => rfl) b nowMs

theorem drainToTarget_config (b : JitterBuffer σ) (nowMs : Clock) :
    (b.drainToTarget nowMs).config = b.config :=
  drainToTarget_keeps JitterBuffer.config (fun _ => rfl) (fun _ => rfl) (fun _ _ => rfl)
    (fun _ _ _ => rfl) b nowMs

/-- The buffer after a turn that delivers `toCopy` frames of the head slot. -/
def consume (b : JitterBuffer σ) (toCopy : Nat) : JitterBuffer σ :=
  if b.slotFrameOffset + toCopy ≥ b.headSlot.numFrames then b.leaveSlot
  else { b with slotFrameOffset := b.slotFrameOffset + toCopy }

/-- The buffer after a turn that conceals a missing packet. -/
def conceal (b : JitterBuffer σ) : JitterBuffer σ :=
  { b with
    stats :=
      { b.stats with
        packetsLost := b.stats.packetsLost + 1
        underruns := b.stats.underruns + 1 } }.leaveSlot

/-- The buffer after it ran dry. -/
def runDry (b : JitterBuffer σ) : JitterBuffer σ :=
  { b with
    isBuffering := true
    stats := { b.stats with underruns := b.stats.underruns + 1 } }

theorem consume_keeps {α : Type} (read : JitterBuffer σ → α) (b : JitterBuffer σ)
    (toCopy : Nat) (leave : read b.leaveSlot = read b)
    (readOn : ∀ offset, read { b with slotFrameOffset := offset } = read b) :
    read (b.consume toCopy) = read b := by
  rw [consume]
  split
  · exact leave
  · exact readOn _

theorem WellFormed.consume (wf : b.WellFormed) (ready : b.headReady)
    (toCopy : Nat) : (b.consume toCopy).WellFormed := by
  unfold JitterBuffer.consume
  split
  · exact wf.leaveSlot
  · exact wf.readOn ready (by omega)

theorem WellFormed.conceal (wf : b.WellFormed) : b.conceal.WellFormed :=
  WellFormed.leaveSlot (wf.congr rfl rfl rfl rfl)

theorem WellFormed.runDry (wf : b.WellFormed) : b.runDry.WellFormed :=
  wf.congr rfl rfl rfl rfl

variable [Zero σ]

theorem deliverStep_of_ready {numFrames : Nat} {d : Delivery σ}
    (ready : d.buffer.headReady) :
    deliverStep numFrames d =
      let toCopy :=
        min (d.buffer.headSlot.numFrames - d.buffer.slotFrameOffset)
          (numFrames - d.framesDelivered)
      { buffer := d.buffer.consume toCopy
        framesDelivered := d.framesDelivered + toCopy
        dest :=
          d.dest ++
            (d.buffer.headSlot.pcmData.drop
              (d.buffer.slotFrameOffset * d.buffer.config.channels)).take
                (toCopy * d.buffer.config.channels) } := by
  simp only [deliverStep, ready, if_true, consume]

theorem deliverStep_of_gap {numFrames : Nat} {d : Delivery σ}
    (notReady : d.buffer.headReady = false)
    (future : d.buffer.hasFuturePackets) :
    deliverStep numFrames d =
      let frames :=
        d.buffer.concealFrames (numFrames - d.framesDelivered)
      { buffer := d.buffer.conceal
        framesDelivered := d.framesDelivered + frames
        dest :=
          d.dest ++
            List.replicate (frames * d.buffer.config.channels) 0 } := by
  simp [deliverStep, notReady, future, conceal]

theorem deliverStep_of_dry {numFrames : Nat} {d : Delivery σ}
    (notReady : d.buffer.headReady = false)
    (noFuture : d.buffer.hasFuturePackets = false) :
    deliverStep numFrames d =
      let frames := numFrames - d.framesDelivered
      { buffer := d.buffer.runDry
        framesDelivered := d.framesDelivered + frames
        dest :=
          d.dest ++
            List.replicate (frames * d.buffer.config.channels) 0 } := by
  simp [deliverStep, notReady, noFuture, runDry]

theorem deliverStep_wellFormed (numFrames : Nat) {d : Delivery σ}
    (wf : d.buffer.WellFormed) :
    (deliverStep numFrames d).buffer.WellFormed := by
  cases ready : d.buffer.headReady with
  | true =>
      rw [deliverStep_of_ready ready]
      exact wf.consume ready _
  | false =>
      cases future : d.buffer.hasFuturePackets with
      | true =>
          rw [deliverStep_of_gap ready future]
          exact wf.conceal
      | false =>
          rw [deliverStep_of_dry ready future]
          exact wf.runDry

theorem deliverStep_iterate_wellFormed (numFrames n : Nat) {d : Delivery σ}
    (wf : d.buffer.WellFormed) :
    (((deliverStep numFrames)^[n]) d).buffer.WellFormed := by
  induction n with
  | zero => exact wf
  | succ n inductionHypothesis =>
      rw [Function.iterate_succ_apply']
      exact deliverStep_wellFormed numFrames inductionHypothesis

/-- The induction rule of the delivery loop: what every turn preserves holds
after it. -/
theorem deliver_induction {numFrames : Nat} {motive : Delivery σ → Prop}
    (step :
      ∀ d, d.framesDelivered < numFrames → motive d →
        motive (deliverStep numFrames d)) :
    ∀ (fuel : Nat) (d : Delivery σ), motive d →
      motive (deliver numFrames fuel d) := by
  intro fuel
  induction fuel with
  | zero => exact fun _ start => start
  | succ fuel inductionHypothesis =>
      intro d start
      rw [deliver]
      split
      next more => exact inductionHypothesis _ (step d more start)
      · exact start

/-- Whatever no turn of the loop touches is untouched by a turn. -/
theorem deliverStep_keeps {α : Type} (read : JitterBuffer σ → α)
    (leave : ∀ b, read b.leaveSlot = read b)
    (readOn : ∀ b offset, read { b with slotFrameOffset := offset } = read b)
    (lost : ∀ b, read b.conceal = read b) (dry : ∀ b, read b.runDry = read b)
    (numFrames : Nat) (d : Delivery σ) :
    read (deliverStep numFrames d).buffer = read d.buffer := by
  cases ready : d.buffer.headReady with
  | true =>
      rw [deliverStep_of_ready ready]
      exact consume_keeps read d.buffer _ (leave _) (readOn _)
  | false =>
      cases future : d.buffer.hasFuturePackets with
      | true =>
          rw [deliverStep_of_gap ready future]
          exact lost _
      | false =>
          rw [deliverStep_of_dry ready future]
          exact dry _

theorem deliver_keeps {α : Type} (read : JitterBuffer σ → α)
    (leave : ∀ b, read b.leaveSlot = read b)
    (readOn : ∀ b offset, read { b with slotFrameOffset := offset } = read b)
    (lost : ∀ b, read b.conceal = read b) (dry : ∀ b, read b.runDry = read b)
    (numFrames fuel : Nat) (d : Delivery σ) :
    read (deliver numFrames fuel d).buffer = read d.buffer :=
  deliver_induction (motive := fun e => read e.buffer = read d.buffer)
    (fun e _ same => (deliverStep_keeps read leave readOn lost dry numFrames e).trans same)
    fuel d rfl

theorem deliverStep_config (numFrames : Nat) (d : Delivery σ) :
    (deliverStep numFrames d).buffer.config = d.buffer.config :=
  deliverStep_keeps JitterBuffer.config (fun _ => rfl) (fun _ _ => rfl) (fun _ => rfl)
    (fun _ => rfl) numFrames d

theorem deliverStep_hasFirstPacket (numFrames : Nat) (d : Delivery σ) :
    (deliverStep numFrames d).buffer.hasFirstPacket =
      d.buffer.hasFirstPacket :=
  deliverStep_keeps JitterBuffer.hasFirstPacket (fun _ => rfl) (fun _ _ => rfl)
    (fun _ => rfl) (fun _ => rfl) numFrames d

/-- Every turn of the delivery loop delivers a frame, and never too many. -/
theorem deliverStep_framesDelivered {numFrames : Nat} {d : Delivery σ}
    (wf : d.buffer.WellFormed) (more : d.framesDelivered < numFrames) :
    d.framesDelivered < (deliverStep numFrames d).framesDelivered ∧
      (deliverStep numFrames d).framesDelivered ≤ numFrames := by
  cases ready : d.buffer.headReady with
  | true =>
      have inside := wf.offset_lt_of_headReady ready
      rw [deliverStep_of_ready ready]
      dsimp only
      omega
  | false =>
      cases future : d.buffer.hasFuturePackets with
      | true =>
          rw [deliverStep_of_gap ready future]
          dsimp only
          unfold concealFrames
          split <;> omega
      | false =>
          rw [deliverStep_of_dry ready future]
          dsimp only
          omega

theorem deliver_framesDelivered {numFrames : Nat} :
    ∀ (fuel : Nat) {d : Delivery σ}, d.buffer.WellFormed →
      d.framesDelivered ≤ numFrames → numFrames ≤ d.framesDelivered + fuel →
        (deliver numFrames fuel d).framesDelivered = numFrames := by
  intro fuel
  induction fuel with
  | zero => exact fun _ few enough => Nat.le_antisymm few enough
  | succ fuel inductionHypothesis =>
      intro d wf few enough
      rw [deliver]
      split
      next more =>
        rcases deliverStep_framesDelivered wf more with ⟨progress, bound⟩
        apply inductionHypothesis (deliverStep_wellFormed numFrames wf) bound
        omega
      · omega

/-- A pop that is answered delivers exactly what was asked for. -/
theorem Sound.popFrames_frames (sound : b.Sound) (hasDest : Bool)
    (numFrames : Nat) (nowMs : Clock) :
    (b.popFrames hasDest numFrames nowMs).2.frames =
      if hasDest then numFrames else 0 := by
  have delivered :=
    deliver_framesDelivered numFrames (d := ⟨b.drainToTarget nowMs, 0, []⟩)
      (sound.drainToTarget nowMs) (Nat.zero_le numFrames) (by omega)
  unfold JitterBuffer.popFrames
  cases hasDest with
  | false => rfl
  | true =>
      rw [if_pos rfl]
      split
      · rename_i nothing
        simpa [eq_comm] using nothing
      · split
        · rfl
        · exact delivered

theorem Sound.popFrames (sound : b.Sound) (hasDest : Bool) (numFrames : Nat)
    (nowMs : Clock) : (b.popFrames hasDest numFrames nowMs).1.Sound := by
  unfold JitterBuffer.popFrames
  split
  · exact sound
  · split
    · exact sound
    · rename_i playing
      have first : b.hasFirstPacket = true := by
        cases first : b.hasFirstPacket with
        | true => rfl
        | false => exact absurd (Or.inr (by simp [first])) playing
      have delivered :=
        deliver_induction
          (motive := fun d =>
            d.buffer.WellFormed ∧ d.buffer.hasFirstPacket = true)
          (fun d _ kept =>
            ⟨deliverStep_wellFormed numFrames kept.1, by
              rw [deliverStep_hasFirstPacket, kept.2]⟩)
          numFrames ⟨b.drainToTarget nowMs, 0, []⟩
          ⟨sound.drainToTarget nowMs, by
            simpa [drainToTarget_hasFirstPacket] using first⟩
      refine ⟨delivered.1, ?_⟩
      intro missing
      dsimp only at missing
      simp [delivered.2] at missing

end Pop

/-! ## Runs -/

section Runs

theorem sound_new (latency : Nat) : (new latency : JitterBuffer σ).Sound :=
  ⟨(vacant_new latency).wellFormed rfl, fun _ => vacant_new latency⟩

theorem sound_configure (b : JitterBuffer σ) (config : AudioConfig)
    (latency : Nat) : (b.configure config latency).Sound :=
  ⟨(vacant_configure b config latency).wellFormed rfl,
    fun _ => vacant_configure b config latency⟩

/-- The offset never exceeds the frames of the unbroken run, so the subtraction
of `available_frames_unlocked` is always made. -/
theorem WellFormed.offset_le_contiguousFrames {b : JitterBuffer σ}
    (wf : b.WellFormed) : b.slotFrameOffset ≤ b.contiguousFrames := by
  cases ready : b.headReady with
  | false =>
      rw [wf.offset_eq_zero_of_not_headReady ready]
      exact Nat.zero_le _
  | true =>
      have inside := wf.offset_lt_of_headReady ready
      have found :
          b.headSlot.isValid ∧
            b.headSlot.seqNum.toNat = b.nextPlaySeq.toNat := by
        simp only [headReady, Bool.and_eq_true, beq_iff_eq] at ready
        exact ⟨ready.1, by rw [ready.2]⟩
      have total :
          b.contiguousFrames =
            b.headSlot.numFrames + b.contiguousFrom 1 255 := by
        rw [contiguousFrames, maxSlots, contiguousFrom]
        exact if_pos found
      omega

/-- Only `configure` changes the configuration. -/
theorem pushPacket_config (b : JitterBuffer σ) (seqNum : SeqNum) (timestampUs : Clock)
    (pcmData : Option (Nat → σ)) (numFrames : Nat) (nowMs : Clock) :
    (b.pushPacket seqNum timestampUs pcmData numFrames nowMs).1.config = b.config := by
  by_cases empty : numFrames = 0
  · rw [pushPacket_ignored (Or.inr empty)]
  · cases pcmData with
    | none => rw [pushPacket_ignored (Or.inl rfl)]
    | some source =>
      rw [pushPacket_some b seqNum timestampUs source (Nat.pos_of_ne_zero empty) nowMs]
      split
      · rfl
      · split
        · exact landing_config b seqNum
        · exact accept_config

variable [Zero σ]

/-- What neither the drain nor the delivery touches is untouched by a pop. -/
theorem popFrames_keeps {α : Type} (read : JitterBuffer σ → α)
    (leave : ∀ b, read b.leaveSlot = read b)
    (hole : ∀ b, read b.stepOverHole = read b)
    (readOn : ∀ b offset, read { b with slotFrameOffset := offset } = read b)
    (drained :
      ∀ b stats nowMs, read { b with stats := stats, lastDrainMs := nowMs } = read b)
    (lost : ∀ b, read b.conceal = read b) (dry : ∀ b, read b.runDry = read b)
    (b : JitterBuffer σ) (hasDest : Bool) (numFrames : Nat) (nowMs : Clock) :
    read (b.popFrames hasDest numFrames nowMs).1 = read b := by
  rw [JitterBuffer.popFrames]
  split
  · rfl
  · split
    · rfl
    · refine Eq.trans ?_ (drainToTarget_keeps read leave hole readOn drained b nowMs)
      exact deliver_keeps read leave readOn lost dry numFrames numFrames _

theorem popFrames_config (b : JitterBuffer σ) (hasDest : Bool) (numFrames : Nat)
    (nowMs : Clock) : (b.popFrames hasDest numFrames nowMs).1.config = b.config :=
  popFrames_keeps JitterBuffer.config (fun _ => rfl) (fun _ => rfl) (fun _ _ => rfl)
    (fun _ _ _ => rfl) (fun _ => rfl) (fun _ => rfl) b hasDest numFrames nowMs

theorem Sound.call {b : JitterBuffer σ} (sound : b.Sound) (c : Call σ) :
    (b.call c).1.Sound := by
  cases c with
  | configure config latency => exact sound_configure b config latency
  | pushPacket seqNum timestampUs pcmData numFrames nowMs =>
      exact sound.pushPacket seqNum timestampUs pcmData numFrames nowMs
  | popFrames hasDest numFrames nowMs =>
      exact sound.popFrames hasDest numFrames nowMs

theorem Sound.run {b : JitterBuffer σ} (sound : b.Sound)
    (calls : List (Call σ)) : (b.run calls).Sound := by
  induction calls generalizing b with
  | nil => exact sound
  | cons c calls inductionHypothesis => exact inductionHypothesis (sound.call c)

/-- Every reachable buffer satisfies the representation invariant.  A push that
is accepted writes to a free slot: every packet of the window it lands in stays
as it was, and unless the packet jumps out of the window these are all packets
of the buffer.  In `available_frames`, and in every turn of the two loops of a
pop, the offset that is subtracted is not larger than what it is subtracted
from. -/
theorem jitterBuffer_run_invariant (latency : Nat) (calls : List (Call σ)) :
    let b := (new latency : JitterBuffer σ).run calls
    b.WellFormed ∧
      (∀ seqNum timestampUs pcmData numFrames nowMs,
        let r := b.pushPacket seqNum timestampUs pcmData numFrames nowMs
        r.2 = true →
          (∀ i, ((b.landing seqNum).slots i).isValid →
            r.1.slots i = (b.landing seqNum).slots i) ∧
          (¬ (b.noteArrival seqNum).IsJump seqNum →
            (b.landing seqNum).slots = b.slots)) ∧
      b.slotFrameOffset ≤ b.contiguousFrames ∧
      (∀ frames n,
        let c := ((advanceStep^[n]) (frames, b)).2
        c.headReady → c.slotFrameOffset < c.headSlot.numFrames) ∧
      ∀ nowMs numFrames n,
        let c := (((deliverStep numFrames)^[n])
          ⟨b.drainToTarget nowMs, 0, []⟩).buffer
        c.headReady → c.slotFrameOffset < c.headSlot.numFrames := by
  intro b
  have sound : b.Sound := (sound_new latency).run calls
  refine ⟨sound.toWellFormed, ?_, sound.offset_le_contiguousFrames, ?_, ?_⟩
  · intro seqNum timestampUs pcmData numFrames nowMs r accepted
    have outcome : PushOutcome b seqNum timestampUs pcmData numFrames nowMs r :=
      sound.pushPacket_outcome seqNum timestampUs pcmData numFrames nowMs
    refine ⟨fun i valid => ?_, fun stays => ?_⟩
    · generalize r = r at outcome accepted
      cases outcome with
      | ignored _ => cases accepted
      | late _ => cases accepted
      | duplicate _ _ => cases accepted
      | stored source _ _ _ absent => exact accept_keeps absent i valid
    · rw [landing, followJump_of_not_isJump stays, noteArrival_slots]
  · intro frames n c ready
    exact (sound.advanceStep_iterate frames n).offset_lt_of_headReady ready
  · intro nowMs numFrames n c ready
    exact
      (deliverStep_iterate_wellFormed numFrames n
        (sound.drainToTarget nowMs)).offset_lt_of_headReady ready

end Runs

end AudioRouter.JitterBuffer
