import AudioRouter.JitterBuffer.Termination

/-!
# The drain of `pop_frames`

`level b` counts the frames of the unbroken run at the playhead, over the wrap-around of
the numbers as well, less the part that has been played.  A drain takes from that level
and leaves the target with a margin.
-/

namespace AudioRouter.JitterBuffer

open While

variable {σ : Type}

/-! ## The level -/

/-- The frames of the unbroken run of packets from the one `i` steps ahead. -/
def runFrom (b : JitterBuffer σ) : (i fuel : Nat) → Nat
  | _, 0 => 0
  | i, fuel + 1 =>
      match b.held i with
      | none => 0
      | some packet => packet.numFrames + runFrom b (i + 1) fuel

/-- The frames of the unbroken run at the playhead. -/
def runFrames (b : JitterBuffer σ) : Nat := b.runFrom 0 maxSlots

/-- The contiguous level. -/
def level (b : JitterBuffer σ) : Nat := b.runFrames - b.slotFrameOffset

theorem runFrom_congr {b c : JitterBuffer σ} (same : c.held = b.held) :
    ∀ fuel i, c.runFrom i fuel = b.runFrom i fuel := by
  intro fuel
  induction fuel with
  | zero => exact fun _ => rfl
  | succ fuel inductionHypothesis =>
    intro i
    rw [runFrom, runFrom, same, inductionHypothesis]

theorem runFrames_congr {b c : JitterBuffer σ} (slots : c.slots = b.slots)
    (next : c.nextPlaySeq = b.nextPlaySeq) : c.runFrames = b.runFrames := by
  rw [runFrames, runFrames]
  exact runFrom_congr (held_congr slots next) maxSlots 0

/-- The number of packets of the unbroken run. -/
structure RunLength (b : JitterBuffer σ) (n : Nat) : Prop where
  present : ∀ i < n, (b.held i).isSome
  stops : b.held n = none

theorem RunLength.unique {b : JitterBuffer σ} {m n : Nat} (first : b.RunLength m)
    (second : b.RunLength n) : m = n :=
  eq_of_first_gap first.present (Option.not_isSome_iff_eq_none.2 first.stops) second.present
    (Option.not_isSome_iff_eq_none.2 second.stops)

/-- A turn of the count adds a packet of the run. -/
theorem runFrom_succ {b : JitterBuffer σ} {i : Nat} (present : (b.held i).isSome) (fuel : Nat) :
    b.runFrom i (fuel + 1) = b.heldFrames i + b.runFrom (i + 1) fuel := by
  rcases Option.isSome_iff_exists.1 present with ⟨packet, here⟩
  rw [runFrom, here, heldFrames_of_some here]

theorem runFrom_of_none {b : JitterBuffer σ} {i : Nat} (absent : b.held i = none) (fuel : Nat) :
    b.runFrom i (fuel + 1) = 0 := by
  rw [runFrom, absent]

theorem exists_runLength (b : JitterBuffer σ) :
    ∃ n, b.RunLength n ∧ b.runFrames = ∑ i ∈ Finset.range n, b.heldFrames i := by
  have ends : ¬ (b.held maxSlots).isSome := by
    rw [held_eq_none_of_le b (Nat.le_refl maxSlots)]
    exact Bool.noConfusion
  have count := @exists_sum_of_scan maxSlots (fun i => (b.held i).isSome) b.heldFrames b.runFrom
    ends (fun _ => rfl) (fun _ fuel _ present => runFrom_succ present fuel)
    (fun _ fuel _ absent => runFrom_of_none (Option.not_isSome_iff_eq_none.1 absent) fuel)
  rcases count maxSlots 0 (Nat.zero_add _) nofun with ⟨n, present, stops, -, total⟩
  refine ⟨n, ⟨present, Option.not_isSome_iff_eq_none.1 stops⟩, ?_⟩
  rw [runFrames, total, Nat.Ico_zero_eq_range]

theorem RunLength.total {b : JitterBuffer σ} {n : Nat} (length : b.RunLength n) :
    b.runFrames = ∑ i ∈ Finset.range n, b.heldFrames i := by
  obtain ⟨m, other, total⟩ := exists_runLength b
  rw [total, other.unique length]

/-- What the code takes for the level is at most the level: the scan may stop before the
run does. -/
theorem WellFormed.available_le_level {b : JitterBuffer σ} (wf : b.WellFormed) :
    b.availableFramesUnlocked ≤ b.level := by
  obtain ⟨m, scan, seen⟩ := wf.contiguousFrames_spec
  obtain ⟨n, length, total⟩ := exists_runLength b
  have shorter : m ≤ n := by
    by_contra longer
    have found := (scan.seen n (Nat.lt_of_not_le longer)).1
    rw [length.stops] at found
    exact nomatch found
  rw [wf.availableFrames_eq, level, seen, total]
  apply Nat.sub_le_sub_right
  exact Finset.sum_le_sum_of_subset (Finset.range_mono shorter)

/-- The run behind the packet of the playhead. -/
theorem WellFormed.runFrames_leaveSlot {b : JitterBuffer σ} (wf : b.WellFormed)
    (ready : b.headReady) :
    b.runFrames = b.headSlot.numFrames + b.leaveSlot.runFrames := by
  obtain ⟨n, length, total⟩ := exists_runLength b
  have held := wf.held_zero_of_headReady ready
  cases n with
  | zero =>
    rw [length.stops] at held
    exact nomatch held
  | succ n =>
    have rest : b.leaveSlot.RunLength n := by
      refine ⟨fun i before => ?_, ?_⟩
      · rw [held_leaveSlot]
        exact length.present (i + 1) (by omega)
      · rw [held_leaveSlot]
        exact length.stops
    have shifted : ∀ i, b.leaveSlot.heldFrames i = b.heldFrames (i + 1) := by
      intro i
      simp only [heldFrames, held_leaveSlot]
    rw [total, rest.total, Finset.sum_range_succ', heldFrames_zero_of_headReady wf ready,
      Nat.add_comm]
    simp only [shifted]

/-- Frames of the head slot that are left behind are off the level. -/
theorem WellFormed.level_leaveSlot {b : JitterBuffer σ} (wf : b.WellFormed)
    (ready : b.headReady) :
    b.leaveSlot.level + (b.headSlot.numFrames - b.slotFrameOffset) = b.level := by
  have inside := wf.offset_lt_of_headReady ready
  have rest : b.leaveSlot.level = b.leaveSlot.runFrames := Nat.sub_zero _
  rw [rest, level, wf.runFrames_leaveSlot ready]
  omega

theorem WellFormed.level_readOn {b : JitterBuffer σ} (wf : b.WellFormed)
    (ready : b.headReady) {frames : Nat}
    (inside : frames ≤ b.headSlot.numFrames - b.slotFrameOffset) :
    { b with slotFrameOffset := b.slotFrameOffset + frames }.level + frames = b.level := by
  have run := wf.runFrames_leaveSlot ready
  have before := wf.offset_lt_of_headReady ready
  have same :=
    @runFrames_congr σ b { b with slotFrameOffset := b.slotFrameOffset + frames } rfl rfl
  rw [level, level, same]
  dsimp only
  omega

theorem WellFormed.headReady_of_level {b : JitterBuffer σ} (wf : b.WellFormed)
    (some : 0 < b.level) : b.headReady := by
  obtain ⟨n, length, total⟩ := exists_runLength b
  cases n with
  | zero =>
    rw [level, total, Finset.sum_range_zero] at some
    omega
  | succ n => exact wf.headReady_iff.2 (length.present 0 (Nat.succ_pos n))

/-- A turn of the delivery loop takes what it copies off the level. -/
theorem WellFormed.level_consume {b : JitterBuffer σ} (wf : b.WellFormed)
    (ready : b.headReady) {toCopy : Nat}
    (inside : toCopy ≤ b.headSlot.numFrames - b.slotFrameOffset) :
    (b.consume toCopy).level + toCopy = b.level := by
  have before := wf.offset_lt_of_headReady ready
  rw [JitterBuffer.consume]
  split
  next through =>
    have whole := wf.level_leaveSlot ready
    omega
  · exact wf.level_readOn ready inside

/-! ## The loop of the drain -/

/-- What a drain of `amount` frames has done when `p.1` of them are left. -/
structure Drained (b : JitterBuffer σ) (amount : Nat) (p : Nat × JitterBuffer σ) : Prop where
  droppable : Droppable p
  level : p.2.level + amount = b.level + p.1
  passed : ∃ n, Follows b n p.2 ∧ ∀ i < n, (b.held i).isSome

theorem Drained.advanceStep {b : JitterBuffer σ} {amount : Nat} {p : Nat × JitterBuffer σ}
    (drained : Drained b amount p) (more : 0 < p.1) :
    Drained b amount (JitterBuffer.advanceStep p) := by
  have droppable := (drained.droppable.advanceStep more).1
  obtain ⟨frames, c⟩ := p
  obtain ⟨⟨wf, covered⟩, level, n, follows, run⟩ := drained
  dsimp only at wf covered level follows run more
  have ready := covered.headReady wf more
  by_cases stays : frames < c.headSlot.numFrames - c.slotFrameOffset
  · have taken := wf.level_readOn ready (Nat.le_of_lt stays)
    rw [advanceStep_of_inside ready stays] at droppable ⊢
    refine ⟨droppable, ?_, n, follows.congr rfl rfl rfl, run⟩
    dsimp only
    omega
  · have through := Nat.not_lt.1 stays
    have taken := wf.level_leaveSlot ready
    have here := wf.held_zero_of_headReady ready
    rw [advanceStep_of_through ready through] at droppable ⊢
    refine ⟨droppable, ?_, n + 1, ?_, ?_⟩
    · dsimp only
      omega
    · exact follows.step ⟨0, by rw [here]; rfl⟩ (held_leaveSlot c) rfl rfl
    · intro i upTo
      rcases Nat.lt_succ_iff_lt_or_eq.1 upTo with before | rfl
      · exact run i before
      · rw [← Nat.add_zero i, ← follows.held, here]
        rfl

/-- A drain takes what it sheds off the level, and passes packets only. -/
theorem WellFormed.drainToTarget_level {b : JitterBuffer σ} (wf : b.WellFormed)
    (nowMs : Clock) :
    (b.drainToTarget nowMs).level + b.drainAmount nowMs = b.level ∧
      ∃ n, Follows b n (b.drainToTarget nowMs) ∧ ∀ i < n, (b.held i).isSome := by
  generalize eq : b.drainToTarget nowMs = c
  have drains : Drains b nowMs c := eq ▸ wf.drains nowMs
  cases drains with
  | idle nothing => exact ⟨by rw [nothing, Nat.add_zero], 0, Follows.refl b, nofun⟩
  | runs due exits =>
    have start : Drained b (b.drainAmount nowMs) (b.drainAmount nowMs, b) :=
      ⟨⟨wf, wf.covered_drainAmount nowMs⟩, rfl, 0, Follows.refl b, nofun⟩
    obtain ⟨⟨-, level, n, follows, run⟩, stop⟩ :=
      exits.preserves (fun _ drained more => drained.advanceStep more) start
    refine ⟨?_, n, follows.congr rfl rfl rfl, run⟩
    rw [Nat.eq_zero_of_not_pos stop, Nat.add_zero] at level
    rw [← level, JitterBuffer.level, JitterBuffer.level]
    apply congrArg (· - _ + b.drainAmount nowMs)
    exact runFrames_congr rfl rfl

/-- The level stands above the target and the margin, and the amount leaves both. -/
theorem drainAmount_of_due {b : JitterBuffer σ} {nowMs : Clock}
    (due : b.drainDue nowMs = true) :
    1 ≤ b.drainAmount nowMs ∧ b.drainAmount nowMs ≤ 480 ∧
      b.targetBufferFrames + b.framesOfMs kDrainMarginMs + b.drainAmount nowMs ≤
        b.availableFramesUnlocked := by
  have above : b.availableFramesUnlocked >
      b.targetBufferFrames + b.framesOfMs kDrainMarginMs := by
    rw [drainDue] at due
    simp only [Bool.and_eq_true, decide_eq_true_eq] at due
    exact due.1.2
  rw [drainAmount, due, cond_true]
  cases b.largeBacklog with
  | true =>
    rw [cond_true, kDrainFastChunkFrames]
    omega
  | false =>
    rw [cond_false, kDrainChunkFrames]
    omega

theorem drainToTarget_stats (b : JitterBuffer σ) (nowMs : Clock) :
    (b.drainToTarget nowMs).stats =
      { b.stats with drainedFrames := b.stats.drainedFrames + b.drainAmount nowMs } := by
  rw [drainToTarget]
  dsimp only
  split
  next nothing => rw [nothing, Nat.add_zero]
  next due =>
    have kept : (b.advancePlayheadLocked (b.drainAmount nowMs)).stats = b.stats :=
      advancePlayhead_keeps JitterBuffer.stats (fun _ => rfl) (fun _ => rfl)
        (fun _ _ => rfl) _ _
    rw [kept]

/-! ## A delivery out of the level -/

section

variable [Zero σ]

/-- A delivery that has met buffered audio only, and still will. -/
structure FromLevel (b : JitterBuffer σ) (numFrames : Nat) (d : Delivery σ) : Prop where
  wf : d.buffer.WellFormed
  enough : numFrames ≤ d.buffer.level + d.framesDelivered
  config : d.buffer.config = b.config
  played : d.dest ++ d.buffer.pending = b.pending
  stats : d.buffer.stats = b.stats
  buffering : d.buffer.isBuffering = b.isBuffering

theorem FromLevel.deliverStep {b : JitterBuffer σ} {numFrames : Nat} {d : Delivery σ}
    (fromLevel : FromLevel b numFrames d) (more : d.framesDelivered < numFrames) :
    FromLevel b numFrames (JitterBuffer.deliverStep numFrames d) := by
  obtain ⟨wf, enough, config, played, stats, buffering⟩ := fromLevel
  have ready := wf.headReady_of_level (by omega)
  have inside := Nat.min_le_left (d.buffer.headSlot.numFrames - d.buffer.slotFrameOffset)
    (numFrames - d.framesDelivered)
  have taken := wf.level_consume ready inside
  have front := wf.pending_consume ready inside
  rw [deliverStep_of_ready ready]
  refine ⟨wf.consume ready _, ?_, ?_, ?_, ?_, ?_⟩
  · dsimp only
    omega
  · exact (consume_keeps JitterBuffer.config d.buffer _ rfl fun _ => rfl).trans config
  · dsimp only
    rw [List.append_assoc, ← front, played]
  · exact (consume_keeps JitterBuffer.stats d.buffer _ rfl fun _ => rfl).trans stats
  · exact (consume_keeps JitterBuffer.isBuffering d.buffer _ rfl fun _ => rfl).trans buffering

/-- What is asked for within the level is played from the front of it. -/
theorem WellFormed.deliver_fromLevel {b : JitterBuffer σ} (wf : b.WellFormed)
    {numFrames : Nat} (within : numFrames ≤ b.level) :
    let d := deliver numFrames numFrames ⟨b, 0, []⟩
    d.dest = b.pending.take (numFrames * b.config.channels) ∧ d.buffer.stats = b.stats ∧
      d.buffer.isBuffering = b.isBuffering := by
  intro d
  have start : FromLevel b numFrames ⟨b, 0, []⟩ :=
    ⟨wf, within, rfl, List.nil_append _, rfl, rfl⟩
  have ends : FromLevel b numFrames d :=
    deliver_induction (fun _ more fromLevel => fromLevel.deliverStep more) numFrames _ start
  have length : d.dest.length = numFrames * b.config.channels := wf.deliver_dest numFrames
  refine ⟨?_, ends.stats, ends.buffering⟩
  rw [← ends.played, ← length, List.take_left]

/-! ## A call that drains -/

/-- A call of `pop_frames` runs its drain. -/
structure PopDrains (b : JitterBuffer σ) (hasDest : Bool) (numFrames : Nat) (nowMs : Clock) :
    Prop where
  asked : hasDest = true ∧ 1 ≤ numFrames
  playing : b.isBuffering = false ∧ b.hasFirstPacket = true
  due : b.drainDue nowMs = true

/-- What a call of `pop_frames` with a drain does. -/
structure DrainReport (b : JitterBuffer σ) (numFrames : Nat) (nowMs : Clock) : Prop where
  amount : 1 ≤ b.drainAmount nowMs ∧ b.drainAmount nowMs ≤ 480
  passed : ∃ n, Follows b n (b.drainToTarget nowMs) ∧ ∀ i < n, (b.held i).isSome
  shed :
    (b.drainToTarget nowMs).pending =
      b.pending.drop (b.drainAmount nowMs * b.config.channels)
  counted :
    (b.popFrames true numFrames nowMs).1.stats.drainedFrames =
      b.stats.drainedFrames + b.drainAmount nowMs
  falls : (b.drainToTarget nowMs).level + b.drainAmount nowMs = b.level
  keeps :
    b.targetBufferFrames + b.framesOfMs kDrainMarginMs ≤ (b.drainToTarget nowMs).level
  delivers :
    numFrames ≤ (b.drainToTarget nowMs).level →
      (b.popFrames true numFrames nowMs).2.dest =
          (b.drainToTarget nowMs).pending.take (numFrames * b.config.channels) ∧
        (b.popFrames true numFrames nowMs).1.stats =
          { b.stats with drainedFrames := b.stats.drainedFrames + b.drainAmount nowMs }

theorem PopDrains.popFrames_eq {b : JitterBuffer σ} {hasDest : Bool} {numFrames : Nat}
    {nowMs : Clock} (drains : b.PopDrains hasDest numFrames nowMs) :
    b.popFrames hasDest numFrames nowMs =
      let d := deliver numFrames numFrames ⟨b.drainToTarget nowMs, 0, []⟩
      (d.buffer, ⟨d.framesDelivered, d.dest⟩) := by
  have asked : ¬ ((!hasDest) = true ∨ numFrames = 0) := by
    rw [drains.asked.1]
    have positive := drains.asked.2
    simp only [Bool.not_true, Bool.false_eq_true, false_or]
    omega
  have plays : ¬ (b.isBuffering = true ∨ (!b.hasFirstPacket) = true) := by
    rw [drains.playing.1, drains.playing.2]
    simp
  rw [popFrames, if_neg asked, if_neg plays]

theorem deliver_drainedFrames (b : JitterBuffer σ) (numFrames : Nat) :
    (deliver numFrames numFrames ⟨b, 0, []⟩).buffer.stats.drainedFrames =
      b.stats.drainedFrames :=
  deliver_keeps (fun c => c.stats.drainedFrames) (fun _ => rfl) (fun _ _ => rfl)
    (fun _ => rfl) (fun _ => rfl) numFrames numFrames _

theorem Sound.drainReport {b : JitterBuffer σ} (sound : b.Sound) {numFrames : Nat}
    {nowMs : Clock} (drains : b.PopDrains true numFrames nowMs) :
    DrainReport b numFrames nowMs := by
  have wf := sound.toWellFormed
  obtain ⟨some, most, leaves⟩ := drainAmount_of_due drains.due
  obtain ⟨falls, passed⟩ := wf.drainToTarget_level nowMs
  have below := wf.available_le_level
  have keeps :
      b.targetBufferFrames + b.framesOfMs kDrainMarginMs ≤ (b.drainToTarget nowMs).level := by
    omega
  refine ⟨⟨some, most⟩, passed, (wf.drainToTarget_sheds nowMs).rest, ?_, falls, keeps, ?_⟩
  · rw [drains.popFrames_eq]
    dsimp only
    rw [deliver_drainedFrames, drainToTarget_stats]
  · intro within
    have delivered := (wf.drainToTarget nowMs).deliver_fromLevel within
    rw [drains.popFrames_eq]
    dsimp only at delivered ⊢
    rw [delivered.1, delivered.2.1, drainToTarget_stats, drainToTarget_config]
    exact ⟨rfl, rfl⟩

end

end AudioRouter.JitterBuffer
