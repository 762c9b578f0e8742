import AudioRouter.Lib.Blocks
import AudioRouter.JitterBuffer.Level

/-!
# What is still to be played

`pending b` lists the samples of the window from the playhead on.  A pop takes
them from the front and puts silence between them; the drain drops them from the
front; a push inserts a packet.  `Follows` says that a playhead has moved on
over a window that nothing was added to.
-/

namespace AudioRouter.JitterBuffer

open SequenceWindow Blocks

variable {σ : Type}

/-- The samples of the packet `i` steps ahead that have not been played. -/
def pendingAt (b : JitterBuffer σ) (i : Nat) : List σ :=
  match b.held i with
  | some packet =>
      packet.pcmData.drop
        ((if i = 0 then b.slotFrameOffset else 0) * b.config.channels)
  | none => []

/-- The samples at or after the playhead, in the order of the window. -/
def pending (b : JitterBuffer σ) : List σ :=
  (List.range maxSlots).flatMap b.pendingAt

theorem pendingAt_of_none {b : JitterBuffer σ} {i : Nat}
    (absent : b.held i = none) : b.pendingAt i = [] := by
  simp [pendingAt, absent]

theorem pendingAt_of_some {b : JitterBuffer σ} {i : Nat}
    {packet : HeldPacket σ} (present : b.held i = some packet) :
    b.pendingAt i =
      packet.pcmData.drop
        ((if i = 0 then b.slotFrameOffset else 0) * b.config.channels) := by
  simp [pendingAt, present]

theorem mem_pendingAt {b : JitterBuffer σ} {i : Nat} {x : σ}
    (member : x ∈ b.pendingAt i) :
    ∃ packet, b.held i = some packet ∧ x ∈ packet.pcmData := by
  cases held : b.held i with
  | none => simp [pendingAt_of_none held] at member
  | some packet =>
      rw [pendingAt_of_some held] at member
      exact ⟨packet, rfl, List.mem_of_mem_drop member⟩

theorem mem_pending {b : JitterBuffer σ} {x : σ} (member : x ∈ b.pending) :
    ∃ i packet, b.held i = some packet ∧ x ∈ packet.pcmData := by
  obtain ⟨i, _, inside⟩ := List.mem_flatMap.1 member
  obtain ⟨packet, held, found⟩ := mem_pendingAt inside
  exact ⟨i, packet, held, found⟩

theorem pendingAt_zero {b : JitterBuffer σ} {packet : HeldPacket σ}
    (present : b.held 0 = some packet) :
    b.pendingAt 0 =
      packet.pcmData.drop (b.slotFrameOffset * b.config.channels) := by
  simp [pendingAt, present]

theorem pending_congr {b c : JitterBuffer σ} (held : b.held = c.held)
    (offset : b.slotFrameOffset = c.slotFrameOffset)
    (channels : b.config.channels = c.config.channels) :
    b.pending = c.pending := by
  have same : b.pendingAt = c.pendingAt := by
    funext i
    simp only [pendingAt, held, offset, channels]
  rw [pending, pending, same]

theorem Vacant.pending {b : JitterBuffer σ} (vacant : b.Vacant) :
    b.pending = [] :=
  List.flatMap_eq_nil_iff.2 fun _ _ => pendingAt_of_none (vacant.held _)

/-- Whatever leaves the slot of the playhead takes its samples off the front. -/
theorem pending_eq_append {b c : JitterBuffer σ}
    (held : ∀ i, c.held i = b.held (i + 1)) (offset : c.slotFrameOffset = 0) :
    b.pending = b.pendingAt 0 ++ c.pending := by
  have next : ∀ i, c.pendingAt i = b.pendingAt (i + 1) := by
    intro i
    simp only [pendingAt, held, offset]
    simp
  have far : b.pendingAt maxSlots = [] :=
    pendingAt_of_none (held_eq_none_of_le b (Nat.le_refl _))
  calc b.pending
      = (List.range (maxSlots + 1)).flatMap b.pendingAt := by
        rw [List.range_succ, List.flatMap_append, List.flatMap_singleton, far,
          List.append_nil, pending]
    _ = b.pendingAt 0 ++ c.pending := by
        rw [List.range_succ_eq_map, List.flatMap_cons, List.flatMap_map, pending]
        congr 1
        exact List.flatMap_congr fun i _ => (next i).symm

theorem pending_leaveSlot (b : JitterBuffer σ) :
    b.pending = b.pendingAt 0 ++ b.leaveSlot.pending :=
  pending_eq_append (held_leaveSlot b) rfl

section WellFormed

variable {b : JitterBuffer σ} (wf : b.WellFormed)
include wf

theorem WellFormed.length_pendingAt_zero (ready : b.headReady) :
    (b.pendingAt 0).length =
      (b.headSlot.numFrames - b.slotFrameOffset) * b.config.channels := by
  have present := wf.held_zero_of_headReady ready
  have samples := wf.held_sampleCount present
  rw [pendingAt_zero present, List.length_drop, samples, Nat.sub_mul]
  rfl

/-- Reading on within the head slot takes samples off the front. -/
theorem WellFormed.pending_readOn (ready : b.headReady) {frames : Nat}
    (inside : frames ≤ b.headSlot.numFrames - b.slotFrameOffset) :
    { b with slotFrameOffset := b.slotFrameOffset + frames }.pending =
      b.pending.drop (frames * b.config.channels) := by
  have present := wf.held_zero_of_headReady ready
  have whole := pending_leaveSlot b
  have rest :=
    pending_leaveSlot { b with slotFrameOffset := b.slotFrameOffset + frames }
  have first :
      { b with slotFrameOffset := b.slotFrameOffset + frames }.pendingAt 0 =
        (b.pendingAt 0).drop (frames * b.config.channels) := by
    rw [pendingAt_zero (b := b) present, List.drop_drop, ← Nat.add_mul]
    exact pendingAt_zero present
  have enough :
      frames * b.config.channels ≤ (b.pendingAt 0).length := by
    rw [wf.length_pendingAt_zero ready]
    exact Nat.mul_le_mul_right _ inside
  rw [rest, first, whole, List.drop_append_of_le_length enough]
  rfl

/-- A turn of the delivery loop that copies frames takes them off the front. -/
theorem WellFormed.pending_consume (ready : b.headReady) {toCopy : Nat}
    (inside : toCopy ≤ b.headSlot.numFrames - b.slotFrameOffset) :
    b.pending =
      (b.headSlot.pcmData.drop
          (b.slotFrameOffset * b.config.channels)).take
            (toCopy * b.config.channels) ++
        (b.consume toCopy).pending := by
  have present := wf.held_zero_of_headReady ready
  have here := pendingAt_zero present
  have count := wf.length_pendingAt_zero ready
  have before := wf.offset_lt_of_headReady ready
  change b.pendingAt 0 = b.headSlot.pcmData.drop _ at here
  rw [← here]
  unfold JitterBuffer.consume
  split
  · rw [List.take_of_length_le, ← pending_leaveSlot]
    rw [count]
    exact Nat.mul_le_mul_right _ (by omega)
  · have enough : toCopy * b.config.channels ≤ (b.pendingAt 0).length := by
      rw [count]
      exact Nat.mul_le_mul_right _ inside
    have taken :
        (b.pendingAt 0 ++ b.leaveSlot.pending).take (toCopy * b.config.channels) =
          (b.pendingAt 0).take (toCopy * b.config.channels) :=
      List.take_append_of_le_length enough
    rw [wf.pending_readOn ready inside, ← taken, ← pending_leaveSlot,
      List.take_append_drop]

theorem WellFormed.pending_conceal (notReady : b.headReady = false) :
    b.conceal.pending = b.pending := by
  have absent := wf.held_zero_of_not_headReady notReady
  have whole : b.pending = b.pendingAt 0 ++ b.conceal.pending :=
    pending_eq_append (fun i => held_leaveSlot _ i) rfl
  rw [whole, pendingAt_of_none absent, List.nil_append]

end WellFormed

theorem pending_runDry (b : JitterBuffer σ) : b.runDry.pending = b.pending :=
  pending_congr rfl rfl rfl

/-! ## A moving playhead -/

/-- The playhead of `c` is `n` steps after that of `b`, over the same packets. -/
structure Follows (b : JitterBuffer σ) (n : Nat) (c : JitterBuffer σ) : Prop where
  next : c.nextPlaySeq = b.nextPlaySeq + BitVec.ofNat 32 n
  held : ∀ i, c.held i = b.held (n + i)
  bound : n ≤ maxSlots
  config : c.config = b.config

namespace Follows

variable {b c d : JitterBuffer σ} {n : Nat}

theorem refl (b : JitterBuffer σ) : Follows b 0 b where
  next := by simp
  held i := by rw [Nat.zero_add]
  bound := Nat.zero_le _
  config := rfl

/-- Nothing but the playhead counts. -/
theorem congr (follows : Follows b n c) (held : d.held = c.held)
    (next : d.nextPlaySeq = c.nextPlaySeq) (config : d.config = c.config) :
    Follows b n d where
  next := by rw [next, follows.next]
  held i := by rw [held, follows.held]
  bound := follows.bound
  config := by rw [config, follows.config]

/-- One step more, as long as some packet is ahead. -/
theorem step (follows : Follows b n c) (ahead : ∃ i, (c.held i).isSome)
    (held : ∀ i, d.held i = c.held (i + 1))
    (next : d.nextPlaySeq = c.nextPlaySeq + 1) (config : d.config = c.config) :
    Follows b (n + 1) d where
  next := by
    rw [next, follows.next, BitVec.add_assoc]
    exact congrArg (b.nextPlaySeq + ·) (BitVec.ofNat_add n 1).symm
  held i := by
    rw [held, follows.held]
    congr 1
    omega
  bound := by
    obtain ⟨i, present⟩ := ahead
    rw [follows.held, held_isSome_iff] at present
    omega
  config := by rw [config, follows.config]

/-- The playhead has moved on by as many numbers as steps were made. -/
theorem ahead_trans {m : Nat} (first : Follows b m c) (second : Follows c n d) :
    ahead b.nextPlaySeq d.nextPlaySeq = m + n := by
  have firstBound := first.bound
  have secondBound := second.bound
  rw [second.next, first.next, BitVec.add_assoc, ← BitVec.ofNat_add]
  refine ahead_add_ofNat b.nextPlaySeq ?_
  simp only [maxSlots] at firstBound secondBound
  omega

end Follows

/-! ## The drain -/

theorem heldFrames_zero_of_headReady {b : JitterBuffer σ} (wf : b.WellFormed)
    (ready : b.headReady) : b.heldFrames 0 = b.headSlot.numFrames :=
  heldFrames_of_some (wf.held_zero_of_headReady ready)

/-- The frames to drop lie in an unbroken run of packets at the playhead. -/
def Covered (b : JitterBuffer σ) (frames : Nat) : Prop :=
  ∃ m, (∀ i < m, (b.held i).isSome) ∧
    frames + b.slotFrameOffset ≤ ∑ i ∈ Finset.range m, b.heldFrames i

theorem Covered.headReady {b : JitterBuffer σ} {frames : Nat}
    (covered : b.Covered frames) (wf : b.WellFormed) (some : 0 < frames) :
    b.headReady := by
  obtain ⟨m, run, enough⟩ := covered
  have positive : 0 < m := by
    rw [Nat.pos_iff_ne_zero]
    rintro rfl
    rw [Finset.sum_range_zero] at enough
    omega
  exact wf.headReady_iff.2 (run 0 positive)

theorem Covered.leaveSlot {b : JitterBuffer σ} {frames : Nat}
    (covered : b.Covered frames) (wf : b.WellFormed) (ready : b.headReady)
    (through : b.headSlot.numFrames - b.slotFrameOffset ≤ frames) :
    b.leaveSlot.Covered
      (frames - (b.headSlot.numFrames - b.slotFrameOffset)) := by
  obtain ⟨m, run, enough⟩ := covered
  have inside := wf.offset_lt_of_headReady ready
  cases m with
  | zero =>
      rw [Finset.sum_range_zero] at enough
      omega
  | succ m =>
      refine ⟨m, fun i before => ?_, ?_⟩
      · rw [held_leaveSlot]
        exact run (i + 1) (by omega)
      · have shifted : ∀ i, b.leaveSlot.heldFrames i = b.heldFrames (i + 1) := by
          intro i
          simp only [heldFrames, held_leaveSlot]
        have noOffset : b.leaveSlot.slotFrameOffset = 0 := rfl
        rw [Finset.sum_range_succ', heldFrames_zero_of_headReady wf ready] at enough
        simp only [shifted, noOffset]
        omega

/-- What dropping `frames` frames at the playhead of `c` should lead to. -/
structure Sheds (b c : JitterBuffer σ) (frames : Nat) (d : JitterBuffer σ) :
    Prop where
  moved : ∃ n, Follows b n d
  enough : frames * c.config.channels ≤ c.pending.length
  rest : d.pending = c.pending.drop (frames * c.config.channels)

theorem Sheds.nothing {b c : JitterBuffer σ} (moved : ∃ n, Follows b n c) :
    Sheds b c 0 c where
  moved := moved
  enough := by rw [Nat.zero_mul]; exact Nat.zero_le _
  rest := by rw [Nat.zero_mul, List.drop_zero]

/-- `advance_playhead_locked` sheds the number of frames it is asked for, as long
as the run at the playhead has so many: it never meets a hole. -/
theorem WellFormed.advancePlayhead_sheds {b : JitterBuffer σ} :
    ∀ (fuel : Nat) {frames n : Nat} {c : JitterBuffer σ}, c.WellFormed →
      c.Covered frames → frames ≤ fuel → Follows b n c →
        Sheds b c frames (advancePlayhead fuel (frames, c))
  | 0, frames, n, c, _, _, few, follows => by
      obtain rfl : frames = 0 := by omega
      exact Sheds.nothing ⟨n, follows⟩
  | fuel + 1, frames, n, c, wf, covered, few, follows => by
      rw [advancePlayhead]
      by_cases more : frames > 0
      · rw [if_pos more]
        have ready := covered.headReady wf more
        have inside := wf.offset_lt_of_headReady ready
        have held := wf.held_zero_of_headReady ready
        have count := wf.length_pendingAt_zero ready
        have whole := pending_leaveSlot c
        by_cases stays : frames < c.headSlot.numFrames - c.slotFrameOffset
        · rw [advanceStep_of_inside ready stays]
          have stopped : ∀ x : JitterBuffer σ, advancePlayhead fuel (0, x) = x := by
            intro x
            cases fuel <;> rfl
          rw [stopped]
          refine
            ⟨⟨n, follows.congr rfl rfl rfl⟩, ?_,
              wf.pending_readOn ready (Nat.le_of_lt stays)⟩
          calc frames * c.config.channels
              ≤ (c.pendingAt 0).length := by
                rw [count]
                exact Nat.mul_le_mul_right _ (Nat.le_of_lt stays)
            _ ≤ c.pending.length := by
                rw [whole, List.length_append]
                exact Nat.le_add_right _ _
        · have through := Nat.not_lt.1 stays
          rw [advanceStep_of_through ready through]
          have ahead : ∃ i, (c.held i).isSome := ⟨0, by rw [held]; rfl⟩
          have shed :=
            advancePlayhead_sheds fuel wf.leaveSlot
              (covered.leaveSlot wf ready through) (by omega)
              (follows.step ahead (held_leaveSlot c) rfl rfl)
          have split :
              frames * c.config.channels =
                (c.pendingAt 0).length +
                  (frames - (c.headSlot.numFrames - c.slotFrameOffset)) *
                    c.leaveSlot.config.channels := by
            change _ = _ + _ * c.config.channels
            rw [count, ← Nat.add_mul, Nat.add_sub_cancel' through]
          refine ⟨shed.moved, ?_, ?_⟩
          · rw [split, whole, List.length_append]
            exact Nat.add_le_add_left shed.enough _
          · rw [shed.rest, split, whole, List.drop_length_add_append]
      · obtain rfl : frames = 0 := by omega
        rw [if_neg more]
        exact Sheds.nothing ⟨n, follows⟩

/-- The drain asks for frames of the unbroken run. -/
theorem WellFormed.covered_drainAmount {b : JitterBuffer σ} (wf : b.WellFormed)
    (nowMs : Clock) : b.Covered (b.drainAmount nowMs) := by
  obtain ⟨m, scan, total⟩ := wf.contiguousFrames_spec
  have inside := wf.offset_le_contiguousFrames
  have level := wf.availableFrames_eq
  have amount : b.drainAmount nowMs ≤ b.availableFramesUnlocked := by
    unfold drainAmount
    cases b.drainDue nowMs with
    | false => exact Nat.zero_le _
    | true =>
        rw [cond_true]
        omega
  exact ⟨m, fun i before => (scan.seen i before).1, by omega⟩

/-- The drain takes `drainAmount` frames off the front. -/
theorem WellFormed.drainToTarget_sheds {b : JitterBuffer σ} (wf : b.WellFormed)
    (nowMs : Clock) :
    Sheds b b (b.drainAmount nowMs) (b.drainToTarget nowMs) := by
  unfold JitterBuffer.drainToTarget
  dsimp only
  split
  · rename_i idle
    rw [idle]
    exact Sheds.nothing ⟨0, Follows.refl b⟩
  · obtain ⟨⟨n, moved⟩, enough, rest⟩ :=
      advancePlayhead_sheds (b.drainAmount nowMs) wf
        (wf.covered_drainAmount nowMs) (Nat.le_refl _) (Follows.refl b)
    exact ⟨⟨n, moved.congr rfl rfl rfl⟩, enough, rest⟩

theorem drainToTarget_drainedFrames (b : JitterBuffer σ) (nowMs : Clock) :
    (b.drainToTarget nowMs).stats.drainedFrames =
      b.stats.drainedFrames + b.drainAmount nowMs := by
  unfold JitterBuffer.drainToTarget
  dsimp only
  split
  · rename_i idle
    rw [idle, Nat.add_zero]
  · refine congrArg (· + b.drainAmount nowMs) ?_
    exact
      advancePlayhead_keeps (fun c => c.stats.drainedFrames) (fun _ => rfl)
        (fun _ => rfl) (fun _ _ => rfl) _ _

/-! ## Pushes -/

/-- An accepted push adds the samples of its packet. -/
theorem Sound.pending_accept {b : JitterBuffer σ} (sound : b.Sound)
    {seqNum : SeqNum} {timestampUs : Clock} {source : Nat → σ}
    {numFrames : Nat} {nowMs : Clock}
    (absent :
      (b.landing seqNum).held
        (ahead (b.landing seqNum).nextPlaySeq seqNum) = none) :
    (b.accept seqNum timestampUs source numFrames nowMs).pending.Perm
      ((b.landing seqNum).pending ++
        (List.range (numFrames * b.config.channels)).map source) := by
  have near := ahead_landing b seqNum
  have filled :
      (b.accept seqNum timestampUs source numFrames nowMs).pendingAt =
        Function.update (b.landing seqNum).pendingAt
          (ahead (b.landing seqNum).nextPlaySeq seqNum)
          ((List.range (numFrames * b.config.channels)).map source) := by
    funext i
    by_cases here : i = ahead (b.landing seqNum).nextPlaySeq seqNum
    · -- at the playhead the offset is zero, because nothing is held there
      have noOffset :
          (if i = 0 then (b.landing seqNum).slotFrameOffset else 0) = 0 := by
        split
        · rename_i zero
          have free : (b.landing seqNum).headReady = false := by
            rw [Bool.eq_false_iff, ne_eq, (sound.landing seqNum).headReady_iff,
              ← zero, here, absent]
            simp
          exact (sound.landing seqNum).offset_eq_zero_of_not_headReady free
        · rfl
      rw [pendingAt, accept_slotFrameOffset, noOffset, held_accept, here,
        Function.update_self, Function.update_self, storedPacket, landing_config]
      simp
    · rw [Function.update_of_ne here, pendingAt, pendingAt, held_accept,
        Function.update_of_ne here, accept_slotFrameOffset, accept_config,
        landing_config]
  rw [JitterBuffer.pending, JitterBuffer.pending, filled]
  exact flatMap_update_perm List.nodup_range (List.mem_range.2 near)
    (pendingAt_of_none absent) _

end AudioRouter.JitterBuffer
