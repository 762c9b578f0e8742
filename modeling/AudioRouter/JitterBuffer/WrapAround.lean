import AudioRouter.JitterBuffer.Aligned

/-!
# Renumbering a run

Adding a constant to every pushed sequence number should be invisible.  Two
buffers are `Aligned` when they differ in the numbering only; every call keeps
them aligned as long as neither run of packets at the playhead crosses the wrap
from `2 ^ 32 - 1` to `0`.  Where one does, the 64-bit comparison of the scan
stops early, and the two buffers report different levels.
-/

namespace AudioRouter.JitterBuffer

open SequenceWindow

variable {σ : Type}

/-- Away from the wrap both scans stop at the same hole. -/
theorem Aligned.contiguousFrames {k : SeqNum} {b c : JitterBuffer σ}
    (aligned : Aligned k b c) (bWf : b.WellFormed)
    (cWf : c.WellFormed) (bSafe : ¬ b.CrossesWrap) (cSafe : ¬ c.CrossesWrap) :
    c.contiguousFrames = b.contiguousFrames := by
  obtain ⟨m, bScan, bTotal⟩ := bWf.contiguousFrames_spec
  obtain ⟨n, cScan, cTotal⟩ := cWf.contiguousFrames_spec
  have same : n = m := by
    have bHole := bScan.held_eq_none bSafe
    have cHole := cScan.held_eq_none cSafe
    rcases Nat.lt_trichotomy n m with shorter | same | longer
    · have present := (bScan.seen n shorter).1
      rw [← aligned.held, cHole] at present
      cases present
    · exact same
    · have present := (cScan.seen m longer).1
      rw [aligned.held, bHole] at present
      cases present
  rw [bTotal, cTotal, same, heldFrames_congr aligned.held]

/-! ## One call -/

/-- Aligned as far as the window and the playhead go, and altogether aligned
unless a run of packets crosses the wrap.  Ending the prefill is the one step
whose effect shows only in the other members. -/
structure Renumbered (k : SeqNum) (b c : JitterBuffer σ) : Prop where
  held : c.held = b.held
  offset : c.slotFrameOffset = b.slotFrameOffset
  next : b.hasFirstPacket → c.nextPlaySeq = b.nextPlaySeq + k
  aligned : ¬ b.CrossesWrap → ¬ c.CrossesWrap → Aligned k b c

theorem Aligned.renumbered {k : SeqNum} {b c : JitterBuffer σ}
    (aligned : Aligned k b c) : Renumbered k b c :=
  ⟨aligned.held, aligned.slotFrameOffset, aligned.next, fun _ _ => aligned⟩

theorem crossesWrap_congr {b c : JitterBuffer σ} (held : b.held = c.held)
    (next : b.nextPlaySeq = c.nextPlaySeq) :
    b.CrossesWrap ↔ c.CrossesWrap := by
  rw [CrossesWrap, CrossesWrap, held, next]

theorem Aligned.renumbered_finishBuffering {k : SeqNum} {b c : JitterBuffer σ}
    (aligned : Aligned k b c) (bWf : b.WellFormed) (cWf : c.WellFormed)
    (nowMs : Clock) :
    Renumbered k (b.finishBuffering nowMs) (c.finishBuffering nowMs) where
  held := by
    rw [held_finishBuffering, held_finishBuffering, aligned.held]
  offset := by
    rw [finishBuffering_slotFrameOffset, finishBuffering_slotFrameOffset,
      aligned.slotFrameOffset]
  next first := by
    rw [finishBuffering_nextPlaySeq, finishBuffering_nextPlaySeq]
    rw [finishBuffering_hasFirstPacket] at first
    exact aligned.next first
  aligned bSafe cSafe := by
    rw [crossesWrap_congr (held_finishBuffering _ _)
      (finishBuffering_nextPlaySeq _ _)] at bSafe cSafe
    exact aligned.finishBuffering (aligned.contiguousFrames bWf cWf bSafe cSafe) nowMs

theorem Aligned.call [Zero σ] {k : SeqNum} {b c : JitterBuffer σ}
    (aligned : Aligned k b c) (bSound : b.Sound) (cSound : c.Sound)
    (bSafe : ¬ b.CrossesWrap) (cSafe : ¬ c.CrossesWrap) (x : Call σ) :
    (c.call (shiftCall k x)).2 = (b.call x).2 ∧
      Renumbered k (b.call x).1 (c.call (shiftCall k x)).1 := by
  cases x with
  | configure config latency =>
      exact ⟨rfl, (aligned.configure config latency).renumbered⟩
  | pushPacket seqNum timestampUs pcmData numFrames nowMs =>
      obtain ⟨answer, renumbered⟩ :=
        aligned.pushPacket bSound cSound seqNum timestampUs pcmData numFrames nowMs
          (fun _ _ kept => kept.renumbered)
          fun _ _ tracked bWf cWf _ => tracked.renumbered_finishBuffering bWf cWf nowMs
      exact ⟨congrArg Reply.pushed answer, renumbered⟩
  | popFrames hasDest numFrames nowMs =>
      have scan :=
        aligned.contiguousFrames bSound.toWellFormed cSound.toWellFormed bSafe cSafe
      obtain ⟨popped, kept⟩ := aligned.popFrames bSound cSound scan hasDest numFrames nowMs
      exact ⟨congrArg Reply.popped popped, kept.renumbered⟩

/-! ## Levels on the wrap -/

theorem WellFormed.availableFrames_lt {b c : JitterBuffer σ}
    (bWf : b.WellFormed) (cWf : c.WellFormed) (held : c.held = b.held)
    (offset : c.slotFrameOffset = b.slotFrameOffset) {m n : Nat}
    (bScan : b.ScanLength n) (cScan : c.ScanLength m) (shorter : m < n) :
    c.availableFrames < b.availableFrames := by
  have longer :
      c.contiguousFrames < b.contiguousFrames := by
    rw [bWf.contiguousFrames_eq bScan, cWf.contiguousFrames_eq cScan,
      heldFrames_congr held]
    have pastEnd : 0 < b.heldFrames m :=
      bWf.heldFrames_pos (bScan.seen m shorter).1
    calc ∑ i ∈ Finset.range m, b.heldFrames i
        < ∑ i ∈ Finset.range (m + 1), b.heldFrames i := by
          rw [Finset.sum_range_succ]
          omega
      _ ≤ ∑ i ∈ Finset.range n, b.heldFrames i :=
          Finset.sum_le_sum_of_subset
            (Finset.range_subset_range.2 (by omega : m + 1 ≤ n))
  have inside := cWf.offset_le_contiguousFrames
  have bLevel := bWf.availableFrames_eq
  have cLevel := cWf.availableFrames_eq
  unfold JitterBuffer.availableFrames
  omega

/-- One window under two numberings: when its run of packets crosses the wrap in
one of them, the reported levels differ. -/
theorem Renumbered.availableFrames_ne {k : SeqNum} {b c : JitterBuffer σ}
    (renumbered : Renumbered k b c) (bSound : b.Sound) (cSound : c.Sound)
    (moved : k ≠ 0) (cross : b.CrossesWrap ∨ c.CrossesWrap) :
    c.availableFrames ≠ b.availableFrames := by
  have present : (b.held 0).isSome := by
    rcases cross with ⟨_, _, _, run⟩ | ⟨_, _, _, run⟩
    · exact run 0 (Nat.zero_le _)
    · rw [← renumbered.held]
      exact run 0 (Nat.zero_le _)
  have first : b.hasFirstPacket = true := by
    by_contra missing
    rw [(bSound.fresh (by simpa using missing)).held] at present
    cases present
  have next := renumbered.next first
  obtain ⟨n, bScan, _⟩ := bSound.contiguousFrames_spec
  obtain ⟨m, cScan, _⟩ := cSound.contiguousFrames_spec
  have different : m ≠ n := by
    rintro rfl
    -- the run ends at the wrap in both numberings, so the playheads agree
    have reachesWrap :
        b.nextPlaySeq.toNat + m = 2 ^ 32 ∧ c.nextPlaySeq.toNat + m = 2 ^ 32 := by
      rcases cross with bCross | cCross
      · obtain ⟨reached, goesOn⟩ := bScan.of_crossesWrap bCross
        rw [← renumbered.held] at goesOn
        exact ⟨reached, (cScan.of_crossesWrap (cScan.crossesWrap_of goesOn)).1⟩
      · obtain ⟨reached, goesOn⟩ := cScan.of_crossesWrap cCross
        rw [renumbered.held] at goesOn
        exact ⟨(bScan.of_crossesWrap (bScan.crossesWrap_of goesOn)).1, reached⟩
    have samePlayhead : c.nextPlaySeq = b.nextPlaySeq :=
      BitVec.eq_of_toNat_eq (by omega)
    rw [samePlayhead] at next
    exact moved (left_eq_add.1 next)
  rcases Nat.lt_or_gt_of_ne different with shorter | longer
  · exact
      (WellFormed.availableFrames_lt bSound.toWellFormed cSound.toWellFormed
        renumbered.held renumbered.offset bScan cScan shorter).ne
  · exact
      (WellFormed.availableFrames_lt cSound.toWellFormed bSound.toWellFormed
        renumbered.held.symm renumbered.offset.symm cScan bScan longer).ne'

/-! ## Runs -/

section Runs

variable [Zero σ]

/-- No state of the run has a run of packets across the wrap at its
playhead. -/
def AvoidsWrap (b : JitterBuffer σ) (calls : List (Call σ)) : Prop :=
  ∀ n, ¬ (b.run (calls.take n)).CrossesWrap

theorem avoidsWrap_cons {b : JitterBuffer σ} {x : Call σ} {calls : List (Call σ)} :
    b.AvoidsWrap (x :: calls) ↔
      ¬ b.CrossesWrap ∧ (b.call x).1.AvoidsWrap calls := by
  constructor
  · intro avoids
    exact ⟨avoids 0, fun n => avoids (n + 1)⟩
  · rintro ⟨start, rest⟩ n
    cases n with
    | zero => exact start
    | succ n => exact rest n

theorem avoidsWrap_nil {b : JitterBuffer σ} :
    b.AvoidsWrap [] ↔ ¬ b.CrossesWrap := by
  constructor
  · exact fun avoids => avoids 0
  · intro start n
    rw [List.take_nil]
    exact start

theorem Aligned.transcript_eq_iff {k : SeqNum} (moved : k ≠ 0) :
    ∀ (calls : List (Call σ)) {b c : JitterBuffer σ}, Aligned k b c → b.Sound →
      c.Sound → ¬ b.CrossesWrap → ¬ c.CrossesWrap →
        (c.transcript (calls.map (shiftCall k)) = b.transcript calls ↔
          b.AvoidsWrap calls ∧ c.AvoidsWrap (calls.map (shiftCall k)))
  | [], b, c, _, _, _, bSafe, cSafe => by
      rw [List.map_nil, avoidsWrap_nil, avoidsWrap_nil]
      exact ⟨fun _ => ⟨bSafe, cSafe⟩, fun _ => rfl⟩
  | x :: calls, b, c, aligned, bSound, cSound, bSafe, cSafe => by
      obtain ⟨answer, renumbered⟩ := aligned.call bSound cSound bSafe cSafe x
      have bNext := bSound.call x
      have cNext := cSound.call (shiftCall k x)
      rw [List.map_cons, avoidsWrap_cons, avoidsWrap_cons, transcript, transcript,
        List.cons.injEq]
      by_cases cross :
        (b.call x).1.CrossesWrap ∨ (c.call (shiftCall k x)).1.CrossesWrap
      · have differ := renumbered.availableFrames_ne bNext cNext moved cross
        constructor
        · rintro ⟨seen, _⟩
          exact absurd (congrArg Observation.available seen) differ
        · rintro ⟨⟨_, bAvoids⟩, ⟨_, cAvoids⟩⟩
          exact absurd cross (not_or.2 ⟨bAvoids 0, cAvoids 0⟩)
      · rw [not_or] at cross
        have kept := renumbered.aligned cross.1 cross.2
        have scan :=
          kept.contiguousFrames bNext.toWellFormed cNext.toWellFormed cross.1 cross.2
        have seen :
            (c.call (shiftCall k x)).1.observe (c.call (shiftCall k x)).2 =
              (b.call x).1.observe (b.call x).2 := by
          rw [answer, kept.observe_eq scan]
        rw [transcript_eq_iff moved calls kept bNext cNext cross.1 cross.2]
        constructor
        · rintro ⟨_, bAvoids, cAvoids⟩
          exact ⟨⟨bSafe, bAvoids⟩, cSafe, cAvoids⟩
        · rintro ⟨⟨_, bAvoids⟩, _, cAvoids⟩
          exact ⟨seen, bAvoids, cAvoids⟩

omit [Zero σ] in
theorem Vacant.not_crossesWrap {b : JitterBuffer σ} (vacant : b.Vacant) :
    ¬ b.CrossesWrap := by
  rintro ⟨_, _, _, run⟩
  have present := run 0 (Nat.zero_le _)
  rw [vacant.held] at present
  cases present

omit [Zero σ] in
theorem map_shiftCall_zero (calls : List (Call σ)) :
    calls.map (shiftCall 0) = calls := by
  refine List.map_id'' (fun x => ?_) calls
  cases x with
  | configure _ _ => rfl
  | pushPacket seqNum _ _ _ _ => rw [shiftCall, add_zero]
  | popFrames _ _ _ => rfl

/-- A renumbered run is told from the original one exactly when, in one of the
two, the packets at the playhead ever run across the wrap. -/
theorem renumbered_transcript_iff (latency : Nat) (calls : List (Call σ))
    (k : SeqNum) :
    let b : JitterBuffer σ := new latency
    b.transcript (calls.map (shiftCall k)) = b.transcript calls ↔
      k = 0 ∨ (b.AvoidsWrap calls ∧ b.AvoidsWrap (calls.map (shiftCall k))) := by
  intro b
  have sound : b.Sound := sound_new latency
  have vacant : b.Vacant := vacant_new latency
  by_cases still : k = 0
  · subst k
    rw [map_shiftCall_zero]
    exact iff_of_true rfl (Or.inl rfl)
  · have aligned : Aligned k b b :=
      { plain := rfl
        held := rfl
        next := fun first => by cases first
        last := fun seen => by cases seen }
    rw [aligned.transcript_eq_iff still calls sound sound vacant.not_crossesWrap
      vacant.not_crossesWrap]
    exact (or_iff_right still).symm

/-- Two packets numbered `2 ^ 32 - 1` and `0` are reported as one. -/
theorem renumbered_run_differs :
    ¬ ∀ (k : SeqNum) (latency : Nat) (calls : List (Call Nat)),
      (new latency : JitterBuffer Nat).transcript (calls.map (shiftCall k)) =
        (new latency : JitterBuffer Nat).transcript calls := by
  intro invisible
  have same := invisible (2 ^ 32 - 1) 40
    [.configure {} 40, .pushPacket 0 0 (some fun _ => 7) 480 0,
      .pushPacket 1 0 (some fun _ => 7) 480 0]
  have levels := congrArg (List.map Observation.available) same
  revert levels
  decide +kernel

end Runs

end AudioRouter.JitterBuffer
