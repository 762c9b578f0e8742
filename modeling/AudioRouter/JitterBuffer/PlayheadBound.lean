import AudioRouter.JitterBuffer.Pending

/-!
# The playhead and the newest packet

The loops of `pop_frames` step the playhead on only while a packet is ahead of it, so no
call takes it further than one number beyond the last packet of the window.
-/

namespace AudioRouter.JitterBuffer

open SequenceWindow

variable {σ : Type}

/-- The playhead of `c` is after that of `b`, by `limit` steps at most. -/
def Within (limit : Nat) (b c : JitterBuffer σ) : Prop :=
  ∃ n ≤ limit, Follows b n c

/-- All packets of the window are fewer than `limit` steps ahead. -/
def EndsBy (b : JitterBuffer σ) (limit : Nat) : Prop :=
  ∀ i, (b.held i).isSome → i < limit

namespace Within

variable {limit : Nat} {b c d : JitterBuffer σ}

theorem refl (limit : Nat) (b : JitterBuffer σ) : Within limit b b :=
  ⟨0, Nat.zero_le _, Follows.refl b⟩

theorem congr (within : Within limit b c) (held : d.held = c.held)
    (next : d.nextPlaySeq = c.nextPlaySeq) (config : d.config = c.config) :
    Within limit b d := by
  obtain ⟨n, few, follows⟩ := within
  exact ⟨n, few, follows.congr held next config⟩

/-- A step towards a packet stays within the window. -/
theorem leave (within : Within limit b c) (ends : b.EndsBy limit)
    (ahead : ∃ i, (c.held i).isSome) (held : ∀ i, d.held i = c.held (i + 1))
    (next : d.nextPlaySeq = c.nextPlaySeq + 1) (config : d.config = c.config) :
    Within limit b d := by
  obtain ⟨n, _, follows⟩ := within
  have present := ahead
  obtain ⟨i, present⟩ := present
  rw [follows.held] at present
  have before := ends (n + i) present
  exact ⟨n + 1, by omega, follows.step ahead held next config⟩

theorem advancePlayhead (ends : b.EndsBy limit) :
    ∀ (fuel : Nat) {frames : Nat} {c : JitterBuffer σ}, c.WellFormed → c.Covered frames →
      Within limit b c → Within limit b (JitterBuffer.advancePlayhead fuel (frames, c))
  | 0, _, _, _, _, within => within
  | fuel + 1, frames, c, wf, covered, within => by
      rw [JitterBuffer.advancePlayhead]
      split
      next more =>
        have ready := covered.headReady wf more
        by_cases stays : frames < c.headSlot.numFrames - c.slotFrameOffset
        · rw [advanceStep_of_inside ready stays]
          have stopped : ∀ x : JitterBuffer σ, JitterBuffer.advancePlayhead fuel (0, x) = x := by
            intro x
            cases fuel <;> rfl
          rw [stopped]
          exact within.congr rfl rfl rfl
        · have through := Nat.not_lt.1 stays
          rw [advanceStep_of_through ready through]
          have ahead : ∃ i, (c.held i).isSome := ⟨0, wf.headReady_iff.1 ready⟩
          exact
            advancePlayhead ends fuel wf.leaveSlot (covered.leaveSlot wf ready through)
              (within.leave ends ahead (held_leaveSlot c) rfl rfl)
      · exact within

theorem drainToTarget (wf : b.WellFormed) (ends : b.EndsBy limit) (nowMs : Clock) :
    Within limit b (b.drainToTarget nowMs) := by
  unfold JitterBuffer.drainToTarget
  dsimp only
  split
  · exact refl limit b
  · have advanced :=
      advancePlayhead ends (b.drainAmount nowMs) wf (wf.covered_drainAmount nowMs)
        (refl limit b)
    exact advanced.congr rfl rfl rfl

variable [Zero σ]

theorem deliverStep {numFrames : Nat} {d : Delivery σ} (ends : b.EndsBy limit)
    (wf : d.buffer.WellFormed) (within : Within limit b d.buffer) :
    Within limit b (JitterBuffer.deliverStep numFrames d).buffer := by
  cases ready : d.buffer.headReady with
  | true =>
      rw [deliverStep_of_ready ready]
      dsimp only
      unfold consume
      split
      · have ahead : ∃ i, (d.buffer.held i).isSome := ⟨0, wf.headReady_iff.1 ready⟩
        exact within.leave ends ahead (held_leaveSlot _) rfl rfl
      · exact within.congr rfl rfl rfl
  | false =>
      cases future : d.buffer.hasFuturePackets with
      | true =>
          rw [deliverStep_of_gap ready future]
          obtain ⟨i, _, present⟩ := (hasFuturePackets_iff _).1 future
          exact within.leave ends ⟨i, present⟩ (held_leaveSlot _) rfl rfl
      | false =>
          rw [deliverStep_of_dry ready future]
          exact within.congr rfl rfl rfl

/-- A pop does not take the playhead beyond the packets of the window. -/
theorem popFrames (wf : b.WellFormed) (ends : b.EndsBy limit) (hasDest : Bool)
    (numFrames : Nat) (nowMs : Clock) :
    Within limit b (b.popFrames hasDest numFrames nowMs).1 := by
  unfold JitterBuffer.popFrames
  split
  · exact refl limit b
  · split
    · exact refl limit b
    · have delivers : ∀ d : Delivery σ, d.framesDelivered < numFrames →
          d.buffer.WellFormed ∧ Within limit b d.buffer →
            (JitterBuffer.deliverStep numFrames d).buffer.WellFormed ∧
              Within limit b (JitterBuffer.deliverStep numFrames d).buffer :=
        fun d _ both =>
          ⟨deliverStep_wellFormed numFrames both.1, deliverStep ends both.1 both.2⟩
      have delivered :=
        deliver_induction (motive := fun d => d.buffer.WellFormed ∧ Within limit b d.buffer)
          delivers numFrames ⟨b.drainToTarget nowMs, 0, []⟩
          ⟨wf.drainToTarget nowMs, drainToTarget wf ends nowMs⟩
      exact delivered.2

end Within
end AudioRouter.JitterBuffer
