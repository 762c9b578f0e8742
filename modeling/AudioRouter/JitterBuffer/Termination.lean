import AudioRouter.Lib.While
import AudioRouter.JitterBuffer.Pending

/-!
# The loops of `pop_frames` end

The model of `pop_frames` runs its two loops with fuel.  Here they are loops without:
the drain ends because it is asked for frames of the unbroken run only, and the delivery
because a slot at the playhead always has a frame left.
-/

namespace AudioRouter.JitterBuffer

open While

variable {σ : Type}

/-! ## `pop_frames` with while loops -/

/-- The drain block of `pop_frames`, with the loop of `advance_playhead_locked`. -/
inductive Drains (b : JitterBuffer σ) (nowMs : Clock) : JitterBuffer σ → Prop where
  | idle (nothing : b.drainAmount nowMs = 0) : Drains b nowMs b
  | runs {p : Nat × JitterBuffer σ} (due : b.drainAmount nowMs ≠ 0)
      (exits : Exits (fun p => 0 < p.1) advanceStep (b.drainAmount nowMs, b) p) :
      Drains b nowMs
        { p.2 with
          stats :=
            { p.2.stats with
              drainedFrames := p.2.stats.drainedFrames + b.drainAmount nowMs }
          lastDrainMs := nowMs }

/-- A call of `pop_frames` with a buffer to write to ends with a result. -/
inductive Pops [Zero σ] (b : JitterBuffer σ) (numFrames : Nat) (nowMs : Clock) :
    JitterBuffer σ × PopResult σ → Prop where
  | silent (waits : b.isBuffering ∨ !b.hasFirstPacket) :
      Pops b numFrames nowMs
        (b, ⟨numFrames, List.replicate (numFrames * b.config.channels) 0⟩)
  | plays {c : JitterBuffer σ} {d : Delivery σ} (plays : ¬ (b.isBuffering ∨ !b.hasFirstPacket))
      (drains : Drains b nowMs c)
      (exits :
        Exits (fun d => d.framesDelivered < numFrames) (deliverStep numFrames) ⟨c, 0, []⟩ d) :
      Pops b numFrames nowMs (d.buffer, ⟨d.framesDelivered, d.dest⟩)

theorem advancePlayhead_eq_fuelled :
    ∀ (fuel : Nat) (p : Nat × JitterBuffer σ),
      advancePlayhead fuel p = (fuelled (fun p => 0 < p.1) advanceStep fuel p).2 := by
  intro fuel
  induction fuel with
  | zero => exact fun _ => rfl
  | succ fuel inductionHypothesis =>
    intro p
    rw [advancePlayhead, fuelled]
    split
    · exact inductionHypothesis (advanceStep p)
    · rfl

theorem deliver_eq_fuelled [Zero σ] (numFrames : Nat) :
    ∀ (fuel : Nat) (d : Delivery σ),
      deliver numFrames fuel d =
        fuelled (fun d => d.framesDelivered < numFrames) (deliverStep numFrames) fuel d := by
  intro fuel
  induction fuel with
  | zero => exact fun _ => rfl
  | succ fuel inductionHypothesis =>
    intro d
    rw [deliver, fuelled]
    split
    · exact inductionHypothesis (deliverStep numFrames d)
    · rfl

/-! ## The drain -/

/-- While frames are left to drop, they lie in the unbroken run at the playhead. -/
def Droppable (p : Nat × JitterBuffer σ) : Prop := p.2.WellFormed ∧ p.2.Covered p.1

/-- A turn of `advance_playhead_locked` drops a frame of the run. -/
theorem Droppable.advanceStep {p : Nat × JitterBuffer σ} (droppable : Droppable p)
    (more : 0 < p.1) :
    Droppable (JitterBuffer.advanceStep p) ∧ (JitterBuffer.advanceStep p).1 < p.1 := by
  obtain ⟨frames, b⟩ := p
  obtain ⟨wf, covered⟩ := droppable
  dsimp only at wf covered more
  have ready := covered.headReady wf more
  have inside := wf.offset_lt_of_headReady ready
  by_cases stays : frames < b.headSlot.numFrames - b.slotFrameOffset
  · rw [advanceStep_of_inside ready stays]
    obtain ⟨m, run, enough⟩ := covered
    refine ⟨⟨wf.readOn ready (by omega), m, run, ?_⟩, more⟩
    change 0 + (b.slotFrameOffset + frames) ≤ _
    rw [Nat.zero_add, Nat.add_comm]
    exact enough
  · have through := Nat.not_lt.1 stays
    rw [advanceStep_of_through ready through]
    refine ⟨⟨wf.leaveSlot, covered.leaveSlot wf ready through⟩, ?_⟩
    dsimp only
    omega

theorem WellFormed.drains {b : JitterBuffer σ} (wf : b.WellFormed) (nowMs : Clock) :
    Drains b nowMs (b.drainToTarget nowMs) := by
  rw [JitterBuffer.drainToTarget]
  dsimp only
  split
  next nothing => exact Drains.idle nothing
  next due =>
    rw [JitterBuffer.advancePlayheadLocked, advancePlayhead_eq_fuelled]
    apply Drains.runs due
    have start : Droppable (b.drainAmount nowMs, b) := ⟨wf, wf.covered_drainAmount nowMs⟩
    exact
      exits_of_variant Droppable Prod.fst (fun _ droppable more => (droppable.advanceStep more).1)
        (fun _ droppable more => (droppable.advanceStep more).2) _ start (Nat.le_refl _)

theorem Drains.unique {b c d : JitterBuffer σ} {nowMs : Clock} (first : Drains b nowMs c)
    (second : Drains b nowMs d) : c = d := by
  cases first with
  | idle nothing =>
    cases second with
    | idle _ => rfl
    | runs due _ => exact absurd nothing due
  | runs due exits =>
    cases second with
    | idle nothing => exact absurd nothing due
    | runs _ exitsToo => rw [exits.unique exitsToo]

/-! ## The delivery -/

section

variable [Zero σ]

/-- As many samples are written as frames are delivered. -/
def Written (d : Delivery σ) : Prop :=
  d.dest.length = d.framesDelivered * d.buffer.config.channels

theorem Written.deliverStep {numFrames : Nat} {d : Delivery σ} (written : Written d)
    (wf : d.buffer.WellFormed) : Written (JitterBuffer.deliverStep numFrames d) := by
  rw [Written, deliverStep_config]
  rw [Written] at written
  cases ready : d.buffer.headReady with
  | true =>
    have samples := wf.held_sampleCount (wf.held_zero_of_headReady ready)
    change d.buffer.headSlot.pcmData.length = d.buffer.headSlot.numFrames * _ at samples
    rw [deliverStep_of_ready ready]
    dsimp only
    rw [List.length_append, written, List.length_take, List.length_drop, samples,
      ← Nat.sub_mul, Nat.add_mul, Nat.min_eq_left]
    exact Nat.mul_le_mul_right _ (Nat.min_le_left _ _)
  | false =>
    cases future : d.buffer.hasFuturePackets with
    | true =>
      rw [deliverStep_of_gap ready future]
      dsimp only
      rw [List.length_append, written, List.length_replicate, Nat.add_mul]
    | false =>
      rw [deliverStep_of_dry ready future]
      dsimp only
      rw [List.length_append, written, List.length_replicate, Nat.add_mul]

/-- The delivery loop ends, and has written as much as was asked for. -/
theorem WellFormed.deliver_exits {b : JitterBuffer σ} (wf : b.WellFormed) (numFrames : Nat) :
    Exits (fun d => d.framesDelivered < numFrames) (deliverStep numFrames) ⟨b, 0, []⟩
      (deliver numFrames numFrames ⟨b, 0, []⟩) := by
  rw [deliver_eq_fuelled]
  apply
    exits_of_variant (fun d : Delivery σ => d.buffer.WellFormed)
      (fun d => numFrames - d.framesDelivered)
  · exact fun _ wf _ => deliverStep_wellFormed numFrames wf
  · intro d wf more
    have progress := deliverStep_framesDelivered wf more
    omega
  · exact wf
  · exact Nat.sub_le _ _

theorem WellFormed.deliver_dest {b : JitterBuffer σ} (wf : b.WellFormed) (numFrames : Nat) :
    (deliver numFrames numFrames ⟨b, 0, []⟩).dest.length = numFrames * b.config.channels := by
  have kept : ∀ d : Delivery σ,
      (d.buffer.WellFormed ∧ Written d) ∧ d.buffer.config = b.config →
      d.framesDelivered < numFrames →
        ((deliverStep numFrames d).buffer.WellFormed ∧ Written (deliverStep numFrames d)) ∧
          (deliverStep numFrames d).buffer.config = b.config := by
    rintro d ⟨⟨wf, written⟩, config⟩ _
    refine ⟨⟨deliverStep_wellFormed numFrames wf, written.deliverStep wf⟩, ?_⟩
    rw [deliverStep_config, config]
  have start : Written (⟨b, 0, []⟩ : Delivery σ) := (Nat.zero_mul _).symm
  obtain ⟨⟨⟨-, written⟩, config⟩, -⟩ :=
    (wf.deliver_exits numFrames).preserves kept ⟨⟨wf, start⟩, rfl⟩
  have delivered :=
    deliver_framesDelivered numFrames (d := ⟨b, 0, []⟩) wf (Nat.zero_le numFrames) (by omega)
  rw [Written, config, delivered] at written
  exact written

/-! ## The whole call -/

theorem Sound.pops_iff {b : JitterBuffer σ} (sound : b.Sound) {numFrames : Nat}
    (positive : 1 ≤ numFrames) (nowMs : Clock) (outcome : JitterBuffer σ × PopResult σ) :
    Pops b numFrames nowMs outcome ↔ outcome = b.popFrames true numFrames nowMs := by
  have asked : ¬ ((!true) = true ∨ numFrames = 0) := by
    rintro (no | no)
    · exact nomatch no
    · omega
  rw [JitterBuffer.popFrames, if_neg asked]
  constructor
  · intro pops
    cases pops with
    | silent waits => rw [if_pos waits]
    | plays plays drains exits =>
      obtain rfl := drains.unique (sound.drains nowMs)
      obtain rfl := exits.unique ((sound.drainToTarget nowMs).deliver_exits numFrames)
      rw [if_neg plays]
  · rintro rfl
    split
    next waits => exact Pops.silent waits
    next plays =>
      exact
        Pops.plays plays (sound.drains nowMs)
          ((sound.drainToTarget nowMs).deliver_exits numFrames)

theorem Sound.popFrames_dest {b : JitterBuffer σ} (sound : b.Sound) {numFrames : Nat}
    (positive : 1 ≤ numFrames) (nowMs : Clock) :
    (b.popFrames true numFrames nowMs).2.dest.length = numFrames * b.config.channels := by
  have asked : ¬ ((!true) = true ∨ numFrames = 0) := by
    rintro (no | no)
    · exact nomatch no
    · omega
  rw [JitterBuffer.popFrames, if_neg asked]
  split
  · exact List.length_replicate
  · dsimp only
    rw [(sound.drainToTarget nowMs).deliver_dest numFrames, drainToTarget_config]

/-- In every reachable state a call of `pop_frames` ends, its two loops included, with
the result of the model: it returns what was asked for and writes as much. -/
theorem popFrames_terminates (latency : Nat) (calls : List (Call σ)) {numFrames : Nat}
    (positive : 1 ≤ numFrames) (nowMs : Clock) :
    let b := (new latency : JitterBuffer σ).run calls
    (∀ outcome, Pops b numFrames nowMs outcome ↔
      outcome = b.popFrames true numFrames nowMs) ∧
    (b.popFrames true numFrames nowMs).2.frames = numFrames ∧
    (b.popFrames true numFrames nowMs).2.dest.length = numFrames * b.config.channels := by
  intro b
  have sound : b.Sound := (sound_new latency).run calls
  refine ⟨sound.pops_iff positive nowMs, ?_, sound.popFrames_dest positive nowMs⟩
  exact sound.popFrames_frames true numFrames nowMs

end

/-- Two packets of different lengths around a hole, the first one partly played. -/
def holedCalls : List (Call Nat) :=
  [.configure { sampleRate := 100, channels := 1, framesPerPacket := 2 } 5,
    .pushPacket 7 0 (some fun i => i) 30 0, .pushPacket 9 0 (some fun i => i) 3 0,
    .popFrames true 4 0]

theorem popFrames_terminates_holed :
    let b := (new 0 : JitterBuffer Nat).run holedCalls
    b.slotFrameOffset = 4 ∧ b.isBuffering = false ∧
    (b.popFrames true 40 0).2.frames = 40 ∧
    (b.popFrames true 40 0).2.dest.length = 40 * b.config.channels :=
  ⟨by decide +kernel, by decide +kernel,
    (popFrames_terminates 0 holedCalls (by decide : 1 ≤ 40) 0).2⟩

end AudioRouter.JitterBuffer
