import AudioRouter.JitterBuffer.Aligned
import AudioRouter.JitterBuffer.Bookkeeping

/-!
# A buffer that is configured again

After `configure` the slots still hold numbers and time stamps of the old session, and the
counters go on.  A caller sees neither: the buffer is aligned with a new one, with nothing
between the numberings, once the counters are put on top.
-/

namespace AudioRouter.JitterBuffer

variable {σ : Type} {b c : JitterBuffer σ}

/-! ## One numbering -/

/-- In one numbering two buffers with the same packets look the same to a scan. -/
theorem contiguousFrames_congr (bWf : b.WellFormed) (cWf : c.WellFormed)
    (held : c.held = b.held) (next : c.nextPlaySeq = b.nextPlaySeq) :
    c.contiguousFrames = b.contiguousFrames := by
  rcases bWf.contiguousFrames_spec with ⟨n, scan, total⟩
  have visible : c.Visible = b.Visible := by
    funext i
    rw [Visible, Visible, held, next]
  have scanToo : c.ScanLength n := by
    refine ⟨?_, ?_⟩
    · rw [visible]
      exact scan.seen
    · rw [visible]
      exact scan.stops
  rw [total, cWf.contiguousFrames_eq scanToo, heldFrames_congr held]

theorem Aligned.next_eq (aligned : Aligned 0 b c) (first : b.hasFirstPacket = true) :
    c.nextPlaySeq = b.nextPlaySeq := by
  rw [aligned.next first, add_zero]

theorem Vacant.contiguousFrames (vacant : b.Vacant) : b.contiguousFrames = 0 := by
  rw [JitterBuffer.contiguousFrames, maxSlots, contiguousFrom]
  apply if_neg
  simp [vacant _]

theorem Aligned.sameScan (aligned : Aligned 0 b c) (bSound : b.Sound) (cSound : c.Sound) :
    c.contiguousFrames = b.contiguousFrames := by
  cases first : b.hasFirstPacket with
  | true =>
    exact
      contiguousFrames_congr bSound.toWellFormed cSound.toWellFormed aligned.held
        (aligned.next_eq first)
  | false =>
    have firstToo := aligned.hasFirstPacket.trans first
    rw [(bSound.fresh first).contiguousFrames, (cSound.fresh firstToo).contiguousFrames]

variable [Zero σ]

/-- In one numbering a call is answered alike. -/
theorem Aligned.call_same (aligned : Aligned 0 b c) (bSound : b.Sound) (cSound : c.Sound)
    (x : Call σ) : (c.call x).2 = (b.call x).2 ∧ Aligned 0 (b.call x).1 (c.call x).1 := by
  cases x with
  | configure config latency => exact ⟨rfl, aligned.configure config latency⟩
  | pushPacket seqNum timestampUs pcmData numFrames nowMs =>
    have finishes : ∀ b c : JitterBuffer σ, Aligned 0 b c → b.WellFormed → c.WellFormed →
        b.hasFirstPacket = true →
          Aligned 0 (b.finishBuffering nowMs) (c.finishBuffering nowMs) := by
      intro b c aligned bWf cWf first
      apply aligned.finishBuffering
      exact contiguousFrames_congr bWf cWf aligned.held (aligned.next_eq first)
    have pushed :=
      aligned.pushPacket bSound cSound seqNum timestampUs pcmData numFrames nowMs
        (fun _ _ kept => kept) finishes
    rw [add_zero] at pushed
    exact ⟨congrArg Reply.pushed pushed.1, pushed.2⟩
  | popFrames hasDest numFrames nowMs =>
    have scan := aligned.sameScan bSound cSound
    rcases aligned.popFrames bSound cSound scan hasDest numFrames nowMs with ⟨popped, kept⟩
    exact ⟨congrArg Reply.popped popped, kept⟩

theorem Aligned.transcript_eq :
    ∀ (calls : List (Call σ)) {b c : JitterBuffer σ}, Aligned 0 b c → b.Sound → c.Sound →
      c.transcript calls = b.transcript calls := by
  intro calls
  induction calls with
  | nil => exact fun _ _ _ => rfl
  | cons x calls inductionHypothesis =>
    intro b c aligned bSound cSound
    rcases aligned.call_same bSound cSound x with ⟨answer, kept⟩
    have bNext := bSound.call x
    have cNext := cSound.call x
    have seen := kept.observe_eq (kept.sameScan bNext cNext) (b.call x).2
    rw [transcript, transcript, inductionHypothesis kept bNext cNext, answer, seen]

/-! ## Counters -/

/-- The same observation where the counters have begun elsewhere. -/
def Observation.credit (s : JitterBufferStats) (seen : Observation σ) : Observation σ :=
  { seen with stats := addStats s seen.stats }

omit [Zero σ] in
theorem observe_credit (b : JitterBuffer σ) (s : JitterBufferStats) (reply : Reply σ) :
    (b.credit s).observe reply = (b.observe reply).credit s := by
  rw [observe, JitterBuffer.availableFrames, JitterBuffer.credit, Bookkeeping.availableFramesUnlocked_on]
  rfl

theorem transcript_credit (s : JitterBufferStats) :
    ∀ (calls : List (Call σ)) (b : JitterBuffer σ),
      (b.credit s).transcript calls = (b.transcript calls).map (Observation.credit s) := by
  intro calls
  induction calls with
  | nil => exact fun _ => rfl
  | cons x calls inductionHypothesis =>
    intro b
    rw [transcript, transcript, call_credit, inductionHypothesis, observe_credit, List.map_cons]

/-! ## `configure` -/

omit [Zero σ] in
/-- A configured buffer remembers its counters and the numbers in its slots only. -/
theorem aligned_configure (used fresh : JitterBuffer σ) (counted : fresh.stats = {})
    (config : AudioConfig) (latency : Nat) :
    Aligned 0 ((fresh.configure config latency).credit used.stats)
      (used.configure config latency) where
  plain := by
    change
      (used.configure config latency).plain =
        ({ fresh with stats := addStats used.stats fresh.stats }.configure config latency).plain
    rw [counted]
    rfl
  held := by
    have emptied : ((fresh.configure config latency).credit used.stats).Vacant := fun _ => rfl
    funext i
    rw [(vacant_configure used config latency).held, emptied.held]
  next first := by cases first
  last seen := by cases seen

/-- After `configure` a caller sees what it would see of a new buffer, whatever has been
pushed and popped before, but for the counters, which go on from where they were. -/
theorem configure_forgets (latency newLatency : Nat) (history : List (Call σ))
    (config : AudioConfig) (target : Nat) (calls : List (Call σ)) :
    let used : JitterBuffer σ := (new latency).run history
    used.transcript (.configure config target :: calls) =
      ((new newLatency).transcript (.configure config target :: calls)).map
        (Observation.credit used.stats) := by
  intro used
  have aligned := aligned_configure used (new newLatency) rfl config target
  have bSound : ((new newLatency : JitterBuffer σ).configure config target).Sound :=
    sound_configure _ config target
  have credited :
      (((new newLatency : JitterBuffer σ).configure config target).credit used.stats).Sound :=
    bSound.setStats _
  have cSound : (used.configure config target).Sound := sound_configure _ config target
  have first :
      (used.configure config target).observe .configured =
        (((new newLatency).configure config target).observe .configured).credit used.stats := by
    rw [← observe_credit]
    exact aligned.observe_eq (aligned.sameScan credited cSound) .configured
  have rest := aligned.transcript_eq calls credited cSound
  rw [transcript_credit] at rest
  exact List.cons_eq_cons.2 ⟨first, rest⟩

end AudioRouter.JitterBuffer
