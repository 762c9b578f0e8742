import AudioRouter.JitterBuffer.Drain

/-!
# The distance of two drains

A drain waits for an interval since the one before, and after a `configure` for the
grace behind the first fill.  `Paced` follows both from one drain to the next.
-/

namespace AudioRouter.JitterBuffer

variable {σ : Type}

/-- A drain at `t` and what has happened since, up to `now`: the first fill after a
`configure` is going on, there has been a drain, or the first fill is over. -/
structure Paced (t now : Nat) (b : JitterBuffer σ) : Prop where
  since : t ≤ now
  drained : b.lastDrainMs.toNat ≤ now
  paced :
    b.startupPending = true ∨ t ≤ b.lastDrainMs.toNat ∨
      (t ≤ b.startupCompleteMs.toNat ∧ b.startupCompleteMs.toNat ≤ now)

/-- The members that pace the drain. -/
def pacing (b : JitterBuffer σ) : Clock × Bool × Clock :=
  (b.lastDrainMs, b.startupPending, b.startupCompleteMs)

theorem Paced.later {t now later : Nat} {b : JitterBuffer σ} (paced : Paced t now b)
    (upTo : now ≤ later) : Paced t later b where
  since := Nat.le_trans paced.since upTo
  drained := Nat.le_trans paced.drained upTo
  paced := by
    rcases paced.paced with pending | drain | complete
    · exact Or.inl pending
    · exact Or.inr (Or.inl drain)
    · exact Or.inr (Or.inr ⟨complete.1, Nat.le_trans complete.2 upTo⟩)

theorem Paced.congr {t now : Nat} {b c : JitterBuffer σ} (paced : Paced t now b)
    (same : c.pacing = b.pacing) : Paced t now c := by
  obtain ⟨lastDrain, rest⟩ := Prod.mk.inj same
  obtain ⟨pending, complete⟩ := Prod.mk.inj rest
  exact ⟨paced.since, by rw [lastDrain]; exact paced.drained,
    by rw [lastDrain, pending, complete]; exact paced.paced⟩

/-- A drain that is due comes late enough. -/
theorem Paced.due {t : Nat} {b : JitterBuffer σ} {nowMs : Clock}
    (paced : Paced t nowMs.toNat b) (due : b.drainDue nowMs = true) :
    t + 100 ≤ nowMs.toNat ∧
      (b.availableFramesUnlocked ≤ b.targetBufferFrames + b.framesOfMs 100 →
        t + 400 ≤ nowMs.toNat) := by
  obtain ⟨since, drained, paced⟩ := paced
  rw [drainDue] at due
  simp only [Bool.and_eq_true, Bool.not_eq_eq_eq_not, Bool.not_true, decide_eq_true_eq] at due
  obtain ⟨⟨⟨⟨started, -⟩, grace⟩, -⟩, interval⟩ := due
  rw [BitVec.toNat_sub_of_le (BitVec.le_def.2 drained)] at interval
  have gap : 100 ≤ nowMs.toNat - b.lastDrainMs.toNat ∧
      (b.availableFramesUnlocked ≤ b.targetBufferFrames + b.framesOfMs 100 →
        400 ≤ nowMs.toNat - b.lastDrainMs.toNat) := by
    cases large : b.largeBacklog with
    | true =>
      rw [large, cond_true] at interval
      refine ⟨interval, fun small => ?_⟩
      rw [largeBacklog, decide_eq_true_iff] at large
      exact absurd large (Nat.not_lt.2 small)
    | false =>
      rw [large, cond_false] at interval
      exact ⟨Nat.le_trans (by decide) interval, fun _ => interval⟩
  rcases paced with pending | drain | ⟨from_t, upTo⟩
  · exact Bool.noConfusion (started.symm.trans pending)
  · omega
  · rw [pastGrace, Bool.or_eq_true, beq_iff_eq, decide_eq_true_iff,
      BitVec.toNat_sub_of_le (BitVec.le_def.2 upTo), kDrainStartGraceMs] at grace
    rcases grace with zero | past
    · -- the clock stood at zero up to the end of the first fill
      rw [zero] at from_t
      have atZero : t = 0 := Nat.le_zero.1 from_t
      omega
    · omega

/-! ## One call -/

theorem Paced.configure {t now : Nat} {b : JitterBuffer σ} (paced : Paced t now b)
    (config : AudioConfig) (latency : Nat) : Paced t now (b.configure config latency) :=
  ⟨paced.since, Nat.zero_le _, Or.inl rfl⟩

theorem landing_pacing (b : JitterBuffer σ) (seqNum : SeqNum) :
    (b.landing seqNum).pacing = b.pacing :=
  landing_keeps pacing b seqNum rfl (fun _ => rfl) fun _ => rfl

theorem stored_pacing (b : JitterBuffer σ) (seqNum : SeqNum) (timestampUs : Clock)
    (source : Nat → σ) (numFrames : Nat) :
    ((b.storePacket seqNum timestampUs source numFrames).trackArrivalRun seqNum).pacing =
      b.pacing :=
  rfl

/-- The end of the first fill starts the grace. -/
theorem Paced.finishBuffering {t now : Nat} {b : JitterBuffer σ} (paced : Paced t now b)
    {nowMs : Clock} (upTo : now ≤ nowMs.toNat) :
    Paced t nowMs.toNat (b.finishBuffering nowMs) := by
  have known := paced.later upTo
  rw [JitterBuffer.finishBuffering]
  split
  · refine ⟨known.since, known.drained, ?_⟩
    cases pending : b.startupPending with
    | true => exact Or.inr (Or.inr ⟨known.since, Nat.le_refl _⟩)
    | false =>
      rcases known.paced with still | rest
      · exact Bool.noConfusion (pending.symm.trans still)
      · exact Or.inr rest
  · exact known

theorem Paced.pushPacket {t now : Nat} {b : JitterBuffer σ} (paced : Paced t now b)
    (seqNum : SeqNum) (timestampUs : Clock) (pcmData : Option (Nat → σ)) (numFrames : Nat)
    {nowMs : Clock} (upTo : now ≤ nowMs.toNat) :
    Paced t nowMs.toNat (b.pushPacket seqNum timestampUs pcmData numFrames nowMs).1 := by
  by_cases noData : pcmData = none ∨ numFrames = 0
  · rw [pushPacket_ignored noData]
    exact paced.later upTo
  · obtain ⟨source, rfl⟩ := Option.ne_none_iff_exists'.1 fun none => noData (Or.inl none)
    have positive : 1 ≤ numFrames := Nat.pos_of_ne_zero fun zero => noData (Or.inr zero)
    have landed := paced.congr (landing_pacing b seqNum)
    rw [pushPacket_some b seqNum timestampUs source positive nowMs]
    split
    · exact (paced.later upTo).congr rfl
    · split
      · exact (landed.later upTo).congr rfl
      · have stored :=
          landed.congr (stored_pacing (b.landing seqNum) seqNum timestampUs source numFrames)
        exact stored.finishBuffering upTo

theorem drainToTarget_pacing (b : JitterBuffer σ) (nowMs : Clock) :
    (b.drainToTarget nowMs).pacing =
      (if b.drainAmount nowMs = 0 then b.lastDrainMs else nowMs, b.startupPending,
        b.startupCompleteMs) := by
  rw [drainToTarget]
  dsimp only
  split
  · rfl
  · have kept : (b.advancePlayheadLocked (b.drainAmount nowMs)).pacing = b.pacing :=
      advancePlayhead_keeps pacing (fun _ => rfl) (fun _ => rfl) (fun _ _ => rfl) _ _
    exact congrArg (Prod.mk nowMs) (congrArg Prod.snd kept)

theorem Paced.drainToTarget {t now : Nat} {b : JitterBuffer σ} (paced : Paced t now b)
    {nowMs : Clock} (upTo : now ≤ nowMs.toNat) :
    Paced t nowMs.toNat (b.drainToTarget nowMs) := by
  have known := paced.later upTo
  have after := drainToTarget_pacing b nowMs
  split at after
  · exact known.congr after
  · refine Paced.congr (b := { b with lastDrainMs := nowMs }) ?_ after
    exact ⟨known.since, Nat.le_refl _, Or.inr (Or.inl known.since)⟩

section

variable [Zero σ]

theorem deliver_pacing (b : JitterBuffer σ) (numFrames : Nat) :
    (deliver numFrames numFrames ⟨b, 0, []⟩).buffer.pacing = b.pacing :=
  deliver_keeps pacing (fun _ => rfl) (fun _ _ => rfl) (fun _ => rfl) (fun _ => rfl)
    numFrames numFrames _

theorem Paced.popFrames {t now : Nat} {b : JitterBuffer σ} (paced : Paced t now b)
    (hasDest : Bool) (numFrames : Nat) {nowMs : Clock} (upTo : now ≤ nowMs.toNat) :
    Paced t nowMs.toNat (b.popFrames hasDest numFrames nowMs).1 := by
  rw [JitterBuffer.popFrames]
  split
  · exact paced.later upTo
  · split
    · exact paced.later upTo
    · exact (paced.drainToTarget upTo).congr (deliver_pacing _ numFrames)

end

/-! ## Runs -/

/-- The clock reading of a call. -/
def Call.reading : Call σ → Option Clock
  | .configure _ _ => none
  | .pushPacket _ _ _ _ nowMs => some nowMs
  | .popFrames _ _ nowMs => some nowMs

/-- The clock does not go back between two calls. -/
def Monotone (first : Clock) (between : List (Call σ)) (second : Clock) : Prop :=
  (first :: (between.filterMap Call.reading ++ [second])).Pairwise (· ≤ ·)

section

variable [Zero σ]

theorem Paced.call {t : Nat} {now reading : Clock} {b : JitterBuffer σ} {c : Call σ}
    (paced : Paced t now.toNat b) (reads : c.reading = some reading) (upTo : now ≤ reading) :
    Paced t reading.toNat (b.call c).1 := by
  have upToNat : now.toNat ≤ reading.toNat := upTo
  cases c with
  | configure _ _ => exact nomatch reads
  | pushPacket seqNum timestampUs pcmData numFrames nowMs =>
    obtain rfl := Option.some.inj reads
    exact paced.pushPacket seqNum timestampUs pcmData numFrames upToNat
  | popFrames hasDest numFrames nowMs =>
    obtain rfl := Option.some.inj reads
    exact paced.popFrames hasDest numFrames upToNat

/-- The run of what `Paced` says, up to a second call. -/
theorem Paced.run {t : Nat} {second : Clock} :
    ∀ (between : List (Call σ)) {now : Clock} {b : JitterBuffer σ}, Paced t now.toNat b →
      Monotone now between second → Paced t second.toNat (b.run between) := by
  intro between
  induction between with
  | nil =>
    intro now b paced monotone
    have last : now ≤ second :=
      (List.pairwise_cons.1 monotone).1 second (List.mem_singleton_self second)
    exact paced.later last
  | cons c between inductionHypothesis =>
    intro now b paced monotone
    cases reads : c.reading with
    | none =>
      cases c with
      | configure config latency =>
        exact inductionHypothesis (paced.configure config latency) monotone
      | pushPacket _ _ _ _ _ | popFrames _ _ _ => exact nomatch reads
    | some reading =>
      rw [Monotone, List.filterMap_cons_some reads, List.cons_append,
        List.pairwise_cons] at monotone
      have upTo := monotone.1 reading List.mem_cons_self
      exact inductionHypothesis (paced.call reads upTo) monotone.2

theorem PopDrains.paced {b : JitterBuffer σ} {numFrames : Nat} {nowMs : Clock}
    (drains : b.PopDrains true numFrames nowMs) :
    Paced nowMs.toNat nowMs.toNat (b.popFrames true numFrames nowMs).1 := by
  have drained := (drainAmount_of_due drains.due).1
  have after := drainToTarget_pacing b nowMs
  rw [if_neg (by omega : ¬ b.drainAmount nowMs = 0)] at after
  rw [drains.popFrames_eq]
  refine Paced.congr (b := { b with lastDrainMs := nowMs }) ?_
    ((deliver_pacing _ numFrames).trans after)
  exact ⟨Nat.le_refl _, Nat.le_refl _, Or.inr (Or.inl (Nat.le_refl _))⟩

/-- Every call of a run that drains sheds between 1 and 480 frames of the unbroken run
and leaves the target with the margin, and the next drain of the run comes at least
100 ms later, or 400 ms for a backlog that is not large. -/
theorem drains_shed_and_pace (latency : Nat) (calls : List (Call σ)) {numFrames : Nat}
    {nowMs : Clock}
    (drains : ((new latency : JitterBuffer σ).run calls).PopDrains true numFrames nowMs) :
    let b := (new latency : JitterBuffer σ).run calls
    DrainReport b numFrames nowMs ∧
      ∀ between again second,
        let c := b.run (.popFrames true numFrames nowMs :: between)
        c.PopDrains true again second → Monotone nowMs between second →
          nowMs.toNat + 100 ≤ second.toNat ∧
            (c.availableFramesUnlocked ≤ c.targetBufferFrames + c.framesOfMs 100 →
              nowMs.toNat + 400 ≤ second.toNat) := by
  intro b
  have sound : b.Sound := (sound_new latency).run calls
  refine ⟨sound.drainReport drains, ?_⟩
  intro between again second c drainsAgain monotone
  exact (drains.paced.run between monotone).due drainsAgain.due

end

/-- A first fill of one long packet. -/
def longPacket : List (Call Nat) :=
  [.configure { sampleRate := 200, channels := 1 } 5,
    .pushPacket 0 0 (some fun i => i) 50 1000]

/-- A drain past the grace, one more packet, and the next drain. -/
theorem drains_shed_and_pace_twice :
    DrainReport ((new 0 : JitterBuffer Nat).run longPacket) 1 4000 ∧
      (4000 : Clock).toNat + 400 ≤ (4400 : Clock).toNat :=
  have report :=
    drains_shed_and_pace 0 longPacket
      ⟨⟨rfl, Nat.le_refl 1⟩, ⟨by decide +kernel, by decide +kernel⟩, by decide +kernel⟩
  ⟨report.1,
    (report.2 [.pushPacket 1 0 (some fun i => i) 15 4100] 1 4400
      ⟨⟨rfl, Nat.le_refl 1⟩, ⟨by decide +kernel, by decide +kernel⟩, by decide +kernel⟩
      (by rw [Monotone]; decide)).2 (by decide +kernel)⟩

end AudioRouter.JitterBuffer
