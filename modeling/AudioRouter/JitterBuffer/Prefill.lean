import AudioRouter.JitterBuffer.StabilityGate

/-!
# The end of buffering

A healthy stream sends one packet after the other.  Whether it ends buffering depends on
the target of the fill alone: the window takes 256 packets, and the packet behind them
empties it.  `Filling` follows such a stream up to the end of the window.
-/

namespace AudioRouter.JitterBuffer

open SequenceWindow

variable {σ : Type}

/-! ## A healthy stream -/

/-- A call while a healthy stream runs: its next packet, or a pop. -/
inductive Feed (σ : Type) where
  | push (timestampUs : Clock) (source : Nat → σ) (nowMs : Clock)
  | pop (hasDest : Bool) (numFrames : Nat) (nowMs : Clock)

namespace Feed

def isPush : Feed σ → Bool
  | .push _ _ _ => true
  | .pop _ _ _ => false

/-- The call, where the next packet is the one with the number `seqNum`. -/
def call (frames : Nat) (seqNum : SeqNum) : Feed σ → Call σ
  | .push timestampUs source nowMs =>
      .pushPacket seqNum timestampUs (some source) frames nowMs
  | .pop hasDest numFrames nowMs => .popFrames hasDest numFrames nowMs

/-- The number of the next packet afterwards. -/
def next (seqNum : SeqNum) : Feed σ → SeqNum
  | .push _ _ _ => seqNum + 1
  | .pop _ _ _ => seqNum

end Feed

/-- `is_ready()` is true at some point of a stream. -/
def readyWithin [Zero σ] (b : JitterBuffer σ) (frames : Nat) : SeqNum → List (Feed σ) → Bool
  | _, [] => b.isReady
  | seqNum, feed :: feeds =>
      b.isReady ||
        readyWithin (b.call (feed.call frames seqNum)).1 frames (feed.next seqNum) feeds

/-- `fill_target`. -/
def fillTarget (b : JitterBuffer σ) : Nat :=
  if b.startupPending then b.startupTargetFrames else b.targetBufferFrames

/-- A window of packets from the number `seqNum` on holds the frames that end the fill.  The
scan of the unbroken run ends at the number `2 ^ 32 - 1`. -/
def WindowHoldsTarget (b : JitterBuffer σ) (seqNum : SeqNum) : Prop :=
  b.fillTarget ≤ min maxSlots (2 ^ 32 - seqNum.toNat) * b.config.framesPerPacket ∨
    b.escapeTarget ≤ maxSlots * b.config.framesPerPacket

instance (b : JitterBuffer σ) (seqNum : SeqNum) : Decidable (b.WindowHoldsTarget seqNum) :=
  inferInstanceAs (Decidable (_ ∨ _))

/-! ## The packets of a fill -/

/-- What the target of a fill depends on. -/
def settings (b : JitterBuffer σ) : AudioConfig × Nat × Nat × Bool :=
  (b.config, b.targetBufferFrames, b.startupTargetFrames, b.startupPending)

/-- The buffer `first` has taken `k` packets from the number `seqNum` on, and fills on. -/
structure Filling (first : JitterBuffer σ) (seqNum : SeqNum) (k : Nat) (b : JitterBuffer σ) :
    Prop where
  sound : b.Sound
  settings : b.settings = first.settings
  buffering : b.isBuffering = true
  next : b.hasFirstPacket = true → b.nextPlaySeq = seqNum
  started :
    0 < k →
      b.hasFirstPacket = true ∧ b.hasLastArrivedSeq = true ∧
        b.lastArrivedSeq + 1 = seqNum + BitVec.ofNat 32 k
  present : ∀ i, (b.held i).isSome ↔ i < k
  frames : ∀ i < k, b.heldFrames i = first.config.framesPerPacket
  total : b.totalValidFrames = k * first.config.framesPerPacket
  run : k ≤ b.holeFreeRun

theorem targets_congr {b c : JitterBuffer σ} (same : c.settings = b.settings) :
    c.fillTarget = b.fillTarget ∧ c.escapeTarget = b.escapeTarget := by
  obtain ⟨-, rest⟩ := Prod.mk.inj same
  obtain ⟨target, rest⟩ := Prod.mk.inj rest
  obtain ⟨startup, pending⟩ := Prod.mk.inj rest
  rw [fillTarget, fillTarget, escapeTarget, escapeTarget, target, startup, pending]
  exact ⟨rfl, rfl⟩

theorem Filling.start {b : JitterBuffer σ} (sound : b.Sound) (buffering : b.isBuffering = true)
    (vacant : b.Vacant) {seqNum : SeqNum}
    (next : b.hasFirstPacket = true → seqNum = b.nextPlaySeq) : Filling b seqNum 0 b where
  sound := sound
  settings := rfl
  buffering := buffering
  next first := (next first).symm
  started none := absurd none (Nat.lt_irrefl 0)
  present i := by
    rw [vacant.held]
    exact iff_of_false Bool.noConfusion (Nat.not_lt_zero i)
  frames i none := absurd none (Nat.not_lt_zero i)
  total := by
    rw [totalValidFrames, Nat.zero_mul]
    apply Finset.sum_eq_zero
    intro i _
    rw [vacant i]
    rfl
  run := Nat.zero_le _

section

variable {first b : JitterBuffer σ} {seqNum : SeqNum} {k : Nat}

/-- The scan counts every packet up to the wrap-around. -/
theorem Filling.contiguousFrames (filling : Filling first seqNum k b) (some : 0 < k) :
    b.contiguousFrames =
      min k (2 ^ 32 - seqNum.toNat) * first.config.framesPerPacket := by
  have next := filling.next (filling.started some).1
  have below := seqNum.isLt
  have scan : b.ScanLength (min k (2 ^ 32 - seqNum.toNat)) := by
    refine ⟨fun i before => ⟨(filling.present i).2 (by omega), by rw [next]; omega⟩, ?_⟩
    rintro ⟨present, below⟩
    rw [filling.present] at present
    rw [next] at below
    omega
  rw [filling.sound.contiguousFrames_eq scan,
    Finset.sum_congr rfl fun i before => filling.frames i (by
      have inside := Finset.mem_range.1 before
      omega),
    Finset.sum_const, Finset.card_range, smul_eq_mul]

theorem Filling.prefillReached_iff (filling : Filling first seqNum k b) (some : 0 < k) :
    b.prefillReached = true ↔
      (first.fillTarget ≤ min k (2 ^ 32 - seqNum.toNat) * first.config.framesPerPacket ∧
          kStableArrivalCount ≤ b.holeFreeRun) ∨
        first.escapeTarget ≤ k * first.config.framesPerPacket := by
  obtain ⟨target, escape⟩ := targets_congr filling.settings
  rw [← filling.contiguousFrames some, ← filling.total, ← target, ← escape, prefillReached,
    fillTarget, escapeTarget]
  simp only [Bool.or_eq_true, Bool.and_eq_true, decide_eq_true_eq, ge_iff_le]
  cases b.startupPending <;> rfl

/-- A fill that ends has a target within the window. -/
theorem Filling.holds_of_reached (filling : Filling first seqNum k b) (some : 0 < k)
    (few : k ≤ maxSlots) (reached : b.prefillReached = true) :
    first.WindowHoldsTarget seqNum := by
  rcases (filling.prefillReached_iff some).1 reached with ⟨run, -⟩ | escape
  · apply Or.inl
    exact Nat.le_trans run (Nat.mul_le_mul_right _ (by omega))
  · apply Or.inr
    exact Nat.le_trans escape (Nat.mul_le_mul_right _ few)

/-- A target within the window ends the fill at the end of the window. -/
theorem Filling.reached_of_holds (filling : Filling first seqNum maxSlots b)
    (holds : first.WindowHoldsTarget seqNum) : b.prefillReached = true := by
  have stable : kStableArrivalCount ≤ b.holeFreeRun :=
    Nat.le_trans (by decide) filling.run
  rw [filling.prefillReached_iff (by decide)]
  exact holds.imp_left fun run => ⟨run, stable⟩

/-! ## The next packet -/

section Filled

variable {b : JitterBuffer σ} {seqNum : SeqNum} {timestampUs : Clock} {source : Nat → σ}
  {numFrames : Nat}

theorem stored_settings (b : JitterBuffer σ) (seqNum : SeqNum) (timestampUs : Clock)
    (source : Nat → σ) (numFrames : Nat) :
    ((b.storePacket seqNum timestampUs source numFrames).trackArrivalRun seqNum).settings =
      b.settings := rfl

theorem filled_keeps :
    let c := b.filled seqNum timestampUs source numFrames
    c.hasFirstPacket = true ∧ c.isBuffering = (b.landing seqNum).isBuffering ∧
      c.nextPlaySeq = (b.landing seqNum).nextPlaySeq ∧ c.settings = b.settings ∧
        c.hasLastArrivedSeq = true ∧ c.lastArrivedSeq = seqNum := by
  have same := landing_keeps JitterBuffer.settings b seqNum rfl (fun _ => rfl) fun _ => rfl
  have settings := stored_settings (b.landing seqNum) seqNum timestampUs source numFrames
  rcases stored_keeps (b.landing seqNum) seqNum timestampUs source numFrames with
    ⟨first, buffering, next, _, arrived⟩
  exact ⟨first.trans (landing_hasFirstPacket b seqNum), buffering, next, settings.trans same,
    arrived⟩

theorem filled_held :
    (b.filled seqNum timestampUs source numFrames).held =
      Function.update (b.landing seqNum).held (ahead (b.landing seqNum).nextPlaySeq seqNum)
        (some ((b.landing seqNum).storedPacket source numFrames)) :=
  held_storePacket (ahead_landing b seqNum)

theorem Sound.filled (sound : b.Sound)
    (absent : (b.landing seqNum).held (ahead (b.landing seqNum).nextPlaySeq seqNum) = none)
    (positive : 1 ≤ numFrames) : (b.filled seqNum timestampUs source numFrames).Sound where
  toWellFormed := by
    have stored :
        ((b.landing seqNum).storePacket seqNum timestampUs source numFrames).WellFormed :=
      (sound.landing seqNum).storePacket (ahead_landing b seqNum) absent positive
    exact stored.trackArrivalRun seqNum
  fresh none := by
    rw [filled_keeps.1] at none
    cases none

end Filled

/-- The playhead of a fill is the number it starts with. -/
theorem Filling.arrival_nextPlaySeq (filling : Filling first seqNum k b) :
    (b.noteArrival (seqNum + BitVec.ofNat 32 k)).nextPlaySeq = seqNum := by
  rw [noteArrival_nextPlaySeq]
  split
  next first => exact filling.next first
  next none =>
    have zero : k = 0 := Nat.eq_zero_of_not_pos fun some => none (filling.started some).1
    rw [zero]
    exact BitVec.add_zero seqNum

theorem Filling.seqDiff (filling : Filling first seqNum k b) (more : k < maxSlots) :
    (b.noteArrival (seqNum + BitVec.ofNat 32 k)).seqDiff (seqNum + BitVec.ofNat 32 k) = k := by
  have near : ahead seqNum (seqNum + BitVec.ofNat 32 k) = k :=
    ahead_add_ofNat seqNum (Nat.lt_trans more (by decide))
  have nonneg : 0 ≤ (seqNum + BitVec.ofNat 32 k - seqNum).toInt := by
    rw [toInt_sub_nonneg_iff, near]
    simp only [maxSlots] at more
    omega
  rw [JitterBuffer.seqDiff, filling.arrival_nextPlaySeq, toInt_sub_eq_ahead nonneg, near]

/-- The next packet of a fill lands at the end of what is there. -/
theorem Filling.lands (filling : Filling first seqNum k b) (more : k < maxSlots) :
    ¬ (b.noteArrival (seqNum + BitVec.ofNat 32 k)).IsLate (seqNum + BitVec.ofNat 32 k) ∧
      b.landing (seqNum + BitVec.ofNat 32 k) = b.noteArrival (seqNum + BitVec.ofNat 32 k) ∧
      ahead (b.landing (seqNum + BitVec.ofNat 32 k)).nextPlaySeq
        (seqNum + BitVec.ofNat 32 k) = k := by
  have distance := filling.seqDiff more
  have stays : ¬ (b.noteArrival (seqNum + BitVec.ofNat 32 k)).IsJump
      (seqNum + BitVec.ofNat 32 k) := by
    rw [IsJump, distance]
    omega
  have lands := followJump_of_not_isJump stays
  refine ⟨?_, lands, ?_⟩
  · rw [IsLate, distance]
    omega
  · rw [landing, lands, filling.arrival_nextPlaySeq]
    exact ahead_add_ofNat seqNum (Nat.lt_trans more (by decide))

/-- The number of the next packet is not there yet. -/
theorem Filling.absent (filling : Filling first seqNum k b) (more : k < maxSlots) :
    (b.landing (seqNum + BitVec.ofNat 32 k)).held
      (ahead (b.landing (seqNum + BitVec.ofNat 32 k)).nextPlaySeq
        (seqNum + BitVec.ofNat 32 k)) = none := by
  obtain ⟨-, lands, place⟩ := filling.lands more
  rw [place, lands, filling.sound.held_noteArrival, ← Option.not_isSome_iff_eq_none,
    filling.present]
  exact Nat.lt_irrefl k

/-- A push of the next packet is stored and ends with the prefill test. -/
theorem Filling.pushPacket_eq (filling : Filling first seqNum k b) (more : k < maxSlots)
    {numFrames : Nat} (positive : 1 ≤ numFrames) (timestampUs : Clock) (source : Nat → σ)
    (nowMs : Clock) :
    (b.pushPacket (seqNum + BitVec.ofNat 32 k) timestampUs (some source) numFrames nowMs).1 =
      (b.filled (seqNum + BitVec.ofNat 32 k) timestampUs source numFrames).finishBuffering
        nowMs := by
  rw [filling.sound.pushPacket_eq _ timestampUs source positive nowMs,
    if_neg (filling.lands more).1,
    if_neg (Option.not_isSome_iff_eq_none.2 (filling.absent more))]
  rfl

/-- The window with the next packet. -/
theorem Filling.held_filled (filling : Filling first seqNum k b) (more : k < maxSlots)
    (timestampUs : Clock) (source : Nat → σ) (numFrames : Nat) :
    (b.filled (seqNum + BitVec.ofNat 32 k) timestampUs source numFrames).held =
      Function.update b.held k
        (some ((b.landing (seqNum + BitVec.ofNat 32 k)).storedPacket source numFrames)) := by
  obtain ⟨-, lands, place⟩ := filling.lands more
  have window : (b.landing (seqNum + BitVec.ofNat 32 k)).held = b.held := by
    rw [lands, filling.sound.held_noteArrival]
  rw [filled_held, place, window]

/-- The next packet lengthens the run of gap-free arrivals. -/
theorem Filling.runWith_ge (filling : Filling first seqNum k b) :
    k + 1 ≤ b.runWith (seqNum + BitVec.ofNat 32 k) := by
  rw [runWith]
  split
  · exact Nat.succ_le_succ filling.run
  next gap =>
    have none : ¬ 0 < k := fun some =>
      gap ⟨(filling.started some).2.1, (filling.started some).2.2.symm⟩
    omega

theorem Filling.filled (filling : Filling first seqNum k b) (more : k < maxSlots)
    (positive : 1 ≤ first.config.framesPerPacket) (timestampUs : Clock) (source : Nat → σ) :
    Filling first seqNum (k + 1)
      (b.filled (seqNum + BitVec.ofNat 32 k) timestampUs source
        first.config.framesPerPacket) := by
  have lands := (filling.lands more).2.1
  have held := filling.held_filled more timestampUs source first.config.framesPerPacket
  rcases @filled_keeps σ b (seqNum + BitVec.ofNat 32 k) timestampUs source
    first.config.framesPerPacket with ⟨started, buffering, next, settings, arrived, last⟩
  constructor
  · exact filling.sound.filled (filling.absent more) positive
  · rw [settings, filling.settings]
  · have arrived : (b.noteArrival (seqNum + BitVec.ofNat 32 k)).isBuffering =
        if b.hasFirstPacket then b.isBuffering else true := rfl
    rw [buffering, lands, arrived, filling.buffering, ite_self]
  · intro _
    rw [next, lands, filling.arrival_nextPlaySeq]
  · intro _
    refine ⟨started, arrived, ?_⟩
    rw [last, BitVec.add_assoc, BitVec.ofNat_add]
    rfl
  · intro i
    rw [held]
    by_cases last : i = k
    · rw [last, Function.update_self]
      exact iff_of_true rfl (Nat.lt_succ_self k)
    · rw [Function.update_of_ne last, filling.present]
      omega
  · intro i upTo
    rcases Nat.lt_succ_iff_lt_or_eq.1 upTo with before | rfl
    · have there := filling.frames i before
      rw [heldFrames] at there ⊢
      rw [held, Function.update_of_ne (Nat.ne_of_lt before)]
      exact there
    · exact heldFrames_of_some (by rw [held, Function.update_self])
  · have total : (b.landing (seqNum + BitVec.ofNat 32 k)).totalValidFrames =
        b.totalValidFrames := by
      rw [lands]
      rfl
    rw [filled_totalValidFrames (filling.absent more), total, filling.total, Nat.succ_mul]
  · rw [filled_holeFreeRun]
    exact filling.runWith_ge

/-- A push of the next packet ends the fill, whose target the window holds, or the fill goes
on. -/
theorem Filling.push (filling : Filling first seqNum k b) (more : k < maxSlots)
    (positive : 1 ≤ first.config.framesPerPacket) (timestampUs : Clock) (source : Nat → σ)
    (nowMs : Clock) :
    let c := (b.pushPacket (seqNum + BitVec.ofNat 32 k) timestampUs (some source)
      first.config.framesPerPacket nowMs).1
    c.isReady = true ∧ first.WindowHoldsTarget seqNum ∨
      Filling first seqNum (k + 1) c ∧
        (k + 1 = maxSlots → ¬ first.WindowHoldsTarget seqNum) := by
  intro c
  have filled := filling.filled more positive timestampUs source
  have eq : c = _ := filling.pushPacket_eq more positive timestampUs source nowMs
  cases reached :
      (b.filled (seqNum + BitVec.ofNat 32 k) timestampUs source
        first.config.framesPerPacket).prefillReached with
  | true =>
    refine Or.inl ⟨?_, filled.holds_of_reached (Nat.succ_pos k) more reached⟩
    rw [eq, finishBuffering, if_pos ⟨filled.buffering, reached⟩, isReady,
      (filled.started (Nat.succ_pos k)).1]
    rfl
  | false =>
    refine Or.inr ⟨?_, fun full holds => ?_⟩
    · rw [eq, finishBuffering, if_neg fun both => Bool.false_ne_true (reached.symm.trans both.2)]
      exact filled
    · rw [full] at filled
      exact Bool.false_ne_true (reached.symm.trans (filled.reached_of_holds holds))

end

/-! ## A healthy stream to the end of the window -/

theorem isReady_eq_false {b : JitterBuffer σ} (buffering : b.isBuffering = true) :
    b.isReady = false := by
  rw [isReady, buffering]
  rfl

section

variable [Zero σ]

theorem popFrames_of_buffering {b : JitterBuffer σ} (buffering : b.isBuffering = true)
    (hasDest : Bool) (numFrames : Nat) (nowMs : Clock) :
    (b.popFrames hasDest numFrames nowMs).1 = b := by
  rw [popFrames]
  split
  · rfl
  · rw [if_pos (Or.inl buffering)]

/-- The run of what a push does, over the rest of the window. -/
theorem Filling.readyWithin_iff {first : JitterBuffer σ} {seqNum : SeqNum}
    (positive : 1 ≤ first.config.framesPerPacket) :
    ∀ (feeds : List (Feed σ)) {k : Nat} {b : JitterBuffer σ}, Filling first seqNum k b →
      (k = maxSlots → ¬ first.WindowHoldsTarget seqNum) →
        k + feeds.countP Feed.isPush = maxSlots →
          (b.readyWithin first.config.framesPerPacket (seqNum + BitVec.ofNat 32 k) feeds = true ↔
            first.WindowHoldsTarget seqNum) := by
  intro feeds
  induction feeds with
  | nil =>
    intro k b filling full count
    rw [readyWithin, isReady_eq_false filling.buffering]
    exact iff_of_false Bool.false_ne_true (full count)
  | cons feed feeds inductionHypothesis =>
    intro k b filling full count
    rw [readyWithin, isReady_eq_false filling.buffering, Bool.false_or]
    cases feed with
    | pop hasDest numFrames nowMs =>
      rw [List.countP_cons_of_neg Bool.false_ne_true] at count
      rw [Feed.call, Feed.next, JitterBuffer.call]
      dsimp only
      rw [popFrames_of_buffering filling.buffering]
      exact inductionHypothesis filling full count
    | push timestampUs source nowMs =>
      rw [List.countP_cons_of_pos rfl] at count
      have more : k < maxSlots := by omega
      have next : seqNum + BitVec.ofNat 32 k + 1 = seqNum + BitVec.ofNat 32 (k + 1) := by
        rw [BitVec.add_assoc, BitVec.ofNat_add]
        rfl
      rw [Feed.call, Feed.next, JitterBuffer.call, next]
      rcases filling.push more positive timestampUs source nowMs with
        ⟨ready, holds⟩ | ⟨goesOn, fullNext⟩
      · refine iff_of_true ?_ holds
        cases feeds with
        | nil => exact ready
        | cons feed feeds =>
          rw [readyWithin]
          exact Bool.or_eq_true_iff.2 (Or.inl ready)
      · exact inductionHypothesis goesOn fullNext (by omega)

/-- A healthy stream makes a buffering buffer without packets ready within 256 packets,
whatever is popped in between, exactly if the window holds its target. -/
theorem readyWithin_iff_windowHoldsTarget (latency : Nat) (calls : List (Call σ)) :
    let b := (new latency : JitterBuffer σ).run calls
    b.config.isValid = true → b.isBuffering = true → b.Vacant →
      ∀ (seqNum : SeqNum) (feeds : List (Feed σ)),
        (b.hasFirstPacket = true → seqNum = b.nextPlaySeq) →
          feeds.countP Feed.isPush = maxSlots →
            (b.readyWithin b.config.framesPerPacket seqNum feeds = true ↔
              b.WindowHoldsTarget seqNum) := by
  intro b valid buffering vacant seqNum feeds next count
  have sound : b.Sound := (sound_new latency).run calls
  have positive := (AudioConfig.valid_of_isValid valid).framesPerPacket.1
  have fills := (Filling.start sound buffering vacant next).readyWithin_iff positive feeds
    (fun full => nomatch full) ((Nat.zero_add _).trans count)
  rw [BitVec.add_zero] at fills
  exact fills

end

/-- 256 packets of a stream, and no pop. -/
def packets : List (Feed Nat) := List.replicate maxSlots (.push 0 (fun i => i) 1000)

theorem countP_packets : packets.countP Feed.isPush = maxSlots :=
  List.countP_replicate.trans (if_pos rfl)

/-- Packets of 5 ms at 48 kHz end the first fill. -/
theorem readyWithin_default :
    ((new 0 : JitterBuffer Nat).run [.configure { framesPerPacket := 240 } 35]).readyWithin 240 7
      packets = true := by
  have vacant :
      ((new 0 : JitterBuffer Nat).run [.configure { framesPerPacket := 240 } 35]).Vacant :=
    vacant_configure _ _ _
  have fills := readyWithin_iff_windowHoldsTarget 0 [.configure { framesPerPacket := 240 } 35]
    (by decide) (by decide) vacant 7 packets (fun first => nomatch first) countP_packets
  have holds :
      ((new 0 : JitterBuffer Nat).run
        [.configure { framesPerPacket := 240 } 35]).WindowHoldsTarget 7 := by decide
  exact fills.2 holds

/-- The packets of a server that captures at 192 kHz. -/
def highRate : AudioConfig := { sampleRate := 192000, framesPerPacket := 240 }

/-- At 192 kHz the startup target of half a second does not fit into 256 packets. -/
theorem high_rate_stays_silent :
    ¬ ∀ (latency : Nat) (calls : List (Call Nat)),
        let b := (new latency : JitterBuffer Nat).run calls
        b.config.isValid = true → b.isBuffering = true → b.Vacant →
          ∀ (seqNum : SeqNum) (feeds : List (Feed Nat)),
            (b.hasFirstPacket = true → seqNum = b.nextPlaySeq) →
              feeds.countP Feed.isPush = maxSlots →
                b.readyWithin b.config.framesPerPacket seqNum feeds = true := by
  intro always
  have vacant : ((new 0 : JitterBuffer Nat).configure highRate 200).Vacant :=
    vacant_configure _ _ _
  have ready := always 0 [.configure highRate 200] (by decide) (by decide) vacant 0 packets
    (fun first => nomatch first) countP_packets
  have filling : Filling ((new 0 : JitterBuffer Nat).configure highRate 200) 0 0 _ :=
    Filling.start (sound_configure _ _ _) rfl vacant fun first => nomatch first
  have holds := (filling.readyWithin_iff (by decide) packets (fun full => nomatch full)
    ((Nat.zero_add _).trans countP_packets)).1 ready
  exact absurd holds (by decide)

end AudioRouter.JitterBuffer
