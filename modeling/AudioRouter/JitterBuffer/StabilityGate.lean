import AudioRouter.Lib.Transition
import AudioRouter.JitterBuffer.Level

/-!
# The stability gate

A fill ends behind a gate: the playhead starts only after 24 gap-free arrivals, and the
escape past the gate is there for a window with holes.  The escape counts the frames of
all valid slots, though, those of an unbroken run as well, so it lets a fill of few long
packets pass before the gate has seen 24 of them.
-/

namespace AudioRouter.JitterBuffer

open SequenceWindow Transition

variable {σ : Type}

/-! ## Runs of arrivals -/

/-- The last `n` of the arrivals, the latest first, have consecutive numbers. -/
def LastConsecutive (n : Nat) (arrivals : List SeqNum) : Prop :=
  n ≤ arrivals.length ∧
    (arrivals.take n).IsChain fun later earlier => later = earlier + 1

instance (n : Nat) (arrivals : List SeqNum) : Decidable (LastConsecutive n arrivals) :=
  inferInstanceAs (Decidable (_ ∧ _))

/-- The length of the last run of consecutive arrivals. -/
def arrivalRun : List SeqNum → Nat
  | [] => 0
  | [_] => 1
  | later :: earlier :: rest =>
      if later = earlier + 1 then arrivalRun (earlier :: rest) + 1 else 1

theorem lastConsecutive_iff :
    ∀ (n : Nat) (arrivals : List SeqNum),
      LastConsecutive (n + 1) arrivals ↔ n + 1 ≤ arrivalRun arrivals
  | n, [] => by
      rw [LastConsecutive, arrivalRun, List.length_nil]
      exact and_iff_left_of_imp fun none => absurd none (Nat.not_succ_le_zero n)
  | n, [seqNum] => by
      rw [LastConsecutive, arrivalRun, List.length_singleton, List.take_succ_cons, List.take_nil]
      exact and_iff_left (List.isChain_singleton seqNum)
  | 0, later :: earlier :: rest => by
      rw [LastConsecutive, arrivalRun, List.take_succ_cons, List.take_zero]
      have counted : 0 + 1 ≤ (if later = earlier + 1 then arrivalRun (earlier :: rest) + 1
          else 1) := by
        split <;> omega
      refine iff_of_true ⟨?_, List.isChain_singleton later⟩ counted
      rw [List.length_cons]
      omega
  | n + 1, later :: earlier :: rest => by
      have shorter := lastConsecutive_iff n (earlier :: rest)
      rw [LastConsecutive, List.take_succ_cons] at shorter
      rw [LastConsecutive, arrivalRun, List.take_succ_cons, List.take_succ_cons,
        List.isChain_cons_cons, List.length_cons, Nat.add_le_add_iff_right]
      split
      next next =>
        rw [Nat.add_le_add_iff_right, ← shorter, and_iff_right next]
      next gap =>
        refine iff_of_false (fun both => gap both.2.1) ?_
        omega

/-- A buffer and the numbers it has accepted since the last `configure`, the latest
first. -/
structure Observed (σ : Type) where
  buffer : JitterBuffer σ
  arrivals : List SeqNum := []

namespace Observed

variable [Zero σ]

/-- The accepted numbers after a call. -/
def arrivalsAfter (g : Observed σ) : Call σ → List SeqNum
  | .configure _ _ => []
  | .pushPacket seqNum timestampUs pcmData numFrames nowMs =>
      if (g.buffer.pushPacket seqNum timestampUs pcmData numFrames nowMs).2 then
        seqNum :: g.arrivals
      else g.arrivals
  | .popFrames _ _ _ => g.arrivals

def observe (g : Observed σ) (c : Call σ) : Option (Observed σ) :=
  some ⟨(g.buffer.call c).1, g.arrivalsAfter c⟩

end Observed

/-! ## What the gate promises -/

/-- The valid slots are an unbroken run at the playhead. -/
def HoleFree (b : JitterBuffer σ) : Prop := ∃ n, ∀ i, (b.held i).isSome ↔ i < n

theorem holeFree_iff (b : JitterBuffer σ) :
    b.HoleFree ↔ ∀ i < maxSlots, (b.held (i + 1)).isSome → (b.held i).isSome := by
  constructor
  · rintro ⟨n, run⟩ i _ next
    rw [run] at next ⊢
    omega
  · intro closed
    have before : ∀ i j, i ≤ j → (b.held j).isSome → (b.held i).isSome := by
      intro i j upTo present
      induction j, upTo using Nat.le_induction with
      | base => exact present
      | succ j _ inductionHypothesis =>
        exact inductionHypothesis
          (closed j (Nat.lt_of_succ_lt ((held_isSome_iff b).1 present).1) present)
    have ends : ∃ n, (b.held n).isSome = false :=
      ⟨maxSlots, by rw [held_eq_none_of_le b (Nat.le_refl _)]; rfl⟩
    refine ⟨Nat.find ends, fun i => ⟨fun present => ?_, fun below => ?_⟩⟩
    · by_contra beyond
      have found := before _ i (Nat.le_of_not_lt beyond) present
      rw [Nat.find_spec ends] at found
      exact nomatch found
    · exact Bool.not_eq_false _ ▸ Nat.find_min ends below

instance (b : JitterBuffer σ) : Decidable b.HoleFree :=
  decidable_of_iff _ (holeFree_iff b).symm

/-- A call of `push_packet` ends buffering on a window without holes. -/
def EndsHoleFree (b : JitterBuffer σ) : Call σ → Prop
  | .pushPacket seqNum timestampUs pcmData numFrames nowMs =>
      let r := b.pushPacket seqNum timestampUs pcmData numFrames nowMs
      r.2 = true ∧ (b.landing seqNum).isBuffering = true ∧ r.1.isBuffering = false ∧
        r.1.HoleFree
  | _ => False

instance (b : JitterBuffer σ) : (c : Call σ) → Decidable (b.EndsHoleFree c)
  | .configure _ _ | .popFrames _ _ _ => inferInstanceAs (Decidable False)
  | .pushPacket _ _ _ _ _ => inferInstanceAs (Decidable (_ ∧ _))

/-- A call that ends buffering on a window without holes has seen 24 consecutive
arrivals. -/
def Gated [Zero σ] (g : Observed σ) (c : Call σ) : Prop :=
  g.buffer.EndsHoleFree c → LastConsecutive kStableArrivalCount (g.arrivalsAfter c)

instance [Zero σ] (g : Observed σ) (c : Call σ) : Decidable (Gated g c) :=
  inferInstanceAs (Decidable (_ → _))

/-! ## The escape -/

/-- The run of gap-free arrivals with one more number. -/
def runWith (b : JitterBuffer σ) (seqNum : SeqNum) : Nat :=
  if b.hasLastArrivedSeq ∧ seqNum = b.lastArrivedSeq + 1 then b.holeFreeRun + 1 else 1

/-- `escape_target`. -/
def escapeTarget (b : JitterBuffer σ) : Nat :=
  if b.startupPending then b.startupTargetFrames * 2 else b.targetBufferFrames

/-- The slot of a push is the only hole before the end of the window it lands in. -/
def FillsLastHole (b : JitterBuffer σ) (seqNum : SeqNum) : Prop :=
  ∃ n, ∀ i,
    ((b.landing seqNum).held i).isSome ∨ i = ahead (b.landing seqNum).nextPlaySeq seqNum ↔
      i < n

/-- A push brings a window without holes to the escape target before the 24th gap-free
arrival. -/
structure EscapesEarly (b : JitterBuffer σ) (seqNum : SeqNum) (pcmData : Option (Nat → σ))
    (numFrames : Nat) : Prop where
  data : pcmData.isSome ∧ 1 ≤ numFrames
  inTime : ¬ (b.noteArrival seqNum).IsLate seqNum
  absent : (b.landing seqNum).held (ahead (b.landing seqNum).nextPlaySeq seqNum) = none
  buffering : (b.landing seqNum).isBuffering = true
  holeFree : b.FillsLastHole seqNum
  escapes : b.escapeTarget ≤ (b.landing seqNum).totalValidFrames + numFrames
  early : b.runWith seqNum < kStableArrivalCount

/-- A call does not start the playhead past the gate. -/
def Waits (g : Observed σ) : Call σ → Prop
  | .pushPacket seqNum _ pcmData numFrames _ =>
      ¬ g.buffer.EscapesEarly seqNum pcmData numFrames
  | _ => True

/-! ## The members behind the gate -/

/-- The members that follow the arrivals. -/
def tracking (b : JitterBuffer σ) : Nat × SeqNum × Bool :=
  (b.holeFreeRun, b.lastArrivedSeq, b.hasLastArrivedSeq)

theorem runWith_congr {b c : JitterBuffer σ} (same : c.tracking = b.tracking)
    (seqNum : SeqNum) : c.runWith seqNum = b.runWith seqNum := by
  obtain ⟨run, rest⟩ := Prod.mk.inj same
  obtain ⟨last, has⟩ := Prod.mk.inj rest
  rw [runWith, runWith, run, last, has]

theorem landing_tracking (b : JitterBuffer σ) (seqNum : SeqNum) :
    (b.landing seqNum).tracking = b.tracking :=
  landing_keeps tracking b seqNum rfl (fun _ => rfl) fun _ => rfl

theorem landing_escapeTarget (b : JitterBuffer σ) (seqNum : SeqNum) :
    (b.landing seqNum).escapeTarget = b.escapeTarget :=
  landing_keeps escapeTarget b seqNum rfl (fun _ => rfl) fun _ => rfl

theorem finishBuffering_tracking (b : JitterBuffer σ) (nowMs : Clock) :
    (b.finishBuffering nowMs).tracking = b.tracking :=
  finishBuffering_keeps tracking b nowMs fun _ => rfl

/-- Before the 24th gap-free arrival only the escape ends buffering. -/
theorem prefillReached_of_early {b : JitterBuffer σ}
    (early : b.holeFreeRun < kStableArrivalCount) :
    b.prefillReached = decide (b.escapeTarget ≤ b.totalValidFrames) := by
  rw [prefillReached, escapeTarget]
  cases b.startupPending <;> simp [Nat.not_le.2 early]

/-- The buffer that an accepted push puts to the prefill test. -/
def filled (b : JitterBuffer σ) (seqNum : SeqNum) (timestampUs : Clock) (source : Nat → σ)
    (numFrames : Nat) : JitterBuffer σ :=
  ((b.landing seqNum).storePacket seqNum timestampUs source numFrames).trackArrivalRun seqNum

/-- What a stored packet leaves as it is, and what the arrival run notes of it. -/
theorem stored_keeps (b : JitterBuffer σ) (seqNum : SeqNum) (timestampUs : Clock)
    (source : Nat → σ) (numFrames : Nat) :
    let c := (b.storePacket seqNum timestampUs source numFrames).trackArrivalRun seqNum
    c.hasFirstPacket = b.hasFirstPacket ∧ c.isBuffering = b.isBuffering ∧
      c.nextPlaySeq = b.nextPlaySeq ∧ c.escapeTarget = b.escapeTarget ∧
        c.hasLastArrivedSeq = true ∧ c.lastArrivedSeq = seqNum :=
  ⟨rfl, rfl, rfl, rfl, rfl, rfl⟩

section Accept

variable {b : JitterBuffer σ} {seqNum : SeqNum} {timestampUs : Clock} {source : Nat → σ}
  {numFrames : Nat} {nowMs : Clock}

theorem accept_eq :
    b.accept seqNum timestampUs source numFrames nowMs =
      (b.filled seqNum timestampUs source numFrames).finishBuffering nowMs := rfl

theorem filled_tracking :
    (b.filled seqNum timestampUs source numFrames).tracking =
      (b.runWith seqNum, seqNum, true) := by
  rw [← runWith_congr (landing_tracking b seqNum) seqNum]
  rfl

theorem filled_holeFreeRun :
    (b.filled seqNum timestampUs source numFrames).holeFreeRun = b.runWith seqNum :=
  congrArg Prod.fst filled_tracking

theorem filled_totalValidFrames
    (absent : (b.landing seqNum).held (ahead (b.landing seqNum).nextPlaySeq seqNum) = none) :
    (b.filled seqNum timestampUs source numFrames).totalValidFrames =
      (b.landing seqNum).totalValidFrames + numFrames :=
  totalValidFrames_storePacket (slot_free (ahead_landing b seqNum) absent) timestampUs source
    numFrames

theorem accept_tracking :
    (b.accept seqNum timestampUs source numFrames nowMs).tracking =
      (b.runWith seqNum, seqNum, true) := by
  rw [accept_eq, finishBuffering_tracking, filled_tracking]

/-- Where a push lands in a buffering window, it ends buffering by the prefill test. -/
theorem accept_isBuffering_eq_false_iff (buffering : (b.landing seqNum).isBuffering = true) :
    (b.accept seqNum timestampUs source numFrames nowMs).isBuffering = false ↔
      (b.filled seqNum timestampUs source numFrames).prefillReached = true := by
  have still : (b.filled seqNum timestampUs source numFrames).isBuffering = true :=
    (stored_keeps (b.landing seqNum) seqNum timestampUs source numFrames).2.1.trans buffering
  rw [accept_eq, finishBuffering]
  split
  next ends => exact iff_of_true rfl ends.2
  next stays =>
    refine iff_of_false ?_ fun reached => stays ⟨still, reached⟩
    rw [still]
    exact Bool.noConfusion

/-- Early on, an accepted push ends buffering on the frames of all slots. -/
theorem accept_escapes_iff
    (absent : (b.landing seqNum).held (ahead (b.landing seqNum).nextPlaySeq seqNum) = none)
    (buffering : (b.landing seqNum).isBuffering = true)
    (early : b.runWith seqNum < kStableArrivalCount) :
    (b.accept seqNum timestampUs source numFrames nowMs).isBuffering = false ↔
      b.escapeTarget ≤ (b.landing seqNum).totalValidFrames + numFrames := by
  have kept := stored_keeps (b.landing seqNum) seqNum timestampUs source numFrames
  have target : (b.filled seqNum timestampUs source numFrames).escapeTarget = b.escapeTarget :=
    kept.2.2.2.1.trans (landing_escapeTarget b seqNum)
  have few :
      (b.filled seqNum timestampUs source numFrames).holeFreeRun < kStableArrivalCount := by
    rw [filled_holeFreeRun]
    exact early
  rw [accept_isBuffering_eq_false_iff buffering, prefillReached_of_early few,
    decide_eq_true_iff, target, filled_totalValidFrames absent]

theorem accept_holeFree_iff :
    (b.accept seqNum timestampUs source numFrames nowMs).HoleFree ↔
      b.FillsLastHole seqNum := by
  have places : ∀ i,
      ((b.accept seqNum timestampUs source numFrames nowMs).held i).isSome ↔
        ((b.landing seqNum).held i).isSome ∨
          i = ahead (b.landing seqNum).nextPlaySeq seqNum := by
    intro i
    rw [held_accept]
    by_cases here : i = ahead (b.landing seqNum).nextPlaySeq seqNum
    · rw [here, Function.update_self]
      exact iff_of_true rfl (Or.inr rfl)
    · rw [Function.update_of_ne here]
      exact (or_iff_left here).symm
  simp only [HoleFree, FillsLastHole, places]

end Accept

/-! ## The arrivals are tracked -/

section Tracking

variable [Zero σ]

/-- The buffer follows the arrivals. -/
structure Tracks (g : Observed σ) : Prop where
  sound : g.buffer.Sound
  run : g.buffer.holeFreeRun = arrivalRun g.arrivals
  last :
    g.arrivals.head? =
      if g.buffer.hasLastArrivedSeq then some g.buffer.lastArrivedSeq else none

omit [Zero σ] in
theorem Tracks.runWith {g : Observed σ} (tracks : Tracks g) (seqNum : SeqNum) :
    g.buffer.runWith seqNum = arrivalRun (seqNum :: g.arrivals) := by
  obtain ⟨-, run, last⟩ := tracks
  obtain ⟨b, arrivals⟩ := g
  dsimp only at run last ⊢
  rw [JitterBuffer.runWith, run]
  cases arrivals with
  | nil =>
    cases has : b.hasLastArrivedSeq with
    | true =>
      rw [has, if_pos rfl] at last
      exact nomatch last
    | false => exact if_neg fun both => Bool.noConfusion both.1
  | cons earlier rest =>
    cases has : b.hasLastArrivedSeq with
    | false =>
      rw [has] at last
      exact nomatch last
    | true =>
      rw [has, if_pos rfl, List.head?_cons] at last
      rw [← Option.some.inj last, arrivalRun]
      exact if_congr (and_iff_right rfl) rfl rfl

theorem popFrames_tracking (b : JitterBuffer σ) (hasDest : Bool) (numFrames : Nat)
    (nowMs : Clock) : (b.popFrames hasDest numFrames nowMs).1.tracking = b.tracking :=
  popFrames_keeps tracking (fun _ => rfl) (fun _ => rfl) (fun _ _ => rfl)
    (fun _ _ _ => rfl) (fun _ => rfl) (fun _ => rfl) b hasDest numFrames nowMs

omit [Zero σ] in
theorem Tracks.start (latency : Nat) : Tracks (⟨new latency, []⟩ : Observed σ) :=
  ⟨sound_new latency, rfl, rfl⟩

omit [Zero σ] in
theorem Tracks.kept {g : Observed σ} (tracks : Tracks g) {b : JitterBuffer σ} (sound : b.Sound)
    (same : b.tracking = g.buffer.tracking) : Tracks ⟨b, g.arrivals⟩ := by
  obtain ⟨run, rest⟩ := Prod.mk.inj same
  obtain ⟨last, has⟩ := Prod.mk.inj rest
  refine ⟨sound, run.trans tracks.run, ?_⟩
  dsimp only
  rw [last, has]
  exact tracks.last

omit [Zero σ] in
theorem Tracks.extended {g : Observed σ} (tracks : Tracks g) {b : JitterBuffer σ}
    {seqNum : SeqNum} (sound : b.Sound)
    (accepted : b.tracking = (g.buffer.runWith seqNum, seqNum, true)) :
    Tracks ⟨b, seqNum :: g.arrivals⟩ := by
  obtain ⟨run, rest⟩ := Prod.mk.inj accepted
  obtain ⟨last, has⟩ := Prod.mk.inj rest
  refine ⟨sound, run.trans (tracks.runWith seqNum), ?_⟩
  dsimp only
  rw [last, has]
  rfl

theorem Tracks.observe {g : Observed σ} (tracks : Tracks g) (c : Call σ) :
    Tracks ⟨(g.buffer.call c).1, g.arrivalsAfter c⟩ := by
  have sound := tracks.sound.call c
  cases c with
  | configure config latency => exact ⟨sound, rfl, rfl⟩
  | popFrames hasDest numFrames nowMs =>
    exact tracks.kept sound (popFrames_tracking g.buffer hasDest numFrames nowMs)
  | pushPacket seqNum timestampUs pcmData numFrames nowMs =>
    have outcome :=
      tracks.sound.pushPacket_outcome seqNum timestampUs pcmData numFrames nowMs
    rw [JitterBuffer.call] at sound ⊢
    rw [Observed.arrivalsAfter]
    generalize g.buffer.pushPacket seqNum timestampUs pcmData numFrames nowMs = r
      at outcome sound ⊢
    cases outcome with
    | ignored _ => exact tracks.kept sound rfl
    | late _ => exact tracks.kept sound rfl
    | duplicate _ _ => exact tracks.kept sound (landing_tracking g.buffer seqNum)
    | stored source _ _ _ _ => exact tracks.extended sound accept_tracking

/-! ## Runs -/

/-- A call keeps the promise of the gate exactly if it does not escape early. -/
theorem Tracks.gated_iff {g : Observed σ} (tracks : Tracks g) (c : Call σ) :
    Gated g c ↔ Waits g c := by
  cases c with
  | configure _ _ | popFrames _ _ _ => exact iff_of_true nofun trivial
  | pushPacket seqNum timestampUs pcmData numFrames nowMs =>
    have outcome :=
      tracks.sound.pushPacket_outcome seqNum timestampUs pcmData numFrames nowMs
    rw [Gated, EndsHoleFree, Observed.arrivalsAfter, Waits]
    generalize g.buffer.pushPacket seqNum timestampUs pcmData numFrames nowMs = r at outcome ⊢
    cases outcome with
    | ignored noData =>
      refine iff_of_true nofun fun escapes => ?_
      rcases noData with none | empty
      · rw [none] at escapes
        exact nomatch escapes.data.1
      · have some := escapes.data.2
        omega
    | late isLate => exact iff_of_true nofun fun escapes => escapes.inTime isLate
    | duplicate _ present =>
      refine iff_of_true nofun fun escapes => ?_
      rw [escapes.absent] at present
      exact nomatch present
    | stored source data positive inTime absent =>
      rw [if_pos rfl, kStableArrivalCount, lastConsecutive_iff 23, ← tracks.runWith seqNum]
      constructor
      · intro gated escapes
        have early := escapes.early
        have ends :
            (g.buffer.accept seqNum timestampUs source numFrames nowMs).isBuffering = false :=
          (accept_escapes_iff absent escapes.buffering early).2 escapes.escapes
        have seen := gated ⟨rfl, escapes.buffering, ends, accept_holeFree_iff.2 escapes.holeFree⟩
        rw [kStableArrivalCount] at early
        omega
      · rintro waits ⟨-, buffering, ends, holeFree⟩
        by_contra few
        have early : g.buffer.runWith seqNum < kStableArrivalCount := Nat.lt_of_not_le few
        refine waits ⟨⟨by rw [data]; rfl, positive⟩, inTime, absent, buffering,
          accept_holeFree_iff.1 holeFree, ?_, early⟩
        exact (accept_escapes_iff absent buffering early).1 ends

/-- In every run, the pushes that end buffering on a window without holes have all seen 24
consecutive arrivals exactly if no push escapes early. -/
theorem everyStep_gated_iff (latency : Nat) (calls : List (Call σ)) :
    EveryStep Observed.observe Gated ⟨new latency, []⟩ calls ↔
      EveryStep Observed.observe Waits ⟨new latency, []⟩ calls := by
  have preserved : ∀ (g : Observed σ) c h, Tracks g → g.observe c = some h → Tracks h := by
    intro g c h tracks stepped
    obtain rfl := Option.some.inj stepped
    exact tracks.observe c
  exact everyStep_congr_of_invariant preserved (fun _ c tracks => tracks.gated_iff c) calls
    (Tracks.start latency)

end Tracking

/-- A first fill of twelve packets of 20 ms each. -/
def twelvePackets : List (Call Nat) :=
  .configure { sampleRate := 8000, channels := 1, framesPerPacket := 160 } 35 ::
    (List.range 12).map fun i => .pushPacket (BitVec.ofNat 32 i) 0 (some fun j => j) 160 1000

/-- The twelfth packet ends the fill. -/
theorem twelfth_arrival_ends_fill :
    ¬ ∀ (latency : Nat) (calls : List (Call Nat)),
      EveryStep Observed.observe Gated ⟨new latency, []⟩ calls := by
  intro always
  exact absurd (always 0 twelvePackets) (by decide +kernel)

end AudioRouter.JitterBuffer
