import AudioRouter.JitterBuffer.Aligned
import AudioRouter.JitterBuffer.Drain
import AudioRouter.JitterBuffer.Timeline

/-!
# What the counters count

Every push that is counted is stored, late, or a duplicate.  A number is counted as lost
when the playhead steps over it and no packet is stored for it, and at no other time: a
drain stays inside the unbroken run, and a buffer that has nothing does not move.
-/

namespace AudioRouter.JitterBuffer

open Playhead

variable {σ : Type}

/-! ## Arrivals -/

def Reply.isAccepted : Reply σ → Bool
  | .pushed stored => stored
  | _ => false

/-- The pushes of a run that are accepted. -/
def acceptedPushes [Zero σ] (b : JitterBuffer σ) (calls : List (Call σ)) : Nat :=
  (b.transcript calls).countP fun seen => seen.reply.isAccepted

/-- The arrivals that are counted, without those that are counted as refused, are so many. -/
def Accepted (n : Nat) (s : JitterBufferStats) : Prop :=
  s.packetsReceived = n + s.packetsOutOfOrder + s.packetsDuplicate

theorem landing_accepted {n : Nat} {b : JitterBuffer σ} (seqNum : SeqNum)
    (accepted : Accepted n b.stats) : Accepted (n + 1) (b.landing seqNum).stats := by
  have arrived : Accepted (n + 1) (b.noteArrival seqNum).stats := by
    change b.stats.packetsReceived + 1 = n + 1 + b.stats.packetsOutOfOrder +
      b.stats.packetsDuplicate
    rw [Accepted] at accepted
    omega
  rw [landing, followJump]
  split
  · exact arrived
  · split <;> exact arrived

theorem Sound.pushPacket_accepted {n : Nat} {b : JitterBuffer σ} (sound : b.Sound)
    (accepted : Accepted n b.stats) (seqNum : SeqNum) (timestampUs : Clock)
    (pcmData : Option (Nat → σ)) (numFrames : Nat) (nowMs : Clock) :
    let r := b.pushPacket seqNum timestampUs pcmData numFrames nowMs
    Accepted (n + if r.2 then 1 else 0) r.1.stats := by
  intro r
  have outcome : PushOutcome b seqNum timestampUs pcmData numFrames nowMs r :=
    sound.pushPacket_outcome seqNum timestampUs pcmData numFrames nowMs
  have landed := landing_accepted seqNum accepted
  generalize r = r at outcome
  cases outcome with
  | ignored _ => exact accepted
  | late _ =>
    change b.stats.packetsReceived + 1 =
      n + 0 + (b.stats.packetsOutOfOrder + 1) + b.stats.packetsDuplicate
    rw [Accepted] at accepted
    omega
  | duplicate _ _ =>
    change (b.landing seqNum).stats.packetsReceived =
      n + 0 + (b.landing seqNum).stats.packetsOutOfOrder +
        ((b.landing seqNum).stats.packetsDuplicate + 1)
    rw [Accepted] at landed
    omega
  | stored source _ _ _ _ =>
    change Accepted (n + 1) (b.accept seqNum timestampUs source numFrames nowMs).stats
    rw [accept_stats]
    exact landed

/-- The counters of arrivals. -/
def arrivals (b : JitterBuffer σ) : Nat × Nat × Nat :=
  (b.stats.packetsReceived, b.stats.packetsOutOfOrder, b.stats.packetsDuplicate)

theorem Accepted.congr {n : Nat} {b c : JitterBuffer σ} (accepted : Accepted n b.stats)
    (same : c.arrivals = b.arrivals) : Accepted n c.stats := by
  simp only [arrivals, Prod.mk.injEq] at same
  rw [Accepted, same.1, same.2.1, same.2.2]
  exact accepted

section Runs

variable [Zero σ] {b : JitterBuffer σ}

/-- A pop counts no arrival. -/
theorem popFrames_arrivals (b : JitterBuffer σ) (hasDest : Bool) (numFrames : Nat)
    (nowMs : Clock) : (b.popFrames hasDest numFrames nowMs).1.arrivals = b.arrivals := by
  rw [popFrames]
  split
  · rfl
  · split
    · rfl
    · have delivered :=
        deliver_keeps arrivals (fun _ => rfl) (fun _ _ => rfl) (fun _ => rfl) (fun _ => rfl)
          numFrames numFrames (⟨b.drainToTarget nowMs, 0, []⟩ : Delivery σ)
      refine delivered.trans ?_
      rw [arrivals, drainToTarget_stats]
      rfl

theorem Sound.call_accepted {n : Nat} (sound : b.Sound) (accepted : Accepted n b.stats)
    (x : Call σ) :
    Accepted (n + if (b.call x).2.isAccepted then 1 else 0) (b.call x).1.stats := by
  cases x with
  | configure config latency => exact accepted
  | pushPacket seqNum timestampUs pcmData numFrames nowMs =>
    exact sound.pushPacket_accepted accepted seqNum timestampUs pcmData numFrames nowMs
  | popFrames hasDest numFrames nowMs =>
    exact accepted.congr (popFrames_arrivals b hasDest numFrames nowMs)

theorem Sound.run_accepted :
    ∀ (calls : List (Call σ)) {n : Nat} {b : JitterBuffer σ}, b.Sound → Accepted n b.stats →
      Accepted (n + b.acceptedPushes calls) (b.run calls).stats := by
  intro calls
  induction calls with
  | nil => exact fun _ accepted => accepted
  | cons x calls inductionHypothesis =>
    intro n b sound accepted
    have rest := inductionHypothesis (sound.call x) (sound.call_accepted accepted x)
    rw [acceptedPushes, transcript, List.countP_cons, Nat.add_comm (List.countP _ _),
      ← Nat.add_assoc]
    exact rest

/-! ## Losses -/

/-- A buffer that waits, or has no packet at all, counts no loss, however much is asked of
it. -/
def Starved (b : JitterBuffer σ) : Prop := b.isReady = false ∨ ∀ i, b.held i = none

theorem deliverStep_of_empty {numFrames : Nat} {d : Delivery σ} (wf : d.buffer.WellFormed)
    (empty : ∀ i, d.buffer.held i = none) :
    (deliverStep numFrames d).buffer = d.buffer.runDry := by
  have ready : d.buffer.headReady = false := by
    rw [← Bool.not_eq_true, wf.headReady_iff, empty]
    simp
  have future : d.buffer.hasFuturePackets = false := by
    rw [← Bool.not_eq_true, hasFuturePackets_iff]
    simp [empty]
  rw [deliverStep_of_dry ready future]

omit [Zero σ] in
theorem drainToTarget_of_empty (wf : b.WellFormed) (empty : ∀ i, b.held i = none)
    (nowMs : Clock) : b.drainToTarget nowMs = b := by
  have nothing : b.drainAmount nowMs = 0 := by
    by_contra some
    have covered := wf.covered_drainAmount nowMs
    have ready := covered.headReady wf (Nat.pos_of_ne_zero some)
    rw [wf.headReady_iff, empty] at ready
    exact Bool.noConfusion ready
  rw [drainToTarget, nothing]
  exact if_pos rfl

/-- Starvation loses nothing, and lasts until a packet comes. -/
theorem Starved.popFrames (starved : b.Starved) (sound : b.Sound) (hasDest : Bool)
    (numFrames : Nat) (nowMs : Clock) :
    (b.popFrames hasDest numFrames nowMs).1.Starved ∧
      (b.popFrames hasDest numFrames nowMs).1.stats.packetsLost = b.stats.packetsLost := by
  by_cases asked : !hasDest ∨ numFrames = 0
  · rw [JitterBuffer.popFrames, if_pos asked]
    exact ⟨starved, rfl⟩
  by_cases silent : b.isBuffering ∨ !b.hasFirstPacket
  · rw [JitterBuffer.popFrames, if_neg asked, if_pos silent]
    exact ⟨starved, rfl⟩
  · have plays : b.isReady = true := by
      rw [not_or] at silent
      simp_all [isReady]
    have empty : ∀ i, b.held i = none := by
      rcases starved with waits | empty
      · rw [plays] at waits
        cases waits
      · exact empty
    have kept :
        ∀ d : Delivery σ, d.framesDelivered < numFrames →
          d.buffer.WellFormed ∧ (∀ i, d.buffer.held i = none) ∧
              d.buffer.stats.packetsLost = b.stats.packetsLost →
            (deliverStep numFrames d).buffer.WellFormed ∧
              (∀ i, (deliverStep numFrames d).buffer.held i = none) ∧
                (deliverStep numFrames d).buffer.stats.packetsLost = b.stats.packetsLost := by
      rintro d - ⟨wf, empty, lost⟩
      rw [deliverStep_of_empty wf empty]
      exact ⟨wf.runDry, empty, lost⟩
    have ends :=
      deliver_induction kept numFrames ⟨b, 0, []⟩ ⟨sound.toWellFormed, empty, rfl⟩
    rw [JitterBuffer.popFrames, if_neg asked, if_neg silent,
      drainToTarget_of_empty sound.toWellFormed empty]
    exact ⟨Or.inr ends.2.1, ends.2.2⟩

theorem Starved.run_popCalls :
    ∀ (pops : List (Bool × Nat × Clock)) {b : JitterBuffer σ}, b.Starved → b.Sound →
      (b.run (popCalls pops)).stats.packetsLost = b.stats.packetsLost := by
  intro pops
  induction pops with
  | nil => exact fun _ _ => rfl
  | cons pop pops inductionHypothesis =>
    intro b starved sound
    rcases starved.popFrames sound pop.1 pop.2.1 pop.2.2 with ⟨still, lost⟩
    exact (inductionHypothesis still (sound.popFrames pop.1 pop.2.1 pop.2.2)).trans lost

/-- In every run the arrivals are the accepted pushes, the late ones and the duplicates, and
the losses are the numbers that the playhead has stepped over with no packet stored for
them.  A drain and a starved buffer lose nothing. -/
theorem counters_account (latency : Nat) (calls : List (Call σ)) :
    let b := (new latency : JitterBuffer σ).run calls
    let L := ({} : Log σ).run (new latency) calls
    b.stats.packetsReceived =
        (new latency : JitterBuffer σ).acceptedPushes calls + b.stats.packetsOutOfOrder +
          b.stats.packetsDuplicate ∧
      b.stats.packetsLost = L.missed ∧
      (∀ nowMs, (b.drainToTarget nowMs).stats.packetsLost = b.stats.packetsLost) ∧
      (b.Starved → ∀ pops, (b.run (popCalls pops)).stats.packetsLost = b.stats.packetsLost) := by
  intro b L
  have start : (new latency : JitterBuffer σ).Sound := sound_new latency
  have sound : b.Sound := start.run calls
  have accepted : Accepted (0 + (new latency : JitterBuffer σ).acceptedPushes calls) b.stats :=
    start.run_accepted calls rfl
  have records : Records (Log.place {} (new latency)) 0 L b :=
    (Records.empty (new latency)).run start calls
  rw [Nat.zero_add] at accepted
  refine ⟨accepted, records.missed.trans (Nat.zero_add _), ?_, ?_⟩
  · intro nowMs
    rw [drainToTarget_stats]
  · intro starved pops
    exact starved.run_popCalls pops sound

end Runs

end AudioRouter.JitterBuffer
