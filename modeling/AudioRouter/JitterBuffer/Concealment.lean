import AudioRouter.JitterBuffer.Conservation
import AudioRouter.JitterBuffer.Timeline

/-!
# Silence for lost packets

What the pops of a run have written is what the events of its log have put out.  A missing
number is given the silence of one packet, or what is left of the pop in which the playhead
comes upon it, if that is less; the playhead steps on in either case.
-/

namespace AudioRouter.JitterBuffer

open While Transition Playhead

variable {σ : Type}

/-! ## What the events put out -/

/-- The samples that the events have put out. -/
def Log.output (L : Log σ) : List σ := L.events.flatMap Event.samples

/-- The frames of silence that `pop_frames` puts in the place of a packet. -/
def lostFrames (config : AudioConfig) : Nat :=
  if config.framesPerPacket > 0 then config.framesPerPacket else 240

section

variable [Zero σ]

/-- The log of a stream with these samples written: every silence in it is cut off only by
the end of a pop. -/
structure Wrote (config : AudioConfig) (written : List σ) (L : Log σ) : Prop where
  output : L.output = written
  shortened :
    ∀ event ∈ L.events, event.Shortened (lostFrames config) config.channels

theorem Wrote.snoc {config : AudioConfig} {written : List σ} {L M : Log σ}
    (wrote : Wrote config written L) {events : List (Event σ)}
    (added : M.events = L.events ++ events)
    (shortened :
      ∀ event ∈ events, event.Shortened (lostFrames config) config.channels) :
    Wrote config (written ++ events.flatMap Event.samples) M where
  output := by
    rw [Log.output, added, List.flatMap_append, ← wrote.output]
    rfl
  shortened := by
    rw [added]
    exact List.forall_mem_append.2 ⟨wrote.shortened, shortened⟩

/-- Events without samples. -/
theorem Wrote.silent {config : AudioConfig} {written : List σ} {L M : Log σ}
    (wrote : Wrote config written L) {events : List (Event σ)}
    (added : M.events = L.events ++ events)
    (silent : ∀ event ∈ events, event.samples = [] ∧ event.isLost = false) :
    Wrote config written M := by
  have nothing : events.flatMap Event.samples = [] :=
    List.flatMap_eq_nil_iff.2 fun event inside => (silent event inside).1
  have kept := wrote.snoc added fun event inside => by
    have notLost := (silent event inside).2
    cases event with
    | lost _ _ _ _ => cases notLost
    | played _ _ _ => trivial
    | dry _ _ => trivial
    | waiting _ _ => trivial
    | shed _ _ => trivial
    | skipped _ => trivial
    | restarted _ => trivial
    | filled => trivial
  rwa [nothing, List.append_nil] at kept

theorem Wrote.drain {config : AudioConfig} {written : List σ} {L : Log σ}
    (wrote : Wrote config written L) (amount : Nat) (p : Nat × JitterBuffer σ) :
    Wrote config written (Log.advance amount (L, p)).1 := by
  have kept : ∀ x : Log σ × (Nat × JitterBuffer σ), Wrote config written x.1 → 0 < x.2.1 →
      Wrote config written (Log.advanceStep x).1 := by
    intro x wrote _
    apply wrote.silent rfl
    intro event inside
    rw [List.mem_singleton.1 inside]
    split <;> exact ⟨rfl, rfl⟩
  exact fuelled_preserves kept amount wrote

/-- A turn of the delivery loop puts out what it writes. -/
theorem Wrote.deliverTurn {config : AudioConfig} {numFrames : Nat} {before : List σ}
    {L : Log σ} {d : Delivery σ} (wrote : Wrote config (before ++ d.dest) L)
    (same : d.buffer.config = config) :
    Wrote config (before ++ (deliverStep numFrames d).dest)
      (L.deliverTurn numFrames d (deliverStep numFrames d)) := by
  have put : ∀ event written, (deliverStep numFrames d).dest = d.dest ++ written →
      event.samples = written →
      event.Shortened (lostFrames config) config.channels →
      L.deliverTurn numFrames d (deliverStep numFrames d) =
        L.turn d.buffer (deliverStep numFrames d).buffer event →
        Wrote config (before ++ (deliverStep numFrames d).dest)
          (L.deliverTurn numFrames d (deliverStep numFrames d)) := by
    intro event written dest samples shortened turned
    have kept := wrote.snoc (M := L.turn d.buffer (deliverStep numFrames d).buffer event) rfl
      (List.forall_mem_singleton.2 shortened)
    rw [turned, dest, ← samples, ← List.append_assoc]
    rwa [List.flatMap_singleton] at kept
  cases ready : d.buffer.headReady with
  | true =>
    have dest := congrArg Delivery.dest (@deliverStep_of_ready σ _ numFrames d ready)
    apply put _ _ dest ?_ ?_ (by rw [Log.deliverTurn, if_pos ready])
    · rw [Event.samples, dest]
      exact List.drop_left
    · trivial
  | false =>
    have notReady : ¬ d.buffer.headReady = true := by simp [ready]
    cases future : d.buffer.hasFuturePackets with
    | true =>
      have step := @deliverStep_of_gap σ _ numFrames d ready future
      have dest := congrArg Delivery.dest step
      apply put _ _ dest ?_ ?_
        (by rw [Log.deliverTurn, if_neg notReady, if_pos future])
      · rw [Event.samples, dest]
        exact List.drop_left
      · rw [step]
        dsimp only
        rw [List.drop_left, Nat.add_sub_cancel_left, concealFrames, same]
        exact ⟨rfl, rfl⟩
    | false =>
      have noFuture : ¬ d.buffer.hasFuturePackets = true := by simp [future]
      have dest := congrArg Delivery.dest (@deliverStep_of_dry σ _ numFrames d ready future)
      apply put _ _ dest ?_ ?_
        (by rw [Log.deliverTurn, if_neg notReady, if_neg noFuture])
      · rw [Event.samples, dest]
        exact List.drop_left
      · trivial

theorem Wrote.deliver {config : AudioConfig} {before : List σ} {L : Log σ}
    (wrote : Wrote config before L) {b : JitterBuffer σ} (same : b.config = config)
    (numFrames : Nat) :
    Wrote config (before ++ (JitterBuffer.deliver numFrames numFrames ⟨b, 0, []⟩).dest)
      (Log.deliver numFrames (L, ⟨b, 0, []⟩)).1 := by
  have kept : ∀ x : Log σ × Delivery σ,
      (Wrote config (before ++ x.2.dest) x.1 ∧ x.2.buffer.config = config) →
      x.2.framesDelivered < numFrames →
        Wrote config (before ++ (Log.deliverStep numFrames x).2.dest)
            (Log.deliverStep numFrames x).1 ∧
          (Log.deliverStep numFrames x).2.buffer.config = config := by
    rintro x ⟨wrote, same⟩ _
    exact ⟨wrote.deliverTurn same, (deliverStep_config numFrames x.2).trans same⟩
  rw [← Log.deliver_delivery numFrames L]
  have begun : Wrote config (before ++ []) L := by rwa [List.append_nil]
  exact (fuelled_preserves kept numFrames ⟨begun, same⟩).1

theorem Wrote.popFrames {config : AudioConfig} {written : List σ} {L : Log σ}
    (wrote : Wrote config written L) {b : JitterBuffer σ} (same : b.config = config)
    (hasDest : Bool) (numFrames : Nat) (nowMs : Clock) :
    Wrote config (written ++ (b.popFrames hasDest numFrames nowMs).2.dest)
      (L.popFrames b hasDest numFrames nowMs) := by
  by_cases asked : !hasDest ∨ numFrames = 0
  · rw [Log.popFrames, JitterBuffer.popFrames, if_pos asked, if_pos asked]
    rwa [List.append_nil]
  by_cases silent : b.isBuffering ∨ !b.hasFirstPacket
  · rw [Log.popFrames, if_neg asked, if_pos silent]
    have put := wrote.snoc
      (M := { L with
        events := L.events ++ [.waiting (b.popFrames hasDest numFrames nowMs).2.frames
          (b.popFrames hasDest numFrames nowMs).2.dest] }) rfl
      (List.forall_mem_singleton.2 trivial)
    rwa [List.flatMap_singleton] at put
  · rw [Log.popFrames, JitterBuffer.popFrames, if_neg asked, if_neg asked, if_neg silent,
      if_neg silent]
    have drained := wrote.drain (b.drainAmount nowMs) (b.drainAmount nowMs, b)
    exact drained.deliver ((drainToTarget_config b nowMs).trans same) numFrames

theorem Wrote.pushPacket {config : AudioConfig} {written : List σ} {L : Log σ}
    (wrote : Wrote config written L) (b c : JitterBuffer σ) :
    Wrote config written (L.pushPacket b c) := by
  apply wrote.silent rfl
  intro event inside
  rw [Log.pushEvents] at inside
  rcases List.mem_append.1 inside with restarts | fills
  · split at restarts
    · rw [List.mem_singleton.1 restarts]
      exact ⟨rfl, rfl⟩
    · cases restarts
  · split at fills
    · rw [List.mem_singleton.1 fills]
      exact ⟨rfl, rfl⟩
    · cases fills

theorem Wrote.run {config : AudioConfig} :
    ∀ (calls : List (StreamCall σ)) {written : List σ} {L : Log σ} {b : JitterBuffer σ},
      Wrote config written L → b.config = config →
        Wrote config (written ++ popped (b.replies calls))
          (L.run b (calls.map StreamCall.toCall)) := by
  intro calls
  induction calls with
  | nil =>
    intro written L b wrote _
    rwa [replies, popped, List.flatMap_nil, List.append_nil]
  | cons x calls inductionHypothesis =>
    intro written L b wrote same
    cases x with
    | pushPacket seqNum timestampUs pcmData numFrames nowMs =>
      have pushed :=
        wrote.pushPacket b (b.pushPacket seqNum timestampUs pcmData numFrames nowMs).1
      have config := pushPacket_config b seqNum timestampUs pcmData numFrames nowMs
      exact inductionHypothesis pushed (config.trans same)
    | popFrames hasDest numFrames nowMs =>
      have played := wrote.popFrames same hasDest numFrames nowMs
      have config := popFrames_config b hasDest numFrames nowMs
      have rest := inductionHypothesis played (config.trans same)
      rw [List.append_assoc] at rest
      exact rest

end

/-! ## Time -/

/-- What the pops of a stream write, and what they count as lost, is in the events of its
log, and these keep time if and only if, each time the playhead comes upon a missing number
with packets behind it, the pop still wants the frames of a packet. -/
theorem stream_keepsTime_iff [Zero σ] (b : JitterBuffer σ) (config : AudioConfig)
    (latency : Nat) (calls : List (StreamCall σ)) (framed : 0 < config.framesPerPacket) :
    let start := b.configure config latency
    let L := ({} : Log σ).run start (calls.map StreamCall.toCall)
    popped (start.replies calls) = L.output ∧
      (start.run (calls.map StreamCall.toCall)).stats.packetsLost =
        start.stats.packetsLost + L.events.countP Event.isLost ∧
      (KeepsTime config.framesPerPacket config.channels L.events ↔
        ∀ event ∈ L.events, event.Wants config.framesPerPacket) := by
  intro start L
  have records :
      Records (Log.place {} start) start.stats.packetsLost L
        (start.run (calls.map StreamCall.toCall)) :=
    (Records.empty start).run (sound_configure b config latency) _
  have begun : Wrote config ([] : List σ) {} := ⟨rfl, fun _ inside => by cases inside⟩
  have wrote : Wrote config ([] ++ popped (start.replies calls)) L := begun.run calls rfl
  have whole : lostFrames config = config.framesPerPacket := if_pos framed
  refine ⟨wrote.output.symm, by rw [records.missed, records.counted], ?_⟩
  apply keepsTime_iff_wants records.path
  rw [← whole]
  exact wrote.shortened

/-- Packets of 20 ms; number 1 is missing. -/
def packetsAfterGap (pops : List Nat) : List (StreamCall Nat) :=
  ((0 :: (List.range 11).map (· + 2)).map fun n =>
      .pushPacket (BitVec.ofNat 32 n) 0 (some fun _ => 7) 160 0) ++
    pops.map fun frames => .popFrames true frames 0

def telephoneConfig : AudioConfig :=
  { sampleRate := 8000, channels := 1, framesPerPacket := 160 }

theorem stream_keepsTime_iff_aligned :
    0 < telephoneConfig.framesPerPacket ∧
      KeepsTime 160 1
        (({} : Log Nat).run ((new 5).configure telephoneConfig 5)
          ((packetsAfterGap [160, 160, 160]).map StreamCall.toCall)).events :=
  ⟨by decide,
    (stream_keepsTime_iff (new 5) telephoneConfig 5 (packetsAfterGap [160, 160, 160])
      (by decide)).2.2.2 (by decide +kernel)⟩

/-- A pop that is one and a half packets long ends inside the gap, and half of the silence
between the packets 0 and 2 is not there. -/
theorem stream_loses_time :
    ¬ ∀ (b : JitterBuffer Nat) (config : AudioConfig) (latency : Nat)
      (calls : List (StreamCall Nat)), 0 < config.framesPerPacket →
        KeepsTime config.framesPerPacket config.channels
          (({} : Log Nat).run (b.configure config latency)
            (calls.map StreamCall.toCall)).events := by
  intro always
  have keeps := always (new 5) telephoneConfig 5 (packetsAfterGap [240, 160]) (by decide)
  have events :
      (({} : Log Nat).run ((new 5).configure telephoneConfig 5)
          ((packetsAfterGap [240, 160]).map StreamCall.toCall)).events =
        [.filled] ++ .played 0 (List.replicate 160 7) true ::
          ([.lost 1 80 80 (List.replicate 80 0)] ++
            .played 2 (List.replicate 160 7) true :: []) := by
    decide +kernel
  have missing : ∀ event ∈ [Event.lost 1 80 80 (List.replicate 80 0)],
      event.OnlyMissing 0 2 := List.forall_mem_singleton.2 trivial
  have silence := (keeps.between _ _ _ 0 2 _ _ _ _ events (by decide) missing).1
  exact absurd silence (by decide)

end AudioRouter.JitterBuffer
