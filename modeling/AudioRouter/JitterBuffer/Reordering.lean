import Mathlib.Data.List.Perm.Basic
import AudioRouter.JitterBuffer.Aligned
import AudioRouter.JitterBuffer.Bookkeeping

/-!
# Packets that arrive in another order

In a buffer that plays, a packet of the window changes its own slot and the counters, and
notes itself as the last arrival.  Packets of different numbers have different slots, so
two of them may change places; the notes of the arrivals are not read by a pop.
-/

namespace AudioRouter.JitterBuffer

open SequenceWindow

variable {σ : Type}

/-- The arguments of a push. -/
structure Packet (σ : Type) where
  seqNum : SeqNum
  timestampUs : Clock
  pcmData : Option (Nat → σ)
  numFrames : Nat
  nowMs : Clock

def Packet.push (packet : Packet σ) (b : JitterBuffer σ) : JitterBuffer σ × Bool :=
  b.pushPacket packet.seqNum packet.timestampUs packet.pcmData packet.numFrames packet.nowMs

/-- The buffer after the pushes. -/
def pushAll (b : JitterBuffer σ) (packets : List (Packet σ)) : JitterBuffer σ :=
  packets.foldl (fun b packet => (packet.push b).1) b

/-! ## A packet and its slot -/

/-- What a packet of the window makes of its slot, and what it counts. -/
def Packet.fill (packet : Packet σ) (channels : Nat) (slot : PacketSlot σ) :
    PacketSlot σ × JitterBufferStats :=
  match packet.pcmData with
  | none => (slot, {})
  | some source =>
      if packet.numFrames = 0 then (slot, {})
      else if slot.isValid ∧ slot.seqNum = packet.seqNum then
        (slot, { packetsReceived := 1, packetsDuplicate := 1 })
      else
        ({ seqNum := packet.seqNum
           timestampUs := packet.timestampUs
           numFrames := packet.numFrames
           pcmData := (List.range (packet.numFrames * channels)).map source
           isValid := true },
          { packetsReceived := 1 })

/-- The part of a push in the window of a buffer that plays which the pops can see. -/
def Packet.arrive (packet : Packet σ) (b : JitterBuffer σ) : JitterBuffer σ :=
  let i := slotIndex packet.seqNum.toNat
  let filled := packet.fill b.config.channels (b.slots i)
  { b with
    slots := Function.update b.slots i filled.1
    stats := addStats filled.2 b.stats }

theorem addStats_left_comm (r s t : JitterBufferStats) :
    addStats r (addStats s t) = addStats s (addStats r t) := by
  simp only [addStats, Nat.add_left_comm]

theorem addStats_zero (s : JitterBufferStats) : addStats {} s = s := by
  simp only [addStats, Nat.zero_add]

/-- Packets for different slots may change places. -/
theorem Packet.arrive_comm {p q : Packet σ}
    (apart : slotIndex p.seqNum.toNat ≠ slotIndex q.seqNum.toNat) (b : JitterBuffer σ) :
    q.arrive (p.arrive b) = p.arrive (q.arrive b) := by
  have second : (p.arrive b).slots (slotIndex q.seqNum.toNat) = b.slots (slotIndex q.seqNum.toNat) :=
    Function.update_of_ne apart.symm _ _
  have first : (q.arrive b).slots (slotIndex p.seqNum.toNat) = b.slots (slotIndex p.seqNum.toNat) :=
    Function.update_of_ne apart _ _
  simp only [Packet.arrive] at second first ⊢
  rw [second, first, Function.update_comm apart, addStats_left_comm]

/-! ## Pushes in the window -/

/-- The notes of the arrivals taken away. -/
def unnoted : Bookkeeping :=
  { holeFreeRun := fun _ => 0, lastArrivedSeq := fun _ => 0, hasLastArrivedSeq := fun _ => false }

/-- The buffer plays, with the playhead at a number. -/
structure PlaysAt (next : SeqNum) (b : JitterBuffer σ) : Prop where
  first : b.hasFirstPacket = true
  playing : b.isBuffering = false
  next : b.nextPlaySeq = next

section Push

variable {b : JitterBuffer σ} {next : SeqNum}

/-- A push without data counts nothing and keeps the slot. -/
theorem Packet.arrive_ignored {packet : Packet σ}
    (noData : packet.pcmData = none ∨ packet.numFrames = 0) (b : JitterBuffer σ) :
    packet.arrive b = b := by
  have filled : ∀ channels slot, packet.fill channels slot = (slot, {}) := by
    intro channels slot
    rcases noData with none | empty
    · rw [Packet.fill, none]
    · rw [Packet.fill, empty]
      cases packet.pcmData <;> rfl
  rw [Packet.arrive, filled]
  dsimp only
  rw [Function.update_eq_self, addStats_zero]

theorem finishBuffering_of_playing (playing : b.isBuffering = false) (nowMs : Clock) :
    b.finishBuffering nowMs = b := by
  rw [finishBuffering, playing]
  exact if_neg fun ends => Bool.noConfusion ends.1

/-- A packet of the window moves no playhead. -/
theorem PlaysAt.landing (plays : PlaysAt next b) {seqNum : SeqNum}
    (near : 0 ≤ (seqNum - next).toInt ∧ (seqNum - next).toInt < maxSlots) :
    ¬ (b.noteArrival seqNum).IsLate seqNum ∧
      b.landing seqNum =
        { b with stats := { b.stats with packetsReceived := b.stats.packetsReceived + 1 } } := by
  rcases plays with ⟨first, playing, rfl⟩
  have arrived : b.noteArrival seqNum =
      { b with stats := { b.stats with packetsReceived := b.stats.packetsReceived + 1 } } := by
    rw [noteArrival, first, playing]
    cases b
    simp_all
  have distance : (b.noteArrival seqNum).seqDiff seqNum = (seqNum - b.nextPlaySeq).toInt := by
    rw [arrived, seqDiff]
  have inTime : ¬ (b.noteArrival seqNum).IsLate seqNum := by
    rw [IsLate, distance]
    omega
  have stays : ¬ (b.noteArrival seqNum).IsJump seqNum := by
    rw [IsJump, distance]
    omega
  exact ⟨inTime, (followJump_of_not_isJump stays).trans arrived⟩

/-- A push in the window of a buffer that plays. -/
theorem PlaysAt.push (plays : PlaysAt next b) {packet : Packet σ}
    (near : 0 ≤ (packet.seqNum - next).toInt ∧ (packet.seqNum - next).toInt < maxSlots) :
    PlaysAt next (packet.push b).1 ∧
      unnoted.on (packet.push b).1 = packet.arrive (unnoted.on b) := by
  rcases packet with ⟨seqNum, timestampUs, pcmData, numFrames, nowMs⟩
  by_cases noData : pcmData = none ∨ numFrames = 0
  · rw [Packet.push, pushPacket_ignored noData]
    exact ⟨plays, (Packet.arrive_ignored noData _).symm⟩
  · rw [not_or] at noData
    rcases Option.ne_none_iff_exists'.1 noData.1 with ⟨source, rfl⟩
    rcases plays.landing near with ⟨inTime, landed⟩
    rw [Packet.push,
      pushPacket_some b seqNum timestampUs source (Nat.pos_of_ne_zero noData.2) nowMs,
      if_neg inTime, accept, landed]
    by_cases duplicate :
      (b.slots (slotIndex seqNum.toNat)).isValid ∧
        (b.slots (slotIndex seqNum.toNat)).seqNum = seqNum
    · rw [if_pos duplicate]
      refine ⟨⟨plays.first, plays.playing, plays.next⟩, ?_⟩
      simp only [Packet.arrive, Packet.fill, Bookkeeping.on, noData.2, duplicate, if_true,
        if_false, and_self, Function.update_eq_self, countDuplicate, addStats, unnoted,
        Nat.zero_add, Nat.add_comm]
    · rw [if_neg duplicate, finishBuffering_of_playing]
      · refine ⟨⟨plays.first, plays.playing, plays.next⟩, ?_⟩
        simp only [Packet.arrive, Packet.fill, Bookkeeping.on, noData.2, duplicate, if_false,
          storePacket, trackArrivalRun, addStats, unnoted, Nat.zero_add, Nat.add_comm]
      · exact plays.playing

theorem PlaysAt.pushAll {packets : List (Packet σ)} :
    ∀ {b : JitterBuffer σ}, PlaysAt next b →
      (∀ packet ∈ packets,
        0 ≤ (packet.seqNum - next).toInt ∧ (packet.seqNum - next).toInt < maxSlots) →
        PlaysAt next (b.pushAll packets) ∧
          unnoted.on (b.pushAll packets) =
            packets.foldl (fun b packet => packet.arrive b) (unnoted.on b) := by
  induction packets with
  | nil => exact fun plays _ => ⟨plays, rfl⟩
  | cons packet packets inductionHypothesis =>
    intro b plays near
    rw [List.forall_mem_cons] at near
    rcases plays.push near.1 with ⟨goesOn, arrived⟩
    rcases inductionHypothesis goesOn near.2 with ⟨ends, folded⟩
    rw [List.foldl_cons, ← arrived]
    exact ⟨ends, folded⟩

end Push

/-! ## Pops -/

/-- A caller that only pops does not see the notes of the arrivals. -/
theorem transcript_popCalls_of_unnoted [Zero σ] :
    ∀ (pops : List (Bool × Nat × Clock)) {b c : JitterBuffer σ},
      unnoted.on b = unnoted.on c →
        b.transcript (popCalls pops) = c.transcript (popCalls pops) := by
  intro pops
  induction pops with
  | nil => exact fun _ => rfl
  | cons pop pops inductionHypothesis =>
    intro b c same
    have popped :
        (unnoted.on b).popFrames pop.1 pop.2.1 pop.2.2 =
          (unnoted.on c).popFrames pop.1 pop.2.1 pop.2.2 := by
      rw [same]
    rw [Bookkeeping.popFrames_on, Bookkeeping.popFrames_on, Prod.mk.injEq] at popped
    rcases popped with ⟨buffers, results⟩
    have ready := congrArg JitterBuffer.isReady buffers
    have available := congrArg JitterBuffer.availableFramesUnlocked buffers
    have stats := congrArg JitterBuffer.stats buffers
    rw [Bookkeeping.availableFramesUnlocked_on, Bookkeeping.availableFramesUnlocked_on]
      at available
    change addStats {} _ = addStats {} _ at stats
    rw [addStats_zero, addStats_zero] at stats
    have seen :
        (b.popFrames pop.1 pop.2.1 pop.2.2).1.observe
            (.popped (b.popFrames pop.1 pop.2.1 pop.2.2).2) =
          (c.popFrames pop.1 pop.2.1 pop.2.2).1.observe
            (.popped (c.popFrames pop.1 pop.2.1 pop.2.2).2) := by
      rw [observe, observe, results, stats, availableFrames, availableFrames, available]
      exact congrArg (fun ready => Observation.mk _ ready _ _) ready
    exact List.cons_eq_cons.2 ⟨seen, inductionHypothesis buffers⟩

/-! ## Permutations -/

theorem slotIndex_ne_of_near {next p q : SeqNum}
    (pNear : 0 ≤ (p - next).toInt ∧ (p - next).toInt < maxSlots)
    (qNear : 0 ≤ (q - next).toInt ∧ (q - next).toInt < maxSlots) (different : p ≠ q) :
    slotIndex p.toNat ≠ slotIndex q.toNat := by
  have pAhead := toInt_sub_eq_ahead pNear.1
  have qAhead := toInt_sub_eq_ahead qNear.1
  intro same
  rw [← slotIndex_ahead next p, ← slotIndex_ahead next q] at same
  have level : ahead next p = ahead next q :=
    slotIndex_injective (by omega) (by omega) same
  apply different
  rw [← add_ahead next p, ← add_ahead next q, level]

/-- In a buffer that plays, packets of different numbers of the window may arrive in any
order: the slots and the playhead are the same in the end, and so is everything that later
pops show. -/
theorem reordering_harmless [Zero σ] (b : JitterBuffer σ) (first : b.hasFirstPacket = true)
    (playing : b.isBuffering = false) (packets permuted : List (Packet σ))
    (near : ∀ packet ∈ packets, 0 ≤ b.seqDiff packet.seqNum ∧ b.seqDiff packet.seqNum < maxSlots)
    (distinct : (packets.map Packet.seqNum).Nodup) (reordered : packets.Perm permuted)
    (pops : List (Bool × Nat × Clock)) :
    (b.pushAll permuted).slots = (b.pushAll packets).slots ∧
      (b.pushAll permuted).nextPlaySeq = (b.pushAll packets).nextPlaySeq ∧
      (b.pushAll permuted).transcript (popCalls pops) =
        (b.pushAll packets).transcript (popCalls pops) := by
  have plays : PlaysAt b.nextPlaySeq b := ⟨first, playing, rfl⟩
  rcases plays.pushAll near with ⟨ends, pushed⟩
  rcases plays.pushAll fun packet inside => near packet (reordered.mem_iff.2 inside) with
    ⟨endsToo, pushedToo⟩
  have folded :
      packets.foldl (fun b packet => packet.arrive b) (unnoted.on b) =
        permuted.foldl (fun b packet => packet.arrive b) (unnoted.on b) := by
    apply reordered.foldl_eq'
    intro p pInside q qInside c
    by_cases same : p.seqNum = q.seqNum
    · rw [List.inj_on_of_nodup_map distinct pInside qInside same]
    · exact
        Packet.arrive_comm
          (slotIndex_ne_of_near (near p pInside) (near q qInside) same) c
  have same : unnoted.on (b.pushAll permuted) = unnoted.on (b.pushAll packets) := by
    rw [pushed, pushedToo, folded]
  have slots :
      (unnoted.on (b.pushAll permuted)).slots = (unnoted.on (b.pushAll packets)).slots := by
    rw [same]
  refine ⟨slots, ?_, transcript_popCalls_of_unnoted pops same⟩
  rw [ends.next, endsToo.next]

/-- One long packet is played before the numbers wrap around. -/
def wrappingBuffer : JitterBuffer Nat :=
  (new 0).run
    [.configure { sampleRate := 100, channels := 1, framesPerPacket := 2 } 5,
      .pushPacket 0xFFFFFFFF 0 (some fun i => i) 30 0]

def wrappingPacket (seqNum : SeqNum) : Packet Nat :=
  ⟨seqNum, 0, some fun i => i + seqNum.toNat, 2, 0⟩

theorem reordering_harmless_wrapping :
    wrappingBuffer.hasFirstPacket = true ∧ wrappingBuffer.isBuffering = false ∧
      let c :=
        wrappingBuffer.pushAll [wrappingPacket 0xFFFFFFFF, wrappingPacket 1, wrappingPacket 0]
      let d :=
        wrappingBuffer.pushAll [wrappingPacket 1, wrappingPacket 0xFFFFFFFF, wrappingPacket 0]
      d.slots = c.slots ∧ d.nextPlaySeq = c.nextPlaySeq ∧
        d.transcript (popCalls [(true, 40, 0)]) = c.transcript (popCalls [(true, 40, 0)]) :=
  ⟨by decide +kernel, by decide +kernel,
    reordering_harmless wrappingBuffer (by decide +kernel) (by decide +kernel)
      [wrappingPacket 0xFFFFFFFF, wrappingPacket 1, wrappingPacket 0]
      [wrappingPacket 1, wrappingPacket 0xFFFFFFFF, wrappingPacket 0] (by decide +kernel)
      (by decide +kernel) (List.Perm.swap _ _ _) [(true, 40, 0)]⟩

end AudioRouter.JitterBuffer
