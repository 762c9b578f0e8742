import Mathlib.Tactic.Basic
import Mathlib.Data.Nat.Cast.Order.Basic
import AudioRouter.Lib.SequenceWindow
import AudioRouter.JitterBuffer.Model

/-!
# The window of a jitter buffer

`held b i` is the packet the ring keeps for the number `i` steps ahead of the
playhead.  It is what the buffer is for: a window of 256 numbers, some of them
present.  The representation invariant `WellFormed` ties the ring to the window,
and the lemmas below say what each elementary update of the code does to the
window, without sequence numbers and without slot indices.
-/

namespace AudioRouter.JitterBuffer

open SequenceWindow

variable {σ : Type}

/-- What a slot holds, apart from its number and time stamp. -/
structure HeldPacket (σ : Type) where
  numFrames : Nat
  pcmData : List σ
  deriving DecidableEq

def packetOf (slot : PacketSlot σ) : HeldPacket σ :=
  ⟨slot.numFrames, slot.pcmData⟩

/-- The packet held for the number `i` steps ahead of the playhead. -/
def held (b : JitterBuffer σ) (i : Nat) : Option (HeldPacket σ) :=
  let slot := b.slots (slotIndex (b.nextPlaySeq.toNat + i))
  if i < maxSlots ∧ slot.isValid then some (packetOf slot) else none

/-- The representation invariant. -/
structure WellFormed (b : JitterBuffer σ) : Prop where
  index : ∀ i, (b.slots i).isValid → (b.slots i).seqNum.toNat % maxSlots = i
  window :
    ∀ i, (b.slots i).isValid →
      ((b.slots i).seqNum - b.nextPlaySeq).toNat < maxSlots
  framesPos : ∀ i, (b.slots i).isValid → 1 ≤ (b.slots i).numFrames
  sampleCount :
    ∀ i, (b.slots i).isValid →
      (b.slots i).pcmData.length = (b.slots i).numFrames * b.config.channels
  offsetZero : b.headSlot.isValid = false → b.slotFrameOffset = 0
  offsetLt : b.headSlot.isValid → b.slotFrameOffset < b.headSlot.numFrames

/-! ## Slot indices -/

theorem maxSlots_dvd : maxSlots ∣ 2 ^ 32 := by decide

theorem slotIndex_succ (p : SeqNum) (i : Nat) :
    slotIndex ((p + 1).toNat + i) = slotIndex (p.toNat + (i + 1)) := by
  apply Fin.ext
  have residue := residue_add_ofNat maxSlots_dvd p 1
  change ((p + 1).toNat + i) % maxSlots = (p.toNat + (i + 1)) % maxSlots
  change (p + 1).toNat % maxSlots = (p.toNat + 1) % maxSlots at residue
  simp only [maxSlots] at residue ⊢
  omega

theorem slotIndex_ahead (p s : SeqNum) :
    slotIndex (p.toNat + ahead p s) = slotIndex s.toNat :=
  Fin.ext (residue_ahead maxSlots_dvd p s)

theorem slotIndex_injective {n i j : Nat}
    (iSmall : i < maxSlots) (jSmall : j < maxSlots)
    (same : slotIndex (n + i) = slotIndex (n + j)) : i = j :=
  residue_injective iSmall jSmall (congrArg Fin.val same)

/-! ## Reading the window -/

theorem held_eq_none_of_le (b : JitterBuffer σ) {i : Nat}
    (far : maxSlots ≤ i) : b.held i = none := by
  have notSmall : ¬ i < maxSlots := by omega
  simp only [held, notSmall, false_and, if_false]

theorem held_of_valid (b : JitterBuffer σ) {i : Nat} (small : i < maxSlots)
    (valid : (b.slots (slotIndex (b.nextPlaySeq.toNat + i))).isValid) :
    b.held i =
      some (packetOf (b.slots (slotIndex (b.nextPlaySeq.toNat + i)))) :=
  if_pos ⟨small, valid⟩

theorem held_of_not_valid (b : JitterBuffer σ) {i : Nat}
    (invalid :
      (b.slots (slotIndex (b.nextPlaySeq.toNat + i))).isValid = false) :
    b.held i = none :=
  if_neg (by simp [invalid])

theorem held_isSome_iff (b : JitterBuffer σ) {i : Nat} :
    (b.held i).isSome ↔
      i < maxSlots ∧
        (b.slots (slotIndex (b.nextPlaySeq.toNat + i))).isValid := by
  simp only [held]
  split <;> simp_all

theorem held_zero (b : JitterBuffer σ) :
    b.held 0 =
      if b.headSlot.isValid then some (packetOf b.headSlot) else none := by
  simp only [held, headSlot, Nat.add_zero]
  exact if_congr (and_iff_right (by decide)) rfl rfl

theorem held_eq_some_iff (b : JitterBuffer σ) {i : Nat}
    {packet : HeldPacket σ} :
    b.held i = some packet ↔
      i < maxSlots ∧
        (b.slots (slotIndex (b.nextPlaySeq.toNat + i))).isValid ∧
        packetOf (b.slots (slotIndex (b.nextPlaySeq.toNat + i))) = packet := by
  simp only [held]
  split <;> simp_all

/-- The window depends on the ring and the playhead only. -/
theorem held_congr {b c : JitterBuffer σ} (slots : b.slots = c.slots)
    (next : b.nextPlaySeq = c.nextPlaySeq) : b.held = c.held := by
  funext i
  simp only [held, slots, next]

namespace WellFormed

variable {b : JitterBuffer σ}

/-- The invariant depends on the channel count, the ring, the playhead and the
offset only. -/
theorem congr {c : JitterBuffer σ} (wf : b.WellFormed)
    (channels : c.config.channels = b.config.channels)
    (slots : c.slots = b.slots) (next : c.nextPlaySeq = b.nextPlaySeq)
    (offset : c.slotFrameOffset = b.slotFrameOffset) : c.WellFormed := by
  have head : c.headSlot = b.headSlot := by
    simp only [headSlot, slots, next]
  constructor
  · simpa only [slots] using wf.index
  · simpa only [slots, next] using wf.window
  · simpa only [slots] using wf.framesPos
  · simpa only [slots, channels] using wf.sampleCount
  · simpa only [head, offset] using wf.offsetZero
  · simpa only [head, offset] using wf.offsetLt

/-- A packet lies where its number says. -/
theorem ahead_slot (wf : b.WellFormed) {i : Nat} (small : i < maxSlots)
    (valid : (b.slots (slotIndex (b.nextPlaySeq.toNat + i))).isValid) :
    ahead b.nextPlaySeq
      (b.slots (slotIndex (b.nextPlaySeq.toNat + i))).seqNum = i := by
  have near := wf.window _ valid
  have residue := wf.index _ valid
  refine residue_injective (n := b.nextPlaySeq.toNat) near small ?_
  rw [residue_ahead maxSlots_dvd, residue]
  rfl

theorem seqNum_slot (wf : b.WellFormed) {i : Nat} (small : i < maxSlots)
    (valid : (b.slots (slotIndex (b.nextPlaySeq.toNat + i))).isValid) :
    (b.slots (slotIndex (b.nextPlaySeq.toNat + i))).seqNum =
      b.nextPlaySeq + BitVec.ofNat 32 i := by
  have reached := add_ahead b.nextPlaySeq
    (b.slots (slotIndex (b.nextPlaySeq.toNat + i))).seqNum
  rw [wf.ahead_slot small valid] at reached
  exact reached.symm

/-- The comparison of `seq_num` with the playhead never fails on a valid slot. -/
theorem headReady_eq (wf : b.WellFormed) : b.headReady = b.headSlot.isValid := by
  cases valid : b.headSlot.isValid with
  | false => simp [headReady, valid]
  | true =>
      have number := wf.seqNum_slot (i := 0) (by decide) (by simpa [headSlot] using valid)
      have same : b.headSlot.seqNum = b.nextPlaySeq := by
        simpa [headSlot] using number
      simp [headReady, valid, same]

theorem held_zero_of_headReady (wf : b.WellFormed) (ready : b.headReady) :
    b.held 0 = some (packetOf b.headSlot) := by
  rw [wf.headReady_eq] at ready
  rw [held_zero, if_pos ready]

theorem held_zero_of_not_headReady (wf : b.WellFormed)
    (notReady : b.headReady = false) : b.held 0 = none := by
  rw [wf.headReady_eq] at notReady
  rw [held_zero, notReady]
  rfl

theorem headReady_iff (wf : b.WellFormed) : b.headReady ↔ (b.held 0).isSome := by
  cases ready : b.headReady with
  | false => simp [wf.held_zero_of_not_headReady ready]
  | true => simp [wf.held_zero_of_headReady ready]

theorem offset_lt_of_headReady (wf : b.WellFormed) (ready : b.headReady) :
    b.slotFrameOffset < b.headSlot.numFrames := by
  rw [wf.headReady_eq] at ready
  exact wf.offsetLt ready

theorem offset_eq_zero_of_not_headReady (wf : b.WellFormed)
    (notReady : b.headReady = false) : b.slotFrameOffset = 0 := by
  rw [wf.headReady_eq] at notReady
  exact wf.offsetZero notReady

theorem held_framesPos (wf : b.WellFormed) {i : Nat} {packet : HeldPacket σ}
    (present : b.held i = some packet) : 1 ≤ packet.numFrames := by
  obtain ⟨_, valid, rfl⟩ := b.held_eq_some_iff.1 present
  exact wf.framesPos _ valid

theorem held_sampleCount (wf : b.WellFormed) {i : Nat} {packet : HeldPacket σ}
    (present : b.held i = some packet) :
    packet.pcmData.length = packet.numFrames * b.config.channels := by
  obtain ⟨_, valid, rfl⟩ := b.held_eq_some_iff.1 present
  exact wf.sampleCount _ valid

end WellFormed

theorem hasFuturePackets_iff (b : JitterBuffer σ) :
    b.hasFuturePackets ↔ ∃ i, 1 ≤ i ∧ (b.held i).isSome := by
  simp only [hasFuturePackets, List.any_eq_true, List.mem_range,
    Bool.and_eq_true, decide_eq_true_eq, held_isSome_iff]
  constructor
  · rintro ⟨i, small, later, valid⟩
    exact ⟨i, later, small, valid⟩
  · rintro ⟨i, later, small, valid⟩
    exact ⟨i, small, later, valid⟩

/-! ## A ring without valid slots -/

/-- No slot is valid: after `reset` and inside a resync. -/
def Vacant (b : JitterBuffer σ) : Prop := ∀ i, (b.slots i).isValid = false

theorem Vacant.wellFormed {b : JitterBuffer σ} (vacant : b.Vacant)
    (offset : b.slotFrameOffset = 0) : b.WellFormed := by
  constructor
  · intro i valid
    simp [vacant i] at valid
  · intro i valid
    simp [vacant i] at valid
  · intro i valid
    simp [vacant i] at valid
  · intro i valid
    simp [vacant i] at valid
  · exact fun _ => offset
  · intro valid
    simp [headSlot, vacant _] at valid

theorem Vacant.held {b : JitterBuffer σ} (vacant : b.Vacant) (i : Nat) :
    b.held i = none :=
  held_of_not_valid b (vacant _)

theorem vacant_new (latency : Nat) : (new latency : JitterBuffer σ).Vacant :=
  fun _ => rfl

theorem vacant_configure (b : JitterBuffer σ) (config : AudioConfig)
    (latency : Nat) : (b.configure config latency).Vacant := fun _ => rfl

theorem vacant_resync (b : JitterBuffer σ) (seqNum : SeqNum) :
    (b.resync seqNum).Vacant := fun _ => rfl

/-! ## The playhead moves on -/

section Playhead

variable {b : JitterBuffer σ}

/-- Both ways of leaving the slot of the playhead put an invalid slot there,
clear the offset and step to the next number. -/
def vacateHead (b : JitterBuffer σ) (vacated : PacketSlot σ) : JitterBuffer σ :=
  { b with
    slots := Function.update b.slots (slotIndex b.nextPlaySeq.toNat) vacated
    slotFrameOffset := 0
    nextPlaySeq := b.nextPlaySeq + 1 }

private theorem valid_vacateHead {vacated : PacketSlot σ} {i : Fin maxSlots}
    (invalid : vacated.isValid = false)
    (valid : ((b.vacateHead vacated).slots i).isValid) :
    i ≠ slotIndex b.nextPlaySeq.toNat ∧
      (b.vacateHead vacated).slots i = b.slots i := by
  by_cases same : i = slotIndex b.nextPlaySeq.toNat
  · subst i
    simp [vacateHead, invalid] at valid
  · exact ⟨same, Function.update_of_ne same _ _⟩

theorem WellFormed.vacateHead (wf : b.WellFormed) {vacated : PacketSlot σ}
    (invalid : vacated.isValid = false) : (b.vacateHead vacated).WellFormed := by
  have framesPos :
      ∀ i, ((b.vacateHead vacated).slots i).isValid →
        1 ≤ ((b.vacateHead vacated).slots i).numFrames := by
    intro i valid
    obtain ⟨_, same⟩ := valid_vacateHead invalid valid
    rw [same] at valid ⊢
    exact wf.framesPos i valid
  constructor
  · intro i valid
    obtain ⟨_, same⟩ := valid_vacateHead invalid valid
    rw [same] at valid ⊢
    exact wf.index i valid
  · intro i valid
    obtain ⟨different, same⟩ := valid_vacateHead invalid valid
    rw [same] at valid ⊢
    have near := wf.window i valid
    have residue := wf.index i valid
    have notHead : (b.slots i).seqNum ≠ b.nextPlaySeq := by
      intro equal
      rw [equal] at residue
      exact different (Fin.ext residue.symm)
    have closer := ahead_succ notHead
    change ahead (b.nextPlaySeq + 1) (b.slots i).seqNum < maxSlots
    change ahead b.nextPlaySeq (b.slots i).seqNum < maxSlots at near
    omega
  · exact framesPos
  · intro i valid
    obtain ⟨_, same⟩ := valid_vacateHead invalid valid
    rw [same] at valid ⊢
    exact wf.sampleCount i valid
  · exact fun _ => rfl
  · intro valid
    exact framesPos _ valid

/-- Leaving the slot of the playhead shifts the window by one. -/
theorem held_vacateHead {vacated : PacketSlot σ}
    (invalid : vacated.isValid = false) (i : Nat) :
    (b.vacateHead vacated).held i = b.held (i + 1) := by
  have target :
      slotIndex ((b.vacateHead vacated).nextPlaySeq.toNat + i) =
        slotIndex (b.nextPlaySeq.toNat + (i + 1)) :=
    slotIndex_succ b.nextPlaySeq i
  by_cases last : i + 1 < maxSlots
  · have different :
        slotIndex (b.nextPlaySeq.toNat + (i + 1)) ≠
          slotIndex b.nextPlaySeq.toNat := by
      intro same
      have := slotIndex_injective (n := b.nextPlaySeq.toNat) last
        (j := 0) (by decide) same
      omega
    have here :
        (b.vacateHead vacated).slots
            (slotIndex (b.nextPlaySeq.toNat + (i + 1))) =
          b.slots (slotIndex (b.nextPlaySeq.toNat + (i + 1))) :=
      Function.update_of_ne different _ _
    have small : i < maxSlots := by omega
    simp only [held, target, here, last, small]
  · rw [held_eq_none_of_le b (by omega : maxSlots ≤ i + 1)]
    by_cases small : i < maxSlots
    · apply held_of_not_valid
      have wrapped :
          slotIndex (b.nextPlaySeq.toNat + (i + 1)) =
            slotIndex b.nextPlaySeq.toNat := by
        apply Fin.ext
        change (b.nextPlaySeq.toNat + (i + 1)) % maxSlots =
          b.nextPlaySeq.toNat % maxSlots
        rw [show i + 1 = maxSlots by omega, Nat.add_mod_right]
      rw [target, wrapped]
      simp [vacateHead, invalid]
    · exact held_eq_none_of_le _ (by omega)

theorem WellFormed.leaveSlot (wf : b.WellFormed) : b.leaveSlot.WellFormed :=
  wf.vacateHead rfl

theorem WellFormed.stepOverHole (wf : b.WellFormed) :
    b.stepOverHole.WellFormed :=
  wf.vacateHead rfl

@[simp]
theorem held_leaveSlot (b : JitterBuffer σ) (i : Nat) :
    b.leaveSlot.held i = b.held (i + 1) :=
  held_vacateHead rfl i

@[simp]
theorem held_stepOverHole (b : JitterBuffer σ) (i : Nat) :
    b.stepOverHole.held i = b.held (i + 1) :=
  held_vacateHead rfl i

/-- Reading on within the slot of the playhead. -/
theorem WellFormed.readOn (wf : b.WellFormed) (ready : b.headReady)
    {frames : Nat}
    (inside : b.slotFrameOffset + frames < b.headSlot.numFrames) :
    { b with slotFrameOffset := b.slotFrameOffset + frames }.WellFormed := by
  rw [wf.headReady_eq] at ready
  constructor
  · exact wf.index
  · exact wf.window
  · exact wf.framesPos
  · exact wf.sampleCount
  · intro invalid
    change b.headSlot.isValid = false at invalid
    simp [ready] at invalid
  · exact fun _ => inside

end Playhead

/-! ## A packet is stored -/

section Store

variable {b : JitterBuffer σ} {seqNum : SeqNum} {timestampUs : Clock}
  {pcmData : Nat → σ} {numFrames : Nat}

/-- The duplicate test finds the packet of the same number. -/
theorem WellFormed.duplicate_iff (wf : b.WellFormed)
    (near : ahead b.nextPlaySeq seqNum < maxSlots) :
    ((b.slots (slotIndex seqNum.toNat)).isValid ∧
        (b.slots (slotIndex seqNum.toNat)).seqNum = seqNum) ↔
      (b.held (ahead b.nextPlaySeq seqNum)).isSome := by
  rw [held_isSome_iff, slotIndex_ahead]
  constructor
  · rintro ⟨valid, _⟩
    exact ⟨near, valid⟩
  · rintro ⟨_, valid⟩
    refine ⟨valid, ?_⟩
    rw [← slotIndex_ahead b.nextPlaySeq] at valid ⊢
    rw [wf.seqNum_slot near valid, add_ahead]

/-- Storing overwrites no valid slot: the slot of a number that is not held is
free. -/
theorem slot_free
    (near : ahead b.nextPlaySeq seqNum < maxSlots)
    (absent : b.held (ahead b.nextPlaySeq seqNum) = none) :
    (b.slots (slotIndex seqNum.toNat)).isValid = false := by
  by_contra occupied
  have valid : (b.slots (slotIndex seqNum.toNat)).isValid := by
    simpa using occupied
  have present : (b.held (ahead b.nextPlaySeq seqNum)).isSome := by
    rw [held_isSome_iff, slotIndex_ahead]
    exact ⟨near, valid⟩
  simp [absent] at present

theorem WellFormed.storePacket (wf : b.WellFormed)
    (near : ahead b.nextPlaySeq seqNum < maxSlots)
    (absent : b.held (ahead b.nextPlaySeq seqNum) = none)
    (positive : 1 ≤ numFrames) :
    (b.storePacket seqNum timestampUs pcmData numFrames).WellFormed := by
  have free := slot_free near absent
  constructor
  · intro i valid
    by_cases same : i = slotIndex seqNum.toNat
    · subst i
      simp [JitterBuffer.storePacket, slotIndex]
    · simp only [JitterBuffer.storePacket, Function.update_of_ne same] at valid ⊢
      exact wf.index i valid
  · intro i valid
    by_cases same : i = slotIndex seqNum.toNat
    · subst i
      simpa [JitterBuffer.storePacket, ahead] using near
    · simp only [JitterBuffer.storePacket, Function.update_of_ne same] at valid ⊢
      exact wf.window i valid
  · intro i valid
    by_cases same : i = slotIndex seqNum.toNat
    · subst i
      simpa [JitterBuffer.storePacket] using positive
    · simp only [JitterBuffer.storePacket, Function.update_of_ne same] at valid ⊢
      exact wf.framesPos i valid
  · intro i valid
    by_cases same : i = slotIndex seqNum.toNat
    · subst i
      simp [JitterBuffer.storePacket]
    · simp only [JitterBuffer.storePacket, Function.update_of_ne same] at valid ⊢
      exact wf.sampleCount i valid
  · intro invalid
    by_cases same : slotIndex b.nextPlaySeq.toNat = slotIndex seqNum.toNat
    · simp [JitterBuffer.storePacket, headSlot, same] at invalid
    · simp only [JitterBuffer.storePacket, headSlot,
        Function.update_of_ne same] at invalid ⊢
      exact wf.offsetZero invalid
  · intro valid
    by_cases same : slotIndex b.nextPlaySeq.toNat = slotIndex seqNum.toNat
    · have zero : b.slotFrameOffset = 0 := by
        apply wf.offsetZero
        rw [headSlot, same]
        exact free
      simp only [JitterBuffer.storePacket, headSlot, same,
        Function.update_self, zero]
      exact positive
    · simp only [JitterBuffer.storePacket, headSlot,
        Function.update_of_ne same] at valid ⊢
      exact wf.offsetLt valid

/-- The packet a push stores. -/
def storedPacket (b : JitterBuffer σ) (pcmData : Nat → σ) (numFrames : Nat) :
    HeldPacket σ :=
  ⟨numFrames, (List.range (numFrames * b.config.channels)).map pcmData⟩

/-- Storing fills one place of the window. -/
theorem held_storePacket (near : ahead b.nextPlaySeq seqNum < maxSlots) :
    (b.storePacket seqNum timestampUs pcmData numFrames).held =
      Function.update b.held (ahead b.nextPlaySeq seqNum)
        (some (b.storedPacket pcmData numFrames)) := by
  funext i
  by_cases same : i = ahead b.nextPlaySeq seqNum
  · subst i
    rw [Function.update_self, held]
    simp only [JitterBuffer.storePacket, slotIndex_ahead, Function.update_self,
      near, and_self, if_true]
    rfl
  · rw [Function.update_of_ne same]
    by_cases small : i < maxSlots
    · have different :
          slotIndex (b.nextPlaySeq.toNat + i) ≠ slotIndex seqNum.toNat := by
        rw [← slotIndex_ahead b.nextPlaySeq seqNum]
        exact fun equal => same (slotIndex_injective small near equal)
      simp only [held, JitterBuffer.storePacket, Function.update_of_ne different]
    · rw [held_eq_none_of_le _ (by omega), held_eq_none_of_le _ (by omega)]

end Store

end AudioRouter.JitterBuffer
