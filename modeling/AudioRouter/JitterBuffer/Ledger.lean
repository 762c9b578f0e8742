import Mathlib.Data.List.Flatten
import AudioRouter.JitterBuffer.Pending
import AudioRouter.JitterBuffer.Rendering

/-!
# Tagged frames

Frames are tagged with the push they came from and with the place of its packet
on an unwrapped number line.  `Ledger` runs the buffer on tagged frames and notes
where they go: into the output, into the drain, away with a resync.  `Delivered`
says what one pop takes out of the buffer.
-/

namespace AudioRouter.JitterBuffer

open SequenceWindow Blocks

/-- A call between two configurations. -/
inductive StreamCall (σ : Type) where
  | pushPacket (seqNum : SeqNum) (timestampUs : Clock)
      (pcmData : Option (Nat → σ)) (numFrames : Nat) (nowMs : Clock)
  | popFrames (hasDest : Bool) (numFrames : Nat) (nowMs : Clock)

def StreamCall.toCall {σ : Type} : StreamCall σ → Call σ
  | .pushPacket seqNum timestampUs pcmData numFrames nowMs =>
      .pushPacket seqNum timestampUs pcmData numFrames nowMs
  | .popFrames hasDest numFrames nowMs => .popFrames hasDest numFrames nowMs

/-- A packet: the call that pushed it, the resyncs before it, and its number,
counted in steps of the playhead since the last resync. -/
structure PacketTag where
  push : Nat
  epoch : Nat
  number : Nat
  deriving DecidableEq

structure FrameTag where
  packet : PacketTag
  frame : Nat
  deriving DecidableEq

/-- A frame of the output: `none` is silence. -/
abbrev TaggedFrame := Option FrameTag

instance : Zero TaggedFrame := ⟨none⟩

/-- The frames of a packet. -/
def PacketTag.frames (tag : PacketTag) (numFrames : Nat) : List TaggedFrame :=
  (List.range numFrames).map fun j => some ⟨tag, j⟩

/-- Playhead order: sequence number first, then frame index; whatever came before
a resync comes first. -/
def FrameTag.Precedes (s t : FrameTag) : Prop :=
  s.packet.epoch < t.packet.epoch ∨
    s.packet.epoch = t.packet.epoch ∧
      (s.packet.number < t.packet.number ∨
        s.packet.number = t.packet.number ∧ s.frame < t.frame)

/-- Playhead order of tagged frames. -/
def InOrder (x y : TaggedFrame) : Prop :=
  ∀ s t, x = some s → y = some t → s.Precedes t

/-! ## The ledger -/

structure Ledger where
  buffer : JitterBuffer TaggedFrame
  calls : Nat := 0
  /-- Resyncs so far. -/
  epoch : Nat := 0
  /-- Steps of the playhead since the last resync. -/
  head : Nat := 0
  accepted : List TaggedFrame := []
  output : List TaggedFrame := []
  drained : List TaggedFrame := []
  discarded : List TaggedFrame := []
  replies : List (Reply TaggedFrame) := []

namespace Ledger

/-- A packet that jumps out of the window discards what is pending. -/
def land (L : Ledger) (seqNum : SeqNum) : Ledger :=
  if (L.buffer.noteArrival seqNum).IsJump seqNum then
    { L with
      buffer := L.buffer.landing seqNum
      epoch := L.epoch + 1
      head := 0
      discarded := L.discarded ++ L.buffer.pending }
  else { L with buffer := L.buffer.landing seqNum }

/-- The tag of the packet that is being pushed. -/
def nextTag (L : Ledger) (seqNum : SeqNum) : PacketTag :=
  { push := L.calls
    epoch := (L.land seqNum).epoch
    number :=
      (L.land seqNum).head + ahead (L.buffer.landing seqNum).nextPlaySeq seqNum }

/-- `push_packet` on a packet of tagged frames. -/
def pushPacket (L : Ledger) (seqNum : SeqNum) (timestampUs : Clock)
    (hasData : Bool) (numFrames : Nat) (nowMs : Clock) : Ledger :=
  let tag := L.nextTag seqNum
  let source : Nat → TaggedFrame := fun j => some ⟨tag, j⟩
  let r :=
    L.buffer.pushPacket seqNum timestampUs (if hasData then some source else none)
      numFrames nowMs
  let noted :=
    if r.2 then
      { L.land seqNum with accepted := L.accepted ++ tag.frames numFrames }
    else L
  { noted with
    buffer := r.1
    calls := L.calls + 1
    replies := L.replies ++ [.pushed r.2] }

/-- The frames that are pending before the drain of a pop and not after it. -/
def shed (b : JitterBuffer TaggedFrame) (nowMs : Clock) : List TaggedFrame :=
  b.pending.take (b.pending.length - (b.drainToTarget nowMs).pending.length)

/-- `pop_frames`. -/
def popFrames (L : Ledger) (hasDest : Bool) (numFrames : Nat) (nowMs : Clock) :
    Ledger :=
  let r := L.buffer.popFrames hasDest numFrames nowMs
  { L with
    buffer := r.1
    calls := L.calls + 1
    head := L.head + ahead L.buffer.nextPlaySeq r.1.nextPlaySeq
    output := L.output ++ r.2.dest
    drained :=
      if hasDest ∧ numFrames ≠ 0 ∧ L.buffer.isReady then
        L.drained ++ shed L.buffer nowMs
      else L.drained
    replies := L.replies ++ [.popped r.2] }

def call {σ : Type} (L : Ledger) : StreamCall σ → Ledger
  | .pushPacket seqNum timestampUs pcmData numFrames nowMs =>
      L.pushPacket seqNum timestampUs pcmData.isSome numFrames nowMs
  | .popFrames hasDest numFrames nowMs => L.popFrames hasDest numFrames nowMs

def run {σ : Type} (L : Ledger) (calls : List (StreamCall σ)) : Ledger :=
  calls.foldl call L

end Ledger

theorem popFrames_of_ready {b : JitterBuffer TaggedFrame} {hasDest : Bool}
    {numFrames : Nat} {nowMs : Clock} (dest : hasDest) (some : numFrames ≠ 0)
    (ready : b.isReady) :
    b.popFrames hasDest numFrames nowMs =
      let d := deliver numFrames numFrames ⟨b.drainToTarget nowMs, 0, []⟩
      (d.buffer, ⟨d.framesDelivered, d.dest⟩) := by
  simp only [isReady, Bool.and_eq_true, Bool.not_eq_true'] at ready
  unfold popFrames
  rw [if_neg (by simp [dest, some]), if_neg (by simp [ready])]

/-- Any other pop returns silence and leaves the buffer alone. -/
theorem popFrames_of_idle {b : JitterBuffer TaggedFrame} {hasDest : Bool}
    {numFrames : Nat} (idle : ¬ (hasDest ∧ numFrames ≠ 0 ∧ b.isReady))
    (nowMs : Clock) :
    ∃ frames k, b.popFrames hasDest numFrames nowMs =
      (b, ⟨frames, List.replicate k 0⟩) := by
  unfold popFrames
  split
  · exact ⟨0, 0, rfl⟩
  · rename_i asked
    split
    · exact ⟨_, _, rfl⟩
    · rename_i playing
      refine absurd ?_ idle
      simp only [not_or, Bool.not_eq_true, Bool.not_eq_false'] at asked playing
      simp [asked, playing, isReady]

theorem held_render {φ σ : Type} {channels : Nat} {block : φ → List σ}
    (b : JitterBuffer φ) (i : Nat) :
    (render channels block b).held i =
      (b.held i).map fun packet =>
        ⟨packet.numFrames, packet.pcmData.flatMap block⟩ := by
  by_cases present :
    i < maxSlots ∧ (b.slots (slotIndex (b.nextPlaySeq.toNat + i))).isValid
  · have here := held_of_valid b present.1 present.2
    rw [here]
    exact if_pos present
  · have here : b.held i = none := if_neg present
    rw [here]
    exact if_neg present

theorem pending_render {φ σ : Type} [Zero φ] [Zero σ] {channels : Nat}
    {block : φ → List σ} (layout : Layout channels block) {b : JitterBuffer φ}
    (mono : b.config.channels = 1) :
    (render channels block b).pending = b.pending.flatMap block := by
  rw [pending, pending, List.flatMap_assoc]
  refine List.flatMap_congr fun i _ => ?_
  have held :
      (render channels block b).held i =
        (b.held i).map fun packet =>
          ⟨packet.numFrames, packet.pcmData.flatMap block⟩ :=
    held_render b i
  cases present : b.held i with
  | none =>
      rw [pendingAt_of_none present, pendingAt_of_none (by rw [held, present]; rfl)]
      rfl
  | some packet =>
      rw [present] at held
      rw [pendingAt_of_some present, pendingAt_of_some held, mono, Nat.mul_one]
      exact drop_flatMap layout.uniform _ _

/-! ## The delivery loop takes pending frames off the front -/

/-- The loop has moved the playhead of `b` by `n` steps and has delivered what
is missing in the buffer, with silence in between. -/
structure Delivered (b : JitterBuffer TaggedFrame) (n : Nat)
    (d : Delivery TaggedFrame) : Prop where
  follows : Follows b n d.buffer
  wf : d.buffer.WellFormed
  drained : d.buffer.stats.drainedFrames = b.stats.drainedFrames
  taken : b.pending = d.dest.filter Option.isSome ++ d.buffer.pending
  behind :
    ∀ x ∈ d.dest, x.isSome →
      ∃ i packet, b.held i = some packet ∧ x ∈ packet.pcmData ∧
        (i < n ∨ i = n ∧ (d.buffer.held 0).isSome)

theorem filter_silence (n : Nat) :
    (List.replicate n (0 : TaggedFrame)).filter Option.isSome = [] :=
  List.filter_replicate_of_neg (by decide)

namespace Delivered

variable {b : JitterBuffer TaggedFrame} {n numFrames : Nat}
  {d : Delivery TaggedFrame}

theorem start (wf : b.WellFormed) : Delivered b 0 ⟨b, 0, []⟩ where
  follows := Follows.refl b
  wf := wf
  drained := rfl
  taken := by rw [List.filter_nil, List.nil_append]
  behind := by simp

theorem step_ready (delivered : Delivered b n d)
    (tagged : ∀ x ∈ b.pending, x.isSome) (ready : d.buffer.headReady) :
    ∃ m, Delivered b m (deliverStep numFrames d) := by
  have present := delivered.wf.held_zero_of_headReady ready
  rw [deliverStep_of_ready ready]
  dsimp only
  generalize choice :
    min (d.buffer.headSlot.numFrames - d.buffer.slotFrameOffset)
      (numFrames - d.framesDelivered) = toCopy
  have inside : toCopy ≤ d.buffer.headSlot.numFrames - d.buffer.slotFrameOffset := by
    omega
  have split := delivered.wf.pending_consume ready inside
  generalize copy :
    (d.buffer.headSlot.pcmData.drop
      (d.buffer.slotFrameOffset * d.buffer.config.channels)).take
        (toCopy * d.buffer.config.channels) = copied at split ⊢
  have copiedTagged : copied.filter Option.isSome = copied := by
    refine List.filter_eq_self.2 fun x member => tagged x ?_
    rw [delivered.taken, split]
    simp [member]
  have fromHead : ∀ x ∈ copied, x ∈ (packetOf d.buffer.headSlot).pcmData := by
    intro x member
    rw [← copy] at member
    exact List.mem_of_mem_drop (List.mem_of_mem_take member)
  have source : b.held n = some (packetOf d.buffer.headSlot) := by
    have same := delivered.follows.held 0
    rw [Nat.add_zero, present] at same
    exact same.symm
  have wf := delivered.wf.consume ready toCopy
  have taken :
      b.pending =
        (d.dest ++ copied).filter Option.isSome ++
          (d.buffer.consume toCopy).pending := by
    rw [List.filter_append, copiedTagged, List.append_assoc, ← split]
    exact delivered.taken
  unfold JitterBuffer.consume at wf taken ⊢
  split at wf
  · -- the slot is used up
    rename_i usedUp
    rw [if_pos usedUp] at taken ⊢
    have moved : Follows b (n + 1) d.buffer.leaveSlot :=
      delivered.follows.step ⟨0, by rw [present]; rfl⟩ (held_leaveSlot _) rfl rfl
    refine ⟨n + 1, moved, wf, delivered.drained, taken, ?_⟩
    intro x member some
    rcases List.mem_append.1 member with before | now
    · obtain ⟨i, packet, held, inPacket, place⟩ := delivered.behind x before some
      exact ⟨i, packet, held, inPacket, Or.inl (by omega)⟩
    · exact ⟨n, _, source, fromHead x now, Or.inl (by omega)⟩
  · -- the playhead stays in the slot
    rename_i goesOn
    rw [if_neg goesOn] at taken ⊢
    refine
      ⟨n, delivered.follows.congr rfl rfl rfl, wf, delivered.drained, taken, ?_⟩
    intro x member some
    rcases List.mem_append.1 member with before | now
    · exact delivered.behind x before some
    · refine ⟨n, _, source, fromHead x now, Or.inr ⟨rfl, ?_⟩⟩
      change (d.buffer.held 0).isSome
      rw [present]
      rfl

theorem step_gap (delivered : Delivered b n d)
    (notReady : d.buffer.headReady = false) (future : d.buffer.hasFuturePackets) :
    Delivered b (n + 1) (deliverStep numFrames d) := by
  rw [deliverStep_of_gap notReady future]
  obtain ⟨i, _, present⟩ := (hasFuturePackets_iff _).1 future
  have moved : Follows b (n + 1) d.buffer.conceal :=
    delivered.follows.step ⟨i, present⟩ (held_leaveSlot _) rfl rfl
  refine ⟨moved, delivered.wf.conceal, delivered.drained, ?_, ?_⟩
  · dsimp only
    rw [List.filter_append, filter_silence, List.append_nil,
      delivered.wf.pending_conceal notReady]
    exact delivered.taken
  · intro x member some
    dsimp only at member
    rw [List.mem_append] at member
    rcases member with before | silence
    · obtain ⟨i, packet, held, inside, place⟩ := delivered.behind x before some
      exact ⟨i, packet, held, inside, Or.inl (by omega)⟩
    · rw [List.eq_of_mem_replicate silence] at some
      cases some

theorem step_dry (delivered : Delivered b n d)
    (notReady : d.buffer.headReady = false)
    (noFuture : d.buffer.hasFuturePackets = false) :
    Delivered b n (deliverStep numFrames d) := by
  rw [deliverStep_of_dry notReady noFuture]
  refine
    ⟨delivered.follows.congr rfl rfl rfl, delivered.wf.runDry, delivered.drained,
      ?_, ?_⟩
  · dsimp only
    rw [List.filter_append, filter_silence, List.append_nil, pending_runDry]
    exact delivered.taken
  · intro x member some
    dsimp only at member
    rw [List.mem_append] at member
    rcases member with before | silence
    · exact delivered.behind x before some
    · rw [List.eq_of_mem_replicate silence] at some
      cases some

theorem step (delivered : Delivered b n d)
    (tagged : ∀ x ∈ b.pending, x.isSome) :
    ∃ m, Delivered b m (deliverStep numFrames d) := by
  cases ready : d.buffer.headReady with
  | true => exact delivered.step_ready tagged ready
  | false =>
      cases future : d.buffer.hasFuturePackets with
      | true => exact ⟨n + 1, delivered.step_gap ready future⟩
      | false => exact ⟨n, delivered.step_dry ready future⟩

/-- What a whole pop takes off the front. -/
theorem deliver (wf : b.WellFormed) (tagged : ∀ x ∈ b.pending, x.isSome)
    (numFrames fuel : Nat) :
    ∃ n, Delivered b n (deliver numFrames fuel ⟨b, 0, []⟩) :=
  deliver_induction (motive := fun d => ∃ n, Delivered b n d)
    (fun _ _ ⟨_, delivered⟩ => delivered.step tagged)
    fuel _ ⟨0, start wf⟩

end Delivered

/-! ## Tagged windows -/

theorem PacketTag.mem_frames {tag : PacketTag} {numFrames : Nat}
    {x : TaggedFrame} :
    x ∈ tag.frames numFrames ↔ ∃ j < numFrames, x = some ⟨tag, j⟩ := by
  simp only [frames, List.mem_map, List.mem_range, eq_comm]

theorem PacketTag.pairwise_frames (tag : PacketTag) (numFrames : Nat) :
    (tag.frames numFrames).Pairwise InOrder := by
  refine List.pairwise_map.2 (List.pairwise_lt_range.imp ?_)
  intro i j before s t first second
  obtain rfl := Option.some.inj first
  obtain rfl := Option.some.inj second
  exact Or.inr ⟨rfl, Or.inr ⟨rfl, before⟩⟩

theorem PacketTag.nodup_frames (tag : PacketTag) (numFrames : Nat) :
    (tag.frames numFrames).Nodup := by
  refine List.nodup_range.map ?_
  intro i j same
  exact congrArg FrameTag.frame (Option.some.inj same)

namespace Ledger

/-- Every packet of the window consists of the frames of its tag. -/
def Tagged (L : Ledger) : Prop :=
  ∀ i packet, L.buffer.held i = some packet →
    ∃ tag : PacketTag, tag.epoch = L.epoch ∧ tag.number = L.head + i ∧
      tag.push < L.calls ∧ packet.pcmData = tag.frames packet.numFrames

/-- The playhead has reached the packet of the frame. -/
def Passed (L : Ledger) (t : FrameTag) : Prop :=
  t.packet.epoch < L.epoch ∨
    t.packet.epoch = L.epoch ∧
      (t.packet.number < L.head ∨
        t.packet.number = L.head ∧ (L.buffer.held 0).isSome)

theorem Tagged.mem_packet {L : Ledger} (tagged : L.Tagged) {i : Nat}
    {packet : HeldPacket TaggedFrame} (held : L.buffer.held i = some packet)
    {x : TaggedFrame} (member : x ∈ packet.pcmData) :
    ∃ t : FrameTag, x = some t ∧ t.packet.epoch = L.epoch ∧
      t.packet.number = L.head + i ∧ t.packet.push < L.calls := by
  obtain ⟨tag, epoch, number, recent, data⟩ := tagged i packet held
  rw [data] at member
  obtain ⟨j, _, rfl⟩ := PacketTag.mem_frames.1 member
  exact ⟨⟨tag, j⟩, rfl, epoch, number, recent⟩

theorem Tagged.isSome {L : Ledger} (tagged : L.Tagged) :
    ∀ x ∈ L.buffer.pending, x.isSome := by
  intro x member
  obtain ⟨i, packet, held, inside⟩ := mem_pending member
  obtain ⟨t, rfl, _⟩ := tagged.mem_packet held inside
  rfl

/-- What is pending lies in playhead order. -/
theorem Tagged.pairwise_pending {L : Ledger} (tagged : L.Tagged) :
    L.buffer.pending.Pairwise InOrder := by
  refine List.pairwise_flatMap.2 ⟨fun i _ => ?_, ?_⟩
  · cases held : L.buffer.held i with
    | none => simp [pendingAt_of_none held]
    | some packet =>
        obtain ⟨tag, _, _, _, data⟩ := tagged i packet held
        rw [pendingAt_of_some held, data]
        exact (tag.pairwise_frames _).sublist (List.drop_sublist _ _)
  · refine List.pairwise_lt_range.imp ?_
    intro i j before x xIn y yIn s t xTag yTag
    obtain ⟨_, xHeld, xFound⟩ := mem_pendingAt xIn
    obtain ⟨_, yHeld, yFound⟩ := mem_pendingAt yIn
    obtain ⟨_, rfl, xEpoch, xNumber, _⟩ := tagged.mem_packet xHeld xFound
    obtain ⟨_, rfl, yEpoch, yNumber, _⟩ := tagged.mem_packet yHeld yFound
    obtain rfl := Option.some.inj xTag
    obtain rfl := Option.some.inj yTag
    exact Or.inr ⟨xEpoch.trans yEpoch.symm, Or.inl (by omega)⟩

/-- What is pending lies at or after the playhead. -/
theorem Tagged.not_passed {L : Ledger} (tagged : L.Tagged)
    (mono : L.buffer.config.channels = 1) {t : FrameTag}
    (member : some t ∈ L.buffer.pending) :
    t.packet.epoch = L.epoch ∧
      (L.head < t.packet.number ∨
        t.packet.number = L.head ∧ L.buffer.slotFrameOffset ≤ t.frame) := by
  obtain ⟨i, _, inside⟩ := List.mem_flatMap.1 member
  cases held : L.buffer.held i with
  | none => simp [pendingAt_of_none held] at inside
  | some packet =>
      obtain ⟨tag, epoch, number, _, data⟩ := tagged i packet held
      rw [pendingAt_of_some held, data, mono, Nat.mul_one, PacketTag.frames,
        ← List.map_drop, List.mem_map] at inside
      obtain ⟨j, late, same⟩ := inside
      obtain rfl := Option.some.inj same
      refine ⟨epoch, ?_⟩
      cases i with
      | zero =>
          rw [if_pos rfl, List.range_eq_range', List.drop_range',
            List.mem_range'_1] at late
          exact Or.inr ⟨number, by dsimp only; omega⟩
      | succ i => exact Or.inl (by dsimp only; omega)

end Ledger

end AudioRouter.JitterBuffer
