import AudioRouter.JitterBuffer.Aligned
import AudioRouter.JitterBuffer.Drain

/-!
# A sender that starts again at 0

The numbers of a restarted sender come in order, with pops in between.  A number is safe as
long as it is not behind the playhead and nothing is held from it on; pushing it makes the
next one safe, and so does every pop.  Only the first number can be in danger: it is dropped
where the playhead is one of the first 255 numbers, and a later one where a packet of the
old numbering still has its number.
-/

namespace AudioRouter.JitterBuffer

open SequenceWindow

variable {σ : Type}

/-! ## The stream of a restarted sender -/

/-- The arguments of a push that brings audio. -/
structure DataPacket (σ : Type) where
  timestampUs : Clock
  source : Nat → σ
  numFrames : Nat
  positive : 1 ≤ numFrames
  nowMs : Clock

/-- The next packet arrives, or the player pops. -/
inductive StreamEvent (σ : Type) where
  | packet (data : DataPacket σ)
  | pop (hasDest : Bool) (numFrames : Nat) (nowMs : Clock)

/-- The packets are numbered in the order in which they arrive. -/
def inOrder (seqNum : SeqNum) : List (StreamEvent σ) → List (Call σ)
  | [] => []
  | .packet data :: events =>
      .pushPacket seqNum data.timestampUs (some data.source) data.numFrames data.nowMs ::
        inOrder (seqNum + 1) events
  | .pop hasDest numFrames nowMs :: events =>
      .popFrames hasDest numFrames nowMs :: inOrder seqNum events

def Reply.isRefused : Reply σ → Bool
  | .pushed stored => !stored
  | _ => false

/-- Every push of the run is accepted. -/
def AllStored [Zero σ] (b : JitterBuffer σ) (calls : List (Call σ)) : Prop :=
  ∀ seen ∈ b.transcript calls, seen.reply.isRefused = false

theorem allStored_cons [Zero σ] {b : JitterBuffer σ} {x : Call σ} {calls : List (Call σ)} :
    b.AllStored (x :: calls) ↔
      (b.call x).2.isRefused = false ∧ (b.call x).1.AllStored calls := by
  rw [AllStored, transcript, List.forall_mem_cons]
  exact Iff.rfl

/-! ## A number that is safe to come -/

/-- The number is not late, and nothing is held from it on. -/
def Awaits (seqNum : SeqNum) (b : JitterBuffer σ) : Prop :=
  b.hasFirstPacket = true →
    ahead b.nextPlaySeq seqNum + maxSlots ≤ 2 ^ 32 ∧
      ∀ i, (b.held i).isSome → i < ahead b.nextPlaySeq seqNum

section Number

variable {b c : JitterBuffer σ} {seqNum : SeqNum}

theorem ahead_add_one {p s : SeqNum} (room : ahead p s + 1 < 2 ^ 32) :
    ahead p (s + 1) = ahead p s + 1 := by
  have reached : s + 1 = p + BitVec.ofNat 32 (ahead p s + 1) := by
    rw [BitVec.ofNat_add, ← BitVec.add_assoc, add_ahead]
    rfl
  rw [reached, ahead_add_ofNat p room]

/-- A number is late when it is at most 255 steps behind. -/
theorem isLate_iff_ahead : b.IsLate seqNum ↔ 2 ^ 32 < ahead b.nextPlaySeq seqNum + maxSlots := by
  have bound := ahead_lt b.nextPlaySeq seqNum
  have signed := BitVec.toInt_eq_toNat_cond (x := seqNum - b.nextPlaySeq)
  change (seqNum - b.nextPlaySeq).toInt = if 2 * ahead b.nextPlaySeq seqNum < 2 ^ 32 then
    (ahead b.nextPlaySeq seqNum : Int) else (ahead b.nextPlaySeq seqNum : Int) - (2 ^ 32 : Nat)
    at signed
  rw [IsLate, seqDiff, signed, maxSlots]
  split <;> omega

theorem Awaits.congr (awaits : b.Awaits seqNum) (first : c.hasFirstPacket = b.hasFirstPacket)
    (next : c.nextPlaySeq = b.nextPlaySeq) (held : c.held = b.held) : c.Awaits seqNum := by
  rw [Awaits, first, next, held]
  exact awaits

/-- The playhead passes nothing but what is held behind it or in its place. -/
theorem Awaits.follows (awaits : b.Awaits seqNum) {n : Nat} (follows : Follows b n c)
    (first : c.hasFirstPacket = b.hasFirstPacket)
    (passed : n = 0 ∨ ∃ i, n ≤ i + 1 ∧ (b.held i).isSome) : c.Awaits seqNum := by
  intro seen
  rcases awaits (first.symm.trans seen) with ⟨inTime, below⟩
  have within : n ≤ ahead b.nextPlaySeq seqNum := by
    rcases passed with rfl | ⟨i, upTo, present⟩
    · exact Nat.zero_le _
    · have before := below i present
      omega
  have bound := ahead_lt b.nextPlaySeq seqNum
  have nearer : ahead c.nextPlaySeq seqNum = ahead b.nextPlaySeq seqNum - n := by
    have whole : seqNum = c.nextPlaySeq + BitVec.ofNat 32 (ahead b.nextPlaySeq seqNum - n) := by
      rw [follows.next, BitVec.add_assoc, ← BitVec.ofNat_add, Nat.add_sub_cancel' within,
        add_ahead]
    rw [whole, ahead_add_ofNat]
    · rw [← whole]
    · omega
  rw [nearer]
  refine ⟨by omega, fun i present => ?_⟩
  rw [follows.held] at present
  have before := below (n + i) present
  omega

/-! ## Pops -/

theorem Awaits.drainToTarget (awaits : b.Awaits seqNum) (wf : b.WellFormed) (nowMs : Clock) :
    (b.drainToTarget nowMs).Awaits seqNum := by
  rcases (wf.drainToTarget_level nowMs).2 with ⟨n, follows, passed⟩
  apply awaits.follows follows (drainToTarget_hasFirstPacket b nowMs)
  cases n with
  | zero => exact Or.inl rfl
  | succ n => exact Or.inr ⟨n, Nat.le_refl _, passed n (Nat.lt_succ_self n)⟩

variable [Zero σ]

theorem Awaits.deliverStep {numFrames : Nat} {d : Delivery σ} (awaits : d.buffer.Awaits seqNum)
    (wf : d.buffer.WellFormed) : (deliverStep numFrames d).buffer.Awaits seqNum := by
  have leaves : ∀ c : JitterBuffer σ, c.hasFirstPacket = d.buffer.hasFirstPacket →
      c.nextPlaySeq = d.buffer.nextPlaySeq + 1 → (∀ i, c.held i = d.buffer.held (i + 1)) →
      c.config = d.buffer.config → (∃ i, (d.buffer.held i).isSome) → c.Awaits seqNum := by
    intro c first next held config ⟨i, present⟩
    have follows := (Follows.refl d.buffer).step ⟨i, present⟩ held next config
    exact awaits.follows follows first (Or.inr ⟨i, Nat.succ_le_succ (Nat.zero_le i), present⟩)
  cases ready : d.buffer.headReady with
  | true =>
    rw [deliverStep_of_ready ready]
    dsimp only
    rw [consume]
    split
    · exact
        leaves d.buffer.leaveSlot rfl rfl (held_leaveSlot d.buffer) rfl
          ⟨0, wf.headReady_iff.1 ready⟩
    · exact awaits.congr rfl rfl rfl
  | false =>
    cases future : d.buffer.hasFuturePackets with
    | true =>
      rcases (hasFuturePackets_iff d.buffer).1 future with ⟨i, -, present⟩
      rw [deliverStep_of_gap ready future]
      exact leaves d.buffer.conceal rfl rfl (fun i => held_leaveSlot _ i) rfl ⟨i, present⟩
    | false =>
      rw [deliverStep_of_dry ready future]
      exact awaits.congr rfl rfl rfl

theorem Awaits.popFrames (awaits : b.Awaits seqNum) (sound : b.Sound) (hasDest : Bool)
    (numFrames : Nat) (nowMs : Clock) :
    (b.popFrames hasDest numFrames nowMs).1.Awaits seqNum := by
  rw [JitterBuffer.popFrames]
  split
  · exact awaits
  · split
    · exact awaits
    · have kept : ∀ d : Delivery σ, d.framesDelivered < numFrames →
          d.buffer.WellFormed ∧ d.buffer.Awaits seqNum →
            (JitterBuffer.deliverStep numFrames d).buffer.WellFormed ∧
              (JitterBuffer.deliverStep numFrames d).buffer.Awaits seqNum := by
        rintro d - ⟨wf, awaits⟩
        exact ⟨deliverStep_wellFormed numFrames wf, awaits.deliverStep wf⟩
      have drained := sound.toWellFormed.drainToTarget nowMs
      exact
        (deliver_induction kept numFrames ⟨b.drainToTarget nowMs, 0, []⟩
          ⟨drained, awaits.drainToTarget sound.toWellFormed nowMs⟩).2

end Number

/-! ## Pushes -/

section Push

variable {b : JitterBuffer σ} {seqNum : SeqNum}

def DataPacket.push (data : DataPacket σ) (seqNum : SeqNum) (b : JitterBuffer σ) :
    JitterBuffer σ × Bool :=
  b.pushPacket seqNum data.timestampUs (some data.source) data.numFrames data.nowMs

theorem noteArrival_nextPlaySeq_of_first (first : b.hasFirstPacket = true) (seqNum : SeqNum) :
    (b.noteArrival seqNum).nextPlaySeq = b.nextPlaySeq := by
  rw [noteArrival_nextPlaySeq, if_pos first]

theorem Awaits.not_isLate (awaits : b.Awaits seqNum) :
    ¬ (b.noteArrival seqNum).IsLate seqNum := by
  rw [isLate_iff_ahead]
  cases first : b.hasFirstPacket with
  | true =>
    have inTime := (awaits first).1
    rw [noteArrival_nextPlaySeq_of_first first]
    omega
  | false =>
    rw [noteArrival_nextPlaySeq, first]
    simp [maxSlots]

/-- Where the packet lands, everything that is held comes before it. -/
theorem Awaits.landing (awaits : b.Awaits seqNum) (sound : b.Sound) {i : Nat}
    (present : ((b.landing seqNum).held i).isSome) :
    i < ahead (b.landing seqNum).nextPlaySeq seqNum := by
  by_cases jumps : (b.noteArrival seqNum).IsJump seqNum
  · rw [JitterBuffer.landing, (followJump_of_isJump jumps).1.held] at present
    cases present
  · rw [JitterBuffer.landing, followJump_of_not_isJump jumps] at present ⊢
    rw [sound.held_noteArrival] at present
    cases first : b.hasFirstPacket with
    | true =>
      rw [noteArrival_nextPlaySeq_of_first first]
      exact (awaits first).2 i present
    | false =>
      rw [(sound.fresh first).held] at present
      cases present

/-- A number that is safe to come is stored, and the next one is safe. -/
theorem Awaits.push (awaits : b.Awaits seqNum) (sound : b.Sound) (data : DataPacket σ) :
    (data.push seqNum b).2 = true ∧ (data.push seqNum b).1.Awaits (seqNum + 1) := by
  have absent :
      ¬ ((b.landing seqNum).held (ahead (b.landing seqNum).nextPlaySeq seqNum)).isSome := by
    intro present
    exact Nat.lt_irrefl _ (awaits.landing sound present)
  rw [DataPacket.push,
    sound.pushPacket_eq seqNum data.timestampUs data.source data.positive data.nowMs,
    if_neg awaits.not_isLate, if_neg absent]
  refine ⟨rfl, fun _ => ?_⟩
  have near := ahead_landing b seqNum
  simp only [maxSlots] at near ⊢
  rw [accept_nextPlaySeq, ahead_add_one (by omega)]
  refine ⟨by omega, fun i present => ?_⟩
  rw [held_accept] at present
  by_cases here : i = ahead (b.landing seqNum).nextPlaySeq seqNum
  · omega
  · rw [Function.update_of_ne here] at present
    have before := awaits.landing sound present
    omega

theorem Awaits.allStored [Zero σ] :
    ∀ (events : List (StreamEvent σ)) {seqNum : SeqNum} {b : JitterBuffer σ},
      b.Awaits seqNum → b.Sound → b.AllStored (inOrder seqNum events) := by
  intro events
  induction events with
  | nil =>
    intro seqNum b _ _ seen inside
    cases inside
  | cons event events inductionHypothesis =>
    intro seqNum b awaits sound
    cases event with
    | packet data =>
      rcases awaits.push sound data with ⟨stored, next⟩
      refine allStored_cons.2 ⟨?_, inductionHypothesis next (sound.call _)⟩
      change (!(data.push seqNum b).2) = false
      rw [stored]
      rfl
    | pop hasDest numFrames nowMs =>
      have still := awaits.popFrames sound hasDest numFrames nowMs
      exact
        allStored_cons.2
          ⟨rfl, inductionHypothesis still (sound.popFrames hasDest numFrames nowMs)⟩

/-! ## Where a restart goes wrong -/

/-- A packet of the window lands where the playhead is. -/
theorem Sound.landing_near (sound : b.Sound) (first : b.hasFirstPacket = true)
    (near : ahead b.nextPlaySeq seqNum < maxSlots) :
    ¬ (b.noteArrival seqNum).IsLate seqNum ∧
      (b.landing seqNum).nextPlaySeq = b.nextPlaySeq ∧ (b.landing seqNum).held = b.held := by
  have next := noteArrival_nextPlaySeq_of_first first seqNum
  have nonneg : 0 ≤ (seqNum - b.nextPlaySeq).toInt := by
    rw [toInt_sub_nonneg_iff]
    simp only [maxSlots] at near
    omega
  have distance := toInt_sub_eq_ahead nonneg
  have stays : ¬ (b.noteArrival seqNum).IsJump seqNum := by
    rw [IsJump, seqDiff, next]
    omega
  rw [isLate_iff_ahead, JitterBuffer.landing, followJump_of_not_isJump stays, next]
  refine ⟨?_, rfl, sound.held_noteArrival seqNum⟩
  simp only [maxSlots] at near ⊢
  omega

def someData [Zero σ] : DataPacket σ := ⟨0, fun _ => 0, 1, Nat.le_refl 1, 0⟩

theorem not_allStored_of_refused [Zero σ] (refused : (someData.push seqNum b).2 = false)
    (events : List (StreamEvent σ)) :
    ¬ b.AllStored (inOrder seqNum (.packet someData :: events)) := by
  intro stored
  have accepted : (!(someData.push seqNum b).2) = false := (allStored_cons.1 stored).1
  rw [refused] at accepted
  cases accepted

theorem Sound.push_of_held [Zero σ] (sound : b.Sound) (first : b.hasFirstPacket = true)
    (present : (b.held (ahead b.nextPlaySeq seqNum)).isSome) :
    (someData.push seqNum b).2 = false := by
  rcases sound.landing_near first (held_isSome_iff b |>.1 present).1 with ⟨inTime, next, held⟩
  rw [DataPacket.push,
    sound.pushPacket_eq seqNum someData.timestampUs someData.source someData.positive
      someData.nowMs,
    if_neg inTime, next, held, if_pos present]

/-- A packet of the window under a number that is not held moves nothing else. -/
theorem Sound.push_near (sound : b.Sound) (first : b.hasFirstPacket = true)
    (near : ahead b.nextPlaySeq seqNum < maxSlots)
    (free : ¬ (b.held (ahead b.nextPlaySeq seqNum)).isSome) (data : DataPacket σ) :
    (data.push seqNum b).1.hasFirstPacket = true ∧
      (data.push seqNum b).1.nextPlaySeq = b.nextPlaySeq ∧
        ∀ i, i ≠ ahead b.nextPlaySeq seqNum →
          (data.push seqNum b).1.held i = b.held i := by
  rcases sound.landing_near first near with ⟨inTime, next, held⟩
  rw [DataPacket.push,
    sound.pushPacket_eq seqNum data.timestampUs data.source data.positive data.nowMs,
    if_neg inTime, next, held, if_neg free]
  refine ⟨accept_hasFirstPacket, accept_nextPlaySeq.trans next, fun i other => ?_⟩
  rw [held_accept, next, held, Function.update_of_ne other]

/-- The packets come up to a number that is held already. -/
theorem Sound.refuses_of_held [Zero σ] :
    ∀ (m : Nat) {seqNum : SeqNum} {b : JitterBuffer σ}, b.Sound → b.hasFirstPacket = true →
      (b.held (ahead b.nextPlaySeq seqNum + m)).isSome →
        ∃ events : List (StreamEvent σ), ¬ b.AllStored (inOrder seqNum events) := by
  intro m
  induction m with
  | zero =>
    intro seqNum b sound first present
    exact ⟨[.packet someData], not_allStored_of_refused (sound.push_of_held first present) []⟩
  | succ m inductionHypothesis =>
    intro seqNum b sound first present
    have inside := (held_isSome_iff b |>.1 present).1
    by_cases duplicate : (b.held (ahead b.nextPlaySeq seqNum)).isSome
    · exact
        ⟨[.packet someData], not_allStored_of_refused (sound.push_of_held first duplicate) []⟩
    · have near : ahead b.nextPlaySeq seqNum < maxSlots := by omega
      rcases sound.push_near first near duplicate someData with ⟨seen, playhead, others⟩
      have still :
          ((someData.push seqNum b).1.held (ahead b.nextPlaySeq seqNum + (m + 1))).isSome := by
        rw [others _ (by omega)]
        exact present
      have room : ahead b.nextPlaySeq seqNum + 1 < 2 ^ 32 := by
        simp only [maxSlots] at inside
        omega
      have onward :
          ((someData.push seqNum b).1.held
            (ahead (someData.push seqNum b).1.nextPlaySeq (seqNum + 1) + m)).isSome := by
        rw [playhead, ahead_add_one room]
        rwa [Nat.add_assoc, Nat.add_comm 1 m]
      rcases inductionHypothesis (sound.pushPacket seqNum _ _ _ _) seen onward with
        ⟨events, refused⟩
      refine ⟨.packet someData :: events, fun stored => refused ?_⟩
      exact (allStored_cons.1 stored).2

/-- In danger, a restart loses a packet. -/
theorem Sound.awaits_of_allStored [Zero σ] (sound : b.Sound)
    (stored : ∀ events : List (StreamEvent σ), b.AllStored (inOrder seqNum events)) :
    b.Awaits seqNum := by
  intro first
  have notHeld : ∀ i, (b.held i).isSome → i < ahead b.nextPlaySeq seqNum := by
    intro i present
    by_contra beyond
    have reached : ahead b.nextPlaySeq seqNum + (i - ahead b.nextPlaySeq seqNum) = i := by
      omega
    rcases sound.refuses_of_held (i - ahead b.nextPlaySeq seqNum) first
      (by rwa [reached]) with ⟨events, refused⟩
    exact refused (stored events)
  refine ⟨?_, notHeld⟩
  by_contra late
  have isLate : (b.noteArrival seqNum).IsLate seqNum := by
    rw [isLate_iff_ahead, noteArrival_nextPlaySeq_of_first first]
    exact Nat.lt_of_not_le late
  refine not_allStored_of_refused ?_ [] (stored [.packet someData])
  rw [DataPacket.push,
    sound.pushPacket_eq seqNum someData.timestampUs someData.source someData.positive
      someData.nowMs,
    if_pos isLate]

end Push

/-! ## Restarts -/

/-- The playhead is not one of the first numbers after 0, and no packet is kept under one of
the first 256 numbers. -/
def RestartSafe (b : JitterBuffer σ) : Prop :=
  b.hasFirstPacket = true →
    (b.nextPlaySeq = 0 ∨ 256 ≤ b.nextPlaySeq.toNat) ∧
      ∀ i, (b.slots i).isValid → 256 ≤ (b.slots i).seqNum.toNat

/-- The valid slots are the places of the window where a packet is held. -/
theorem WellFormed.forall_valid_iff {b : JitterBuffer σ} (wf : b.WellFormed)
    (property : Nat → Prop) :
    (∀ i, (b.slots i).isValid → property (b.slots i).seqNum.toNat) ↔
      ∀ j, (b.held j).isSome → property ((b.nextPlaySeq.toNat + j) % 2 ^ 32) := by
  have number : ∀ j, (b.nextPlaySeq + BitVec.ofNat 32 j).toNat =
      (b.nextPlaySeq.toNat + j) % 2 ^ 32 := by
    intro j
    rw [BitVec.toNat_add, BitVec.toNat_ofNat, Nat.add_mod_mod]
  constructor
  · intro always j present
    rcases held_isSome_iff b |>.1 present with ⟨small, valid⟩
    rw [← number, ← wf.seqNum_slot small valid]
    exact always _ valid
  · intro always i valid
    have place : slotIndex (b.nextPlaySeq.toNat + ahead b.nextPlaySeq (b.slots i).seqNum) = i := by
      rw [slotIndex_ahead]
      exact Fin.ext (wf.index i valid)
    have present : (b.held (ahead b.nextPlaySeq (b.slots i).seqNum)).isSome := by
      rw [held_isSome_iff, place]
      exact ⟨wf.window i valid, valid⟩
    have found := always _ present
    rwa [← number, add_ahead] at found

theorem WellFormed.awaits_zero_iff {b : JitterBuffer σ} (wf : b.WellFormed) :
    b.Awaits 0 ↔ b.RestartSafe := by
  have bound := b.nextPlaySeq.isLt
  have distance : ahead b.nextPlaySeq 0 = (2 ^ 32 - b.nextPlaySeq.toNat) % 2 ^ 32 := by
    rw [ahead, BitVec.toNat_sub]
    simp
  have here : b.nextPlaySeq = 0 ↔ b.nextPlaySeq.toNat = 0 := by
    rw [← BitVec.toNat_inj]
    rfl
  rw [Awaits, RestartSafe, distance, here]
  refine forall_congr' fun _ => ?_
  rw [wf.forall_valid_iff fun number => 256 ≤ number]
  simp only [maxSlots]
  constructor
  · rintro ⟨inTime, below⟩
    refine ⟨by omega, fun j present => ?_⟩
    have before := below j present
    omega
  · rintro ⟨apart, kept⟩
    refine ⟨by omega, fun j present => ?_⟩
    have small : j < 256 := (held_isSome_iff b |>.1 present).1
    have later := kept j present
    omega

/-- From every reachable state, whatever is popped in between, all packets of a sender that
starts again at 0 are stored if and only if, when it does, the playhead is not one of the
numbers 1 to 255 and no packet is kept under a number below 256. -/
theorem restart_stored_iff [Zero σ] (latency : Nat) (history : List (Call σ)) :
    let b : JitterBuffer σ := (new latency).run history
    (∀ events, b.AllStored (inOrder 0 events)) ↔ b.RestartSafe := by
  intro b
  have sound : b.Sound := (sound_new latency).run history
  rw [← sound.toWellFormed.awaits_zero_iff]
  constructor
  · exact sound.awaits_of_allStored
  · exact fun awaits events => awaits.allStored events sound

/-- After the first packet of a session has been played, the first one of a restarted
sender is dropped as late. -/
theorem restart_loses_packet :
    ¬ ∀ (latency : Nat) (history : List (Call Nat)) (events : List (StreamEvent Nat)),
      ((new latency : JitterBuffer Nat).run history).AllStored (inOrder 0 events) := by
  intro always
  have stored :=
    always 40
      [.configure { sampleRate := 100, channels := 1, framesPerPacket := 30 } 40,
        .pushPacket 0 0 (some fun i => i) 30 0, .popFrames true 30 0]
      [.packet someData]
  have refused := stored _ List.mem_cons_self
  revert refused
  decide +kernel

end AudioRouter.JitterBuffer
