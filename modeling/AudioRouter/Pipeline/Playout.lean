import AudioRouter.JitterBuffer.Conservation
import AudioRouter.JitterBuffer.PlayheadBound

/-!
# The playhead of a numbered session

The packets of a session are counted from its first number on.  As long as none comes too
late, the ledger of the jitter buffer knows at which packet the playhead stands, through
wrap-arounds and resyncs, and the order of its tags is the order of the stream.
-/

namespace AudioRouter.Pipeline

open JitterBuffer SequenceWindow

/-- The newer one of a packet and those before it. -/
def newer (k : Nat) : Option Nat → Nat
  | none => k
  | some m => max m k

/-- Packet `k` is not behind more than 254 later ones, and does not follow a loss of about
`2 ^ 31` packets in a row. -/
def InTime (k : Nat) (newest : Option Nat) : Prop :=
  ∀ m ∈ newest, m < k + 255 ∧ k + 256 < m + 2 ^ 31

instance (k : Nat) (newest : Option Nat) : Decidable (InTime k newest) :=
  inferInstanceAs (Decidable (∀ m ∈ newest, _))

/-- The number of a frame in the stream; `index` tells which packet a call has pushed. -/
def position (index : Nat → Nat) (frames : Nat) (t : FrameTag) : Nat :=
  index t.packet.push * frames + t.frame

/-- What is known of an accepted frame while the current numbers of the ledger count from
packet `base` on. -/
structure Known (index : Nat → Nat) (frames newest base epoch : Nat) (t : FrameTag) :
    Prop where
  frame : t.frame < frames
  begun : t.packet.epoch ≤ epoch
  arrived : index t.packet.push ≤ newest
  current : t.packet.epoch = epoch → index t.packet.push = base + t.packet.number
  earlier : t.packet.epoch < epoch → index t.packet.push < base

/-- The playhead stands at packet `base + L.head`. -/
structure StandsAt (first : SeqNum) (index : Nat → Nat) (frames newest base : Nat)
    (L : Ledger) : Prop where
  next : L.buffer.nextPlaySeq = first + BitVec.ofNat 32 (base + L.head)
  notPast : base + L.head ≤ newest + 1
  near : newest < base + L.head + maxSlots
  ends : L.buffer.EndsBy (newest + 1 - (base + L.head))
  known : ∀ t, some t ∈ L.accepted → Known index frames newest base L.epoch t

/-- The ledger is before its first packet, or its playhead stands at some packet. -/
inductive Tracks (first : SeqNum) (index : Nat → Nat) (frames : Nat) :
    Option Nat → Ledger → Prop
  | waiting {L : Ledger} (fresh : L.buffer.hasFirstPacket = false) (head : L.head = 0)
      (accepted : L.accepted = []) : Tracks first index frames none L
  | playing {L : Ledger} {newest : Nat} (started : L.buffer.hasFirstPacket = true)
      (base : Nat) (stands : StandsAt first index frames newest base L) :
      Tracks first index frames (some newest) L

/-- Later frames of the ledger are later frames of the stream. -/
def Ordered (index : Nat → Nat) (frames : Nat) (accepted : List TaggedFrame) : Prop :=
  ∀ s t, some s ∈ accepted → some t ∈ accepted → s.Precedes t →
    position index frames s < position index frames t

section

variable {first : SeqNum} {index : Nat → Nat} {frames newest base epoch k : Nat}
  {L : Ledger} {s t : FrameTag}

theorem position_lt_of_index (known : Known index frames newest base epoch s)
    (before : index s.packet.push < index t.packet.push) :
    position index frames s < position index frames t := by
  unfold position
  calc
    index s.packet.push * frames + s.frame
    _ < index s.packet.push * frames + frames := Nat.add_lt_add_left known.frame _
    _ = (index s.packet.push + 1) * frames := (Nat.succ_mul _ _).symm
    _ ≤ index t.packet.push * frames := Nat.mul_le_mul_right _ before
    _ ≤ _ := Nat.le_add_right _ _

/-- Frames of the current numbers are ordered like their numbers. -/
theorem Known.position_lt (sKnown : Known index frames newest base epoch s)
    (tKnown : Known index frames newest base epoch t) (current : t.packet.epoch = epoch)
    (precedes : s.Precedes t) : position index frames s < position index frames t := by
  have tIndex := tKnown.current current
  rcases precedes with earlier | ⟨same, lower | ⟨level, lower⟩⟩
  · have sIndex := sKnown.earlier (by omega)
    exact position_lt_of_index sKnown (by omega)
  · have sIndex := sKnown.current (same.trans current)
    exact position_lt_of_index sKnown (by omega)
  · have sIndex := sKnown.current (same.trans current)
    have sameIndex : index s.packet.push = index t.packet.push := by omega
    unfold position
    rw [sameIndex]
    exact Nat.add_lt_add_left lower _

theorem Known.mono {later : Nat} (known : Known index frames newest base epoch t)
    (more : newest ≤ later) : Known index frames later base epoch t :=
  ⟨known.frame, known.begun, known.arrived.trans more, known.current, known.earlier⟩

/-- A resync begins a new epoch at a packet after all that have arrived. -/
theorem Known.resync (known : Known index frames newest base epoch t) (after : newest < k) :
    Known index frames k k (epoch + 1) t where
  frame := known.frame
  begun := Nat.le_succ_of_le known.begun
  arrived := Nat.le_of_lt (Nat.lt_of_le_of_lt known.arrived after)
  current same := by
    have bound := known.begun
    omega
  earlier _ := Nat.lt_of_le_of_lt known.arrived after

/-! ## Where a packet lands -/

/-- The signed distance of a packet is the distance on the unwrapped line. -/
theorem StandsAt.seqDiff (stands : StandsAt first index frames newest base L)
    (inTime : InTime k (some newest)) :
    L.buffer.seqDiff (first + BitVec.ofNat 32 k) = (k : Int) - (base + L.head : Nat) := by
  obtain ⟨notLate, notFar⟩ := inTime newest rfl
  have notPast := stands.notPast
  have near := stands.near
  rw [JitterBuffer.seqDiff, stands.next]
  simp only [maxSlots] at near
  exact toInt_sub_counts first (by omega) (by omega)

theorem StandsAt.distance (stands : StandsAt first index frames newest base L)
    (reached : base + L.head ≤ k) (near : k < base + L.head + maxSlots) :
    ahead L.buffer.nextPlaySeq (first + BitVec.ofNat 32 k) = k - (base + L.head) := by
  have split : first + BitVec.ofNat 32 k =
      L.buffer.nextPlaySeq + BitVec.ofNat 32 (k - (base + L.head)) := by
    rw [stands.next, BitVec.add_assoc, ← BitVec.ofNat_add, Nat.add_sub_cancel' reached]
  rw [split]
  simp only [maxSlots] at near
  exact ahead_add_ofNat _ (by omega)

/-- The playhead after the landing of packet `k`, which lies in the window. -/
structure LandsAt (first : SeqNum) (index : Nat → Nat) (frames newest base k : Nat)
    (L : Ledger) : Prop extends StandsAt first index frames newest base L where
  reached : base + L.head ≤ k
  inWindow : k < base + L.head + maxSlots
  upTo : k ≤ newest

theorem noteArrival_next (started : L.buffer.hasFirstPacket = true) (seqNum : SeqNum) :
    (L.buffer.noteArrival seqNum).nextPlaySeq = L.buffer.nextPlaySeq := by
  rw [noteArrival_nextPlaySeq, started, if_pos rfl]

theorem noteArrival_seqDiff (started : L.buffer.hasFirstPacket = true) (seqNum : SeqNum) :
    (L.buffer.noteArrival seqNum).seqDiff seqNum = L.buffer.seqDiff seqNum := by
  rw [JitterBuffer.seqDiff, JitterBuffer.seqDiff, noteArrival_next started]

theorem land_of_stays {seqNum : SeqNum}
    (stays : ¬ (L.buffer.noteArrival seqNum).IsJump seqNum) :
    L.land seqNum = { L with buffer := L.buffer.noteArrival seqNum } := by
  have same : L.buffer.landing seqNum = L.buffer.noteArrival seqNum :=
    followJump_of_not_isJump stays
  rw [Ledger.land, if_neg stays, same]

theorem EndsBy.mono {b : JitterBuffer TaggedFrame} {limit more : Nat}
    (ends : b.EndsBy limit) (le : limit ≤ more) : b.EndsBy more :=
  fun i present => Nat.lt_of_lt_of_le (ends i present) le

/-- The first packet sets the playhead. -/
theorem landsAt_first {before : Nat} (balanced : Ledger.Balanced before L)
    (fresh : L.buffer.hasFirstPacket = false) (head : L.head = 0)
    (accepted : L.accepted = []) :
    LandsAt first index frames k k k (L.land (first + BitVec.ofNat 32 k)) := by
  generalize number : first + BitVec.ofNat 32 k = seqNum
  have next : (L.buffer.noteArrival seqNum).nextPlaySeq = seqNum := by
    rw [noteArrival_nextPlaySeq, fresh]
    rfl
  have stays : ¬ (L.buffer.noteArrival seqNum).IsJump seqNum := by
    have zero : (L.buffer.noteArrival seqNum).seqDiff seqNum = 0 := by
      rw [JitterBuffer.seqDiff, next, BitVec.sub_self]
      rfl
    simp [IsJump, zero]
  have vacant := balanced.sound.fresh fresh
  have held : (L.buffer.noteArrival seqNum).held = L.buffer.held :=
    balanced.sound.held_noteArrival seqNum
  rw [land_of_stays stays]
  refine ⟨⟨?_, ?_, ?_, ?_, ?_⟩, ?_, ?_, Nat.le_refl k⟩ <;> dsimp only
  · rw [next, head, Nat.add_zero, number]
  · omega
  · simp [head]
  · intro i present
    rw [held, vacant.held] at present
    cases present
  · intro t member
    rw [accepted] at member
    cases member
  · omega
  · simp [head]

/-- A later packet lands in the window, or the playhead jumps to it. -/
theorem StandsAt.landsAt {before : Nat} (balanced : Ledger.Balanced before L)
    (started : L.buffer.hasFirstPacket = true)
    (stands : StandsAt first index frames newest base L) (inTime : InTime k (some newest))
    (notLate : ¬ (L.buffer.noteArrival (first + BitVec.ofNat 32 k)).IsLate
      (first + BitVec.ofNat 32 k)) :
    ∃ base, LandsAt first index frames (max newest k) base k
      (L.land (first + BitVec.ofNat 32 k)) := by
  have distance := stands.seqDiff inTime
  have timely := inTime newest rfl
  have notPast := stands.notPast
  have near := stands.near
  generalize number : first + BitVec.ofNat 32 k = seqNum at distance notLate ⊢
  have diff := noteArrival_seqDiff started seqNum
  rw [distance] at diff
  have reached : base + L.head ≤ k := by
    simp only [IsLate, diff, not_and_or, maxSlots] at notLate
    omega
  by_cases jumps : (L.buffer.noteArrival seqNum).IsJump seqNum
  · -- all packets that have arrived lie before a packet that jumps
    have far : base + L.head + maxSlots ≤ k := by
      simp only [IsJump, diff] at jumps
      omega
    obtain ⟨vacant, next, _, _⟩ := followJump_of_isJump jumps
    have upTo : max newest k = k := by omega
    rw [Ledger.land, if_pos jumps, upTo]
    refine ⟨k, ⟨?_, ?_, ?_, ?_, ?_⟩, ?_, ?_, Nat.le_refl k⟩ <;> dsimp only
    · rw [Nat.add_zero, number]
      exact next
    · omega
    · simp
    · intro i present
      have empty : (L.buffer.landing seqNum).held i = none :=
        Vacant.held (b := L.buffer.landing seqNum) vacant i
      rw [empty] at present
      cases present
    · intro t member
      exact (stands.known t member).resync (by omega)
    · omega
    · simp
  · have inWindow : k < base + L.head + maxSlots := by
      simp only [IsJump, diff, not_or] at jumps
      omega
    have held : (L.buffer.noteArrival seqNum).held = L.buffer.held :=
      balanced.sound.held_noteArrival seqNum
    rw [land_of_stays jumps]
    refine ⟨base, ⟨?_, ?_, ?_, ?_, ?_⟩, reached, inWindow, Nat.le_max_right _ _⟩ <;>
      dsimp only
    · rw [noteArrival_next started, stands.next]
    · omega
    · omega
    · have ends : (L.buffer.noteArrival seqNum).EndsBy (newest + 1 - (base + L.head)) := by
        intro i present
        rw [held] at present
        exact stands.ends i present
      exact EndsBy.mono ends (by omega)
    · intro t member
      exact (stands.known t member).mono (Nat.le_max_left _ _)

theorem Tracks.landsAt {before : Nat} {newest : Option Nat}
    (tracks : Tracks first index frames newest L) (balanced : Ledger.Balanced before L)
    (inTime : InTime k newest)
    (notLate : ¬ (L.buffer.noteArrival (first + BitVec.ofNat 32 k)).IsLate
      (first + BitVec.ofNat 32 k)) :
    ∃ base, LandsAt first index frames (newer k newest) base k
      (L.land (first + BitVec.ofNat 32 k)) := by
  cases tracks with
  | waiting fresh head accepted => exact ⟨k, landsAt_first balanced fresh head accepted⟩
  | playing started base stands => exact stands.landsAt balanced started inTime notLate

/-! ## Pushes -/

/-- The packets of later calls do not matter. -/
theorem Tracks.reindex {other : Nat → Nat} {newest : Option Nat}
    (tracks : Tracks first index frames newest L)
    (same : ∀ t, some t ∈ L.accepted → other t.packet.push = index t.packet.push) :
    Tracks first other frames newest L := by
  cases tracks with
  | waiting fresh head accepted => exact .waiting fresh head accepted
  | playing started base stands =>
      obtain ⟨next, notPast, near, ends, known⟩ := stands
      refine .playing started base ⟨next, notPast, near, ends, fun t member => ?_⟩
      obtain ⟨frame, begun, arrived, current, earlier⟩ := known t member
      rw [← same t member] at arrived current earlier
      exact ⟨frame, begun, arrived, current, earlier⟩

theorem Ordered.reindex {other : Nat → Nat} {accepted : List TaggedFrame}
    (ordered : Ordered index frames accepted)
    (same : ∀ t, some t ∈ accepted → other t.packet.push = index t.packet.push) :
    Ordered other frames accepted := by
  intro s t sIn tIn precedes
  unfold position
  rw [same s sIn, same t tIn]
  exact ordered s t sIn tIn precedes

section Store

variable {L₀ : Ledger}
  (lands : LandsAt first index frames newest base k (L₀.land (first + BitVec.ofNat 32 k)))
  (pushed : index L₀.calls = k)
include lands

theorem LandsAt.nextTag_number :
    base + (L₀.nextTag (first + BitVec.ofNat 32 k)).number = k := by
  have distance := lands.distance lands.reached lands.inWindow
  have reached := lands.reached
  rw [Ledger.Balanced.land_buffer] at distance
  unfold Ledger.nextTag
  dsimp only
  rw [distance]
  omega

include pushed

theorem LandsAt.known_nextTag {j : Nat} (small : j < frames) :
    Known index frames newest base (L₀.land (first + BitVec.ofNat 32 k)).epoch
      ⟨L₀.nextTag (first + BitVec.ofNat 32 k), j⟩ where
  frame := small
  begun := Nat.le_refl _
  arrived := by
    change index L₀.calls ≤ newest
    rw [pushed]
    exact lands.upTo
  current _ := pushed.trans lands.nextTag_number.symm
  earlier before := absurd before (Nat.lt_irrefl _)

/-- The ledger after an accepted packet. -/
theorem LandsAt.stored (timestampUs nowMs : Clock) :
    StandsAt first index frames newest base
      (Ledger.Balanced.stored L₀ (first + BitVec.ofNat 32 k) timestampUs frames nowMs) := by
  have distance := lands.distance lands.reached lands.inWindow
  have reached := lands.reached
  have upTo := lands.upTo
  have buffer := Ledger.Balanced.land_buffer L₀ (first + BitVec.ofNat 32 k)
  rw [buffer] at distance
  refine ⟨?_, lands.notPast, lands.near, ?_, ?_⟩
  · change (L₀.buffer.accept _ _ _ _ _).nextPlaySeq = _
    rw [accept_nextPlaySeq, ← buffer]
    exact lands.next
  · intro i present
    change ((L₀.buffer.accept _ _ _ _ _).held i).isSome at present
    change i < newest + 1 - (base + (L₀.land (first + BitVec.ofNat 32 k)).head)
    rw [held_accept, distance, ← buffer] at present
    by_cases here : i = k - (base + (L₀.land (first + BitVec.ofNat 32 k)).head)
    · omega
    · rw [Function.update_of_ne here] at present
      exact lands.ends i present
  · intro t member
    rcases List.mem_append.1 member with old | new
    · rw [← Ledger.Balanced.land_accepted L₀ (first + BitVec.ofNat 32 k)] at old
      exact lands.known t old
    · obtain ⟨j, small, same⟩ := PacketTag.mem_frames.1 new
      obtain rfl := Option.some.inj same
      exact lands.known_nextTag pushed small

theorem LandsAt.stored_ordered
    (ordered : Ordered index frames L₀.accepted) :
    Ordered index frames
      (L₀.accepted ++ (L₀.nextTag (first + BitVec.ofNat 32 k)).frames frames) := by
  have known : ∀ t,
      some t ∈ L₀.accepted ++ (L₀.nextTag (first + BitVec.ofNat 32 k)).frames frames →
        Known index frames newest base (L₀.land (first + BitVec.ofNat 32 k)).epoch t := by
    intro t member
    have stands := lands.stored pushed 0 0
    exact stands.known t member
  intro s t sIn tIn precedes
  have sKnown := known s sIn
  have tKnown := known t tIn
  rcases List.mem_append.1 tIn with tOld | tNew
  · rcases List.mem_append.1 sIn with sOld | sNew
    · exact ordered s t sOld tOld precedes
    · -- a frame after a new one is a frame of the current numbers
      obtain ⟨j, _, same⟩ := PacketTag.mem_frames.1 sNew
      obtain rfl := Option.some.inj same
      refine sKnown.position_lt tKnown ?_ precedes
      have begun := tKnown.begun
      rcases precedes with earlier | ⟨same, _⟩
      · dsimp only [Ledger.nextTag] at earlier
        omega
      · exact same.symm
  · obtain ⟨j, _, same⟩ := PacketTag.mem_frames.1 tNew
    obtain rfl := Option.some.inj same
    exact sKnown.position_lt tKnown rfl precedes

end Store

/-- The notes only look at the buffer and at what was accepted. -/
theorem StandsAt.congr {L' : Ledger} (stands : StandsAt first index frames newest base L)
    (next : L'.buffer.nextPlaySeq = L.buffer.nextPlaySeq)
    (held : L'.buffer.held = L.buffer.held) (head : L'.head = L.head)
    (epoch : L'.epoch = L.epoch) (accepted : L'.accepted = L.accepted) :
    StandsAt first index frames newest base L' := by
  obtain ⟨nextOf, notPast, near, ends, known⟩ := stands
  refine ⟨?_, ?_, ?_, ?_, ?_⟩
  · rw [next, head, nextOf]
  · rwa [head]
  · rwa [head]
  · intro i present
    rw [held] at present
    rw [head]
    exact ends i present
  · rw [accepted, epoch]
    exact known

/-- The push of packet `k`. -/
theorem Tracks.push {before : Nat} {newest : Option Nat}
    (tracks : Tracks first index frames newest L) (ordered : Ordered index frames L.accepted)
    (balanced : Ledger.Balanced before L) (inTime : InTime k newest)
    (pushed : index L.calls = k) (positive : 1 ≤ frames) (timestampUs nowMs : Clock) :
    let after := L.pushPacket (first + BitVec.ofNat 32 k) timestampUs true frames nowMs
    Tracks first index frames (some (newer k newest)) after ∧
      Ordered index frames after.accepted := by
  have landing := tracks.landsAt balanced inTime
  have distance := fun m (known : newest = some m) base
    (stands : StandsAt first index frames m base L) => stands.seqDiff (known ▸ inTime)
  generalize number : first + BitVec.ofNat 32 k = seqNum at landing distance
  have outcome :=
    balanced.sound.pushPacket_outcome seqNum timestampUs
      (some fun j => some ⟨L.nextTag seqNum, j⟩) frames nowMs
  unfold Ledger.pushPacket
  dsimp only
  rw [if_pos rfl]
  generalize
    L.buffer.pushPacket seqNum timestampUs (some fun j => some ⟨L.nextTag seqNum, j⟩)
      frames nowMs = r at outcome ⊢
  cases outcome with
  | ignored noData =>
      rcases noData with none | zero
      · cases none
      · omega
  | late isLate =>
      refine ⟨?_, ordered⟩
      cases tracks with
      | waiting fresh head accepted =>
          -- the first packet is at the playhead
          have zero : (L.buffer.noteArrival seqNum).seqDiff seqNum = 0 := by
            rw [JitterBuffer.seqDiff, noteArrival_nextPlaySeq, fresh]
            simp
          rw [IsLate, zero] at isLate
          omega
      | @playing _ m started base stands =>
          have behind := distance m rfl base stands
          have negative := isLate.1
          have notPast := stands.notPast
          rw [noteArrival_seqDiff started, behind] at negative
          have upTo : newer k (some m) = m := Nat.max_eq_left (by omega)
          rw [upTo]
          refine .playing rfl base (stands.congr ?_ ?_ rfl rfl rfl)
          · exact noteArrival_next started seqNum
          · exact balanced.sound.held_noteArrival seqNum
  | duplicate notLate present =>
      refine ⟨?_, ordered⟩
      obtain ⟨base, lands⟩ := landing notLate
      -- a jump would have left nothing to duplicate
      have stays : ¬ (L.buffer.noteArrival seqNum).IsJump seqNum := by
        intro jumps
        have vacant : (L.buffer.landing seqNum).Vacant := (followJump_of_isJump jumps).1
        rw [vacant.held] at present
        cases present
      have same : L.buffer.landing seqNum = L.buffer.noteArrival seqNum :=
        followJump_of_not_isJump stays
      have stands := lands.toStandsAt
      rw [land_of_stays stays] at stands
      rw [same]
      exact .playing rfl base (stands.congr rfl rfl rfl rfl rfl)
  | stored source data positive notLate absent =>
      obtain ⟨base, lands⟩ := landing notLate
      subst number
      obtain rfl := Option.some.inj data
      refine ⟨?_, lands.stored_ordered pushed ordered⟩
      refine .playing accept_hasFirstPacket base ?_
      exact (lands.stored pushed timestampUs nowMs).congr rfl rfl rfl rfl rfl

/-! ## Pops -/

theorem popFrames_hasFirstPacket (b : JitterBuffer TaggedFrame) (hasDest : Bool)
    (numFrames : Nat) (nowMs : Clock) :
    (b.popFrames hasDest numFrames nowMs).1.hasFirstPacket = b.hasFirstPacket :=
  popFrames_keeps JitterBuffer.hasFirstPacket (fun _ => rfl) (fun _ => rfl) (fun _ _ => rfl)
    (fun _ _ _ => rfl) (fun _ => rfl) (fun _ => rfl) b hasDest numFrames nowMs

theorem StandsAt.pop (wf : L.buffer.WellFormed)
    (stands : StandsAt first index frames newest base L) (hasDest : Bool) (numFrames : Nat)
    (nowMs : Clock) :
    StandsAt first index frames newest base (L.popFrames hasDest numFrames nowMs) := by
  obtain ⟨n, few, follows⟩ :=
    Within.popFrames wf stands.ends hasDest numFrames nowMs
  have bound := follows.bound
  have notPast := stands.notPast
  have near := stands.near
  have moved : (L.popFrames hasDest numFrames nowMs).head = L.head + n := by
    change L.head + ahead L.buffer.nextPlaySeq _ = _
    rw [follows.next, ahead_add_ofNat _ (Nat.lt_of_le_of_lt bound (by decide))]
  refine ⟨?_, ?_, ?_, ?_, stands.known⟩
  · rw [moved, ← Nat.add_assoc, BitVec.ofNat_add, ← BitVec.add_assoc, ← stands.next]
    exact follows.next
  · omega
  · omega
  · intro i present
    change ((L.buffer.popFrames hasDest numFrames nowMs).1.held i).isSome at present
    rw [follows.held] at present
    have before := stands.ends (n + i) present
    omega

theorem Tracks.pop {before : Nat} {newest : Option Nat}
    (tracks : Tracks first index frames newest L) (balanced : Ledger.Balanced before L)
    (hasDest : Bool) (numFrames : Nat) (nowMs : Clock) :
    Tracks first index frames newest (L.popFrames hasDest numFrames nowMs) := by
  have first := popFrames_hasFirstPacket L.buffer hasDest numFrames nowMs
  cases tracks with
  | waiting fresh head accepted =>
      have idle : ¬ (hasDest ∧ numFrames ≠ 0 ∧ L.buffer.isReady) := by
        rintro ⟨_, _, ready⟩
        simp [isReady, fresh] at ready
      obtain ⟨_, _, same⟩ := popFrames_of_idle idle nowMs
      refine .waiting (first.trans fresh) ?_ accepted
      unfold Ledger.popFrames
      dsimp only
      rw [same, ahead_self, head]
  | playing started base stands =>
      exact
        .playing (first.trans started) base
          (stands.pop balanced.sound.toWellFormed hasDest numFrames nowMs)

end

end AudioRouter.Pipeline
