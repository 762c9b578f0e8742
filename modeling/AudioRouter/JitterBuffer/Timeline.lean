import AudioRouter.JitterBuffer.Termination
import AudioRouter.JitterBuffer.Playhead

/-!
# The timeline of a run

A run of the jitter buffer is written down as what happens at its playhead.  The log is
kept beside the buffer: each turn of the loops of `pop_frames` adds an event that is read
off the buffer before and after it.  The numbers of the log count on where sequence
numbers wrap around.

The events of every run are a way of the playhead, from its place at the start to its
place at the end.
-/

namespace AudioRouter.JitterBuffer

open While Transition Playhead SequenceWindow

variable {σ : Type}

/-- What is known of a run besides the buffer: the number at the playhead, how many numbers
the playhead has stepped over when no packet was stored for them, and the events. -/
structure Log (σ : Type) where
  number : Nat := 0
  missed : Nat := 0
  events : List (Event σ) := []

/-- The playhead stands at another number. -/
def Moved (b c : JitterBuffer σ) : Prop := c.nextPlaySeq ≠ b.nextPlaySeq

instance (b c : JitterBuffer σ) : Decidable (b.Moved c) :=
  inferInstanceAs (Decidable (_ ≠ _))

namespace Log

/-- The playhead of the log. -/
def place (L : Log σ) (b : JitterBuffer σ) : Place :=
  { number := L.number
    inside := decide (0 < b.slotFrameOffset)
    buffering := !b.isReady }

/-- A turn of a loop that leads from the first buffer to the second. -/
def turn (L : Log σ) (b c : JitterBuffer σ) (event : Event σ) : Log σ :=
  { number := L.number + ahead b.nextPlaySeq c.nextPlaySeq
    missed := L.missed + if b.Moved c ∧ (b.held 0).isNone then 1 else 0
    events := L.events ++ [event] }

def advanceTurn (L : Log σ) (p q : Nat × JitterBuffer σ) : Log σ :=
  L.turn p.2 q.2
    (if p.2.headReady then .shed L.number (decide (p.2.Moved q.2)) else .skipped L.number)

def deliverTurn (numFrames : Nat) (L : Log σ) (d e : Delivery σ) : Log σ :=
  let frames := e.framesDelivered - d.framesDelivered
  let written := e.dest.drop d.dest.length
  L.turn d.buffer e.buffer
    (if d.buffer.headReady then .played L.number written (decide (d.buffer.Moved e.buffer))
    else if d.buffer.hasFuturePackets then
      .lost L.number (numFrames - d.framesDelivered) frames written
    else .dry frames written)

def advanceStep (x : Log σ × (Nat × JitterBuffer σ)) : Log σ × (Nat × JitterBuffer σ) :=
  (x.1.advanceTurn x.2 (JitterBuffer.advanceStep x.2), JitterBuffer.advanceStep x.2)

/-- The loop of `advance_playhead_locked` beside its log. -/
def advance (amount : Nat) (x : Log σ × (Nat × JitterBuffer σ)) :
    Log σ × (Nat × JitterBuffer σ) :=
  fuelled (fun x => 0 < x.2.1) advanceStep amount x

def deliverStep [Zero σ] (numFrames : Nat) (x : Log σ × Delivery σ) : Log σ × Delivery σ :=
  (deliverTurn numFrames x.1 x.2 (JitterBuffer.deliverStep numFrames x.2),
    JitterBuffer.deliverStep numFrames x.2)

/-- The delivery loop beside its log. -/
def deliver [Zero σ] (numFrames : Nat) (x : Log σ × Delivery σ) : Log σ × Delivery σ :=
  fuelled (fun x => x.2.framesDelivered < numFrames) (deliverStep numFrames) numFrames x

def popFrames [Zero σ] (L : Log σ) (b : JitterBuffer σ) (hasDest : Bool) (numFrames : Nat)
    (nowMs : Clock) : Log σ :=
  if !hasDest ∨ numFrames = 0 then L
  else if b.isBuffering ∨ !b.hasFirstPacket then
    let result := (b.popFrames hasDest numFrames nowMs).2
    { L with events := L.events ++ [.waiting result.frames result.dest] }
  else
    let drained := advance (b.drainAmount nowMs) (L, (b.drainAmount nowMs, b))
    (deliver numFrames (drained.1, ⟨b.drainToTarget nowMs, 0, []⟩)).1

/-- What a push does at the playhead. -/
def pushEvents (b c : JitterBuffer σ) (number : Nat) : List (Event σ) :=
  (if b.Moved c then [.restarted number] else []) ++
    (if c.isReady ∧ (b.Moved c ∨ b.isReady = false) then [.filled] else [])

/-- A push that leads from the first buffer to the second. -/
def pushPacket (L : Log σ) (b c : JitterBuffer σ) : Log σ :=
  let number := L.number + ahead b.nextPlaySeq c.nextPlaySeq
  { L with number := number, events := L.events ++ pushEvents b c number }

def configure (L : Log σ) (b c : JitterBuffer σ) : Log σ :=
  let number := L.number + ahead b.nextPlaySeq c.nextPlaySeq
  { L with number := number, events := L.events ++ [.restarted number] }

def call [Zero σ] (L : Log σ) (b : JitterBuffer σ) : Call σ → Log σ
  | .configure config latency => L.configure b (b.configure config latency)
  | .pushPacket seqNum timestampUs pcmData numFrames nowMs =>
      L.pushPacket b (b.pushPacket seqNum timestampUs pcmData numFrames nowMs).1
  | .popFrames hasDest numFrames nowMs => L.popFrames b hasDest numFrames nowMs

def run [Zero σ] (L : Log σ) (b : JitterBuffer σ) : List (Call σ) → Log σ
  | [] => L
  | x :: calls => (L.call b x).run (b.call x).1 calls

end Log

/-! ## The records of a log -/

/-- The events lead from the start to the place of the playhead, and count what the
playhead has lost. -/
structure Records (start : Place) (lost : Nat) (L : Log σ) (b : JitterBuffer σ) : Prop where
  path : Transition.run Place.step start L.events = some (L.place b)
  missed : b.stats.packetsLost = lost + L.missed
  counted : L.missed = L.events.countP Event.isLost

theorem Records.empty (b : JitterBuffer σ) :
    Records (Log.place ({} : Log σ) b) b.stats.packetsLost ({} : Log σ) b :=
  ⟨rfl, rfl, rfl⟩

theorem ahead_succ_self (p : SeqNum) : ahead p (p + 1) = 1 :=
  ahead_add_ofNat p (by decide : 1 < 2 ^ 32)

theorem moved_succ {b c : JitterBuffer σ} (next : c.nextPlaySeq = b.nextPlaySeq + 1) :
    b.Moved c := by
  intro same
  have one := ahead_succ_self b.nextPlaySeq
  rw [← next, same, ahead_self] at one
  exact Nat.zero_ne_one one

section Turns

variable {start : Place} {lost : Nat} {L : Log σ} {b c : JitterBuffer σ} {event : Event σ}

/-- A turn whose event can come next, and which counts a loss where it steps over one. -/
theorem Records.turn (records : Records start lost L b)
    (next : (L.place b).step event = some ((L.turn b c event).place c))
    (gone : (b.Moved c ∧ (b.held 0).isNone) ↔ event.isLost)
    (counts : c.stats.packetsLost = b.stats.packetsLost + if event.isLost then 1 else 0) :
    Records start lost (L.turn b c event) c := by
  refine ⟨?_, ?_, ?_⟩
  · exact run_append_eq_some.2 ⟨_, records.path, run_cons_eq_some.2 ⟨_, next, rfl⟩⟩
  · rw [counts, records.missed, Nat.add_assoc]
    exact congrArg (fun n => lost + (L.missed + n)) (if_congr gone.symm rfl rfl)
  · have here : (if b.Moved c ∧ (b.held 0).isNone then 1 else 0) =
        if event.isLost then 1 else 0 := if_congr gone rfl rfl
    change L.missed + _ = (L.events ++ [event]).countP Event.isLost
    rw [here, records.counted, List.countP_append, List.countP_singleton]

/-- A part of the packet at the playhead is through. -/
theorem Log.place_turn_pass
    (through :
      c.nextPlaySeq = b.nextPlaySeq + 1 ∧ c.slotFrameOffset = 0 ∨
        c.nextPlaySeq = b.nextPlaySeq ∧ 0 < c.slotFrameOffset)
    (ready : c.isReady = b.isReady) :
    (L.turn b c event).place c = (L.place b).pass (decide (b.Moved c)) := by
  rcases through with ⟨next, offset⟩ | ⟨next, offset⟩
  · have moved := moved_succ next
    simp [Log.place, Log.turn, Place.pass, moved, next, offset, ready]
    exact ahead_succ_self _
  · have stays : ¬ b.Moved c := fun moved => moved next
    simp [Log.place, Log.turn, Place.pass, stays, next, offset, ready]

theorem Records.advanceTurn {p : Nat × JitterBuffer σ} (records : Records start lost L p.2)
    (droppable : Droppable p) (more : 0 < p.1) (plays : p.2.isReady = true) :
    Records start lost (L.advanceTurn p (advanceStep p)) (advanceStep p).2 ∧
      (advanceStep p).2.isReady = true := by
  rcases p with ⟨frames, b⟩
  rcases droppable with ⟨wf, covered⟩
  dsimp only at records wf covered more plays
  have ready := covered.headReady wf more
  have present := wf.headReady_iff.1 ready
  have keeps : ∀ {α : Type} (read : JitterBuffer σ → α),
      read b.leaveSlot = read b →
      read { b with slotFrameOffset := b.slotFrameOffset + frames } = read b →
        read (JitterBuffer.advanceStep (frames, b)).2 = read b := by
    intro α read leave readOn
    by_cases stays : frames < b.headSlot.numFrames - b.slotFrameOffset
    · rwa [advanceStep_of_inside ready stays]
    · rwa [advanceStep_of_through ready (Nat.not_lt.1 stays)]
  have through :
      (JitterBuffer.advanceStep (frames, b)).2.nextPlaySeq = b.nextPlaySeq + 1 ∧
          (JitterBuffer.advanceStep (frames, b)).2.slotFrameOffset = 0 ∨
        (JitterBuffer.advanceStep (frames, b)).2.nextPlaySeq = b.nextPlaySeq ∧
          0 < (JitterBuffer.advanceStep (frames, b)).2.slotFrameOffset := by
    by_cases stays : frames < b.headSlot.numFrames - b.slotFrameOffset
    · rw [advanceStep_of_inside ready stays]
      exact Or.inr ⟨rfl, Nat.add_pos_right _ more⟩
    · rw [advanceStep_of_through ready (Nat.not_lt.1 stays)]
      exact Or.inl ⟨rfl, rfl⟩
  have sameReady := keeps JitterBuffer.isReady rfl rfl
  refine ⟨?_, sameReady.trans plays⟩
  rw [Log.advanceTurn, if_pos ready]
  apply records.turn
  · rw [Log.place_turn_pass through sameReady]
    simp [Place.step, Log.place, plays]
  · simp [Event.isLost, Option.isNone_iff_eq_none, Option.ne_none_iff_isSome.2 present]
  · exact keeps (fun c => c.stats.packetsLost) rfl rfl

/-- While frames are to be delivered the buffer plays; a buffer that has run dry ends the
loop. -/
theorem Records.deliverTurn [Zero σ] {numFrames : Nat} {d : Delivery σ}
    (records : Records start lost L d.buffer) (wf : d.buffer.WellFormed)
    (more : d.framesDelivered < numFrames) (plays : d.buffer.isReady = true) :
    Records start lost (L.deliverTurn numFrames d (deliverStep numFrames d))
        (deliverStep numFrames d).buffer ∧
      ((deliverStep numFrames d).buffer.isReady = true ∨
        (deliverStep numFrames d).framesDelivered = numFrames) := by
  cases ready : d.buffer.headReady with
  | true =>
    have present := wf.headReady_iff.1 ready
    have inside := wf.offset_lt_of_headReady ready
    rw [Log.deliverTurn, if_pos ready, deliverStep_of_ready ready]
    dsimp only
    generalize copied :
      min (d.buffer.headSlot.numFrames - d.buffer.slotFrameOffset)
        (numFrames - d.framesDelivered) = toCopy
    have sameReady : (d.buffer.consume toCopy).isReady = d.buffer.isReady :=
      consume_keeps JitterBuffer.isReady d.buffer toCopy rfl fun _ => rfl
    have through :
        (d.buffer.consume toCopy).nextPlaySeq = d.buffer.nextPlaySeq + 1 ∧
            (d.buffer.consume toCopy).slotFrameOffset = 0 ∨
          (d.buffer.consume toCopy).nextPlaySeq = d.buffer.nextPlaySeq ∧
            0 < (d.buffer.consume toCopy).slotFrameOffset := by
      unfold consume
      split
      · exact Or.inl ⟨rfl, rfl⟩
      · refine Or.inr ⟨rfl, ?_⟩
        dsimp only
        omega
    refine ⟨?_, Or.inl (sameReady.trans plays)⟩
    apply records.turn
    · rw [Log.place_turn_pass through sameReady]
      simp [Place.step, Log.place, plays]
    · simp [Event.isLost, Option.isNone_iff_eq_none, Option.ne_none_iff_isSome.2 present]
    · exact
        consume_keeps (fun c => c.stats.packetsLost) d.buffer toCopy rfl fun _ => rfl
  | false =>
    have absent := wf.held_zero_of_not_headReady ready
    have offset := wf.offset_eq_zero_of_not_headReady ready
    have notReady : ¬ d.buffer.headReady = true := by simp [ready]
    cases future : d.buffer.hasFuturePackets with
    | true =>
      rw [Log.deliverTurn, if_neg notReady, if_pos future, deliverStep_of_gap ready future]
      refine ⟨?_, Or.inl plays⟩
      have moved : d.buffer.Moved d.buffer.conceal := moved_succ rfl
      apply records.turn
      · have one : ahead d.buffer.nextPlaySeq d.buffer.conceal.nextPlaySeq = 1 :=
          ahead_succ_self _
        have stillPlays : d.buffer.conceal.isReady = true := plays
        have outside : d.buffer.conceal.slotFrameOffset = 0 := rfl
        simp [Place.step, Log.place, Log.turn, plays, offset, one, stillPlays, outside]
      · simp [Event.isLost, moved, absent]
      · rfl
    | false =>
      have noFuture : ¬ d.buffer.hasFuturePackets = true := by simp [future]
      rw [Log.deliverTurn, if_neg notReady, if_neg noFuture, deliverStep_of_dry ready future]
      refine ⟨?_, Or.inr ?_⟩
      · have stays : ¬ d.buffer.Moved d.buffer.runDry := fun moved => moved rfl
        apply records.turn
        · have same : ahead d.buffer.nextPlaySeq d.buffer.runDry.nextPlaySeq = 0 :=
            ahead_self _
          have waits : d.buffer.runDry.isReady = false := by simp [runDry, isReady]
          have outside : d.buffer.runDry.slotFrameOffset = 0 := offset
          simp [Place.step, Log.place, Log.turn, plays, offset, same, waits, outside]
        · simp [Event.isLost, stays]
        · rfl
      · dsimp only
        omega

/-- Nothing but the place and the lost packets of the buffer is recorded. -/
theorem Records.congr (records : Records start lost L b)
    (offset : c.slotFrameOffset = b.slotFrameOffset) (ready : c.isReady = b.isReady)
    (counts : c.stats.packetsLost = b.stats.packetsLost) : Records start lost L c where
  path := by
    rw [records.path, Log.place, Log.place, offset, ready]
  missed := by rw [counts, records.missed]
  counted := records.counted

end Turns

/-! ## Pops -/

section Pops

variable {start : Place} {lost : Nat} {L : Log σ} {b : JitterBuffer σ}

theorem Log.advance_buffer (amount : Nat) (L : Log σ) (p : Nat × JitterBuffer σ) :
    (Log.advance amount (L, p)).2.2 = advancePlayhead amount p := by
  have same :=
    @fuelled_map _ (fun x : Log σ × (Nat × JitterBuffer σ) => 0 < x.2.1) Log.advanceStep _
      (fun p => 0 < p.1) JitterBuffer.advanceStep _ _ Prod.snd (fun _ => Iff.rfl)
      (fun _ => rfl) amount (L, p)
  rw [advancePlayhead_eq_fuelled, ← same]
  rfl

theorem Log.deliver_delivery [Zero σ] (numFrames : Nat) (L : Log σ) (d : Delivery σ) :
    (Log.deliver numFrames (L, d)).2 = JitterBuffer.deliver numFrames numFrames d := by
  rw [deliver_eq_fuelled]
  exact
    @fuelled_map _ (fun x : Log σ × Delivery σ => x.2.framesDelivered < numFrames)
      (Log.deliverStep numFrames) _ (fun d => d.framesDelivered < numFrames)
      (JitterBuffer.deliverStep numFrames) _ _ Prod.snd (fun _ => Iff.rfl) (fun _ => rfl)
      numFrames (L, d)

/-- The drain beside its log. -/
structure Draining (start : Place) (lost : Nat) (x : Log σ × (Nat × JitterBuffer σ)) : Prop where
  droppable : Droppable x.2
  records : Records start lost x.1 x.2.2
  plays : x.2.2.isReady = true

/-- The delivery beside its log. -/
structure Delivering (start : Place) (lost numFrames : Nat) (x : Log σ × Delivery σ) :
    Prop where
  wf : x.2.buffer.WellFormed
  records : Records start lost x.1 x.2.buffer
  plays : x.2.buffer.isReady = true ∨ x.2.framesDelivered = numFrames

theorem Draining.advanceStep {x : Log σ × (Nat × JitterBuffer σ)}
    (draining : Draining start lost x) (more : 0 < x.2.1) :
    Draining start lost (Log.advanceStep x) := by
  rcases draining.records.advanceTurn draining.droppable more draining.plays with
    ⟨records, plays⟩
  exact ⟨(draining.droppable.advanceStep more).1, records, plays⟩

theorem Delivering.deliverStep [Zero σ] {numFrames : Nat} {x : Log σ × Delivery σ}
    (delivering : Delivering start lost numFrames x) (more : x.2.framesDelivered < numFrames) :
    Delivering start lost numFrames (Log.deliverStep numFrames x) := by
  have plays := delivering.plays.resolve_right (Nat.ne_of_lt more)
  rcases delivering.records.deliverTurn delivering.wf more plays with ⟨records, goesOn⟩
  exact ⟨deliverStep_wellFormed numFrames delivering.wf, records, goesOn⟩

/-- The drain never steps over a missing number. -/
theorem Records.drain (records : Records start lost L b) (wf : b.WellFormed)
    (plays : b.isReady = true) (nowMs : Clock) :
    Records start lost (Log.advance (b.drainAmount nowMs) (L, (b.drainAmount nowMs, b))).1
        (b.drainToTarget nowMs) ∧
      (b.drainToTarget nowMs).isReady = true := by
  have begun : Draining start lost (L, (b.drainAmount nowMs, b)) :=
    ⟨⟨wf, wf.covered_drainAmount nowMs⟩, records, plays⟩
  have ends :
      Draining start lost (Log.advance (b.drainAmount nowMs) (L, (b.drainAmount nowMs, b))) :=
    fuelled_preserves (fun _ draining more => draining.advanceStep more) _ begun
  rcases ends with ⟨-, recorded, stillPlays⟩
  rw [Log.advance_buffer] at recorded stillPlays
  rw [JitterBuffer.drainToTarget]
  dsimp only
  split
  next nothing =>
    rw [nothing]
    exact ⟨records, plays⟩
  next due => exact ⟨recorded.congr rfl rfl rfl, stillPlays⟩

theorem Records.deliver [Zero σ] (records : Records start lost L b) (wf : b.WellFormed)
    (plays : b.isReady = true) (numFrames : Nat) :
    Records start lost (Log.deliver numFrames (L, ⟨b, 0, []⟩)).1
      (JitterBuffer.deliver numFrames numFrames ⟨b, 0, []⟩).buffer := by
  rw [← Log.deliver_delivery numFrames L]
  have begun : Delivering start lost numFrames (L, ⟨b, 0, []⟩) := ⟨wf, records, Or.inl plays⟩
  have ends : Delivering start lost numFrames (Log.deliver numFrames (L, ⟨b, 0, []⟩)) :=
    fuelled_preserves (fun _ delivering more => delivering.deliverStep more) numFrames begun
  exact ends.records

theorem Records.popFrames [Zero σ] (records : Records start lost L b) (sound : b.Sound)
    (hasDest : Bool) (numFrames : Nat) (nowMs : Clock) :
    Records start lost (L.popFrames b hasDest numFrames nowMs)
      (b.popFrames hasDest numFrames nowMs).1 := by
  by_cases asked : !hasDest ∨ numFrames = 0
  · rw [Log.popFrames, JitterBuffer.popFrames, if_pos asked, if_pos asked]
    exact records
  by_cases silent : b.isBuffering ∨ !b.hasFirstPacket
  · rw [Log.popFrames, if_neg asked, if_pos silent]
    have same : (b.popFrames hasDest numFrames nowMs).1 = b := by
      rw [JitterBuffer.popFrames, if_neg asked, if_pos silent]
    have waits : b.isReady = false := by
      rcases silent with buffering | none <;> simp_all [isReady]
    rw [same]
    refine ⟨?_, records.missed, ?_⟩
    · refine run_append_eq_some.2 ⟨_, records.path, run_cons_eq_some.2 ⟨L.place b, ?_, rfl⟩⟩
      simp [Place.step, Log.place, waits]
    · rw [List.countP_append]
      exact records.counted
  · have plays : b.isReady = true := by
      rw [not_or] at silent
      simp_all [isReady]
    rcases records.drain sound.toWellFormed plays nowMs with ⟨drained, stillPlays⟩
    rw [Log.popFrames, JitterBuffer.popFrames, if_neg asked, if_neg asked, if_neg silent,
      if_neg silent]
    exact drained.deliver (sound.drainToTarget nowMs) stillPlays numFrames

end Pops

/-! ## Pushes -/

/-- A push moves the playhead to the begin of a packet, or leaves it where it is; it does
not stop a buffer that plays without moving the playhead. -/
structure PushMoves (b c : JitterBuffer σ) : Prop where
  jumped : b.Moved c → c.slotFrameOffset = 0
  stayed :
    ¬ b.Moved c →
      c.slotFrameOffset = b.slotFrameOffset ∧ (b.isReady = true → c.isReady = true)
  lost : c.stats.packetsLost = b.stats.packetsLost

theorem PushMoves.congr {b c d : JitterBuffer σ} (moves : PushMoves b c)
    (next : d.nextPlaySeq = c.nextPlaySeq) (offset : d.slotFrameOffset = c.slotFrameOffset)
    (ready : c.isReady = true → d.isReady = true)
    (lost : d.stats.packetsLost = c.stats.packetsLost) : PushMoves b d where
  jumped moved := by
    rw [Moved, next] at moved
    rw [offset, moves.jumped moved]
  stayed stays := by
    rw [Moved, next] at stays
    rcases moves.stayed stays with ⟨same, goesOn⟩
    exact ⟨offset.trans same, fun plays => ready (goesOn plays)⟩
  lost := lost.trans moves.lost

theorem finishBuffering_isReady {b : JitterBuffer σ} (plays : b.isReady = true)
    (nowMs : Clock) : (b.finishBuffering nowMs).isReady = true := by
  simp only [isReady, Bool.and_eq_true, Bool.not_eq_true'] at plays
  simp [finishBuffering, isReady, plays]

theorem finishBuffering_packetsLost (b : JitterBuffer σ) (nowMs : Clock) :
    (b.finishBuffering nowMs).stats.packetsLost = b.stats.packetsLost := by
  rw [finishBuffering_stats]

theorem PushMoves.countDuplicate {b c : JitterBuffer σ} (moves : PushMoves b c) :
    PushMoves b c.countDuplicate :=
  moves.congr rfl rfl id rfl

/-- Storing a packet moves nothing. -/
theorem PushMoves.store {b c : JitterBuffer σ} (moves : PushMoves b c) (seqNum : SeqNum)
    (timestampUs : Clock) (source : Nat → σ) (numFrames : Nat) :
    PushMoves b ((c.storePacket seqNum timestampUs source numFrames).trackArrivalRun seqNum) :=
  moves.congr rfl rfl id rfl

theorem PushMoves.finishBuffering {b c : JitterBuffer σ} (moves : PushMoves b c)
    (nowMs : Clock) : PushMoves b (c.finishBuffering nowMs) :=
  moves.congr (finishBuffering_nextPlaySeq c nowMs) (finishBuffering_slotFrameOffset c nowMs)
    (fun plays => finishBuffering_isReady plays nowMs) (finishBuffering_packetsLost c nowMs)

section Pushes

variable {b : JitterBuffer σ} {seqNum : SeqNum}

theorem Sound.pushMoves_noteArrival (sound : b.Sound) (seqNum : SeqNum) :
    PushMoves b (b.noteArrival seqNum) where
  jumped moved := by
    cases first : b.hasFirstPacket with
    | true => simp [Moved, noteArrival_nextPlaySeq, first] at moved
    | false => exact sound.offsetZero (sound.fresh first _)
  stayed _ := by
    refine ⟨rfl, fun plays => ?_⟩
    simp only [isReady, Bool.and_eq_true, Bool.not_eq_true'] at plays
    simp [isReady, JitterBuffer.noteArrival, plays]
  lost := rfl

theorem Sound.pushMoves_landing (sound : b.Sound) (seqNum : SeqNum) :
    PushMoves b (b.landing seqNum) := by
  by_cases jumps : (b.noteArrival seqNum).IsJump seqNum
  · have moved : b.Moved (b.landing seqNum) := by
      rw [Moved, JitterBuffer.landing, (followJump_of_isJump jumps).2.1]
      rintro rfl
      simp [IsJump, seqDiff, noteArrival_nextPlaySeq] at jumps
    refine ⟨fun _ => (followJump_of_isJump jumps).2.2.1, fun stays => absurd moved stays, ?_⟩
    exact landing_keeps (fun c => c.stats.packetsLost) b seqNum rfl (fun _ => rfl) fun _ => rfl
  · rw [JitterBuffer.landing, followJump_of_not_isJump jumps]
    exact sound.pushMoves_noteArrival seqNum

theorem Sound.pushMoves (sound : b.Sound) (seqNum : SeqNum) (timestampUs : Clock)
    (pcmData : Option (Nat → σ)) (numFrames : Nat) (nowMs : Clock) :
    PushMoves b (b.pushPacket seqNum timestampUs pcmData numFrames nowMs).1 := by
  have outcome := sound.pushPacket_outcome seqNum timestampUs pcmData numFrames nowMs
  generalize b.pushPacket seqNum timestampUs pcmData numFrames nowMs = r at outcome
  cases outcome with
  | ignored _ =>
    exact ⟨fun moved => absurd rfl moved, fun _ => ⟨rfl, id⟩, rfl⟩
  | late _ => exact (sound.pushMoves_noteArrival seqNum).congr rfl rfl id rfl
  | duplicate _ _ => exact (sound.pushMoves_landing seqNum).countDuplicate
  | stored source _ _ _ _ =>
    have stored :=
      (sound.pushMoves_landing seqNum).store seqNum timestampUs source numFrames
    exact stored.finishBuffering nowMs

theorem Records.pushPacket {start : Place} {lost : Nat} {L : Log σ} {b c : JitterBuffer σ}
    (records : Records start lost L b) (moves : PushMoves b c) :
    Records start lost (L.pushPacket b c) c := by
  have way :
      Transition.run Place.step (L.place b)
          (Log.pushEvents b c (L.number + ahead b.nextPlaySeq c.nextPlaySeq)) =
        some ((L.pushPacket b c).place c) := by
    by_cases moved : b.Moved c
    · have offset := moves.jumped moved
      cases ready : c.isReady <;>
        simp [Log.pushEvents, moved, ready, Transition.run, Place.step, Log.place,
          Log.pushPacket, offset]
    · rcases moves.stayed moved with ⟨offset, goesOn⟩
      have same : c.nextPlaySeq = b.nextPlaySeq := not_not.1 moved
      cases before : b.isReady with
      | true =>
        simp [Log.pushEvents, moved, before, goesOn before, Transition.run, Log.place,
          Log.pushPacket, offset, same]
      | false =>
        cases ready : c.isReady <;>
          simp [Log.pushEvents, moved, before, ready, Transition.run, Place.step, Log.place,
            Log.pushPacket, offset, same]
  refine ⟨run_append_eq_some.2 ⟨_, records.path, way⟩, ?_, ?_⟩
  · rw [moves.lost]
    exact records.missed
  · have silent : ∀ n, (Log.pushEvents b c n).countP Event.isLost = 0 := by
      intro n
      rw [Log.pushEvents]
      split <;> split <;> rfl
    change L.missed = (L.events ++ Log.pushEvents b c _).countP Event.isLost
    rw [List.countP_append, silent]
    exact records.counted

end Pushes

/-! ## Runs -/

section Runs

variable [Zero σ] {start : Place} {lost : Nat} {L : Log σ} {b : JitterBuffer σ}

theorem Records.call (records : Records start lost L b) (sound : b.Sound) (x : Call σ) :
    Records start lost (L.call b x) (b.call x).1 := by
  cases x with
  | configure config latency =>
    refine ⟨?_, records.missed, ?_⟩
    · exact run_append_eq_some.2 ⟨_, records.path, run_cons_eq_some.2 ⟨_, rfl, rfl⟩⟩
    · change L.missed = (L.events ++ [_]).countP Event.isLost
      rw [List.countP_append]
      exact records.counted
  | pushPacket seqNum timestampUs pcmData numFrames nowMs =>
    exact records.pushPacket (sound.pushMoves seqNum timestampUs pcmData numFrames nowMs)
  | popFrames hasDest numFrames nowMs =>
    exact records.popFrames sound hasDest numFrames nowMs

theorem Records.run (records : Records start lost L b) (sound : b.Sound)
    (calls : List (Call σ)) : Records start lost (L.run b calls) (b.run calls) := by
  induction calls generalizing L b with
  | nil => exact records
  | cons x calls inductionHypothesis =>
    exact inductionHypothesis (records.call sound x) (sound.call x)

end Runs

end AudioRouter.JitterBuffer
