import AudioRouter.JitterBuffer.Ledger

/-!
# Every accepted frame is accounted for

`Balanced` says that the notes of a ledger and its buffer add up; every call
keeps it so.  The run on tagged frames is the run on samples, read frame by
frame, so the account holds of the samples as well.
-/

namespace AudioRouter.JitterBuffer

open SequenceWindow Blocks

namespace Ledger

/-! ## The invariant -/

/-- The notes and the buffer add up; `before` frames had been drained before the
run. -/
structure Balanced (before : Nat) (L : Ledger) : Prop where
  sound : L.buffer.Sound
  mono : L.buffer.config.channels = 1
  tagged : L.Tagged
  passed : ∀ t, some t ∈ L.output → L.Passed t
  ordered :
    (L.output.filter Option.isSome ++ L.buffer.pending).Pairwise InOrder
  conserved :
    L.accepted.Perm
      (L.output.filter Option.isSome ++
        (L.drained ++ (L.discarded ++ L.buffer.pending)))
  distinct : L.accepted.Nodup
  recent : ∀ t, some t ∈ L.accepted → t.packet.push < L.calls
  drainedCount :
    before + L.drained.length = L.buffer.stats.drainedFrames

namespace Balanced

variable {before : Nat} {L : Ledger}

/-- A call that leaves the window alone. -/
theorem idle (balanced : Balanced before L) {c : JitterBuffer TaggedFrame}
    (sound : c.Sound) (held : c.held = L.buffer.held)
    (offset : c.slotFrameOffset = L.buffer.slotFrameOffset)
    (channels : c.config.channels = L.buffer.config.channels)
    (drained : c.stats.drainedFrames = L.buffer.stats.drainedFrames) :
    Balanced before { L with buffer := c } := by
  have pending : c.pending = L.buffer.pending :=
    pending_congr held offset channels
  constructor
  · exact sound
  · rw [channels, balanced.mono]
  · intro i packet present
    dsimp only at present
    rw [held] at present
    exact balanced.tagged i packet present
  · intro t member
    unfold Passed
    dsimp only
    rw [held]
    exact balanced.passed t member
  · dsimp only
    rw [pending]
    exact balanced.ordered
  · dsimp only
    rw [pending]
    exact balanced.conserved
  · exact balanced.distinct
  · exact balanced.recent
  · dsimp only
    rw [drained]
    exact balanced.drainedCount

theorem setReplies (balanced : Balanced before L)
    (replies : List (Reply TaggedFrame)) :
    Balanced before { L with replies := replies } where
  sound := balanced.sound
  mono := balanced.mono
  tagged := balanced.tagged
  passed := balanced.passed
  ordered := balanced.ordered
  conserved := balanced.conserved
  distinct := balanced.distinct
  recent := balanced.recent
  drainedCount := balanced.drainedCount

/-- Time goes on. -/
theorem tick (balanced : Balanced before L) :
    Balanced before { L with calls := L.calls + 1 } where
  sound := balanced.sound
  mono := balanced.mono
  tagged i packet present := by
    obtain ⟨tag, epoch, number, recent, data⟩ := balanced.tagged i packet present
    exact ⟨tag, epoch, number, Nat.lt_succ_of_lt recent, data⟩
  passed := balanced.passed
  ordered := balanced.ordered
  conserved := balanced.conserved
  distinct := balanced.distinct
  recent t member := Nat.lt_succ_of_lt (balanced.recent t member)
  drainedCount := balanced.drainedCount

/-! ### Pushes -/

theorem arrive (balanced : Balanced before L) (seqNum : SeqNum) :
    Balanced before { L with buffer := L.buffer.noteArrival seqNum } :=
  balanced.idle (balanced.sound.arrived seqNum)
    (balanced.sound.held_noteArrival seqNum) rfl rfl rfl

theorem land (balanced : Balanced before L) (seqNum : SeqNum) :
    Balanced before (L.land seqNum) := by
  unfold Ledger.land
  split
  · rename_i jumps
    obtain ⟨vacant, _, _, _⟩ := followJump_of_isJump jumps
    change (L.buffer.landing seqNum).Vacant at vacant
    constructor
    · exact balanced.sound.landed seqNum
    · dsimp only
      rw [landing_config, balanced.mono]
    · intro i packet present
      dsimp only at present
      rw [vacant.held] at present
      cases present
    · intro t member
      rcases balanced.passed t member with earlier | ⟨same, _⟩
      · exact Or.inl (Nat.lt_succ_of_lt earlier)
      · exact Or.inl (Nat.lt_succ_of_le (Nat.le_of_eq same))
    · dsimp only
      rw [vacant.pending, List.append_nil]
      exact (List.pairwise_append.1 balanced.ordered).1
    · dsimp only
      rw [vacant.pending, List.append_nil]
      exact balanced.conserved
    · exact balanced.distinct
    · exact balanced.recent
    · dsimp only
      rw [landing_drainedFrames]
      exact balanced.drainedCount
  · rename_i stays
    have same : L.buffer.landing seqNum = L.buffer.noteArrival seqNum :=
      followJump_of_not_isJump stays
    rw [same]
    exact balanced.arrive seqNum

theorem land_buffer (L : Ledger) (seqNum : SeqNum) :
    (L.land seqNum).buffer = L.buffer.landing seqNum := by
  unfold Ledger.land
  split <;> rfl

theorem land_calls (L : Ledger) (seqNum : SeqNum) :
    (L.land seqNum).calls = L.calls := by
  unfold Ledger.land
  split <;> rfl

theorem land_output (L : Ledger) (seqNum : SeqNum) :
    (L.land seqNum).output = L.output := by
  unfold Ledger.land
  split <;> rfl

theorem land_accepted (L : Ledger) (seqNum : SeqNum) :
    (L.land seqNum).accepted = L.accepted := by
  unfold Ledger.land
  split <;> rfl

section Store

variable (balanced : Balanced before L) {seqNum : SeqNum} {timestampUs : Clock}
  {numFrames : Nat} {nowMs : Clock}
  (absent :
    (L.buffer.landing seqNum).held
      (ahead (L.buffer.landing seqNum).nextPlaySeq seqNum) = none)
include balanced absent

/-- The ledger after an accepted push. -/
def stored (L : Ledger) (seqNum : SeqNum) (timestampUs : Clock)
    (numFrames : Nat) (nowMs : Clock) : Ledger :=
  { L.land seqNum with
    buffer :=
      L.buffer.accept seqNum timestampUs (fun j => some ⟨L.nextTag seqNum, j⟩)
        numFrames nowMs
    calls := L.calls + 1
    accepted := L.accepted ++ (L.nextTag seqNum).frames numFrames }

omit absent in
theorem tagged_stored :
    (stored L seqNum timestampUs numFrames nowMs).Tagged := by
  intro i packet present
  change
    (L.buffer.accept seqNum timestampUs _ numFrames nowMs).held i = some packet
    at present
  rw [held_accept] at present
  by_cases here : i = ahead (L.buffer.landing seqNum).nextPlaySeq seqNum
  · rw [here, Function.update_self] at present
    obtain rfl := Option.some.inj present
    refine
      ⟨L.nextTag seqNum, rfl, by rw [here]; rfl, Nat.lt_succ_self _, ?_⟩
    rw [storedPacket, landing_config, balanced.mono, Nat.mul_one]
    rfl
  · rw [Function.update_of_ne here, ← land_buffer] at present
    obtain ⟨tag, epoch, number, recent, data⟩ :=
      (balanced.land seqNum).tagged i packet present
    rw [land_calls] at recent
    exact ⟨tag, epoch, number, Nat.lt_succ_of_lt recent, data⟩

omit balanced in
/-- A frame that has been passed comes before a packet that can still be
stored: the slot of the playhead is not free while it is being played. -/
theorem passed_precedes {s : FrameTag} (passed : (L.land seqNum).Passed s)
    (j : Nat) : s.Precedes ⟨L.nextTag seqNum, j⟩ := by
  rcases passed with earlier | ⟨same, lower | ⟨level, playing⟩⟩
  · exact Or.inl earlier
  · exact Or.inr ⟨same, Or.inl (Nat.lt_add_right _ lower)⟩
  · rw [land_buffer] at playing
    refine Or.inr ⟨same, Or.inl ?_⟩
    have notHead : ahead (L.buffer.landing seqNum).nextPlaySeq seqNum ≠ 0 := by
      intro zero
      rw [zero] at absent
      rw [absent] at playing
      cases playing
    change s.packet.number <
      (L.land seqNum).head + ahead (L.buffer.landing seqNum).nextPlaySeq seqNum
    omega

theorem store (positive : 1 ≤ numFrames) :
    Balanced before (stored L seqNum timestampUs numFrames nowMs) := by
  have landed := balanced.land seqNum
  have tagged : (stored L seqNum timestampUs numFrames nowMs).Tagged :=
    balanced.tagged_stored
  have pushed :
      (stored L seqNum timestampUs numFrames nowMs).buffer.pending.Perm
        ((L.land seqNum).buffer.pending ++
          (L.nextTag seqNum).frames numFrames) := by
    have added :
        (stored L seqNum timestampUs numFrames nowMs).buffer.pending.Perm
          ((L.buffer.landing seqNum).pending ++
            (List.range (numFrames * L.buffer.config.channels)).map fun j =>
              some ⟨L.nextTag seqNum, j⟩) :=
      balanced.sound.pending_accept absent
    rw [balanced.mono, Nat.mul_one, ← land_buffer] at added
    exact added
  have output : (stored L seqNum timestampUs numFrames nowMs).output =
      (L.land seqNum).output := rfl
  constructor
  · exact balanced.sound.accept positive absent
  · change (L.buffer.accept seqNum timestampUs _ numFrames nowMs).config.channels = 1
    rw [accept_config, balanced.mono]
  · exact tagged
  · intro t member
    rcases landed.passed t member with earlier | ⟨same, lower | ⟨level, playing⟩⟩
    · exact Or.inl earlier
    · exact Or.inr ⟨same, Or.inl lower⟩
    · refine Or.inr ⟨same, Or.inr ⟨level, ?_⟩⟩
      change ((L.buffer.accept seqNum timestampUs _ numFrames nowMs).held 0).isSome
      rw [land_buffer] at playing
      rw [held_accept, Function.update_apply]
      split
      · rfl
      · exact playing
  · obtain ⟨before, _, apart⟩ := List.pairwise_append.1 landed.ordered
    refine List.pairwise_append.2 ⟨before, tagged.pairwise_pending, ?_⟩
    intro x xIn y yIn s t xTag yTag
    rcases List.mem_append.1 (pushed.mem_iff.1 yIn) with old | new
    · exact apart x xIn y old s t xTag yTag
    · obtain ⟨j, _, rfl⟩ := PacketTag.mem_frames.1 new
      obtain rfl := Option.some.inj yTag
      subst xTag
      exact
        passed_precedes absent
          (landed.passed s (List.mem_filter.1 xIn).1) j
  · have total := landed.conserved
    rw [land_accepted] at total
    have appended := total.append_right ((L.nextTag seqNum).frames numFrames)
    simp only [List.append_assoc] at appended
    exact appended.trans
      (((pushed.symm.append_left _).append_left _).append_left _)
  · refine List.nodup_append.2
      ⟨balanced.distinct, (L.nextTag seqNum).nodup_frames numFrames, ?_⟩
    rintro x old y new rfl
    obtain ⟨j, _, rfl⟩ := PacketTag.mem_frames.1 new
    exact absurd (balanced.recent _ old) (Nat.lt_irrefl _)
  · intro t member
    rcases List.mem_append.1 member with old | new
    · exact Nat.lt_succ_of_lt (balanced.recent t old)
    · obtain ⟨j, _, same⟩ := PacketTag.mem_frames.1 new
      obtain rfl := Option.some.inj same
      exact Nat.lt_succ_self _
  · change before + (L.land seqNum).drained.length =
      (L.buffer.accept seqNum timestampUs _ numFrames nowMs).stats.drainedFrames
    rw [accept_drainedFrames, landed.drainedCount, land_buffer,
      landing_drainedFrames]

end Store

theorem pushPacket (balanced : Balanced before L) (seqNum : SeqNum)
    (timestampUs : Clock) (hasData : Bool) (numFrames : Nat) (nowMs : Clock) :
    Balanced before
      (L.pushPacket seqNum timestampUs hasData numFrames nowMs) := by
  have outcome :=
    balanced.sound.pushPacket_outcome seqNum timestampUs
      (if hasData then some fun j => some ⟨L.nextTag seqNum, j⟩ else none)
      numFrames nowMs
  unfold Ledger.pushPacket
  dsimp only
  generalize
    L.buffer.pushPacket seqNum timestampUs
      (if hasData then some fun j => some ⟨L.nextTag seqNum, j⟩ else none)
      numFrames nowMs = r at outcome ⊢
  cases outcome with
  | ignored _ => exact balanced.tick.setReplies _
  | late _ =>
      have counted :=
        (balanced.arrive seqNum).idle
          (c := (L.buffer.noteArrival seqNum).countLate)
          ((balanced.sound.arrived seqNum).setStats _) rfl rfl rfl rfl
      exact counted.tick.setReplies _
  | duplicate _ present =>
      -- a jump would have left nothing to duplicate
      have stays : ¬ (L.buffer.noteArrival seqNum).IsJump seqNum := by
        intro jumps
        have vacant : (L.buffer.landing seqNum).Vacant :=
          (followJump_of_isJump jumps).1
        rw [vacant.held] at present
        cases present
      have same : L.buffer.landing seqNum = L.buffer.noteArrival seqNum :=
        followJump_of_not_isJump stays
      have counted :=
        (balanced.arrive seqNum).idle
          (c := (L.buffer.noteArrival seqNum).countDuplicate)
          ((balanced.sound.arrived seqNum).setStats _) rfl rfl rfl rfl
      rw [same]
      exact counted.tick.setReplies _
  | stored source data positive _ absent =>
      have sameSource : source = fun j => some ⟨L.nextTag seqNum, j⟩ := by
        cases hasData with
        | true => exact (Option.some.inj data).symm
        | false => cases data
      subst sameSource
      exact (balanced.store absent positive).setReplies _

/-! ### Pops -/

section MoveOn

variable {c : JitterBuffer TaggedFrame} {n : Nat}
  (follows : Follows L.buffer n c)
include follows

theorem tagged_moveOn (tagged : L.Tagged) :
    Ledger.Tagged { L with buffer := c, head := L.head + n } := by
  intro i packet present
  dsimp only at present
  rw [follows.held] at present
  obtain ⟨tag, epoch, number, recent, data⟩ := tagged (n + i) packet present
  exact ⟨tag, epoch, by dsimp only; omega, recent, data⟩

theorem passed_moveOn {t : FrameTag} (passed : L.Passed t) :
    Ledger.Passed { L with buffer := c, head := L.head + n } t := by
  rcases passed with earlier | ⟨same, lower | ⟨level, playing⟩⟩
  · exact Or.inl earlier
  · exact Or.inr ⟨same, Or.inl (Nat.lt_add_right n lower)⟩
  · refine Or.inr ⟨same, ?_⟩
    dsimp only
    rw [follows.held]
    cases n with
    | zero => exact Or.inr ⟨level, playing⟩
    | succ n => exact Or.inl (by omega)

end MoveOn

theorem silence (balanced : Balanced before L) (k : Nat) :
    Balanced before { L with output := L.output ++ List.replicate k 0 } := by
  have silent :
      (L.output ++ List.replicate k 0).filter Option.isSome =
        L.output.filter Option.isSome := by
    rw [List.filter_append, filter_silence, List.append_nil]
  constructor
  · exact balanced.sound
  · exact balanced.mono
  · exact balanced.tagged
  · intro t member
    rcases List.mem_append.1 member with old | new
    · exact balanced.passed t old
    · cases List.eq_of_mem_replicate new
  · dsimp only
    rw [silent]
    exact balanced.ordered
  · dsimp only
    rw [silent]
    exact balanced.conserved
  · exact balanced.distinct
  · exact balanced.recent
  · exact balanced.drainedCount

/-- The drain takes frames off the front. -/
theorem drain (balanced : Balanced before L) (nowMs : Clock)
    (first : L.buffer.hasFirstPacket = true) :
    ∃ n, Follows L.buffer n (L.buffer.drainToTarget nowMs) ∧
      Balanced before
        { L with
          buffer := L.buffer.drainToTarget nowMs
          head := L.head + n
          drained := L.drained ++ shed L.buffer nowMs } := by
  have amount := drainToTarget_drainedFrames L.buffer nowMs
  obtain ⟨⟨n, follows⟩, enough, rest⟩ :=
    balanced.sound.drainToTarget_sheds nowMs
  rw [balanced.mono, Nat.mul_one] at enough rest
  have taken : shed L.buffer nowMs =
      L.buffer.pending.take (L.buffer.drainAmount nowMs) := by
    rw [shed, rest, List.length_drop, Nat.sub_sub_self enough]
  have whole :
      L.buffer.pending =
        shed L.buffer nowMs ++ (L.buffer.drainToTarget nowMs).pending := by
    rw [taken, rest, List.take_append_drop]
  refine ⟨n, follows, ?_⟩
  constructor
  · refine ⟨balanced.sound.drainToTarget nowMs, fun fresh => ?_⟩
    dsimp only at fresh
    rw [drainToTarget_hasFirstPacket, first] at fresh
    cases fresh
  · dsimp only
    rw [follows.config, balanced.mono]
  · exact tagged_moveOn follows balanced.tagged
  · exact fun t member => passed_moveOn follows (balanced.passed t member)
  · refine balanced.ordered.sublist (List.Sublist.append_left ?_ _)
    rw [whole]
    exact List.sublist_append_right _ _
  · have total := balanced.conserved
    rw [whole] at total
    refine total.trans (List.Perm.append_left _ ?_)
    rw [List.append_assoc]
    refine List.Perm.append_left _ ?_
    rw [← List.append_assoc, ← List.append_assoc]
    exact List.perm_append_comm.append_right _
  · exact balanced.distinct
  · exact balanced.recent
  · dsimp only
    rw [List.length_append, amount, ← balanced.drainedCount, taken,
      List.length_take, Nat.min_eq_left enough, Nat.add_assoc]

/-- The delivery loop moves frames from the buffer to the output. -/
theorem deliver (balanced : Balanced before L) (numFrames : Nat)
    (first : L.buffer.hasFirstPacket = true) :
    let d := JitterBuffer.deliver numFrames numFrames ⟨L.buffer, 0, []⟩
    ∃ n, Follows L.buffer n d.buffer ∧
      Balanced before
        { L with
          buffer := d.buffer
          head := L.head + n
          output := L.output ++ d.dest } := by
  intro d
  obtain ⟨n, delivered⟩ :=
    Delivered.deliver balanced.sound.toWellFormed balanced.tagged.isSome
      numFrames numFrames
  change Delivered L.buffer n d at delivered
  have follows := delivered.follows
  have total := balanced.conserved
  have sorted := balanced.ordered
  rw [delivered.taken] at total sorted
  refine ⟨n, follows, ?_⟩
  constructor
  · refine ⟨delivered.wf, fun fresh => ?_⟩
    have kept : d.buffer.hasFirstPacket = L.buffer.hasFirstPacket :=
      deliver_induction
        (motive := fun e => e.buffer.hasFirstPacket = L.buffer.hasFirstPacket)
        (fun e _ same => by rw [deliverStep_hasFirstPacket, same]) _ _ rfl
    dsimp only at fresh
    rw [kept, first] at fresh
    cases fresh
  · dsimp only
    rw [follows.config, balanced.mono]
  · exact tagged_moveOn follows balanced.tagged
  · intro t member
    rcases List.mem_append.1 member with old | new
    · exact passed_moveOn follows (balanced.passed t old)
    · obtain ⟨i, packet, held, inside, place⟩ := delivered.behind _ new rfl
      obtain ⟨s, same, epoch, number, _⟩ :=
        balanced.tagged.mem_packet held inside
      obtain rfl := Option.some.inj same
      refine Or.inr ⟨epoch, ?_⟩
      rcases place with passed | ⟨rfl, playing⟩
      · exact Or.inl (by dsimp only; omega)
      · exact Or.inr ⟨number, playing⟩
  · dsimp only
    rw [List.filter_append, List.append_assoc]
    exact sorted
  · dsimp only
    rw [List.filter_append, List.append_assoc]
    refine total.trans (List.Perm.append_left _ ?_)
    simp only [← List.append_assoc]
    refine List.Perm.append_right _ ?_
    refine List.perm_append_comm.trans ?_
    rw [List.append_assoc]
  · exact balanced.distinct
  · exact balanced.recent
  · dsimp only
    rw [delivered.drained]
    exact balanced.drainedCount

theorem popFrames (balanced : Balanced before L) (hasDest : Bool)
    (numFrames : Nat) (nowMs : Clock) :
    Balanced before (L.popFrames hasDest numFrames nowMs) := by
  unfold Ledger.popFrames
  dsimp only
  by_cases playing : hasDest ∧ numFrames ≠ 0 ∧ L.buffer.isReady
  · obtain ⟨dest, some, ready⟩ := playing
    have first : L.buffer.hasFirstPacket = true := by
      simp only [isReady, Bool.and_eq_true] at ready
      exact ready.2
    obtain ⟨m, toDrained, drained⟩ := balanced.drain nowMs first
    obtain ⟨n, toEnd, delivered⟩ :=
      drained.deliver numFrames (by
        dsimp only
        rw [drainToTarget_hasFirstPacket, first])
    rw [popFrames_of_ready dest some ready, if_pos ⟨dest, some, ready⟩]
    dsimp only
    rw [toDrained.ahead_trans toEnd, ← Nat.add_assoc]
    exact delivered.tick.setReplies _
  · obtain ⟨frames, k, same⟩ := popFrames_of_idle playing nowMs
    rw [same, if_neg playing]
    dsimp only
    rw [ahead_self, Nat.add_zero]
    exact (balanced.silence k).tick.setReplies _

theorem call {σ : Type} (balanced : Balanced before L) (x : StreamCall σ) :
    Balanced before (L.call x) := by
  cases x with
  | pushPacket seqNum timestampUs pcmData numFrames nowMs =>
      exact balanced.pushPacket seqNum timestampUs _ numFrames nowMs
  | popFrames hasDest numFrames nowMs =>
      exact balanced.popFrames hasDest numFrames nowMs

theorem run {σ : Type} (balanced : Balanced before L)
    (calls : List (StreamCall σ)) : Balanced before (L.run calls) := by
  induction calls generalizing L with
  | nil => exact balanced
  | cons x calls inductionHypothesis =>
      exact inductionHypothesis (balanced.call x)

end Balanced

end Ledger

/-! ## The samples behind the tags -/

section Samples

variable {σ : Type}

theorem Ledger.call_calls (L : Ledger) (x : StreamCall σ) :
    (L.call x).calls = L.calls + 1 := by
  cases x with
  | pushPacket _ _ _ _ _ => rfl
  | popFrames _ _ _ => rfl

def renderReply {φ : Type} (block : φ → List σ) : Reply φ → Reply σ
  | .configured => .configured
  | .pushed stored => .pushed stored
  | .popped result => .popped (renderResult block result)

/-- The samples that the pops of a run have written. -/
def popped {φ : Type} (replies : List (Reply φ)) : List φ :=
  replies.flatMap fun
    | .popped result => result.dest
    | _ => []

theorem popped_map_renderReply {φ : Type} (block : φ → List σ)
    (replies : List (Reply φ)) :
    popped (replies.map (renderReply block)) = (popped replies).flatMap block := by
  rw [popped, popped, List.flatMap_map, List.flatMap_assoc]
  refine List.flatMap_congr fun reply _ => ?_
  cases reply <;> rfl

theorem Ledger.run_output {L : Ledger} (noted : L.output = popped L.replies)
    (calls : List (StreamCall σ)) :
    (L.run calls).output = popped (L.run calls).replies := by
  induction calls generalizing L with
  | nil => exact noted
  | cons x calls inductionHypothesis =>
      refine inductionHypothesis ?_
      cases x with
      | pushPacket seqNum timestampUs pcmData numFrames nowMs =>
          have kept :
              (L.call (.pushPacket seqNum timestampUs pcmData numFrames
                nowMs)).output = L.output := by
            simp only [Ledger.call, Ledger.pushPacket, apply_ite Ledger.output,
              Ledger.Balanced.land_output, ite_self]
          have silent :
              (L.call (.pushPacket seqNum timestampUs pcmData numFrames
                nowMs)).replies = L.replies ++ [.pushed _] := rfl
          rw [kept, noted, silent, popped, popped, List.flatMap_append]
          exact (List.append_nil _).symm
      | popFrames hasDest numFrames nowMs =>
          have answered :
              (L.call (.popFrames hasDest numFrames nowMs : StreamCall σ)).replies =
                L.replies ++
                  [.popped (L.buffer.popFrames hasDest numFrames nowMs).2] := rfl
          rw [answered, popped, List.flatMap_append, List.flatMap_singleton]
          exact congrArg (· ++ _) noted

/-- The ledger at the beginning of a stream. -/
def Ledger.start (b : JitterBuffer σ) : Ledger :=
  { buffer := render 1 (fun _ => []) b }

theorem Ledger.balanced_start (b : JitterBuffer σ) (config : AudioConfig)
    (latency : Nat) :
    Balanced b.stats.drainedFrames (Ledger.start (b.configure config latency)) := by
  have vacant : (Ledger.start (b.configure config latency)).buffer.Vacant :=
    fun _ => rfl
  constructor
  · exact ⟨vacant.wellFormed rfl, fun _ => vacant⟩
  · rfl
  · intro i packet present
    rw [vacant.held] at present
    cases present
  · intro t member
    cases member
  · rw [vacant.pending]
    exact List.Pairwise.nil
  · rw [vacant.pending]
    exact List.Perm.refl _
  · exact List.nodup_nil
  · intro t member
    cases member
  · rfl

variable [Zero σ]

/-- Sample `j` behind the pointer of the `push`-th call. -/
def sampleAt (calls : List (StreamCall σ)) (push j : Nat) : σ :=
  match calls[push]? with
  | some (.pushPacket _ _ (some source) _ _) => source j
  | _ => 0

/-- The samples of a tagged frame. -/
def sampleBlock (channels : Nat) (calls : List (StreamCall σ)) :
    TaggedFrame → List σ
  | none => List.replicate channels 0
  | some t =>
      (List.range channels).map fun c =>
        sampleAt calls t.packet.push (t.frame * channels + c)

theorem layout_sampleBlock (channels : Nat) (calls : List (StreamCall σ)) :
    Layout channels (sampleBlock channels calls) where
  uniform frame := by
    cases frame with
    | none => exact List.length_replicate
    | some t => rw [sampleBlock, List.length_map, List.length_range]
  silence := rfl

/-- What the calls return. -/
def replies (b : JitterBuffer σ) : List (StreamCall σ) → List (Reply σ)
  | [] => []
  | x :: calls => (b.call x.toCall).2 :: replies (b.call x.toCall).1 calls

/-- One call on the samples is the call on the tagged frames. -/
theorem Ledger.call_render {channels : Nat} {calls : List (StreamCall σ)}
    {L : Ledger} (mono : L.buffer.config.channels = 1) {x : StreamCall σ}
    (current : calls[L.calls]? = some x) :
    let block := sampleBlock channels calls
    ∃ reply, (L.call x).replies = L.replies ++ [reply] ∧
      (render channels block L.buffer).call x.toCall =
        (render channels block (L.call x).buffer, renderReply block reply) := by
  intro block
  cases x with
  | pushPacket seqNum timestampUs pcmData numFrames nowMs =>
      refine ⟨_, rfl, ?_⟩
      cases pcmData with
      | none =>
          change
            ((render channels block L.buffer), Reply.pushed false) =
              (render channels block L.buffer, Reply.pushed false)
          rfl
      | some source =>
          have written :
              ∀ j, block (some ⟨L.nextTag seqNum, j⟩) =
                (List.range channels).map fun c =>
                  source (j * channels + c) := by
            intro j
            have here : ∀ i, sampleAt calls L.calls i = source i := by
              intro i
              rw [sampleAt, current]
            change
              (List.range channels).map
                  (fun c => sampleAt calls L.calls (j * channels + c)) = _
            simp only [here]
          have same := pushPacket_render mono written seqNum timestampUs numFrames nowMs
          change
            (((render channels block L.buffer).pushPacket seqNum timestampUs
                (some source) numFrames nowMs).1,
              Reply.pushed ((render channels block L.buffer).pushPacket seqNum
                timestampUs (some source) numFrames nowMs).2) = _
          rw [same]
          rfl
  | popFrames hasDest numFrames nowMs =>
      refine ⟨_, rfl, ?_⟩
      have same :=
        popFrames_render (layout_sampleBlock channels calls) mono hasDest
          numFrames nowMs
      change
        (((render channels block L.buffer).popFrames hasDest numFrames nowMs).1,
          Reply.popped
            ((render channels block L.buffer).popFrames hasDest numFrames
              nowMs).2) = _
      rw [same]
      rfl

/-- A run on the samples is the run on the tagged frames. -/
theorem Ledger.Balanced.run_render {before channels : Nat}
    {calls : List (StreamCall σ)} :
    ∀ (rest done : List (StreamCall σ)) {L : Ledger}, Balanced before L →
      calls = done ++ rest → L.calls = done.length →
        let block := sampleBlock channels calls
        (L.run rest).replies.map (renderReply block) =
            L.replies.map (renderReply block) ++
              (render channels block L.buffer).replies rest ∧
          (render channels block L.buffer).run (rest.map StreamCall.toCall) =
            render channels block (L.run rest).buffer
  | [], _, L, _, _, _ => ⟨(List.append_nil _).symm, rfl⟩
  | x :: rest, done, L, balanced, whole, now => by
      intro block
      have current : calls[L.calls]? = some x := by
        rw [whole, now, List.getElem?_append_right (Nat.le_refl _), Nat.sub_self]
        rfl
      obtain ⟨reply, noted, called⟩ :=
        @Ledger.call_render σ _ channels calls L balanced.mono x current
      have later : calls = (done ++ [x]) ++ rest := by
        rw [whole, List.append_assoc]
        rfl
      have further : (L.call x).calls = (done ++ [x]).length := by
        rw [Ledger.call_calls, now, List.length_append]
        rfl
      obtain ⟨answers, final⟩ :=
        @run_render _ channels calls rest (done ++ [x]) _ (balanced.call x) later further
      change
        (render channels block L.buffer).call x.toCall =
          (render channels block (L.call x).buffer, renderReply block reply)
        at called
      constructor
      · rw [JitterBuffer.replies, called]
        change ((L.call x).run rest).replies.map (renderReply block) = _
        rw [answers, noted, List.map_append, List.append_assoc]
        rfl
      · rw [List.map_cons]
        change
          ((render channels block L.buffer).call x.toCall).1.run
            (rest.map StreamCall.toCall) = _
        rw [called]
        exact final

/-- The account that a ledger gives of a stream of calls: the stream is the run
of the ledger written out as samples; the tagged frames of the output appear
once and in playhead order; and the frames of the accepted pushes are divided
among the output, the drain, the resyncs and the buffer. -/
structure Accounts (channels : Nat) (start : JitterBuffer σ)
    (calls : List (StreamCall σ)) (L : Ledger) : Prop where
  answers :
    start.replies calls =
      L.replies.map (renderReply (sampleBlock channels calls))
  output :
    popped (start.replies calls) = L.output.flatMap (sampleBlock channels calls)
  buffer :
    start.run (calls.map StreamCall.toCall) =
      render channels (sampleBlock channels calls) L.buffer
  pending :
    (start.run (calls.map StreamCall.toCall)).pending =
      L.buffer.pending.flatMap (sampleBlock channels calls)
  once : (L.output.filter Option.isSome).Nodup
  inOrder : (L.output.filter Option.isSome).Pairwise InOrder
  distinct : L.accepted.Nodup
  divided :
    L.accepted.Perm
      (L.output.filter Option.isSome ++
        (L.drained ++ (L.discarded ++ L.buffer.pending)))
  drained :
    start.stats.drainedFrames + L.drained.length =
      (start.run (calls.map StreamCall.toCall)).stats.drainedFrames
  ahead :
    ∀ t, some t ∈ L.buffer.pending →
      t.packet.epoch = L.epoch ∧
        (L.head < t.packet.number ∨
          t.packet.number = L.head ∧ L.buffer.slotFrameOffset ≤ t.frame)

/-- After a configuration, every stream of pushes and pops accounts for every
accepted frame. -/
theorem stream_accounts (b : JitterBuffer σ) (config : AudioConfig)
    (latency : Nat) (calls : List (StreamCall σ)) :
    Accounts config.channels (b.configure config latency) calls
      ((Ledger.start (b.configure config latency)).run calls) := by
  have begun := Ledger.balanced_start b config latency
  have balanced := begun.run calls
  obtain ⟨answers, final⟩ :=
    @Ledger.Balanced.run_render σ _ _ config.channels calls calls [] _ begun rfl rfl
  have start :
      render config.channels (sampleBlock config.channels calls)
          (Ledger.start (b.configure config latency)).buffer =
        b.configure config latency := rfl
  rw [start] at answers final
  have output :=
    Ledger.run_output (L := Ledger.start (b.configure config latency)) rfl calls
  have replied :
      (b.configure config latency).replies calls =
        ((Ledger.start (b.configure config latency)).run calls).replies.map
          (renderReply (sampleBlock config.channels calls)) :=
    answers.symm
  have divided := balanced.conserved
  exact
    { answers := replied
      output := by rw [replied, popped_map_renderReply, output]
      buffer := final
      pending := by
        rw [final,
          pending_render (layout_sampleBlock config.channels calls) balanced.mono]
      once := (List.nodup_append.1 (divided.nodup_iff.1 balanced.distinct)).1
      inOrder := (List.pairwise_append.1 balanced.ordered).1
      distinct := balanced.distinct
      divided := divided
      drained := by
        rw [final]
        exact balanced.drainedCount
      ahead := fun t member => balanced.tagged.not_passed balanced.mono member }

end Samples

end AudioRouter.JitterBuffer
