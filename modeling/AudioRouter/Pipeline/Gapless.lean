import AudioRouter.Pipeline.Forward

/-!
# Nothing is missing on a reliable transport

Behind the USB tunnel every packet arrives, once and in order.  Then the jitter buffer
accepts all of them, and as long as it has neither drained nor skipped anything, what has
been played is a prefix of the captured stream, with nothing but silence in between.
-/

namespace AudioRouter.Pipeline

open Protocol Server Client JitterBuffer Transition SequenceWindow

/-- How many packets have arrived, if all up to the newest one have. -/
def arrived : Option Nat → Nat
  | none => 0
  | some m => m + 1

/-- The next packet arrives, and no other one. -/
def InOrder (S : Pipeline) : Event → Prop
  | .arrives k _ => k = arrived S.newest
  | _ => True

def Reliable (client : Address) (config : AudioConfig) (S : Pipeline) (event : Event) :
    Prop :=
  S.InSession client config event ∧ S.InOrder event

instance (S : Pipeline) : ∀ event, Decidable (S.InOrder event)
  | .arrives k _ => inferInstanceAs (Decidable (k = arrived S.newest))
  | .serves _ | .plays _ _ _ => inferInstanceAs (Decidable True)

instance (client : Address) (config : AudioConfig) (S : Pipeline) (event : Event) :
    Decidable (S.Reliable client config event) :=
  inferInstanceAs (Decidable (_ ∧ _))

theorem inTime_next (newest : Option Nat) : InTime (arrived newest) newest := by
  intro m known
  rw [Option.mem_def.1 known]
  unfold arrived
  dsimp only
  omega

theorem newer_next (newest : Option Nat) :
    newer (arrived newest) newest = arrived newest := by
  cases newest with
  | none => rfl
  | some m => exact Nat.max_eq_right (Nat.le_succ m)

theorem Reliable.regular {client : Address} {config : AudioConfig} {S : Pipeline}
    {event : Event} (reliable : S.Reliable client config event) :
    S.Regular client config event := by
  refine ⟨reliable.1, ?_⟩
  cases event with
  | arrives k nowMs =>
      have next : k = arrived S.newest := reliable.2
      rw [next]
      exact inTime_next S.newest
  | serves _ | plays _ _ _ => trivial

/-- All frames of the arrived packets have been accepted, and none has been thrown away by
a jump unless an overrun has been counted. -/
structure Complete (index : Nat → Nat) (frames overruns : Nat) (newest : Option Nat)
    (L : Ledger) : Prop where
  accepted :
    L.accepted.map (Option.map (position index frames)) =
      (List.range (arrived newest * frames)).map some
  least : overruns ≤ L.buffer.stats.overruns
  calm : L.buffer.stats.overruns = overruns → L.discarded = []

section

variable {first : SeqNum} {index : Nat → Nat} {frames overruns before : Nat}
  {newest : Option Nat} {L : Ledger}

theorem map_position_frames (tag : PacketTag) :
    (tag.frames frames).map (Option.map (position index frames)) =
      (List.range frames).map fun j => some (index tag.push * frames + j) := by
  rw [PacketTag.frames, List.map_map]
  rfl

/-- The frames of one more packet. -/
theorem range_succ_mul (n : Nat) :
    (List.range (n * frames)).map some ++
        ((List.range frames).map fun j => some (n * frames + j)) =
      (List.range ((n + 1) * frames)).map some := by
  rw [Nat.succ_mul, List.range_add, List.map_append, List.map_map]
  rfl

theorem Complete.reindex {other : Nat → Nat} (complete : Complete index frames overruns newest L)
    (same : ∀ t, some t ∈ L.accepted → other t.packet.push = index t.packet.push) :
    Complete other frames overruns newest L := by
  refine ⟨?_, complete.least, complete.calm⟩
  rw [← complete.accepted]
  refine List.map_congr_left fun x member => ?_
  cases x with
  | none => rfl
  | some t =>
      simp only [Option.map_some, position]
      rw [same t member]

/-- A packet that lands in the window leaves the discarded frames as they are; a jump is
counted as an overrun. -/
theorem land_overruns {seqNum : SeqNum}
    (forward : 0 ≤ (L.buffer.noteArrival seqNum).seqDiff seqNum) :
    ((L.land seqNum).discarded = L.discarded ∧
        (L.buffer.landing seqNum).stats.overruns = L.buffer.stats.overruns) ∨
      (L.buffer.landing seqNum).stats.overruns = L.buffer.stats.overruns + 1 := by
  by_cases jumps : (L.buffer.noteArrival seqNum).IsJump seqNum
  · refine Or.inr ?_
    have far := jumps.resolve_left (by omega)
    rw [landing, followJump, if_neg (by omega), if_pos far]
    rfl
  · refine Or.inl ⟨?_, ?_⟩
    · rw [land_of_stays jumps]
    · rw [landing, followJump_of_not_isJump jumps]
      rfl

/-- The next packet is at the playhead or ahead of it. -/
theorem Tracks.next_forward (tracks : Tracks first index frames newest L) :
    0 ≤ (L.buffer.noteArrival (first + BitVec.ofNat 32 (arrived newest))).seqDiff
      (first + BitVec.ofNat 32 (arrived newest)) := by
  cases tracks with
  | waiting fresh head accepted =>
      rw [JitterBuffer.seqDiff, noteArrival_nextPlaySeq, fresh]
      simp
  | @playing _ m started base stands =>
      have distance := stands.seqDiff (inTime_next (some m))
      have notPast := stands.notPast
      rw [noteArrival_seqDiff started, distance, arrived]
      omega

/-- Its slot is free. -/
theorem Tracks.next_absent (tracks : Tracks first index frames newest L)
    (balanced : Ledger.Balanced before L) {seqNum : SeqNum}
    (number : first + BitVec.ofNat 32 (arrived newest) = seqNum) :
    (L.buffer.landing seqNum).held
      (ahead (L.buffer.landing seqNum).nextPlaySeq seqNum) = none := by
  by_cases jumps : (L.buffer.noteArrival seqNum).IsJump seqNum
  · have vacant : (L.buffer.landing seqNum).Vacant := (followJump_of_isJump jumps).1
    exact vacant.held _
  have same : L.buffer.landing seqNum = L.buffer.noteArrival seqNum :=
    followJump_of_not_isJump jumps
  have held : (L.buffer.noteArrival seqNum).held = L.buffer.held :=
    balanced.sound.held_noteArrival seqNum
  rw [same, held]
  cases tracks with
  | waiting fresh head accepted => exact (balanced.sound.fresh fresh).held _
  | @playing _ m started base stands =>
      have notPast := stands.notPast
      have distance := stands.seqDiff (inTime_next (some m))
      have reached : base + L.head ≤ arrived (some m) := notPast
      have inWindow : arrived (some m) < base + L.head + maxSlots := by
        rw [number, ← noteArrival_seqDiff started] at distance
        simp only [IsJump, distance, not_or] at jumps
        omega
      have steps := stands.distance reached inWindow
      rw [number] at steps
      rw [noteArrival_next started, steps]
      by_contra present
      have before := stands.ends _ (Option.isSome_iff_ne_none.2 present)
      exact absurd before (Nat.lt_irrefl _)

/-- The next packet is accepted. -/
theorem Complete.push (complete : Complete index frames overruns newest L)
    (tracks : Tracks first index frames newest L) (balanced : Ledger.Balanced before L)
    (pushed : index L.calls = arrived newest) (positive : 1 ≤ frames)
    (timestampUs nowMs : Clock) :
    Complete index frames overruns (some (arrived newest))
      (L.pushPacket (first + BitVec.ofNat 32 (arrived newest)) timestampUs true frames
        nowMs) := by
  have forward := tracks.next_forward
  have absent := tracks.next_absent balanced rfl
  generalize first + BitVec.ofNat 32 (arrived newest) = seqNum at forward absent ⊢
  have outcome :=
    balanced.sound.pushPacket_outcome seqNum timestampUs
      (some fun j => some ⟨L.nextTag seqNum, j⟩) frames nowMs
  unfold Ledger.pushPacket
  dsimp only
  rw [if_pos rfl]
  generalize
    L.buffer.pushPacket seqNum timestampUs (some fun j => some ⟨L.nextTag seqNum, j⟩)
      frames nowMs = r at outcome ⊢
  cases outcome with
  | ignored noData =>
      rcases noData with none | zero
      · cases none
      · omega
  | late isLate => exact absurd isLate.1 (by omega)
  | duplicate notLate present =>
      rw [absent] at present
      cases present
  | stored source data positive notLate absent =>
      obtain rfl := Option.some.inj data
      have least := complete.least
      have stats : (L.buffer.accept seqNum timestampUs (fun j => some ⟨L.nextTag seqNum, j⟩)
          frames nowMs).stats.overruns = (L.buffer.landing seqNum).stats.overruns := by
        rw [accept_stats]
      refine ⟨?_, ?_, ?_⟩
      · dsimp only
        rw [if_pos rfl, List.map_append, complete.accepted, map_position_frames]
        have tag : index (L.nextTag seqNum).push = arrived newest := pushed
        rw [tag]
        exact range_succ_mul (arrived newest)
      · dsimp only
        rw [stats]
        rcases land_overruns forward with ⟨_, same⟩ | more <;> omega
      · dsimp only
        rw [stats, if_pos rfl]
        intro unchanged
        rcases land_overruns forward with ⟨discarded, same⟩ | more
        · exact discarded.trans (complete.calm (same ▸ unchanged))
        · omega

/-- A pop counts no overrun. -/
theorem popFrames_overruns (b : JitterBuffer TaggedFrame) (hasDest : Bool) (numFrames : Nat)
    (nowMs : Clock) :
    (b.popFrames hasDest numFrames nowMs).1.stats.overruns = b.stats.overruns := by
  have drained : (b.drainToTarget nowMs).stats.overruns = b.stats.overruns := by
    unfold JitterBuffer.drainToTarget
    dsimp only
    split
    · rfl
    · exact
        advancePlayhead_keeps (fun c => c.stats.overruns) (fun _ => rfl) (fun _ => rfl)
          (fun _ _ => rfl) _ _
  unfold JitterBuffer.popFrames
  split
  · rfl
  · split
    · rfl
    · refine Eq.trans ?_ drained
      exact
        deliver_keeps (fun c => c.stats.overruns) (fun _ => rfl) (fun _ _ => rfl)
          (fun _ => rfl) (fun _ => rfl) numFrames numFrames _

theorem Complete.pop (complete : Complete index frames overruns newest L) (hasDest : Bool)
    (numFrames : Nat) (nowMs : Clock) :
    Complete index frames overruns newest (L.popFrames hasDest numFrames nowMs) := by
  have same : (L.popFrames hasDest numFrames nowMs).buffer.stats.overruns =
      L.buffer.stats.overruns :=
    popFrames_overruns L.buffer hasDest numFrames nowMs
  refine ⟨complete.accepted, ?_, ?_⟩
  · rw [same]
    exact complete.least
  · rw [same]
    exact complete.calm

/-- Of a complete stream that is in order, what comes first is a beginning. -/
theorem eq_range_of_sorted {played waiting : List Nat} {n : Nat}
    (sorted : (played ++ waiting).Pairwise (· < ·))
    (all : (List.range n).Perm (played ++ waiting)) :
    played = List.range played.length := by
  have same : List.range n = played ++ waiting := by
    refine all.eq_of_pairwise ?_ List.pairwise_lt_range sorted
    intro a b _ _ less more
    exact absurd less (Nat.lt_asymm more)
  have front := congrArg (List.take played.length) same
  rw [List.take_left, List.take_range] at front
  have few : played.length ≤ n := by
    have lengths := congrArg List.length same
    rw [List.length_range, List.length_append] at lengths
    omega
  rw [Nat.min_eq_left few] at front
  exact front.symm

/-- Where nothing was drained and no overrun counted, the frames that were put out are a
beginning of those accepted. -/
theorem Complete.gapless (complete : Complete index frames overruns newest L)
    (balanced : Ledger.Balanced before L) (ordered : Ordered index frames L.accepted)
    (calm : L.buffer.stats.overruns = overruns)
    (undrained : L.buffer.stats.drainedFrames = before) :
    ∃ n, (L.output.map (Option.map (position index frames))).filterMap id = List.range n := by
  have drained : L.drained = [] := by
    have count := balanced.drainedCount
    exact List.eq_nil_of_length_eq_zero (by omega)
  have perm := balanced.conserved
  rw [drained, complete.calm calm, List.nil_append, List.nil_append] at perm
  have places := (perm.map (Option.map (position index frames))).filterMap id
  rw [complete.accepted, List.map_append, List.filterMap_append] at places
  have sorted :
      (((L.output.filter Option.isSome).map (Option.map (position index frames))).filterMap id ++
        (L.buffer.pending.map (Option.map (position index frames))).filterMap id).Pairwise
          (· < ·) := by
    rw [← List.filterMap_append, ← List.map_append]
    refine List.pairwise_filterMap.2 (List.pairwise_map.2 ?_)
    refine List.Pairwise.imp_of_mem ?_ balanced.ordered
    intro x y xIn yIn inOrder i iIs j jIs
    obtain ⟨s, rfl, rfl⟩ := Option.map_eq_some_iff.1 iIs
    obtain ⟨t, rfl, rfl⟩ := Option.map_eq_some_iff.1 jIs
    exact ordered s t (perm.mem_iff.2 xIn) (perm.mem_iff.2 yIn) (inOrder s t rfl rfl)
  have silent :
      ((L.output.filter Option.isSome).map (Option.map (position index frames))).filterMap id =
        (L.output.map (Option.map (position index frames))).filterMap id := by
    rw [List.filterMap_map, List.filterMap_map, List.filterMap_filter]
    refine List.filterMap_congr fun x _ => ?_
    cases x <;> rfl
  have all : (List.filterMap id ((List.range (arrived newest * frames)).map some)) =
      List.range (arrived newest * frames) := by
    rw [List.filterMap_map]
    exact List.filterMap_some
  rw [all] at places
  exact ⟨_, silent ▸ eq_range_of_sorted sorted places⟩

end

section

variable {s : Server} {config clientConfig : AudioConfig} {client : Address}
  {b : JitterBuffer (Option UInt16)} {latency : Nat} {S T : Pipeline}

/-- The session is linked, and complete. -/
def Faithful (s : Server) (config clientConfig : AudioConfig)
    (b : JitterBuffer (Option UInt16)) (latency : Nat) (S : Pipeline) : Prop :=
  ∃ calls index,
    Linked s config (b.configure clientConfig latency) calls index S ∧
      Complete index config.framesPerPacket b.stats.overruns S.newest
        ((Ledger.start (b.configure clientConfig latency)).run calls)

theorem Faithful.step (valid : config.Valid)
    (frames : s.config.framesPerPacket = config.framesPerPacket)
    (faithful : Faithful s config clientConfig b latency S) {event : Event}
    (reliable : S.Reliable client config event) (stepped : S.step event = some T) :
    Faithful s config clientConfig b latency T := by
  obtain ⟨calls, index, linked, complete⟩ := faithful
  have balanced := (Ledger.balanced_start b clientConfig latency).run calls
  cases event with
  | serves action =>
      obtain ⟨r, served, rfl⟩ := Option.map_eq_some_iff.1 stepped
      exact ⟨calls, index, linked.serve reliable.1.1 reliable.1.2 served, complete⟩
  | plays hasDest numFrames nowMs =>
      obtain rfl := Option.some.inj stepped
      refine ⟨_, index, linked.play hasDest numFrames nowMs, ?_⟩
      rw [Ledger.run_append_singleton]
      exact complete.pop hasDest numFrames nowMs
  | arrives k nowMs =>
      have next : k = arrived S.newest := reliable.2
      rw [Pipeline.step] at stepped
      cases built : S.server.packets[k]? with
      | none =>
          rw [built] at stepped
          cases stepped
      | some p =>
          rw [built] at stepped
          dsimp only at stepped
          split at stepped
          · cases handed : audioCall (receiveFrom recvBufSize p.datagram) nowMs with
            | none =>
                rw [handed] at stepped
                obtain rfl := Option.some.inj stepped
                exact ⟨calls, index, linked, complete⟩
            | some call =>
                rw [handed] at stepped
                obtain rfl := Option.some.inj stepped
                obtain ⟨timestampUs, source, linkedToo⟩ :=
                  linked.hand valid frames built reliable.regular.2 handed
                refine ⟨_, _, linkedToo, ?_⟩
                have now :
                    ((Ledger.start (b.configure clientConfig latency)).run calls).calls =
                      calls.length := by
                  rw [Ledger.run_calls]
                  exact Nat.zero_add _
                have same : ∀ t,
                    some t ∈
                        ((Ledger.start (b.configure clientConfig latency)).run calls).accepted →
                      Function.update index calls.length k t.packet.push =
                        index t.packet.push := by
                  intro t member
                  have recent := balanced.recent t member
                  rw [now] at recent
                  exact Function.update_of_ne (Nat.ne_of_lt recent) _ _
                dsimp only
                rw [Ledger.run_append_singleton, next, newer_next]
                rw [next] at same
                exact
                  (complete.reindex same).push (linked.tracks.reindex same) balanced
                    (by rw [now, Function.update_self]) valid.framesPerPacket.1 timestampUs nowMs
          · cases stepped

end

section Reliably

/-- The packets arrive in order, and two reads take ten frames. -/
def reliably : List Event :=
  block 0 ++ block 16 ++ block 32 ++
    [.arrives 0 0, .arrives 1 0, .arrives 2 0, .plays true 7 0, .plays true 3 0]

end Reliably

end AudioRouter.Pipeline
