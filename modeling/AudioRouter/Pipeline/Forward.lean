import AudioRouter.Pipeline.Sender

/-!
# What is played is the captured stream, forward

Whatever the threads of both sides do and whatever the transport loses, doubles or
exchanges, the client plays frames of what the server has captured, each once at most and
in the order of the capture, with silence between them.
-/

namespace AudioRouter

open Protocol Server Client JitterBuffer Transition

/-! ## Calls one after the other -/

theorem JitterBuffer.Ledger.run_calls {σ : Type} (calls : List (StreamCall σ)) :
    ∀ L : Ledger, (L.run calls).calls = L.calls + calls.length := by
  induction calls with
  | nil => exact fun _ => rfl
  | cons x calls inductionHypothesis =>
      intro L
      have later := inductionHypothesis (L.call x)
      rw [Ledger.call_calls] at later
      rw [List.length_cons]
      exact later.trans (by omega)

theorem JitterBuffer.Ledger.run_append_singleton {σ : Type} (L : Ledger)
    (calls : List (StreamCall σ)) (x : StreamCall σ) :
    L.run (calls ++ [x]) = (L.run calls).call x :=
  List.foldl_append

section

variable {σ : Type} [Zero σ]

theorem JitterBuffer.run_append_singleton (b : JitterBuffer σ) (calls : List (StreamCall σ))
    (x : StreamCall σ) :
    b.run ((calls ++ [x]).map StreamCall.toCall) =
      ((b.run (calls.map StreamCall.toCall)).call x.toCall).1 := by
  rw [List.map_append]
  exact List.foldl_append

theorem JitterBuffer.replies_append_singleton (calls : List (StreamCall σ))
    (x : StreamCall σ) :
    ∀ b : JitterBuffer σ,
      b.replies (calls ++ [x]) =
        b.replies calls ++ [((b.run (calls.map StreamCall.toCall)).call x.toCall).2] := by
  induction calls with
  | nil => exact fun _ => rfl
  | cons y calls inductionHypothesis =>
      intro b
      rw [List.cons_append, JitterBuffer.replies, JitterBuffer.replies, inductionHypothesis]
      rfl

theorem JitterBuffer.sampleAt_append {calls : List (StreamCall σ)} {push : Nat}
    (before : push < calls.length) (x : StreamCall σ) (j : Nat) :
    sampleAt (calls ++ [x]) push j = sampleAt calls push j := by
  rw [sampleAt, sampleAt, List.getElem?_append_left before]

end

/-- A push stores its packet or nothing. -/
theorem JitterBuffer.Ledger.pushPacket_accepted (L : Ledger) (seqNum : SeqNum)
    (timestampUs : Clock) (hasData : Bool) (numFrames : Nat) (nowMs : Clock) :
    (L.pushPacket seqNum timestampUs hasData numFrames nowMs).accepted = L.accepted ∨
      (L.pushPacket seqNum timestampUs hasData numFrames nowMs).accepted =
        L.accepted ++ (L.nextTag seqNum).frames numFrames := by
  unfold Ledger.pushPacket
  dsimp only
  generalize
    L.buffer.pushPacket seqNum timestampUs
      (if hasData then some fun j => some ⟨L.nextTag seqNum, j⟩ else none)
      numFrames nowMs = r
  cases r.2 with
  | true => exact Or.inr rfl
  | false => exact Or.inl rfl

namespace Pipeline

/-- The calls that the jitter buffer has had since it was configured, the packets that
they have pushed, and where their samples are. -/
structure Linked (s : Server) (config : AudioConfig) (start : JitterBuffer (Option UInt16))
    (calls : List (StreamCall (Option UInt16))) (index : Nat → Nat) (S : Pipeline) : Prop where
  numbered : S.server.Numbered s config
  client : S.client = start.run (calls.map StreamCall.toCall)
  output : S.output = popped (start.replies calls)
  tracks :
    Tracks s.sequenceNumber.toBitVec index config.framesPerPacket S.newest
      ((Ledger.start start).run calls)
  ordered :
    Ordered index config.framesPerPacket ((Ledger.start start).run calls).accepted
  sources :
    ∀ t, some t ∈ ((Ledger.start start).run calls).accepted →
      ∃ p, S.server.packets[index t.packet.push]? = some p ∧
        ∀ j, sampleAt calls t.packet.push j = pcmSample p.datagram j

section

variable {s : Server} {config clientConfig : AudioConfig} {client : Address}
  {b : JitterBuffer (Option UInt16)} {latency : Nat}
  {calls : List (StreamCall (Option UInt16))} {index : Nat → Nat} {S T : Pipeline}

theorem Linked.start (idle : s.capture = .idle) :
    Linked s config (b.configure clientConfig latency) [] index
      (begin s (b.configure clientConfig latency)) := by
  refine ⟨Recut.Numbered.start idle, rfl, rfl, .waiting rfl rfl rfl, ?_, ?_⟩
  · rintro _ _ ⟨⟩
  · rintro _ ⟨⟩

theorem Linked.serve (linked : Linked s config (b.configure clientConfig latency) calls index S)
    {action : Server.Action} {r : Recut} (streams : S.server.Streams client config action)
    (keeps : S.server.server.resetsSequence action = false)
    (stepped : S.server.step action = some r) :
    Linked s config (b.configure clientConfig latency) calls index { S with server := r } := by
  refine
    ⟨Recut.step_numbered linked.numbered streams keeps stepped, linked.client, linked.output,
      linked.tracks, linked.ordered, fun t member => ?_⟩
  obtain ⟨p, built, samples⟩ := linked.sources t member
  refine ⟨p, ?_, samples⟩
  obtain ⟨t, _, rfl⟩ := Option.map_eq_some_iff.1 stepped
  have inside := (List.getElem?_eq_some_iff.1 built).1
  dsimp only
  rw [List.getElem?_append_left inside]
  exact built

theorem Linked.play (linked : Linked s config (b.configure clientConfig latency) calls index S)
    (hasDest : Bool) (numFrames : Nat) (nowMs : Clock) :
    let r := S.client.popFrames hasDest numFrames nowMs
    Linked s config (b.configure clientConfig latency)
      (calls ++ [.popFrames hasDest numFrames nowMs]) index
      { S with client := r.1, output := S.output ++ r.2.dest } := by
  intro r
  have balanced := (Ledger.balanced_start b clientConfig latency).run calls
  refine ⟨linked.numbered, ?_, ?_, ?_, ?_, ?_⟩
  · rw [JitterBuffer.run_append_singleton, ← linked.client]
    rfl
  · rw [JitterBuffer.replies_append_singleton, popped, List.flatMap_append, ← linked.client,
      List.flatMap_singleton]
    exact congrArg (· ++ _) linked.output
  · rw [Ledger.run_append_singleton]
    exact linked.tracks.pop balanced hasDest numFrames nowMs
  · rw [Ledger.run_append_singleton]
    exact linked.ordered
  · rw [Ledger.run_append_singleton]
    intro t member
    have recent := balanced.recent t member
    rw [Ledger.run_calls] at recent
    obtain ⟨p, built, samples⟩ := linked.sources t member
    refine ⟨p, built, fun j => ?_⟩
    rw [sampleAt_append (by simpa [Ledger.start] using recent), samples]

/-- Packet `k` is handed to the jitter buffer. -/
theorem Linked.hand (linked : Linked s config (b.configure clientConfig latency) calls index S)
    (valid : config.Valid) (frames : s.config.framesPerPacket = config.framesPerPacket)
    {k : Nat} {nowMs : Clock} {p : Server.Packet} (built : S.server.packets[k]? = some p)
    (inTime : InTime k S.newest) {call : JitterBuffer.Call (Option UInt16)}
    (handed : audioCall (receiveFrom recvBufSize p.datagram) nowMs = some call) :
    ∃ timestampUs source,
      Linked s config (b.configure clientConfig latency)
        (calls ++
          [.pushPacket (s.sequenceNumber.toBitVec + BitVec.ofNat 32 k) timestampUs (some source)
            config.framesPerPacket nowMs])
        (Function.update index calls.length k)
        { S with client := (S.client.call call).1, newest := some (newer k S.newest) } := by
  obtain ⟨timestampUs, header⟩ := linked.numbered.headers k p built
  have datagram : p.datagram =
      s.audioPacket config (s.sequenceNumber + UInt32.ofNat k) timestampUs p.pcm := by
    rw [Server.Packet.datagram, header]
    rfl
  have size : p.pcm.length = s.targetChunkBytes config :=
    (linked.numbered.account.whole p (List.mem_of_getElem? built)).pcm
  rw [datagram] at handed
  obtain rfl := audioCall_audioPacket valid frames size handed
  rw [← datagram]
  have balanced := (Ledger.balanced_start b clientConfig latency).run calls
  have now : ((Ledger.start (b.configure clientConfig latency)).run calls).calls =
      calls.length := by
    rw [Ledger.run_calls]
    exact Nat.zero_add _
  have recent : ∀ t,
      some t ∈ ((Ledger.start (b.configure clientConfig latency)).run calls).accepted →
        t.packet.push < calls.length := by
    intro t member
    rw [← now]
    exact balanced.recent t member
  have same : ∀ t,
      some t ∈ ((Ledger.start (b.configure clientConfig latency)).run calls).accepted →
        Function.update index calls.length k t.packet.push = index t.packet.push :=
    fun t member => Function.update_of_ne (Nat.ne_of_lt (recent t member)) _ _
  have pushed :=
    (linked.tracks.reindex same).push (linked.ordered.reindex same) balanced inTime
      (by rw [now, Function.update_self]) valid.framesPerPacket.1 timestampUs.toBitVec nowMs
  refine
    ⟨timestampUs.toBitVec, pcmSample p.datagram, linked.numbered, ?_, ?_, ?_, ?_, ?_⟩
  · rw [JitterBuffer.run_append_singleton, ← linked.client]
    rfl
  · rw [JitterBuffer.replies_append_singleton, popped, List.flatMap_append,
      List.flatMap_singleton]
    exact linked.output.trans (List.append_nil _).symm
  · rw [Ledger.run_append_singleton]
    exact pushed.1
  · rw [Ledger.run_append_singleton]
    exact pushed.2
  · rw [Ledger.run_append_singleton]
    intro t member
    have cases := Ledger.pushPacket_accepted
      ((Ledger.start (b.configure clientConfig latency)).run calls)
      (s.sequenceNumber.toBitVec + BitVec.ofNat 32 k) timestampUs.toBitVec true
      config.framesPerPacket nowMs
    have old : some t ∈ ((Ledger.start (b.configure clientConfig latency)).run calls).accepted ∨
        t.packet.push = calls.length := by
      rcases cases with kept | stored
      · exact Or.inl (kept ▸ member)
      · rcases List.mem_append.1 (stored ▸ member) with old | new
        · exact Or.inl old
        · obtain ⟨j, _, tag⟩ := PacketTag.mem_frames.1 new
          obtain rfl := Option.some.inj tag
          exact Or.inr now
    rcases old with old | new
    · obtain ⟨q, builtToo, samples⟩ := linked.sources t old
      refine ⟨q, by rw [same t old]; exact builtToo, fun j => ?_⟩
      rw [sampleAt_append (recent t old), samples]
    · refine ⟨p, by rw [new, Function.update_self]; exact built, fun j => ?_⟩
      rw [new, sampleAt, List.getElem?_concat_length]

theorem Linked.step (valid : config.Valid)
    (frames : s.config.framesPerPacket = config.framesPerPacket)
    (linked : Linked s config (b.configure clientConfig latency) calls index S) {event : Event}
    (regular : S.Regular client config event) (stepped : S.step event = some T) :
    ∃ calls index, Linked s config (b.configure clientConfig latency) calls index T := by
  cases event with
  | serves action =>
      obtain ⟨r, served, rfl⟩ := Option.map_eq_some_iff.1 stepped
      exact ⟨calls, index, linked.serve regular.1.1 regular.1.2 served⟩
  | plays hasDest numFrames nowMs =>
      obtain rfl := Option.some.inj stepped
      exact ⟨_, index, linked.play hasDest numFrames nowMs⟩
  | arrives k nowMs =>
      rw [Pipeline.step] at stepped
      cases built : S.server.packets[k]? with
      | none =>
          rw [built] at stepped
          cases stepped
      | some p =>
          rw [built] at stepped
          dsimp only at stepped
          split at stepped
          · cases handed : audioCall (receiveFrom recvBufSize p.datagram) nowMs with
            | none =>
                rw [handed] at stepped
                obtain rfl := Option.some.inj stepped
                exact ⟨calls, index, linked⟩
            | some call =>
                rw [handed] at stepped
                obtain rfl := Option.some.inj stepped
                obtain ⟨_, _, next⟩ := linked.hand valid frames built regular.2 handed
                exact ⟨_, _, next⟩
          · cases stepped

end

/-! ## The output -/

/-- The output consists of frames of the stream in its order, and of silence. -/
structure PlaysForward (config : AudioConfig) (stream : List UInt8)
    (output : List (Option UInt16)) (positions : List (Option Nat)) : Prop where
  output : output = positions.flatMap (frameAt config.channels stream)
  forward : positions.Pairwise fun x y => ∀ i ∈ x, ∀ j ∈ y, i < j
  inside : ∀ i, some i ∈ positions → (i + 1) * config.bytesPerFrame ≤ stream.length

section

variable {s : Server} {config clientConfig : AudioConfig}
  {b : JitterBuffer (Option UInt16)} {latency : Nat}
  {calls : List (StreamCall (Option UInt16))} {index : Nat → Nat} {S : Pipeline}

theorem Tracks.frame_lt {first : SeqNum} {frames : Nat} {newest : Option Nat} {L : Ledger}
    (tracks : Tracks first index frames newest L) {t : FrameTag}
    (member : some t ∈ L.accepted) : t.frame < frames := by
  cases tracks with
  | waiting fresh head accepted =>
      rw [accepted] at member
      cases member
  | playing started base stands => exact (stands.known t member).frame

/-- The samples of an accepted frame are those of its place in the stream. -/
theorem Linked.sampleBlock_eq (s16 : config.format = .pcmS16le) (valid : config.Valid)
    (frames : s.config.framesPerPacket = config.framesPerPacket)
    (linked : Linked s config (b.configure clientConfig latency) calls index S) {t : FrameTag}
    (member :
      some t ∈ ((Ledger.start (b.configure clientConfig latency)).run calls).accepted) :
    sampleBlock config.channels calls (some t) =
        frameAt config.channels (S.captured s)
          (some (position index config.framesPerPacket t)) ∧
      (position index config.framesPerPacket t + 1) * config.bytesPerFrame ≤
        (S.captured s).length := by
  obtain ⟨p, built, samples⟩ := linked.sources t member
  obtain ⟨timestampUs, header⟩ := linked.numbered.headers _ p built
  have inPacket := linked.tracks.frame_lt member
  have account := linked.numbered.account
  have chunk : s.targetChunkBytes config = config.framesPerPacket * (2 * config.channels) := by
    rw [targetChunkBytes, targetChunkFrames_eq valid frames, bytesPerFrame_s16 s16]
  have pcm := account.pcm_eq built
  have whole := account.pcm_inside built
  have size : p.pcm.length = s.targetChunkBytes config :=
    (account.whole p (List.mem_of_getElem? built)).pcm
  unfold position
  generalize index t.packet.push = k at built pcm whole header ⊢
  constructor
  · refine List.map_congr_left fun c member => ?_
    have inFrame := List.mem_range.1 member
    have inside : 2 * (t.frame * config.channels + c) + 2 ≤ s.targetChunkBytes config := by
      have row : (t.frame + 1) * config.channels ≤ config.framesPerPacket * config.channels :=
        Nat.mul_le_mul_right _ inPacket
      rw [Nat.succ_mul] at row
      rw [chunk, Nat.mul_left_comm]
      omega
    have offset : k * s.targetChunkBytes config =
        2 * (k * config.framesPerPacket * config.channels) := by
      rw [chunk]
      ring
    have place : k * config.framesPerPacket * config.channels +
        (t.frame * config.channels + c) =
          (k * config.framesPerPacket + t.frame) * config.channels + c := by
      ring
    have datagram : p.datagram =
        s.audioPacket config (s.sequenceNumber + UInt32.ofNat k) timestampUs p.pcm := by
      rw [Server.Packet.datagram, header]
      rfl
    rw [samples, datagram, pcmSample_audioPacket (by rw [size]; exact inside), ← pcm, offset,
      sample_slice inside, place]
    rfl
  · have before : k * config.framesPerPacket + t.frame + 1 ≤
        (k + 1) * config.framesPerPacket := by
      rw [Nat.succ_mul]
      omega
    calc
      (k * config.framesPerPacket + t.frame + 1) * config.bytesPerFrame
      _ ≤ (k + 1) * config.framesPerPacket * config.bytesPerFrame :=
        Nat.mul_le_mul_right _ before
      _ = (k + 1) * s.targetChunkBytes config := by
        rw [Nat.mul_assoc, targetChunkBytes, targetChunkFrames_eq valid frames]
      _ ≤ _ := whole

/-- What the ledger has put out, read as places of the stream. -/
theorem Linked.playsForward (s16 : config.format = .pcmS16le) (valid : config.Valid)
    (frames : s.config.framesPerPacket = config.framesPerPacket)
    (channels : clientConfig.channels = config.channels)
    (linked : Linked s config (b.configure clientConfig latency) calls index S) :
    PlaysForward config (S.captured s) S.output
      (((Ledger.start (b.configure clientConfig latency)).run calls).output.map
        (Option.map (position index config.framesPerPacket))) := by
  have begun := Ledger.balanced_start b clientConfig latency
  have balanced := begun.run calls
  have answers :=
    (@Ledger.Balanced.run_render _ _ _ config.channels calls calls [] _ begun rfl rfl).1
  have start :
      render config.channels (sampleBlock config.channels calls)
          (Ledger.start (b.configure clientConfig latency)).buffer =
        b.configure clientConfig latency := by
    rw [← channels]
    rfl
  rw [start] at answers
  have output := Ledger.run_output (L := Ledger.start (b.configure clientConfig latency)) rfl calls
  have written : S.output =
      ((Ledger.start (b.configure clientConfig latency)).run calls).output.flatMap
        (sampleBlock config.channels calls) := by
    rw [linked.output, output, ← popped_map_renderReply, answers]
    rfl
  have accepted : ∀ t,
      some t ∈ ((Ledger.start (b.configure clientConfig latency)).run calls).output →
        some t ∈ ((Ledger.start (b.configure clientConfig latency)).run calls).accepted := by
    intro t member
    refine balanced.conserved.mem_iff.2 (List.mem_append_left _ ?_)
    exact List.mem_filter.2 ⟨member, rfl⟩
  refine ⟨?_, ?_, ?_⟩
  · rw [written, List.flatMap_map]
    refine List.flatMap_congr fun x member => ?_
    cases x with
    | none => rfl
    | some t => exact (linked.sampleBlock_eq s16 valid frames (accepted t member)).1
  · have sorted := List.pairwise_filter.1 (List.pairwise_append.1 balanced.ordered).1
    refine List.pairwise_map.2 (List.Pairwise.imp_of_mem ?_ sorted)
    intro x y xIn yIn inOrder i iIn j jIn
    obtain ⟨t, rfl, rfl⟩ := Option.map_eq_some_iff.1 iIn
    obtain ⟨u, rfl, rfl⟩ := Option.map_eq_some_iff.1 jIn
    exact linked.ordered t u (accepted t xIn) (accepted u yIn) (inOrder rfl rfl t u rfl rfl)
  · intro i member
    obtain ⟨x, xIn, same⟩ := List.mem_map.1 member
    obtain ⟨t, rfl, rfl⟩ := Option.map_eq_some_iff.1 same
    exact (linked.sampleBlock_eq s16 valid frames (accepted t xIn)).2

end

section Reordered

/-- Eight frames to a packet, at a rate that keeps the prefill short. -/
def mono : AudioConfig := { sampleRate := 100, channels := 1, framesPerPacket := 8 }

/-- The phone has connected. -/
def connected : Server :=
  (run Server.step (Server.start { framesPerPacket := 8 }) connecting).getD {}

/-- A block of one packet, and the callback up to its end. -/
def block (first : UInt8) : List Event :=
  .serves (.captured ((List.range 16).map fun i => first + UInt8.ofNat i) mono) ::
    List.replicate 6 (.serves (.capture {}))

/-- The second packet arrives last. -/
def reordered : List Event :=
  block 0 ++ block 16 ++ block 32 ++
    [.arrives 0 0, .arrives 2 0, .arrives 1 0, .plays true 10 0]

def session : Pipeline :=
  begin connected ((JitterBuffer.new 5).configure mono 5)

end Reordered

end Pipeline

end AudioRouter
