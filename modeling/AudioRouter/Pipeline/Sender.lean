import AudioRouter.Pipeline.Model
import AudioRouter.Lib.Blocks
import AudioRouter.Server.AudioPackets

/-!
# The packets of a session

Without a reset the packets of a session are numbered from the counter on, and packet `k`
carries the `k`-th chunk of what was captured.  What the client hands to its jitter buffer
when packet `k` arrives follows from that.
-/

namespace AudioRouter

open Protocol LittleEndian Blocks

namespace Server

section

variable {s t : Server} {config : AudioConfig}

theorem audioHeader_congr (same : t.config = s.config) (seqNum : UInt32)
    (timestampUs : UInt64) :
    t.audioHeader config seqNum timestampUs = s.audioHeader config seqNum timestampUs := by
  unfold audioHeader
  rw [targetChunkBytes_congr same, targetChunkFrames_congr same]

end

namespace Recut

/-- The packet in the callback's hands. -/
def inHand (r : Recut) : Nat :=
  match r.server.capture with
  | .send _ _ => 1
  | _ => 0

/-- The packets built since `s` are numbered from its counter on, and so is the one in the
callback's hands. -/
structure Numbered (s : Server) (config : AudioConfig) (r : Recut) : Prop where
  account : r.Account s config
  counter :
    r.server.sequenceNumber =
      s.sequenceNumber + UInt32.ofNat (r.packets.length + r.inHand)
  stamped :
    ∀ given seqNum, r.server.capture = .send given seqNum →
      seqNum = s.sequenceNumber + UInt32.ofNat r.packets.length
  headers :
    ∀ k p, r.packets[k]? = some p →
      ∃ timestampUs,
        p.header = s.audioHeader config (s.sequenceNumber + UInt32.ofNat k) timestampUs

section

variable {s : Server} {r q : Recut} {action : Server.Action} {client : Address}
  {config : AudioConfig}

theorem Numbered.start (idle : s.capture = .idle) :
    Numbered s config { server := s } := by
  refine ⟨⟨rfl, ⟨?_, ?_, ?_⟩, ?_, ?_, ⟨?_, ?_, ?_⟩⟩, ?_, ?_, ?_⟩ <;>
    simp [idle, CaptureThread.config, Keeps, pcm, CaptureThread.inFlight, sentPackets, inHand]

/-- A step that builds no packet and leaves the counter to the packets. -/
theorem Numbered.unbuilt {t : Server} {offered : List UInt8} {calls : Nat}
    (numbered : r.Numbered s config)
    (account : Account s config ⟨t, offered, calls, r.packets⟩)
    (counter :
      t.sequenceNumber =
        s.sequenceNumber +
          UInt32.ofNat (r.packets.length + inHand ⟨t, offered, calls, r.packets⟩))
    (stamped :
      ∀ given seqNum, t.capture = .send given seqNum →
        seqNum = s.sequenceNumber + UInt32.ofNat r.packets.length) :
    Numbered s config ⟨t, offered, calls, r.packets⟩ :=
  ⟨account, counter, stamped, numbered.headers⟩

theorem ofNat_succ (n : Nat) : UInt32.ofNat (n + 1) = UInt32.ofNat n + 1 :=
  UInt32.ofNat_add n 1

theorem step_numbered (numbered : r.Numbered s config)
    (streams : r.Streams client config action)
    (keeps : r.server.resetsSequence action = false) (stepped : r.step action = some q) :
    q.Numbered s config := by
  have account := step_accounted numbered.account streams stepped
  obtain ⟨t, served, rfl⟩ := Option.map_eq_some_iff.1 stepped
  cases step_kind served with
  | captured data given idle effect =>
    subst effect
    have counter := numbered.counter
    simp only [inHand, idle] at counter
    have none : r.server.packetOf (.captured data given) = none := rfl
    simp only [none, Option.toList_none, List.append_nil] at account ⊢
    refine numbered.unbuilt account counter fun _ _ place => ?_
    cases place
  | other notCapture notCaptured same buffer =>
    have unbuilt : r.server.packetOf action = none := by
      cases action with
      | capture o => cases notCapture
      | _ => rfl
    have other : ∀ o, action ≠ .capture o := by
      rintro o rfl
      cases notCapture
    have counter := (step_packetizer served other).1
    rw [keeps, if_neg Bool.false_ne_true, numbered.counter] at counter
    simp only [unbuilt, Option.toList_none, List.append_nil] at account ⊢
    refine numbered.unbuilt account ?_ fun given seqNum place => ?_
    · simpa only [inHand, same.capture] using counter
    · rw [same.capture] at place
      exact numbered.stamped given seqNum place
  | capture o moved =>
    have counter := numbered.counter
    cases captureStep_turn streams.1 moved with
    | checkState data given place effect | checkActive data given place effect
    | append data given place effect | returns given place short effect =>
      have unbuilt : r.server.packetOf (.capture o) = none := by
        unfold packetOf
        rw [place]
      subst effect
      simp only [inHand, place] at counter
      simp only [unbuilt, Option.toList_none, List.append_nil] at account ⊢
      refine numbered.unbuilt account counter fun _ _ place => ?_
      cases place
    | stamp given place full effect =>
      have unbuilt : r.server.packetOf (.capture o) = none := by
        unfold packetOf
        rw [place]
      subst effect
      simp only [inHand, place, Nat.add_zero] at counter
      simp only [unbuilt, Option.toList_none, List.append_nil] at account ⊢
      refine numbered.unbuilt account ?_ fun _ _ place => ?_
      · simp only [inHand, counter, ofNat_succ, UInt32.add_assoc]
      · cases place
        exact counter
    | send given seqNum place effect =>
      have same : given = config := numbered.account.loop.given given (by rw [place]; rfl)
      have number := numbered.stamped given seqNum place
      subst same effect
      simp only [inHand, place] at counter
      refine ⟨account, ?_, ?_, ?_⟩
      · simp only [inHand, sendChunk_sequenceNumber, counter, packetOf, place,
          Option.toList_some, List.length_append, List.length_singleton, Nat.add_zero]
      · intro _ _ place
        cases place
      · intro k p built
        simp only [packetOf, place, Option.toList_some] at built
        rcases Nat.lt_trichotomy k r.packets.length with before | rfl | after
        · rw [List.getElem?_append_left before] at built
          exact numbered.headers k p built
        · rw [List.getElem?_append_right (Nat.le_refl _), Nat.sub_self] at built
          obtain rfl := Option.some.inj built
          exact
            ⟨o.timestampUs, by rw [number, audioHeader_congr numbered.account.settings]⟩
        · have outside := List.getElem?_eq_some_iff.1 built
          obtain ⟨inside, _⟩ := outside
          simp at inside
          omega

/-- Packet `k` carries the `k`-th chunk of what the session has captured. -/
theorem Account.pcm_eq (account : r.Account s config) {k : Nat} {p : Server.Packet}
    (built : r.packets[k]? = some p) :
    ((s.chunkBuffer ++ r.offered).drop (k * s.targetChunkBytes config)).take
        (s.targetChunkBytes config) = p.pcm := by
  have keeps : s.chunkBuffer ++ r.offered =
      pcm r.packets ++ r.server.chunkBuffer ++ r.server.capture.inFlight := account.keeps
  rw [keeps, List.append_assoc]
  exact slice_flatMap _ k (fun packet member => (account.whole packet member).pcm) built

/-- The chunk of a packet lies in what was captured. -/
theorem Account.pcm_inside (account : r.Account s config) {k : Nat} {p : Server.Packet}
    (built : r.packets[k]? = some p) :
    (k + 1) * s.targetChunkBytes config ≤ (s.chunkBuffer ++ r.offered).length := by
  have inside : k < r.packets.length := (List.getElem?_eq_some_iff.1 built).1
  have keeps : s.chunkBuffer ++ r.offered =
      pcm r.packets ++ r.server.chunkBuffer ++ r.server.capture.inFlight := account.keeps
  have total : (pcm r.packets).length = r.packets.length * s.targetChunkBytes config := by
    have each : ∀ n ∈ r.packets.map (·.pcm.length), n = s.targetChunkBytes config := by
      intro n member
      obtain ⟨packet, built, rfl⟩ := List.mem_map.1 member
      exact (account.whole packet built).pcm
    rw [pcm, List.length_flatMap, List.sum_eq_card_nsmul _ _ each, List.length_map]
    rfl
  rw [keeps, List.append_assoc, List.length_append, total]
  calc
    (k + 1) * s.targetChunkBytes config ≤ r.packets.length * s.targetChunkBytes config :=
      Nat.mul_le_mul_right _ inside
    _ ≤ _ := Nat.le_add_right _ _

end

end Recut

end Server

namespace Client

open Server

section

variable {s : Server} {config : AudioConfig} {seqNum : UInt32} {timestampUs : UInt64}
  {pcm : List UInt8}

/-- What the receive buffer holds of a packet. -/
theorem receiveFrom_audioPacket :
    receiveFrom recvBufSize (s.audioPacket config seqNum timestampUs pcm) =
      s.audioPacket config seqNum timestampUs (pcm.take 65500) := by
  have header : (s.audioHeader config seqNum timestampUs).toBytes.length = 36 :=
    AudioPacketHeader.length_toBytes _
  rw [receiveFrom, audioPacket, List.take_append, header, audioPacket,
    List.take_of_length_le (by rw [header]; decide)]
  rfl

/-- The call that the client makes for a packet, if it accepts it. -/
theorem audioCall_audioPacket {nowMs : Clock} {call : JitterBuffer.Call (Option UInt16)}
    (valid : config.Valid) (frames : s.config.framesPerPacket = config.framesPerPacket)
    (size : pcm.length = s.targetChunkBytes config)
    (handed :
      audioCall (receiveFrom recvBufSize (s.audioPacket config seqNum timestampUs pcm))
        nowMs = some call) :
    call =
      .pushPacket seqNum.toBitVec timestampUs.toBitVec
        (some (pcmSample (s.audioPacket config seqNum timestampUs pcm)))
        config.framesPerPacket nowMs := by
  rw [receiveFrom_audioPacket] at handed
  obtain ⟨header, found, same⟩ := Option.map_eq_some_iff.1 handed
  obtain ⟨rfl, _, accepted⟩ := audioPacketOf_eq_some found
  rw [header_audioPacket] at same accepted
  have stamped : Stamped (s.audioHeader config seqNum timestampUs) config :=
    audioHeader_stamped valid frames
  have payload := stamped.payload
  have bounded := accepted.payload
  have whole : pcm.take 65500 = pcm := by
    refine List.take_of_length_le ?_
    rw [payload, sizeofAudioPacketHeader, sizeofCommonHeader, maxUdpPacketSize] at bounded
    rw [size, targetChunkBytes, targetChunkFrames_eq valid frames]
    omega
  rw [whole, stamped.numFrames] at same
  exact same.symm

/-- The samples behind the header of a packet. -/
theorem pcmSample_audioPacket {j : Nat} (inside : 2 * j + 2 ≤ pcm.length) :
    pcmSample (s.audioPacket config seqNum timestampUs pcm) j =
      some (Pipeline.sample pcm j) := by
  have header : (s.audioHeader config seqNum timestampUs).toBytes.length =
      sizeofAudioPacketHeader := AudioPacketHeader.length_toBytes _
  unfold pcmSample
  dsimp only
  rw [if_pos (by rw [length_audioPacket]; omega), audioPacket,
    field_append_right (by rw [header]; omega), header, Nat.add_sub_cancel_left]
  rfl

end

end Client

namespace Pipeline

/-- A sample of a piece is a sample of the whole. -/
theorem sample_slice {stream : List UInt8} {offset size j : Nat}
    (inside : 2 * j + 2 ≤ size) :
    sample ((stream.drop (2 * offset)).take size) j = sample stream (offset + j) := by
  unfold sample field
  rw [List.drop_take, List.take_take, Nat.min_eq_left (by omega), List.drop_drop,
    Nat.mul_add]

end Pipeline

end AudioRouter
