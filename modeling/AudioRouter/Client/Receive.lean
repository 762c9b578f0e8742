import AudioRouter.Protocol
import AudioRouter.JitterBuffer.Window

/-!
# What the client takes from the network

The two places where the client reads datagrams: `perform_handshake`, which takes
the stream configuration from a `CONNECT_ACK`, and `network_receive_thread`,
which hands the PCM of audio packets to the jitter buffer.
-/

namespace AudioRouter.Client

open Protocol LittleEndian

/-- `receive_from` into a buffer of `capacity` bytes cuts the datagram off. -/
def receiveFrom (capacity : Nat) (datagram : Datagram) : List UInt8 :=
  datagram.take capacity

/-! ## The handshake -/

/-- What one datagram means to `perform_handshake`. -/
inductive HandshakeReply where
  | accepted (config : AudioConfig)
  | rejected
  | ignored
  deriving DecidableEq, Repr

/-- The configuration of a `CONNECT_ACK`, taken over without a check. -/
def ackConfig (ack : ConnectAckPayload) : AudioConfig :=
  { sampleRate := ack.sampleRate.toNat
    channels := ack.channels.toNat
    format := .ofCode ack.format
    framesPerPacket := ack.framesPerPacket.toNat }

/-- The body of the retry loop on the bytes received. -/
def handshakeReply (bytes : List UInt8) : HandshakeReply :=
  let header := CommonHeader.ofBytes bytes
  if bytes.length < sizeofCommonHeader then .ignored
  else if !isValidHeader header bytes.length then .ignored
  else if header.msgType = MsgType.connectAck.code then
    if bytes.length ≥ sizeofCommonHeader + sizeofConnectAckPayload then
      .accepted (ackConfig (.ofBytes bytes))
    else .ignored
  else if header.msgType = MsgType.connectNak.code then
    if bytes.length ≥ sizeofCommonHeader + sizeofConnectNakPayload then .rejected
    else .ignored
  else .ignored

/-- `perform_handshake`: one receive for each of the retries, `none` for a
timeout.  The result is `audio_config_` when it returns true.  A list that ends
early stands for `stop_requested_`. -/
def performHandshake : (retries : Nat) → List (Option Datagram) →
    Option AudioConfig
  | 0, _ => none
  | _ + 1, [] => none
  | retries + 1, none :: rest => performHandshake retries rest
  | retries + 1, some datagram :: rest =>
      match handshakeReply (receiveFrom 4096 datagram) with
      | .accepted config => some config
      | .rejected => none
      | .ignored => performHandshake retries rest

/-- The number of attempts. -/
def handshakeRetries : Nat := 5

/-! ## Audio packets -/

/-- The header of a datagram that `network_receive_thread` hands to
`push_packet`. -/
def audioPacketOf (bytes : List UInt8) : Option AudioPacketHeader :=
  let header := AudioPacketHeader.ofBytes bytes
  if bytes.length < sizeofCommonHeader then none
  else if !isValidHeader header.common bytes.length then none
  else if header.common.msgType ≠ MsgType.audioData.code then none
  else if bytes.length < sizeofAudioPacketHeader then none
  else
    match validateAudioHeader header bytes.length with
    | .ok () => some header
    | .error _ => none

/-- The memory behind `pcm_data`: sample `j`, or `none` where its two bytes are
not bytes of the datagram. -/
def pcmSample (bytes : List UInt8) (j : Nat) : Option UInt16 :=
  let offset := sizeofAudioPacketHeader + 2 * j
  if offset + 2 ≤ bytes.length then
    some (UInt16.ofNat (LittleEndian.field bytes offset 2))
  else none

/-- The branch of `network_receive_thread` for audio: the call it makes. -/
def audioCall (bytes : List UInt8) (nowMs : Clock) :
    Option (JitterBuffer.Call (Option UInt16)) :=
  (audioPacketOf bytes).map fun header =>
    .pushPacket header.common.seqNum.toBitVec header.common.timestampUs.toBitVec
      (some (pcmSample bytes)) header.numFrames.toNat nowMs

/-! ## The bytes behind a push -/

theorem audioPacketOf_eq_some {bytes : List UInt8} {header : AudioPacketHeader}
    (handed : audioPacketOf bytes = some header) :
    header = .ofBytes bytes ∧ sizeofAudioPacketHeader ≤ bytes.length ∧
      ValidAudioHeader header bytes.length := by
  unfold audioPacketOf at handed
  dsimp only at handed
  split_ifs at handed with short invalid other cut
  split at handed
  · rename_i valid
    obtain rfl := Option.some.inj handed
    exact ⟨rfl, Nat.not_lt.1 cut, validateAudioHeader_ok valid⟩
  · cases handed

/-- What the call that is made says about the datagram. -/
theorem audioCall_eq_some {bytes : List UInt8} {nowMs callMs : Clock}
    {seqNum : SeqNum} {timestampUs : Clock} {source : Nat → Option UInt16}
    {numFrames : Nat}
    (handed :
      audioCall bytes nowMs =
        some (.pushPacket seqNum timestampUs (some source) numFrames callMs)) :
    source = pcmSample bytes ∧
      numFrames = (AudioPacketHeader.ofBytes bytes).numFrames.toNat ∧
      sizeofAudioPacketHeader ≤ bytes.length ∧
      ValidAudioHeader (.ofBytes bytes) bytes.length := by
  obtain ⟨header, found, same⟩ := Option.map_eq_some_iff.1 handed
  obtain ⟨rfl, long, valid⟩ := audioPacketOf_eq_some found
  injection same with _ _ sameSource sameFrames _
  exact ⟨(Option.some.inj sameSource).symm, sameFrames.symm, long, valid⟩

theorem pcmSample_isSome {bytes : List UInt8} {j : Nat} :
    (pcmSample bytes j).isSome ↔
      sizeofAudioPacketHeader + 2 * j + 2 ≤ bytes.length := by
  unfold pcmSample
  dsimp only
  split <;> simp_all

/-- All samples that are copied lie in the datagram when the last one does. -/
theorem copied_isSome_iff {bytes : List UInt8} {count : Nat}
    (long : sizeofAudioPacketHeader ≤ bytes.length) :
    (∀ x ∈ (List.range count).map (pcmSample bytes), x.isSome) ↔
      sizeofAudioPacketHeader + count * 2 ≤ bytes.length := by
  simp only [List.mem_map, List.mem_range, forall_exists_index, and_imp,
    forall_apply_eq_imp_iff₂, pcmSample_isSome]
  constructor
  · intro inside
    cases count with
    | zero => omega
    | succ count =>
        have last := inside count (Nat.lt_succ_self count)
        omega
  · intro enough j before
    omega

/-- Bytes of the datagram behind the payload that its header declares. -/
def trailingBytes (header : AudioPacketHeader) (received : Nat) : Nat :=
  received - (sizeofCommonHeader + header.common.payloadSize.toNat)

/-- The packet brings the samples that the negotiated configuration asks for.  A
16-bit packet brings those of its own channels, and only bytes behind the
payload can stand in for further channels; in any other format the payload was
never measured against the frames. -/
def BringsSamples (config : AudioConfig) (header : AudioPacketHeader)
    (received : Nat) : Prop :=
  if header.format = AudioSampleFormat.pcmS16le.toCode then
    header.numFrames.toNat * (config.channels - header.channels.toNat) * 2 ≤
      trailingBytes header received
  else
    header.numFrames.toNat * config.channels * 2 ≤
      header.common.payloadSize.toNat + trailingBytes header received -
        (sizeofAudioPacketHeader - sizeofCommonHeader)

theorem bringsSamples_iff {config : AudioConfig} {header : AudioPacketHeader}
    {received : Nat} (long : sizeofAudioPacketHeader ≤ received)
    (valid : ValidAudioHeader header received) :
    BringsSamples config header received ↔
      sizeofAudioPacketHeader + header.numFrames.toNat * config.channels * 2 ≤
        received := by
  have complete := valid.complete
  unfold BringsSamples trailingBytes
  simp only [sizeofAudioPacketHeader, sizeofCommonHeader] at long complete ⊢
  split
  · rename_i s16
    have size := valid.pcm s16
    simp only [AudioPacketHeader.expectedPcm, sizeofAudioPacketHeader,
      sizeofCommonHeader] at size
    rw [Nat.mul_sub]
    omega
  · omega

/-- The copy of an audio packet stays in the datagram exactly when the packet
brings the samples of the negotiated channels; what it then stores are samples
of the datagram. -/
theorem pcm_copy_inside_iff (config : AudioConfig) (latency : Nat)
    (bytes : List UInt8) (nowMs callMs : Clock) (seqNum : SeqNum)
    (timestampUs : Clock) (source : Nat → Option UInt16) (numFrames : Nat)
    (handed :
      audioCall bytes nowMs =
        some (.pushPacket seqNum timestampUs (some source) numFrames callMs))
    (b : JitterBuffer (Option UInt16)) :
    let buffer := b.configure config latency
    (sizeofAudioPacketHeader + numFrames * buffer.config.channels * 2 ≤
          bytes.length ↔
        BringsSamples config (.ofBytes bytes) bytes.length) ∧
      ((∀ x ∈ (buffer.storedPacket source numFrames).pcmData, x.isSome) ↔
        BringsSamples config (.ofBytes bytes) bytes.length) := by
  intro buffer
  obtain ⟨rfl, rfl, long, valid⟩ := audioCall_eq_some handed
  have inside :
      BringsSamples config (.ofBytes bytes) bytes.length ↔
        sizeofAudioPacketHeader + (AudioPacketHeader.ofBytes bytes).numFrames.toNat *
          config.channels * 2 ≤ bytes.length :=
    bringsSamples_iff long valid
  refine ⟨inside.symm, ?_⟩
  rw [inside]
  exact copied_isSome_iff long

/-- One frame of a mono stream. -/
def monoPacket : Datagram :=
  [0x52, 0x44, 0x55, 0x41, 1, 0x30, 0, 0, 0, 0, 0, 0] ++ encode 8 0 ++
    encode 4 14 ++ encode 4 48000 ++ encode 2 1 ++ [1, 0] ++ encode 4 1 ++ [7, 7]

theorem pcm_copy_inside_mono :
    sizeofAudioPacketHeader + 1 * 1 * 2 ≤ monoPacket.length ↔
      BringsSamples { channels := 1 } (.ofBytes monoPacket) monoPacket.length :=
  (pcm_copy_inside_iff { channels := 1 } 40 monoPacket 0 0 0 0
    (pcmSample monoPacket) 1 (by rfl) (JitterBuffer.new 40)).1

/-- A `CONNECT_ACK` for a stereo stream. -/
def stereoAck : Datagram :=
  [0x52, 0x44, 0x55, 0x41, 1, 0x11, 0, 0, 0, 0, 0, 0] ++ encode 8 0 ++
    encode 4 sizeofConnectAckPayload ++
    [0] ++ encode 4 48000 ++ encode 2 2 ++ [1] ++ encode 2 480 ++ [0] ++
    List.replicate 64 0

/-- In a stereo session the copy of a mono packet leaves the datagram. -/
theorem pcm_copy_leaves_datagram :
    ¬ ∀ (received : List (Option Datagram)) (config : AudioConfig) (latency : Nat)
        (bytes : List UInt8) (nowMs callMs : Clock) (seqNum : SeqNum)
        (timestampUs : Clock) (source : Nat → Option UInt16) (numFrames : Nat)
        (b : JitterBuffer (Option UInt16)),
      performHandshake handshakeRetries received = some config →
        bytes.length ≤ 65536 →
          audioCall bytes nowMs =
              some (.pushPacket seqNum timestampUs (some source) numFrames
                callMs) →
            sizeofAudioPacketHeader +
                numFrames * (b.configure config latency).config.channels * 2 ≤
              bytes.length := by
  intro inside
  have copied :=
    inside [some stereoAck] {} 40 monoPacket 0 0 0 0 (pcmSample monoPacket) 1
      (JitterBuffer.new 40) (by decide +kernel) (by decide) (by rfl)
  revert copied
  decide +kernel

end AudioRouter.Client
