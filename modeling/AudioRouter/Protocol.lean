import AudioRouter.AudioTypes
import AudioRouter.Lib.LittleEndian

/-!
# The wire protocol

Headers, payloads and validation of `common/protocol.hpp`.  The structures are
packed, so a `reinterpret_cast` on a receive buffer reads little-endian fields at
fixed offsets.
-/

namespace AudioRouter

/-- A valid `SocketAddress`. -/
structure Address where
  ip : UInt32
  port : UInt16
  deriving DecidableEq, Repr

namespace Protocol

open LittleEndian

/-- The bytes of a datagram. -/
abbrev Datagram := List UInt8

def magic : UInt32 := 0x41554452
def currentVersion : UInt8 := 1
def maxUdpPacketSize : Nat := 65507

/-- `enum class MsgType : uint8_t`, without `UNKNOWN`. -/
inductive MsgType where
  | discoveryReq
  | discoveryResp
  | connectReq
  | connectAck
  | connectNak
  | disconnectReq
  | disconnectAck
  | audioData
  | heartbeatPing
  | heartbeatPong
  | controlCmd
  deriving DecidableEq, Repr

namespace MsgType

def code : MsgType → UInt8
  | discoveryReq => 0x01
  | discoveryResp => 0x02
  | connectReq => 0x10
  | connectAck => 0x11
  | connectNak => 0x12
  | disconnectReq => 0x20
  | disconnectAck => 0x21
  | audioData => 0x30
  | heartbeatPing => 0x40
  | heartbeatPong => 0x41
  | controlCmd => 0x50

def all : List MsgType :=
  [discoveryReq, discoveryResp, connectReq, connectAck, connectNak,
    disconnectReq, disconnectAck, audioData, heartbeatPing, heartbeatPong,
    controlCmd]

end MsgType

def isValidMsgType (code : UInt8) : Bool :=
  MsgType.all.any fun type => type.code == code

/-- The four known bits of `PacketFlags`. -/
def knownFlags : UInt16 := 0x000F

/-! ## Headers -/

/-- `CommonHeader`. -/
structure CommonHeader where
  magic : UInt32
  version : UInt8
  msgType : UInt8
  flags : UInt16
  seqNum : UInt32
  timestampUs : UInt64
  payloadSize : UInt32
  deriving DecidableEq, Repr

/-- `sizeof(CommonHeader)`. -/
def sizeofCommonHeader : Nat := 24

def CommonHeader.ofBytes (buffer : List UInt8) : CommonHeader :=
  { magic := UInt32.ofNat (field buffer 0 4)
    version := UInt8.ofNat (field buffer 4 1)
    msgType := UInt8.ofNat (field buffer 5 1)
    flags := UInt16.ofNat (field buffer 6 2)
    seqNum := UInt32.ofNat (field buffer 8 4)
    timestampUs := UInt64.ofNat (field buffer 12 8)
    payloadSize := UInt32.ofNat (field buffer 20 4) }

/-- The bytes of a packed header. -/
def CommonHeader.toBytes (header : CommonHeader) : List UInt8 :=
  encode 4 header.magic.toNat ++ (encode 1 header.version.toNat ++
    (encode 1 header.msgType.toNat ++ (encode 2 header.flags.toNat ++
      (encode 4 header.seqNum.toNat ++ (encode 8 header.timestampUs.toNat ++
        encode 4 header.payloadSize.toNat)))))

/-- `AudioPacketHeader`. -/
structure AudioPacketHeader where
  common : CommonHeader
  sampleRate : UInt32
  channels : UInt16
  format : UInt8
  reserved : UInt8
  numFrames : UInt32
  deriving DecidableEq, Repr

/-- `sizeof(AudioPacketHeader)`. -/
def sizeofAudioPacketHeader : Nat := 36

def AudioPacketHeader.ofBytes (buffer : List UInt8) : AudioPacketHeader :=
  { common := CommonHeader.ofBytes buffer
    sampleRate := UInt32.ofNat (field buffer 24 4)
    channels := UInt16.ofNat (field buffer 28 2)
    format := UInt8.ofNat (field buffer 30 1)
    reserved := UInt8.ofNat (field buffer 31 1)
    numFrames := UInt32.ofNat (field buffer 32 4) }

def AudioPacketHeader.toBytes (header : AudioPacketHeader) : List UInt8 :=
  header.common.toBytes ++ (encode 4 header.sampleRate.toNat ++
    (encode 2 header.channels.toNat ++ (encode 1 header.format.toNat ++
      (encode 1 header.reserved.toNat ++ encode 4 header.numFrames.toNat))))

/-- The numbers of `ConnectAckPayload`, at its offset behind the header. -/
structure ConnectAckPayload where
  statusCode : UInt8
  sampleRate : UInt32
  channels : UInt16
  format : UInt8
  framesPerPacket : UInt16
  pcSpeakerMuted : UInt8
  deriving DecidableEq, Repr

/-- `sizeof(ConnectAckPayload)`, with the 64 bytes of `status_msg`. -/
def sizeofConnectAckPayload : Nat := 75

/-- `sizeof(ConnectNakPayload)`. -/
def sizeofConnectNakPayload : Nat := 65

def ConnectAckPayload.ofBytes (buffer : List UInt8) : ConnectAckPayload :=
  { statusCode := UInt8.ofNat (field buffer 24 1)
    sampleRate := UInt32.ofNat (field buffer 25 4)
    channels := UInt16.ofNat (field buffer 29 2)
    format := UInt8.ofNat (field buffer 31 1)
    framesPerPacket := UInt16.ofNat (field buffer 32 2)
    pcSpeakerMuted := UInt8.ofNat (field buffer 34 1) }

@[simp]
theorem CommonHeader.length_toBytes (header : CommonHeader) :
    header.toBytes.length = sizeofCommonHeader := by
  simp only [toBytes, List.length_append, length_encode, sizeofCommonHeader]

@[simp]
theorem AudioPacketHeader.length_toBytes (header : AudioPacketHeader) :
    header.toBytes.length = sizeofAudioPacketHeader := by
  simp only [toBytes, List.length_append, length_encode, CommonHeader.length_toBytes,
    sizeofCommonHeader, sizeofAudioPacketHeader]

/-- A header is read back from its bytes. -/
theorem CommonHeader.ofBytes_toBytes (header : CommonHeader) (rest : List UInt8) :
    ofBytes (header.toBytes ++ rest) = header := by
  obtain ⟨magic, version, msgType, flags, seqNum, timestampUs, payloadSize⟩ := header
  have fits32 (n : UInt32) : n.toNat < 256 ^ 4 := n.toNat_lt
  have fits8 (n : UInt8) : n.toNat < 256 ^ 1 := n.toNat_lt
  have fits16 (n : UInt16) : n.toNat < 256 ^ 2 := n.toNat_lt
  have fits64 (n : UInt64) : n.toNat < 256 ^ 8 := n.toNat_lt
  simp (disch := simp only [length_encode]; omega) only [ofBytes, toBytes,
    List.append_assoc, field_append_right, length_encode]
  simp only [Nat.sub_self, Nat.reduceSub, field_encode_append, fits32, fits8, fits16, fits64,
    UInt32.ofNat_toNat, UInt8.ofNat_toNat, UInt16.ofNat_toNat, UInt64.ofNat_toNat]

theorem AudioPacketHeader.ofBytes_toBytes (header : AudioPacketHeader)
    (rest : List UInt8) : ofBytes (header.toBytes ++ rest) = header := by
  obtain ⟨common, sampleRate, channels, format, reserved, numFrames⟩ := header
  have fits32 (n : UInt32) : n.toNat < 256 ^ 4 := n.toNat_lt
  have fits8 (n : UInt8) : n.toNat < 256 ^ 1 := n.toNat_lt
  have fits16 (n : UInt16) : n.toNat < 256 ^ 2 := n.toNat_lt
  simp (disch := simp only [length_encode, CommonHeader.length_toBytes,
    sizeofCommonHeader]; omega) only [ofBytes, toBytes, List.append_assoc,
    CommonHeader.ofBytes_toBytes, field_append_right, length_encode,
    CommonHeader.length_toBytes, sizeofCommonHeader]
  simp only [Nat.sub_self, Nat.reduceSub, field_encode_append, fits32, fits8, fits16,
    UInt32.ofNat_toNat, UInt8.ofNat_toNat, UInt16.ofNat_toNat]

/-! ## Validation -/

/-- `is_valid_header`.  `size_t` has 64 bits, so the total does not overflow. -/
def isValidHeader (header : CommonHeader) (receivedBytes : Nat) : Bool :=
  if receivedBytes < sizeofCommonHeader then false
  else if header.magic ≠ magic then false
  else if header.version ≠ currentVersion then false
  else if !isValidMsgType header.msgType then false
  else if header.payloadSize.toNat > maxUdpPacketSize then false
  else if receivedBytes < sizeofCommonHeader + header.payloadSize.toNat then false
  else if header.flags &&& ~~~knownFlags ≠ 0 then false
  else true

def validateHeader (header : CommonHeader) (receivedBytes : Nat) :
    Except String Unit :=
  if receivedBytes < sizeofCommonHeader then .error "packet too small for header"
  else if header.magic ≠ magic then .error "bad magic"
  else if header.version ≠ currentVersion then .error "unsupported version"
  else if !isValidMsgType header.msgType then .error "unknown msg_type"
  else if header.payloadSize.toNat > maxUdpPacketSize then
    .error "payload too large"
  else if receivedBytes < sizeofCommonHeader + header.payloadSize.toNat then
    .error "truncated payload"
  else if header.flags &&& ~~~knownFlags ≠ 0 then .error "unknown flags set"
  else .ok ()

/-- The bytes of PCM that `validate_audio_header` expects. -/
def AudioPacketHeader.expectedPcm (header : AudioPacketHeader) : Nat :=
  header.numFrames.toNat * header.channels.toNat * 2

def validateAudioHeader (header : AudioPacketHeader) (receivedBytes : Nat) :
    Except String Unit := do
  validateHeader header.common receivedBytes
  if header.common.msgType ≠ MsgType.audioData.code then
    throw "not AUDIO_DATA"
  if header.sampleRate = 0 ∨ header.sampleRate.toNat > 192000 then
    throw "invalid sample_rate"
  if header.channels = 0 ∨ header.channels.toNat > 32 then
    throw "invalid channels"
  if header.numFrames = 0 ∨ header.numFrames.toNat > 8192 then
    throw "invalid num_frames"
  let headerOnly := sizeofAudioPacketHeader - sizeofCommonHeader
  -- other formats are not checked beyond the bounds of the payload
  if header.common.payloadSize.toNat ≠ headerOnly + header.expectedPcm then
    if header.format = AudioSampleFormat.pcmS16le.toCode ∧
        header.common.payloadSize.toNat ≠ headerOnly + header.expectedPcm then
      throw "payload size mismatches num_frames"
  return ()

/-- What an accepted header satisfies. -/
structure ValidHeader (header : CommonHeader) (receivedBytes : Nat) : Prop where
  long : sizeofCommonHeader ≤ receivedBytes
  magic : header.magic = magic
  version : header.version = currentVersion
  msgType : isValidMsgType header.msgType
  payload : header.payloadSize.toNat ≤ maxUdpPacketSize
  complete : sizeofCommonHeader + header.payloadSize.toNat ≤ receivedBytes
  flags : header.flags &&& ~~~knownFlags = 0

section

variable {header : CommonHeader} {receivedBytes : Nat}

/-- A check that passes, and the checks behind it. -/
theorem check_eq_true {failed : Prop} [Decidable failed] {rest : Bool} :
    (if failed then false else rest) = true ↔ ¬ failed ∧ rest = true := by
  by_cases fails : failed <;> simp [fails]

theorem check_eq_ok {failed : Prop} [Decidable failed] {message : String}
    {rest : Except String Unit} :
    (if failed then .error message else rest) = .ok () ↔ ¬ failed ∧ rest = .ok () := by
  by_cases fails : failed <;> simp [fails]

theorem isValidHeader_iff :
    isValidHeader header receivedBytes ↔ ValidHeader header receivedBytes := by
  simp only [isValidHeader, check_eq_true, Nat.not_lt, not_not, Bool.not_eq_true',
    Bool.not_eq_false, gt_iff_lt, ne_eq, and_true]
  constructor
  · rintro ⟨long, magic, version, msgType, payload, complete, flags⟩
    exact ⟨long, magic, version, msgType, payload, complete, flags⟩
  · rintro ⟨long, magic, version, msgType, payload, complete, flags⟩
    exact ⟨long, magic, version, msgType, payload, complete, flags⟩

/-- The validator with messages accepts what the other one accepts. -/
theorem validateHeader_ok_iff :
    validateHeader header receivedBytes = .ok () ↔
      ValidHeader header receivedBytes := by
  rw [← isValidHeader_iff]
  simp only [isValidHeader, validateHeader, check_eq_true, check_eq_ok]

end

/-- What an accepted audio header satisfies besides. -/
structure ValidAudioHeader (header : AudioPacketHeader) (receivedBytes : Nat) :
    Prop extends ValidHeader header.common receivedBytes where
  isAudio : header.common.msgType = MsgType.audioData.code
  sampleRate : 1 ≤ header.sampleRate.toNat ∧ header.sampleRate.toNat ≤ 192000
  channels : 1 ≤ header.channels.toNat ∧ header.channels.toNat ≤ 32
  numFrames : 1 ≤ header.numFrames.toNat ∧ header.numFrames.toNat ≤ 8192
  pcm :
    header.format = AudioSampleFormat.pcmS16le.toCode →
      header.common.payloadSize.toNat =
        sizeofAudioPacketHeader - sizeofCommonHeader + header.expectedPcm

theorem validateAudioHeader_ok {header : AudioPacketHeader} {receivedBytes : Nat}
    (valid : validateAudioHeader header receivedBytes = .ok ()) :
    ValidAudioHeader header receivedBytes := by
  unfold validateAudioHeader at valid
  cases checked : validateHeader header.common receivedBytes with
  | error message => simp [checked, bind, Except.bind] at valid
  | ok _ =>
      have common := validateHeader_ok_iff.1 checked
      simp only [checked, bind, Except.bind, throw, throwThe,
        MonadExceptOf.throw, pure, Except.pure] at valid
      split_ifs at valid with isAudio sampleRate channels numFrames size format
      all_goals
        have ratePos : header.sampleRate.toNat ≠ 0 := fun zero =>
          sampleRate (Or.inl (UInt32.toNat_inj.1 zero))
        have channelsPos : header.channels.toNat ≠ 0 := fun zero =>
          channels (Or.inl (UInt16.toNat_inj.1 zero))
        have framesPos : header.numFrames.toNat ≠ 0 := fun zero =>
          numFrames (Or.inl (UInt32.toNat_inj.1 zero))
      · exact
          { common with
            isAudio := not_not.1 isAudio
            sampleRate := by omega
            channels := by omega
            numFrames := by omega
            pcm := fun s16 => by
              by_contra different
              exact format ⟨s16, different⟩ }
      · exact
          { common with
            isAudio := not_not.1 isAudio
            sampleRate := by omega
            channels := by omega
            numFrames := by omega
            pcm := fun _ => not_not.1 size }

/-- A header that satisfies this is accepted. -/
theorem validateAudioHeader_of_valid {header : AudioPacketHeader} {receivedBytes : Nat}
    (valid : ValidAudioHeader header receivedBytes) :
    validateAudioHeader header receivedBytes = .ok () := by
  have common := validateHeader_ok_iff.2 valid.toValidHeader
  have ratePos : header.sampleRate ≠ 0 := by
    rintro zero
    have positive := valid.sampleRate.1
    rw [zero] at positive
    cases positive
  have channelsPos : header.channels ≠ 0 := by
    rintro zero
    have positive := valid.channels.1
    rw [zero] at positive
    cases positive
  have framesPos : header.numFrames ≠ 0 := by
    rintro zero
    have positive := valid.numFrames.1
    rw [zero] at positive
    cases positive
  have rate := Nat.not_lt.2 valid.sampleRate.2
  have channels := Nat.not_lt.2 valid.channels.2
  have frames := Nat.not_lt.2 valid.numFrames.2
  unfold validateAudioHeader
  simp only [common, valid.isAudio, ratePos, rate, channelsPos, channels, framesPos, frames,
    bind, Except.bind, pure, Except.pure, ne_eq, not_true_eq_false, if_false, or_self]
  split_ifs with size format
  · rfl
  · exact format.2 (valid.pcm format.1)
  · rfl

end Protocol

end AudioRouter
