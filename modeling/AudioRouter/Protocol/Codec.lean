import AudioRouter.Protocol

/-!
# The header codec

`parse_header` copies 24 bytes and validates them, `payload_span` is the view behind
them, and `make_header` is what a sender puts in front of its payload.  A `Packet` is
what the three are about: a valid header and exactly the payload it announces.
-/

namespace AudioRouter.Protocol

open LittleEndian

/-! ## The functions of the source -/

def parseHeader (buffer : List UInt8) : Except String CommonHeader :=
  if buffer.length < sizeofCommonHeader then .error "buffer too small"
  else
    match validateHeader (CommonHeader.ofBytes buffer) buffer.length with
    | .error message => .error message
    | .ok _ => .ok (CommonHeader.ofBytes buffer)

/-- `payload_span`.  `size_t` has 64 bits, so the total does not overflow. -/
def payloadSpan (header : CommonHeader) (buffer : List UInt8) :
    Except String (List UInt8) :=
  if buffer.length < sizeofCommonHeader + header.payloadSize.toNat then
    .error "buffer smaller than header+payload"
  else .ok ((buffer.drop sizeofCommonHeader).take header.payloadSize.toNat)

def makeHeader (type : MsgType) (seq : UInt32) (timestampUs : UInt64)
    (payloadSize : UInt32) (flags : UInt16) : CommonHeader :=
  { magic := magic
    version := currentVersion
    msgType := type.code
    flags := flags
    seqNum := seq
    timestampUs := timestampUs
    payloadSize := payloadSize }

/-! ## What they accept -/

theorem isValidMsgType_code (type : MsgType) : isValidMsgType type.code := by
  cases type <;> decide

section

variable {header : CommonHeader} {buffer payload : List UInt8} {receivedBytes : Nat}

/-- The two validators accept the same headers. -/
theorem isValidHeader_iff_validateHeader :
    isValidHeader header receivedBytes ↔
      validateHeader header receivedBytes = .ok () := by
  rw [isValidHeader_iff, validateHeader_ok_iff]

/-- A buffer parses when it holds a header that is valid for its size. -/
theorem parseHeader_ok_iff :
    parseHeader buffer = .ok header ↔
      header = CommonHeader.ofBytes buffer ∧ ValidHeader header buffer.length := by
  constructor
  · intro parsed
    unfold parseHeader at parsed
    split_ifs at parsed
    split at parsed
    · cases parsed
    · rename_i checked
      cases parsed
      exact ⟨rfl, validateHeader_ok_iff.1 checked⟩
  · rintro ⟨rfl, valid⟩
    rw [parseHeader, if_neg (Nat.not_lt.2 valid.long), validateHeader_ok_iff.2 valid]

theorem payloadSpan_ok_iff :
    payloadSpan header buffer = .ok payload ↔
      sizeofCommonHeader + header.payloadSize.toNat ≤ buffer.length ∧
        payload = (buffer.drop sizeofCommonHeader).take header.payloadSize.toNat := by
  unfold payloadSpan
  split_ifs with short
  · simp [Nat.not_le.2 short]
  · simp [Nat.not_lt.1 short, eq_comm]

/-- The view of a complete packet is as long as the header says. -/
theorem length_payloadSpan (viewed : payloadSpan header buffer = .ok payload) :
    payload.length = header.payloadSize.toNat := by
  rcases payloadSpan_ok_iff.1 viewed with ⟨complete, rfl⟩
  rw [List.length_take, List.length_drop]
  omega

/-- A buffer begins with the bytes of the header that is decoded from it. -/
theorem CommonHeader.toBytes_ofBytes (long : sizeofCommonHeader ≤ buffer.length) :
    (CommonHeader.ofBytes buffer).toBytes = buffer.take sizeofCommonHeader := by
  have short (offset size : Nat) (inside : offset + size ≤ 24) :
      offset + size ≤ buffer.length := Nat.le_trans inside long
  have fits32 (offset : Nat) : field buffer offset 4 < 2 ^ 32 := field_lt buffer offset 4
  have fits8 (offset : Nat) : field buffer offset 1 < 2 ^ 8 := field_lt buffer offset 1
  have fits16 (offset : Nat) : field buffer offset 2 < 2 ^ 16 := field_lt buffer offset 2
  have fits64 (offset : Nat) : field buffer offset 8 < 2 ^ 64 := field_lt buffer offset 8
  -- the fields are joined from the last one to the first
  simp only [ofBytes, toBytes, UInt32.toNat_ofNat', UInt8.toNat_ofNat', UInt16.toNat_ofNat',
    UInt64.toNat_ofNat', Nat.mod_eq_of_lt, fits32, fits8, fits16, fits64]
  rw [encode_field (short 20 4 (by omega)),
    encode_field_append (short 12 8 (by omega)), encode_field_append (short 8 4 (by omega)),
    encode_field_append (short 6 2 (by omega)), encode_field_append (short 5 1 (by omega)),
    encode_field_append (short 4 1 (by omega)), encode_field_append (short 0 4 (by omega)),
    List.drop_zero, sizeofCommonHeader]

end

/-! ## Packets -/

/-- A valid header with the payload that it announces. -/
structure Packet where
  header : CommonHeader
  payload : List UInt8
  announced : header.payloadSize.toNat = payload.length
  valid : ValidHeader header (sizeofCommonHeader + payload.length)

namespace Packet

/-- A packet as it is sent. -/
def bytes (packet : Packet) : List UInt8 :=
  packet.header.toBytes ++ packet.payload

/-- What a sender builds with `make_header`. -/
def make (type : MsgType) (seq : UInt32) (timestampUs : UInt64) (flags : UInt16)
    (payload : List UInt8) (known : flags &&& ~~~knownFlags = 0)
    (small : payload.length ≤ maxUdpPacketSize) : Packet :=
  have fits : payload.length < 2 ^ 32 := by
    unfold maxUdpPacketSize at small
    omega
  have announced : (UInt32.ofNat payload.length).toNat = payload.length :=
    UInt32.toNat_ofNat_of_lt fits
  { header := makeHeader type seq timestampUs (UInt32.ofNat payload.length) flags
    payload := payload
    announced := announced
    valid :=
      { long := Nat.le_add_right _ _
        magic := rfl
        version := rfl
        msgType := isValidMsgType_code type
        payload := by simpa only [makeHeader, announced] using small
        complete := by simp only [makeHeader, announced]; exact Nat.le_refl _
        flags := known } }

/-- A packet is read back from its bytes, whatever follows them. -/
theorem parse (packet : Packet) (trailing : List UInt8) :
    parseHeader (packet.bytes ++ trailing) = .ok packet.header ∧
      payloadSpan packet.header (packet.bytes ++ trailing) = .ok packet.payload := by
  have decoded :
      CommonHeader.ofBytes (packet.bytes ++ trailing) = packet.header := by
    rw [bytes, List.append_assoc, CommonHeader.ofBytes_toBytes]
  have length :
      sizeofCommonHeader + packet.payload.length ≤ (packet.bytes ++ trailing).length := by
    simp only [bytes, List.length_append, CommonHeader.length_toBytes]
    omega
  have valid := packet.valid
  constructor
  · rw [parseHeader_ok_iff]
    refine ⟨decoded.symm, { valid with long := ?_, complete := ?_ }⟩
    · exact Nat.le_trans valid.long length
    · exact Nat.le_trans valid.complete length
  · rw [payloadSpan_ok_iff, packet.announced]
    refine ⟨length, ?_⟩
    rw [bytes, List.append_assoc, List.drop_left' (CommonHeader.length_toBytes _),
      List.take_left]

/-- The buffers that are accepted are those that begin with a packet. -/
theorem parse_iff {buffer payload : List UInt8} {header : CommonHeader} :
    parseHeader buffer = .ok header ∧ payloadSpan header buffer = .ok payload ↔
      ∃ packet : Packet, packet.header = header ∧ packet.payload = payload ∧
        ∃ trailing, packet.bytes ++ trailing = buffer := by
  constructor
  · rintro ⟨parsed, viewed⟩
    rcases parseHeader_ok_iff.1 parsed with ⟨decoded, valid⟩
    have announced := length_payloadSpan viewed
    have whole :
        header.toBytes ++ payload ++
          buffer.drop (sizeofCommonHeader + header.payloadSize.toNat) = buffer := by
      calc
        _ = buffer.take sizeofCommonHeader ++
              (buffer.drop sizeofCommonHeader).take header.payloadSize.toNat ++
              buffer.drop (sizeofCommonHeader + header.payloadSize.toNat) := by
          rw [← CommonHeader.toBytes_ofBytes valid.long, ← decoded,
            (payloadSpan_ok_iff.1 viewed).2]
        _ = buffer := by rw [← List.take_add, List.take_append_drop]
    exact
      ⟨{ header := header
         payload := payload
         announced := announced.symm
         valid := { valid with
           long := Nat.le_add_right _ _
           complete := by rw [announced] } }, rfl, rfl, _, whole⟩
  · rintro ⟨packet, rfl, rfl, trailing, rfl⟩
    exact packet.parse trailing

end Packet

/-- The codec and its validators agree: the validators with each other, the parser with
the validators, the view with the parser, and both with what a sender builds. -/
theorem headerCodec_agrees (header : CommonHeader) (receivedBytes : Nat)
    (buffer : List UInt8) (type : MsgType) (seq : UInt32) (timestampUs : UInt64)
    (flags : UInt16) (payload trailing : List UInt8) :
    (isValidHeader header receivedBytes = true ↔
        validateHeader header receivedBytes = .ok ()) ∧
      (parseHeader buffer = .ok header ↔
        sizeofCommonHeader ≤ buffer.length ∧ header = CommonHeader.ofBytes buffer ∧
          isValidHeader (CommonHeader.ofBytes buffer) buffer.length = true) ∧
      (parseHeader buffer = .ok header →
        payloadSpan header buffer =
            .ok ((buffer.drop sizeofCommonHeader).take header.payloadSize.toNat) ∧
          ((buffer.drop sizeofCommonHeader).take header.payloadSize.toNat).length =
            header.payloadSize.toNat) ∧
      (flags &&& ~~~knownFlags = 0 → payload.length ≤ maxUdpPacketSize →
        let sent := makeHeader type seq timestampUs (UInt32.ofNat payload.length) flags
        parseHeader (sent.toBytes ++ payload ++ trailing) = .ok sent ∧
          payloadSpan sent (sent.toBytes ++ payload ++ trailing) = .ok payload) := by
  refine ⟨isValidHeader_iff_validateHeader, ?_, ?_, ?_⟩
  · rw [parseHeader_ok_iff]
    constructor
    · rintro ⟨rfl, valid⟩
      exact ⟨valid.long, rfl, isValidHeader_iff.2 valid⟩
    · rintro ⟨_, rfl, valid⟩
      exact ⟨rfl, isValidHeader_iff.1 valid⟩
  · intro parsed
    have complete := (parseHeader_ok_iff.1 parsed).2.complete
    have viewed := payloadSpan_ok_iff.2 ⟨complete, rfl⟩
    exact ⟨viewed, length_payloadSpan viewed⟩
  · intro known small
    exact (Packet.make type seq timestampUs flags payload known small).parse trailing

/-- A heartbeat with a flag set, two bytes of payload and one byte behind it. -/
theorem headerCodec_agrees_ping :
    let sent := makeHeader .heartbeatPing 7 1000 2 1
    let buffer := sent.toBytes ++ [5, 6] ++ [9]
    parseHeader buffer = .ok sent ∧ payloadSpan sent buffer = .ok [5, 6] ∧
      ((buffer.drop 24).take 2).length = 2 := by
  intro sent buffer
  have agrees :=
    headerCodec_agrees sent 27 buffer .heartbeatPing 7 1000 1 [5, 6] [9]
  have received := agrees.2.2.2 (by decide) (by decide)
  exact ⟨received.1, received.2, (agrees.2.2.1 received.1).2⟩

end AudioRouter.Protocol
