import Mathlib.Tactic.SplitIfs

/-!
# Audio types shared by the client and the server

`AudioConfig` travels from the capture engine through `CONNECT_ACK` into the
client's jitter buffer.  Its integer fields are natural numbers; where the
source computes with a fixed width, the computation says so.
-/

namespace AudioRouter

/-- `enum class AudioSampleFormat : uint8_t`.  A `static_cast` from a byte can
also produce a value that no enumerator names. -/
inductive AudioSampleFormat where
  | unknown
  | pcmS16le
  | pcmFloat32le
  | pcmS24le
  | pcmS32le
  | unnamed (code : UInt8)
  deriving DecidableEq, Repr

namespace AudioSampleFormat

/-- `static_cast<AudioSampleFormat>` on a byte of a packet. -/
def ofCode (code : UInt8) : AudioSampleFormat :=
  if code = 0 then .unknown
  else if code = 1 then .pcmS16le
  else if code = 2 then .pcmFloat32le
  else if code = 3 then .pcmS24le
  else if code = 4 then .pcmS32le
  else .unnamed code

/-- `static_cast<uint8_t>` on a format. -/
def toCode : AudioSampleFormat → UInt8
  | .unknown => 0
  | .pcmS16le => 1
  | .pcmFloat32le => 2
  | .pcmS24le => 3
  | .pcmS32le => 4
  | .unnamed code => code

@[simp]
theorem toCode_ofCode (code : UInt8) : (ofCode code).toCode = code := by
  unfold ofCode
  split_ifs <;> simp_all [toCode]

end AudioSampleFormat

/-- The stream parameters, with the defaults of the header file. -/
structure AudioConfig where
  sampleRate : Nat := 48000
  channels : Nat := 2
  format : AudioSampleFormat := .pcmS16le
  framesPerPacket : Nat := 480
  deriving DecidableEq, Repr

namespace AudioConfig

def bytesPerSample (config : AudioConfig) : Nat :=
  match config.format with
  | .pcmS16le => 2
  | .pcmFloat32le => 4
  | .pcmS24le => 3
  | .pcmS32le => 4
  | _ => 2

def bytesPerFrame (config : AudioConfig) : Nat :=
  config.bytesPerSample * config.channels

/-- `packet_payload_size`.  A product of two numbers of 32 bits fits `size_t`. -/
def packetPayloadSize (config : AudioConfig) : Nat :=
  if config.bytesPerFrame = 0 ∨ config.framesPerPacket = 0 then 0
  else config.framesPerPacket * config.bytesPerFrame

/-- `is_valid`. -/
def isValid (config : AudioConfig) : Bool :=
  if config.sampleRate = 0 ∨ config.sampleRate > 192000 then false
  else if config.channels = 0 ∨ config.channels > 32 then false
  else if config.framesPerPacket = 0 ∨ config.framesPerPacket > 8192 then false
  else if config.format = .unknown then false
  else if config.packetPayloadSize = 0 ∨ config.packetPayloadSize > 65507 then false
  else true

/-- What a valid configuration satisfies. -/
structure Valid (config : AudioConfig) : Prop where
  sampleRate : 1 ≤ config.sampleRate ∧ config.sampleRate ≤ 192000
  channels : 1 ≤ config.channels ∧ config.channels ≤ 32
  framesPerPacket : 1 ≤ config.framesPerPacket ∧ config.framesPerPacket ≤ 8192
  format : config.format ≠ .unknown
  payload : config.framesPerPacket * config.bytesPerFrame ≤ 65507

theorem bytesPerSample_pos (config : AudioConfig) :
    0 < config.bytesPerSample := by
  unfold bytesPerSample
  split <;> decide

theorem valid_of_isValid {config : AudioConfig} (valid : config.isValid = true) :
    config.Valid := by
  unfold isValid packetPayloadSize at valid
  split_ifs at valid with sampleRate channels framesPerPacket format
  · omega
  · exact ⟨by omega, by omega, by omega, format, by omega⟩

end AudioConfig

end AudioRouter
