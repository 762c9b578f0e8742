import AudioRouter.Server.Model

/-!
# The packets of the server at the client's validators

`AudioConfig::is_valid` bounds the PCM of a packet by what the validators allow for
the payload, which has 12 bytes of header besides.  Everything else agrees: a packet of
a valid 16-bit configuration is accepted and read back unless its payload is too large.
-/

namespace AudioRouter

namespace Server

open Protocol

/-- The bytes of a packet that `on_audio_captured` builds. -/
def audioPacket (s : Server) (config : AudioConfig) (seqNum : UInt32)
    (timestampUs : UInt64) (pcm : List UInt8) : Datagram :=
  (s.audioHeader config seqNum timestampUs).toBytes ++ pcm

/-- The checks of `network_receive_thread` on an audio packet. -/
def Accepted (bytes : Datagram) : Prop :=
  isValidHeader (.ofBytes bytes) bytes.length = true ∧
    validateAudioHeader (.ofBytes bytes) bytes.length = .ok ()

/-- A packet carries its number, the frames of its configuration, and its PCM. -/
def Decodes (bytes : Datagram) (config : AudioConfig) (seqNum : UInt32)
    (pcm : List UInt8) : Prop :=
  (AudioPacketHeader.ofBytes bytes).common.seqNum = seqNum ∧
    (AudioPacketHeader.ofBytes bytes).numFrames.toNat = config.framesPerPacket ∧
      bytes.drop sizeofAudioPacketHeader = pcm

section

variable {s : Server} {config : AudioConfig} {seqNum : UInt32} {timestampUs : UInt64}
  {pcm : List UInt8}

/-- What `on_audio_captured` sends is such a packet, with one chunk of PCM. -/
theorem sendChunk_sent {o : Outcome} {client : Address}
    (full : s.targetChunkBytes config ≤ s.chunkBuffer.length)
    (active : s.activeClient = some client) (sendOk : o.sendOk = true) :
    ∃ pcm, pcm.length = s.targetChunkBytes config ∧
      (s.sendChunk o config seqNum).sent =
        s.sent ++ [(client, .audioData (s.audioHeader config seqNum o.timestampUs) pcm)] := by
  refine ⟨s.chunkBuffer.take (s.targetChunkBytes config), ?_, ?_⟩
  · rw [List.length_take, Nat.min_eq_left full]
  · rw [sendChunk, active]
    dsimp only
    rw [if_pos sendOk]
    rfl

theorem targetChunkFrames_eq (valid : config.Valid)
    (frames : s.config.framesPerPacket = config.framesPerPacket) :
    s.targetChunkFrames = config.framesPerPacket := by
  have positive := valid.framesPerPacket.1
  unfold targetChunkFrames
  rw [frames, if_pos (by omega)]

theorem header_audioPacket :
    AudioPacketHeader.ofBytes (s.audioPacket config seqNum timestampUs pcm) =
      s.audioHeader config seqNum timestampUs :=
  AudioPacketHeader.ofBytes_toBytes _ pcm

theorem length_audioPacket :
    (s.audioPacket config seqNum timestampUs pcm).length =
      sizeofAudioPacketHeader + pcm.length := by
  rw [audioPacket, List.length_append, AudioPacketHeader.length_toBytes]

theorem toNat_ofNat {n : Nat} (small : n < 2 ^ 32) : (UInt32.ofNat n).toNat = n := by
  rw [UInt32.toNat_ofNat', Nat.mod_eq_of_lt small]

/-- The numbers of the header are those of the configuration. -/
structure Stamped (header : AudioPacketHeader) (config : AudioConfig) : Prop where
  sampleRate : header.sampleRate.toNat = config.sampleRate
  channels : header.channels.toNat = config.channels
  format : header.format = config.format.toCode
  numFrames : header.numFrames.toNat = config.framesPerPacket
  payload :
    header.common.payloadSize.toNat =
      sizeofAudioPacketHeader - sizeofCommonHeader +
        config.framesPerPacket * config.bytesPerFrame

theorem audioHeader_stamped (valid : config.Valid)
    (frames : s.config.framesPerPacket = config.framesPerPacket) :
    Stamped (s.audioHeader config seqNum timestampUs) config := by
  have chunk := targetChunkFrames_eq valid frames
  obtain ⟨rate, channels, framesPerPacket, _, payload⟩ := valid
  unfold audioHeader targetChunkBytes
  rw [chunk]
  constructor
  · exact toNat_ofNat (by omega)
  · dsimp only
    rw [UInt16.toNat_ofNat', Nat.mod_eq_of_lt (by omega)]
  · rfl
  · exact toNat_ofNat (by omega)
  · refine toNat_ofNat ?_
    rw [sizeofAudioPacketHeader, sizeofCommonHeader]
    omega

theorem bytesPerFrame_s16 (s16 : config.format = .pcmS16le) :
    config.bytesPerFrame = 2 * config.channels := by
  simp only [AudioConfig.bytesPerFrame, AudioConfig.bytesPerSample, s16]

/-- The header passes all checks once its payload is within the bound. -/
theorem validAudioHeader_of_small (s16 : config.format = .pcmS16le) (valid : config.Valid)
    (frames : s.config.framesPerPacket = config.framesPerPacket)
    (small : config.framesPerPacket * config.bytesPerFrame ≤ 65495) :
    ValidAudioHeader (s.audioHeader config seqNum timestampUs)
      (sizeofAudioPacketHeader + config.framesPerPacket * config.bytesPerFrame) := by
  have stamped : Stamped (s.audioHeader config seqNum timestampUs) config :=
    audioHeader_stamped valid frames
  have payload := stamped.payload
  simp only [sizeofAudioPacketHeader, sizeofCommonHeader] at payload ⊢
  constructor
  · constructor
    · simp only [sizeofCommonHeader]
      omega
    · rfl
    · rfl
    · rfl
    · simp only [maxUdpPacketSize]
      omega
    · simp only [sizeofCommonHeader]
      omega
    · exact UInt16.zero_and
  · rfl
  · rw [stamped.sampleRate]
    exact valid.sampleRate
  · rw [stamped.channels]
    exact valid.channels
  · rw [stamped.numFrames]
    exact valid.framesPerPacket
  · intro _
    rw [payload, AudioPacketHeader.expectedPcm, stamped.numFrames, stamped.channels,
      bytesPerFrame_s16 s16, Nat.mul_assoc, Nat.mul_comm 2]
    rfl

/-- The validators accept the packet unless the payload exceeds their bound. -/
theorem accepted_iff (s16 : config.format = .pcmS16le) (valid : config.Valid)
    (frames : s.config.framesPerPacket = config.framesPerPacket)
    (size : pcm.length = s.targetChunkBytes config) :
    Accepted (s.audioPacket config seqNum timestampUs pcm) ↔
      config.framesPerPacket * config.bytesPerFrame ≤ 65495 := by
  have length : pcm.length = config.framesPerPacket * config.bytesPerFrame := by
    rw [size, targetChunkBytes, targetChunkFrames_eq valid frames]
  have common :
      CommonHeader.ofBytes (s.audioPacket config seqNum timestampUs pcm) =
        (s.audioHeader config seqNum timestampUs).common :=
    congrArg AudioPacketHeader.common header_audioPacket
  rw [Accepted, header_audioPacket, common, length_audioPacket, length]
  constructor
  · intro accepted
    have stamped : Stamped (s.audioHeader config seqNum timestampUs) config :=
      audioHeader_stamped valid frames
    have payload := stamped.payload
    have bounded := (isValidHeader_iff.1 accepted.1).payload
    rw [payload, sizeofAudioPacketHeader, sizeofCommonHeader, maxUdpPacketSize] at bounded
    omega
  · intro small
    have accepted :
        ValidAudioHeader (s.audioHeader config seqNum timestampUs)
          (sizeofAudioPacketHeader + config.framesPerPacket * config.bytesPerFrame) :=
      validAudioHeader_of_small s16 valid frames small
    exact ⟨isValidHeader_iff.2 accepted.toValidHeader, validateAudioHeader_of_valid accepted⟩

theorem audioPacket_decodes (valid : config.Valid)
    (frames : s.config.framesPerPacket = config.framesPerPacket) :
    Decodes (s.audioPacket config seqNum timestampUs pcm) config seqNum pcm := by
  refine ⟨?_, ?_, ?_⟩
  · rw [header_audioPacket]
    rfl
  · rw [header_audioPacket]
    exact (audioHeader_stamped valid frames).numFrames
  · exact List.drop_left' (AudioPacketHeader.length_toBytes _)

end

/-- Every packet that is built for a valid 16-bit configuration is accepted by the
client, and read back: exactly when its PCM leaves room for the 12 bytes of header that
the validators count to the payload. -/
theorem audio_packet_accepted_iff (s : Server) (config : AudioConfig) (seqNum : UInt32)
    (timestampUs : UInt64) (pcm : List UInt8) (s16 : config.format = .pcmS16le)
    (valid : config.isValid = true)
    (frames : s.config.framesPerPacket = config.framesPerPacket)
    (size : pcm.length = s.targetChunkBytes config) :
    Accepted (s.audioPacket config seqNum timestampUs pcm) ∧
        Decodes (s.audioPacket config seqNum timestampUs pcm) config seqNum pcm ↔
      config.framesPerPacket * config.bytesPerFrame ≤ 65495 := by
  have valid := AudioConfig.valid_of_isValid valid
  rw [accepted_iff s16 valid frames size]
  exact and_iff_left (audioPacket_decodes valid frames)

/-- One frame of silence in stereo. -/
theorem stereo_frame_accepted :
    Accepted ((start { framesPerPacket := 1 }).audioPacket { framesPerPacket := 1 } 7 0
        [0, 0, 0, 0]) ∧
      Decodes ((start { framesPerPacket := 1 }).audioPacket { framesPerPacket := 1 } 7 0
        [0, 0, 0, 0]) { framesPerPacket := 1 } 7 [0, 0, 0, 0] :=
  (audio_packet_accepted_iff (start { framesPerPacket := 1 }) { framesPerPacket := 1 } 7 0
    [0, 0, 0, 0] rfl (by decide) rfl (by decide)).2 (by decide)

/-- Packets of 4094 frames in eight channels are too long by nine bytes. -/
def surround : AudioConfig := { channels := 8, framesPerPacket := 4094 }

theorem surround_packet_rejected :
    ¬ ∀ (s : Server) (config : AudioConfig) (seqNum : UInt32) (timestampUs : UInt64)
        (pcm : List UInt8), config.format = .pcmS16le → config.isValid = true →
          s.config.framesPerPacket = config.framesPerPacket →
            pcm.length = s.targetChunkBytes config →
              Accepted (s.audioPacket config seqNum timestampUs pcm) ∧
                Decodes (s.audioPacket config seqNum timestampUs pcm) config seqNum pcm := by
  intro claim
  have valid : surround.isValid = true := by decide
  have size :
      (List.replicate 65504 (0 : UInt8)).length =
        (start { framesPerPacket := 4094 }).targetChunkBytes surround := by
    rw [List.length_replicate]
    decide
  have accepted := (claim (start { framesPerPacket := 4094 }) surround 0 0
    (List.replicate 65504 0) rfl valid rfl size).1
  have small := (accepted_iff rfl (AudioConfig.valid_of_isValid valid) rfl size).1 accepted
  exact absurd small (by decide)

end Server

end AudioRouter
