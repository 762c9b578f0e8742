import AudioRouter.Lib.FileImage
import AudioRouter.Lib.FrameCutter
import AudioRouter.Lib.LittleEndian
import AudioRouter.TermuxPlayer.Model

/-!
# The segment files

A segment is a WAV file that is created with its full length: a header with the exact
sizes, and silence that the recorder writes over.
-/

namespace AudioRouter.TermuxApiPlayer

open LittleEndian

/-- The size of the header of `build_wav_header`. -/
def sizeofWavHeader : Nat := 44

def buildWavHeader (sampleRate : UInt32) (channels : UInt16) (floatFormat : Bool)
    (riffSz dataSz : UInt32) : List UInt8 :=
  let bytesPerSample : UInt32 := if floatFormat then 4 else 2
  let blockAlign := channels.toUInt32 * bytesPerSample
  [0x52, 0x49, 0x46, 0x46] ++ encode 4 riffSz.toNat ++ [0x57, 0x41, 0x56, 0x45] ++
    [0x66, 0x6D, 0x74, 0x20] ++ encode 4 16 ++ encode 2 (if floatFormat then 3 else 1) ++
      encode 2 channels.toNat ++ encode 4 sampleRate.toNat ++
        encode 4 (sampleRate * blockAlign).toNat ++ encode 2 blockAlign.toUInt16.toNat ++
          encode 2 (if floatFormat then 32 else 16) ++ [0x64, 0x61, 0x74, 0x61] ++
            encode 4 dataSz.toNat

/-- The size of the data region that a WAV file declares. -/
def declaredBytes (contents : List UInt8) : Nat :=
  field contents 40 4

section

variable {sampleRate riffSz dataSz : UInt32} {channels : UInt16} {floatFormat : Bool}

@[simp]
theorem length_buildWavHeader :
    (buildWavHeader sampleRate channels floatFormat riffSz dataSz).length = sizeofWavHeader := by
  simp only [buildWavHeader, List.length_append, length_encode, List.length_cons,
    List.length_nil, sizeofWavHeader]

/-- The last four bytes of the header are the size of the data. -/
theorem declaredBytes_buildWavHeader (rest : List UInt8) :
    declaredBytes (buildWavHeader sampleRate channels floatFormat riffSz dataSz ++ rest) =
      dataSz.toNat := by
  have fits : dataSz.toNat < 256 ^ 4 := dataSz.toNat_lt
  unfold buildWavHeader declaredBytes
  dsimp only
  rw [List.append_assoc, field_append_right]
  · simp only [List.length_append, length_encode, List.length_cons, List.length_nil]
    exact field_encode_append fits rest
  · simp only [List.length_append, length_encode, List.length_cons, List.length_nil]
    omega

end

/-! ## The samples on disk -/

/-- `convert_to_s16le`: the arithmetic shift of a sample, by 16 or by 8, keeps its upper
two bytes. -/
def convertToS16le (format : AudioSampleFormat) (samples : Nat) (src : List UInt8) :
    List UInt8 :=
  let width := if format = .pcmS32le then 4 else 3
  (FrameCutter.cut width samples src).flatMap (·.drop (width - 2))

/-- Two bytes of each sample stay. -/
theorem length_upperBytes {width : Nat} (wide : 2 ≤ width) (samples : Nat) {src : List UInt8}
    (length : src.length = samples * width) :
    ((FrameCutter.cut width samples src).flatMap (·.drop (width - 2))).length =
      samples * 2 := by
  induction samples generalizing src with
  | zero => simp [FrameCutter.cut]
  | succ samples inductionHypothesis =>
    rw [Nat.add_mul, Nat.one_mul] at length
    have others : (src.drop width).length = samples * width := by
      rw [List.length_drop, length]
      omega
    rw [FrameCutter.cut, List.flatMap_cons, List.length_append, inductionHypothesis others,
      List.length_drop, List.length_take, length]
    omega

/-- `bytes_per_frame` of the files: float, or 16 bits. -/
def wavBytesPerFrame (config : AudioConfig) : Nat :=
  if config.format = .pcmFloat32le then config.bytesPerFrame else 2 * config.channels

/-- What `write_frames` puts into the file. -/
def wavData (config : AudioConfig) (numFrames : Nat) (pcm : List UInt8) : List UInt8 :=
  if config.format = .pcmS24le ∨ config.format = .pcmS32le then
    convertToS16le config.format (numFrames * config.channels) pcm
  else pcm

/-- A frame of PCM is a frame in the file. -/
theorem length_wavData {config : AudioConfig} {pcm : List UInt8} {numFrames : Nat}
    (length : pcm.length = numFrames * config.bytesPerFrame) :
    (wavData config numFrames pcm).length = numFrames * wavBytesPerFrame config := by
  rw [AudioConfig.bytesPerFrame, Nat.mul_comm _ config.channels, ← Nat.mul_assoc] at length
  unfold wavData wavBytesPerFrame convertToS16le AudioConfig.bytesPerFrame
  unfold AudioConfig.bytesPerSample at *
  cases format : config.format with
  | pcmS32le =>
    rw [format] at length
    have converted := length_upperBytes (by decide) (numFrames * config.channels) length
    simpa [Nat.mul_assoc, Nat.mul_comm 2] using converted
  | pcmS24le =>
    rw [format] at length
    have converted := length_upperBytes (by decide) (numFrames * config.channels) length
    simpa [Nat.mul_assoc, Nat.mul_comm 2] using converted
  | unknown | pcmS16le | pcmFloat32le | unnamed _ =>
    rw [format] at length
    simp [length, Nat.mul_assoc, Nat.mul_comm config.channels]

/-! ## A segment -/

/-- The size of the data region of a segment, before it is cut to 32 bits. -/
def windowBytes (s : TermuxApiPlayer) : Nat :=
  s.segmentMs * s.config.sampleRate / 1000 * wavBytesPerFrame s.config

def segmentHeader (s : TermuxApiPlayer) : List UInt8 :=
  buildWavHeader (UInt32.ofNat s.config.sampleRate) (UInt16.ofNat s.config.channels)
    (decide (s.config.format = .pcmFloat32le)) (UInt32.ofNat (36 + s.windowBytes))
    (UInt32.ofNat s.windowBytes)

/-- The file that `open_next_segment_locked` leaves behind. -/
def newSegment (s : TermuxApiPlayer) : FileImage :=
  (FileImage.write {} s.segmentHeader).resize (s.segmentHeader.length + s.windowBytes)

theorem length_segmentHeader (s : TermuxApiPlayer) :
    s.segmentHeader.length = sizeofWavHeader :=
  length_buildWavHeader

theorem declaredBytes_segmentHeader (s : TermuxApiPlayer) (rest : List UInt8) :
    declaredBytes (s.segmentHeader ++ rest) = s.windowBytes % 2 ^ 32 := by
  rw [segmentHeader, declaredBytes_buildWavHeader, UInt32.toNat_ofNat']

/-- The data region of a file, limited to what its header declares. -/
def dataRegion (f : FileImage) : List UInt8 :=
  (f.contents.drop sizeofWavHeader).take (declaredBytes f.contents)

/-- The part of it that has been recorded. -/
def recordedRegion (f : FileImage) : List UInt8 :=
  ((f.contents.take f.offset).drop sizeofWavHeader).take (declaredBytes f.contents)

end AudioRouter.TermuxApiPlayer
