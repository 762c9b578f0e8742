import Mathlib.Algebra.Group.Nat.Defs
import AudioRouter.AudioConverter
import AudioRouter.Lib.Transition

/-!
# Conversion of captured packets

The capture thread converts every packet of the loopback device to stereo samples of 16
bits and calls the server back with them.  A packet of `n` frames has `n * channels`
samples; a read outside them, or a write outside a buffer of the thread, has no result.
Its two buffers live as long as the thread, so that a branch that writes nothing leaves
the samples of an earlier packet.
-/

namespace AudioRouter.WasapiCapture

open FrameCutter (Frame)
open FrameLoop AudioConverter

/-! ## Devices and packets -/

/-- The branch that `is_float` and, without it, `device_bits_per_sample` select: the loop
converts `float` and 16 bits, and no other format. -/
inductive SampleFormat where
  | float32
  | int16
  | other
  deriving DecidableEq, Repr

/-- A sample as the loop reads it. -/
def Sample (F : Type) : SampleFormat → Type
  | .float32 => F
  | .int16 => Int16
  | .other => Unit

/-- What the loop uses of the mix format of the device. -/
structure Device where
  format : SampleFormat
  channels : Nat := 2
  deriving DecidableEq, Repr

/-- What `GetBuffer` returns: the number of frames, the flag for silence, and the data,
`none` for a null pointer. -/
structure Packet (F : Type) (device : Device) where
  numFramesAvailable : Nat
  silent : Bool := false
  data : Option (List (Sample F device.format))
  sized : ∀ samples ∈ data, samples.length = numFramesAvailable * device.channels

/-- A call of the callback. -/
structure Block where
  samples : List Int16
  frames : Nat
  deriving DecidableEq

/-- The locals of `capture_thread_func`, and the blocks it handed on. -/
structure Thread (F : Type) where
  tempStereoFloat : List F := []
  outputPcmS16 : List Int16 := []
  handed : List Block := []
  deriving DecidableEq

variable {F : Type} [FloatOps F]

/-- `num_frames_available * 2`, a product of 32 bits. -/
def stereoSamples (n : Nat) : Nat :=
  n * 2 % 2 ^ 32

/-! ## The conversion -/

/-- The branch for `float`. -/
def convertFloat (channels n : Nat) (data : List F) (s : Thread F) : Option (Thread F) :=
  if channels = 2 then
    (float32ToS16le data s.outputPcmS16 (stereoSamples n)).map fun out =>
      { s with outputPcmS16 := out }
  else
    (downmixToStereoFloat data channels s.tempStereoFloat n).bind fun temp =>
      (float32ToS16le temp s.outputPcmS16 (stereoSamples n)).map fun out =>
        { s with tempStereoFloat := temp, outputPcmS16 := out }

/-- The turn of the downmix of 16 bits: `frame` points into the packet. -/
def int16Frame (frame : Nat → Option Int16) : Option (Frame Int16 2) := do
  return ⟨[← frame 0, ← frame 1], rfl⟩

/-- The branch for 16 bits. -/
def convertInt16 (channels n : Nat) (data : List Int16) (s : Thread F) :
    Option (Thread F) :=
  let converted :=
    if channels = 2 then copy data (stereoSamples n) s.outputPcmS16
    else fill (fun i => int16Frame fun k => data[i * channels + k]?) n s.outputPcmS16
  converted.map fun out => { s with outputPcmS16 := out }

def convertSamples (channels n : Nat) :
    (format : SampleFormat) → List (Sample F format) → Thread F → Option (Thread F)
  | .float32, data, s => convertFloat channels n data s
  | .int16, data, s => convertInt16 channels n data s
  | .other, _, s => some s

variable {device : Device}

/-- The buffers of the thread, resized for a packet. -/
def resized (n : Nat) (s : Thread F) : Thread F :=
  { s with
    tempStereoFloat := resize s.tempStereoFloat (stereoSamples n) 0.0
    outputPcmS16 := resize s.outputPcmS16 (stereoSamples n) 0 }

/-- One packet into `output_pcm_s16`. -/
def convertPacket (s : Thread F) (p : Packet F device) : Option (Thread F) :=
  let s := resized p.numFramesAvailable s
  if p.silent then some { s with outputPcmS16 := s.outputPcmS16.map fun _ => 0 }
  else
    match p.data with
    | none => some s
    | some data => convertSamples device.channels p.numFramesAvailable device.format data s

/-- One packet of the capture loop. -/
def capturePacket (s : Thread F) (p : Packet F device) : Option (Thread F) :=
  if p.numFramesAvailable > 0 then
    (convertPacket s p).map fun s =>
      { s with handed := s.handed ++ [⟨s.outputPcmS16, p.numFramesAvailable⟩] }
  else some s

/-- The thread after packets of the device. -/
def Reachable (device : Device) (s : Thread F) : Prop :=
  ∃ packets : List (Packet F device), Transition.run capturePacket {} packets = some s

/-- A packet with sound. -/
def Packet.sound (n : Nat) (data : List (Sample F device.format))
    (sized : data.length = n * device.channels) : Packet F device where
  numFramesAvailable := n
  data := some data
  sized := by
    intro samples same
    rwa [← Option.some.inj same]

/-! ## What the thread keeps -/

variable {s t : Thread F} {p : Packet F device} {channels n : Nat}

theorem convertFloat_cases {data : List F} (completed : convertFloat channels n data s = some t) :
    ∃ temp out, t = { s with tempStereoFloat := temp, outputPcmS16 := out } ∧
      out.length = s.outputPcmS16.length ∧ (channels > 32 → temp = s.tempStereoFloat) := by
  rw [convertFloat] at completed
  split at completed
  · rcases Option.map_eq_some_iff.1 completed with ⟨out, same, rfl⟩
    exact ⟨_, out, rfl, length_float32ToS16le same, fun _ => rfl⟩
  · rcases Option.bind_eq_some_iff.1 completed with ⟨temp, mixed, rest⟩
    rcases Option.map_eq_some_iff.1 rest with ⟨out, same, rfl⟩
    refine ⟨temp, out, rfl, length_float32ToS16le same, ?_⟩
    intro many
    rw [downmixToStereoFloat_of_many many] at mixed
    exact (Option.some.inj mixed).symm

/-- The conversion changes the two buffers, the output without changing its length, and
the other one with at most 32 channels only. -/
theorem convertSamples_cases :
    ∀ {format : SampleFormat} {data : List (Sample F format)},
      convertSamples channels n format data s = some t →
        ∃ temp out, t = { s with tempStereoFloat := temp, outputPcmS16 := out } ∧
          out.length = s.outputPcmS16.length ∧ (channels > 32 → temp = s.tempStereoFloat)
  | .float32, _, completed => convertFloat_cases completed
  | .int16, data, completed => by
      have run : convertInt16 channels n data s = some t := completed
      rcases Option.map_eq_some_iff.1 run with ⟨out, same, rfl⟩
      refine ⟨_, out, rfl, ?_, fun _ => rfl⟩
      split at same
      · exact length_copy same
      · exact length_fill same
  | .other, _, completed => by
      rw [← Option.some.inj completed]
      exact ⟨_, _, rfl, rfl, fun _ => rfl⟩

theorem convertPacket_cases (completed : convertPacket s p = some t) :
    ∃ temp out, t = { s with tempStereoFloat := temp, outputPcmS16 := out } ∧
      out.length = stereoSamples p.numFramesAvailable ∧
      (device.channels > 32 →
        temp = resize s.tempStereoFloat (stereoSamples p.numFramesAvailable) 0.0) := by
  rw [convertPacket] at completed
  split at completed
  · rw [← Option.some.inj completed]
    exact ⟨_, _, rfl, by simp [resized], fun _ => rfl⟩
  · split at completed
    · rw [← Option.some.inj completed]
      exact ⟨_, _, rfl, by simp, fun _ => rfl⟩
    · rcases convertSamples_cases completed with ⟨temp, out, rfl, same, kept⟩
      exact ⟨temp, out, rfl, by rw [same, resized, length_resize], kept⟩

/-- The output of a packet has the number of samples that the thread computed. -/
theorem length_convertPacket (completed : convertPacket s p = some t) :
    t.outputPcmS16.length = stereoSamples p.numFramesAvailable := by
  rcases convertPacket_cases completed with ⟨_, _, rfl, sized, _⟩
  exact sized

/-- With more than 32 channels the downmix never writes, and its buffer stays as it was
made. -/
def StaysSilent (channels : Nat) (s : Thread F) : Prop :=
  channels > 32 → ∀ sample ∈ s.tempStereoFloat, sample = (0.0 : F)

theorem StaysSilent.resized (silent : StaysSilent channels s) (n : Nat) :
    StaysSilent channels (resized n s) := fun many =>
  forall_mem_resize (silent many) rfl (stereoSamples n)

theorem StaysSilent.capturePacket (silent : StaysSilent device.channels s)
    (captured : capturePacket s p = some t) : StaysSilent device.channels t := by
  intro many
  rw [WasapiCapture.capturePacket] at captured
  split at captured
  · rcases Option.map_eq_some_iff.1 captured with ⟨u, completed, rfl⟩
    rcases convertPacket_cases completed with ⟨temp, _, rfl, _, kept⟩
    have zeros := silent.resized p.numFramesAvailable many
    rw [kept many]
    exact zeros
  · rw [← Option.some.inj captured]
    exact silent many

theorem Reachable.staysSilent (reached : Reachable device s) :
    StaysSilent device.channels s := by
  rcases reached with ⟨packets, ran⟩
  have kept : ∀ (s : Thread F) (p : Packet F device) (t : Thread F),
      StaysSilent device.channels s → capturePacket s p = some t →
        StaysSilent device.channels t :=
    fun s p t silent captured => silent.capturePacket captured
  have start : StaysSilent device.channels ({} : Thread F) := by
    intro _ sample present
    exact absurd present (by simp)
  exact Transition.run_preserves kept packets start ran

/-! ## What one frame becomes -/

def convertFloatFrame (channels : Nat) (frame : List F) : Option (List Int16) :=
  if channels = 2 then some (frame.map sampleToS16)
  else if channels > 32 then some [sampleToS16 (0.0 : F), sampleToS16 (0.0 : F)]
  else (downmixFrame channels fun k => frame[k]?).map fun mixed => mixed.val.map sampleToS16

def convertInt16Frame (channels : Nat) (frame : List Int16) : Option (List Int16) :=
  if channels = 2 then some frame else (int16Frame fun k => frame[k]?).map (·.val)

/-- The stereo frame of one frame of a packet, `none` where its samples are not enough. -/
def convertFrame (channels : Nat) :
    (format : SampleFormat) → List (Sample F format) → Option (List Int16)
  | .float32, frame => convertFloatFrame (F := F) channels frame
  | .int16, frame => convertInt16Frame channels frame
  | .other, _ => none

theorem stereoSamples_eq (few : n < 2 ^ 31) : stereoSamples n = n * 2 := by
  rw [stereoSamples, Nat.mod_eq_of_lt (by omega)]

theorem frameAt_replicate {β : Type} (value : β) {i : Nat} (within : i < n) :
    frameAt 2 i (List.replicate (n * 2) value) = [value, value] := by
  have room : min 2 (n * 2 - i * 2) = 2 := by omega
  rw [frameAt, List.drop_replicate, List.take_replicate, room]
  rfl

/-- Every frame of a packet of `float` is converted in its place. -/
theorem convertFloat_frames (positive : 1 ≤ channels) (few : n < 2 ^ 31) {data : List F}
    (sized : data.length = n * channels) (silent : StaysSilent channels s)
    (tempSized : s.tempStereoFloat.length = n * 2) (outSized : s.outputPcmS16.length = n * 2) :
    ∃ t, convertFloat channels n data s = some t ∧
      ∀ i < n, convertFloatFrame channels (frameAt channels i data) =
        some (frameAt 2 i t.outputPcmS16) := by
  unfold convertFloat convertFloatFrame
  rw [stereoSamples_eq few, ← outSized]
  by_cases stereo : channels = 2
  · have enough : data.length = s.outputPcmS16.length := by rw [sized, outSized, stereo]
    refine ⟨{ s with outputPcmS16 := data.map sampleToS16 }, ?_, ?_⟩
    · rw [if_pos stereo, float32ToS16le_eq_some enough, Option.map_some]
    · intro i _
      rw [if_pos stereo, frameAt_map, stereo]
  simp only [if_neg stereo]
  by_cases many : channels > 32
  · have zeros : s.tempStereoFloat = List.replicate (n * 2) (0.0 : F) :=
      List.eq_replicate_iff.2 ⟨tempSized, silent many⟩
    have enough : s.tempStereoFloat.length = s.outputPcmS16.length := by
      rw [tempSized, outSized]
    refine ⟨{ s with outputPcmS16 := s.tempStereoFloat.map sampleToS16 }, ?_, ?_⟩
    · rw [downmixToStereoFloat_of_many many, Option.bind_some, float32ToS16le_eq_some enough,
        Option.map_some]
    · intro i within
      rw [if_pos many, zeros, frameAt_map, frameAt_replicate _ within]
      rfl
  · rcases downmixToStereoFloat_frames positive stereo (by omega) sized tempSized with
      ⟨temp, mixed, mixedSized, frames⟩
    have enough : temp.length = s.outputPcmS16.length := by rw [mixedSized, outSized]
    refine ⟨{ s with tempStereoFloat := temp, outputPcmS16 := temp.map sampleToS16 }, ?_, ?_⟩
    · rw [mixed, Option.bind_some, float32ToS16le_eq_some enough, Option.map_some]
    · intro i within
      rcases Option.map_eq_some_iff.1 (frames i within) with ⟨frame, computed, same⟩
      rw [if_neg many, computed, Option.map_some, same, frameAt_map]

theorem int16Frame_congr {frame frameToo : Nat → Option Int16}
    (same : ∀ k < 2, frame k = frameToo k) : int16Frame frame = int16Frame frameToo := by
  simp only [int16Frame, same 0 Nat.zero_lt_two, same 1 Nat.one_lt_two]

omit [FloatOps F] in
/-- Every frame of a packet of 16 bits is converted in its place, with two channels or
more. -/
theorem convertInt16_frames (spared : 2 ≤ channels ∨ n = 0) (few : n < 2 ^ 31) {data : List Int16}
    (sized : data.length = n * channels) (outSized : s.outputPcmS16.length = n * 2) :
    ∃ t, convertInt16 channels n data s = some t ∧
      ∀ i < n, convertInt16Frame channels (frameAt channels i data) =
        some (frameAt 2 i t.outputPcmS16) := by
  unfold convertInt16 convertInt16Frame
  by_cases stereo : channels = 2
  · have enough : s.outputPcmS16.length = data.length := by rw [sized, outSized, stereo]
    refine ⟨{ s with outputPcmS16 := data }, ?_, ?_⟩
    · rw [if_pos stereo, stereoSamples_eq few, ← outSized, copy_eq_some (Nat.le_of_eq enough),
        enough, List.take_length, Option.map_some]
    · intro i _
      rw [if_pos stereo, stereo]
  have defined : ∀ i < n, (int16Frame fun k => data[i * channels + k]?).isSome := by
    intro i within
    have upTo : i * channels + channels ≤ n * channels := by
      rw [← Nat.succ_mul]
      exact Nat.mul_le_mul_right channels within
    have left : i * channels < data.length := by omega
    have right : i * channels + 1 < data.length := by omega
    simp [int16Frame, List.getElem?_eq_getElem left, List.getElem?_eq_getElem right]
  rcases fill_eq_some defined (Nat.le_of_eq outSized.symm) with ⟨out, filled, _, frames⟩
  refine ⟨{ s with outputPcmS16 := out }, ?_, ?_⟩
  · rw [if_neg stereo, filled, Option.map_some]
  · intro i within
    have reads : ∀ k < 2, (frameAt channels i data)[k]? = data[i * channels + k]? := by
      intro k within
      exact getElem?_frameAt i (by omega) data
    rw [if_neg stereo, int16Frame_congr reads]
    exact frames i within

/-- Every frame of a packet with sound is converted in its place. -/
theorem convertPacket_frames (positive : 1 ≤ device.channels) (few : n < 2 ^ 31)
    (converts : device.format ≠ .other)
    (spared : ¬ (device.format = .int16 ∧ device.channels = 1 ∧ 0 < n))
    (silent : StaysSilent device.channels s) (data : List (Sample F device.format))
    (sized : data.length = n * device.channels) :
    ∃ t, convertPacket s (Packet.sound n data sized) = some t ∧
      t.outputPcmS16.length = n * 2 ∧
      ∀ i < n, convertFrame device.channels device.format (frameAt device.channels i data) =
        some (frameAt 2 i t.outputPcmS16) := by
  have tempSized : (resized n s).tempStereoFloat.length = n * 2 := by
    rw [resized, length_resize, stereoSamples_eq few]
  have outSized : (resized n s).outputPcmS16.length = n * 2 := by
    rw [resized, length_resize, stereoSamples_eq few]
  have placed : ∃ t, convertSamples device.channels n device.format data (resized n s) = some t ∧
      ∀ i < n, convertFrame device.channels device.format (frameAt device.channels i data) =
        some (frameAt 2 i t.outputPcmS16) := by
    rcases device with ⟨format, channels⟩
    cases format with
    | float32 =>
      exact convertFloat_frames positive few sized (silent.resized n) tempSized outSized
    | int16 =>
      have enough : 2 ≤ channels ∨ n = 0 := by
        simp only [true_and, not_and] at spared positive
        omega
      exact convertInt16_frames enough few sized outSized
    | other => exact absurd rfl converts
  rcases placed with ⟨t, converted, frames⟩
  have length := length_convertPacket (s := s) (p := Packet.sound n data sized) converted
  exact ⟨t, converted, length.trans (stereoSamples_eq few), frames⟩

theorem convertFloatFrame_mono {frame : List F} {pair : List Int16}
    (converted : convertFloatFrame 1 frame = some pair) : pair[0]? = pair[1]? := by
  rw [convertFloatFrame, if_neg (by decide), if_neg (by decide), downmixFrame, if_pos rfl,
    Option.map_map] at converted
  rcases Option.map_eq_some_iff.1 converted with ⟨sample, _, rfl⟩
  rfl

omit [FloatOps F] in
/-- With one channel the turn of the last frame reads behind the packet. -/
theorem convertInt16_mono {data : List Int16} (nonempty : 0 < n) (sized : data.length = n * 1) :
    convertInt16 1 n data s = none := by
  have behind : int16Frame (fun k => data[(n - 1) * 1 + k]?) = none := by
    have outside : data[(n - 1) * 1 + 1]? = none := List.getElem?_eq_none (by omega)
    simp only [int16Frame, outside]
    cases data[(n - 1) * 1 + 0]? <;> rfl
  rw [convertInt16, if_neg (by decide), fill_eq_none (Nat.sub_one_lt_of_lt nonempty) behind]
  rfl

/-! ## Frame by frame -/

/-- The samples that a packet leaves in `output_pcm_s16`. -/
def converted (s : Thread F) (p : Packet F device) : Option (List Int16) :=
  (convertPacket s p).map (·.outputPcmS16)

/-- The conversion of packets of `n` frames is frame-local, whatever the thread captured
before. -/
structure FrameLocal (F : Type) [FloatOps F] (device : Device) (n : Nat) : Prop where
  /-- Nothing outside the packet is read, and every frame has its place in the output. -/
  inside : ∀ s : Thread F, Reachable device s →
    ∀ (data : List (Sample F device.format)) (sized : data.length = n * device.channels),
      ∃ out, converted s (Packet.sound n data sized) = some out ∧ out.length = n * 2
  /-- Packets that agree on a frame have that frame of their outputs in common. -/
  alike : ∀ s u : Thread F, Reachable device s → Reachable device u →
    ∀ m ≤ n, ∀ (data dataToo : List (Sample F device.format))
      (sized : data.length = n * device.channels)
      (sizedToo : dataToo.length = m * device.channels) (out outToo : List Int16),
      converted s (Packet.sound n data sized) = some out →
      converted u (Packet.sound m dataToo sizedToo) = some outToo →
      ∀ i < m, frameAt device.channels i data = frameAt device.channels i dataToo →
        frameAt 2 i out = frameAt 2 i outToo
  /-- One channel is put on the left and on the right. -/
  mono : device.channels = 1 → ∀ s : Thread F, Reachable device s →
    ∀ (data : List (Sample F device.format)) (sized : data.length = n * device.channels)
      (out : List Int16), converted s (Packet.sound n data sized) = some out →
      ∀ i < n, out[i * 2]? = out[i * 2 + 1]?

theorem exists_samples (F : Type) [FloatOps F] :
    ∀ (format : SampleFormat) (size : Nat), ∃ data : List (Sample F format), data.length = size
  | .float32, size => ⟨List.replicate size (0.0 : F), List.length_replicate⟩
  | .int16, size => ⟨List.replicate size (0 : Int16), List.length_replicate⟩
  | .other, size => ⟨List.replicate size (), List.length_replicate⟩

theorem reachable_start : Reachable device ({} : Thread F) :=
  ⟨[], rfl⟩

/-- What `FrameLocal` asks of the packets it can be met for. -/
theorem FrameLocal.of_spared (positive : 1 ≤ device.channels) (converts : device.format ≠ .other)
    (few : n < 2 ^ 31) (spared : ¬ (device.format = .int16 ∧ device.channels = 1 ∧ 0 < n)) :
    FrameLocal F device n := by
  have placed : ∀ m ≤ n, ∀ s : Thread F, Reachable device s →
      ∀ (data : List (Sample F device.format)) (sized : data.length = m * device.channels),
        ∃ out, converted s (Packet.sound m data sized) = some out ∧ out.length = m * 2 ∧
          ∀ i < m, convertFrame device.channels device.format (frameAt device.channels i data) =
            some (frameAt 2 i out) := by
    intro m upTo s reached data sized
    have sparedToo : ¬ (device.format = .int16 ∧ device.channels = 1 ∧ 0 < m) := by
      rintro ⟨bits, mono, nonempty⟩
      exact spared ⟨bits, mono, Nat.lt_of_lt_of_le nonempty upTo⟩
    rcases convertPacket_frames positive (Nat.lt_of_le_of_lt upTo few) converts sparedToo
      reached.staysSilent data sized with ⟨t, ran, length, frames⟩
    exact ⟨t.outputPcmS16, by rw [converted, ran, Option.map_some], length, frames⟩
  refine ⟨?_, ?_, ?_⟩
  · intro s reached data sized
    rcases placed n (Nat.le_refl n) s reached data sized with ⟨out, ran, length, _⟩
    exact ⟨out, ran, length⟩
  · intro s u reached reachedToo m upTo data dataToo sized sizedToo out outToo ran ranToo i within
      agree
    rcases placed n (Nat.le_refl n) s reached data sized with ⟨_, same, _, frames⟩
    rcases placed m upTo u reachedToo dataToo sizedToo with ⟨_, sameToo, _, framesToo⟩
    rcases Option.some.inj (same.symm.trans ran) with rfl
    rcases Option.some.inj (sameToo.symm.trans ranToo) with rfl
    have here := frames i (Nat.lt_of_lt_of_le within upTo)
    rw [agree, framesToo i within] at here
    exact (Option.some.inj here).symm
  · intro mono s reached data sized out ran i within
    rcases placed n (Nat.le_refl n) s reached data sized with ⟨_, same, _, frames⟩
    rcases Option.some.inj (ran.symm.trans same) with rfl
    have here := frames i within
    have equal : (frameAt 2 i out)[0]? = (frameAt 2 i out)[1]? := by
      rcases device with ⟨format, channels⟩
      cases mono
      cases format with
      | float32 => exact convertFloatFrame_mono here
      | int16 => exact absurd ⟨rfl, rfl, Nat.zero_lt_of_lt within⟩ spared
      | other => exact absurd rfl converts
    rw [getElem?_frameAt i Nat.zero_lt_two, getElem?_frameAt i Nat.one_lt_two] at equal
    exact equal

/-- The conversion is frame-local for exactly the packets whose samples a `UINT32` counts,
apart from those of one channel of 16 bits. -/
theorem conversion_is_frame_local_iff (positive : 1 ≤ device.channels)
    (converts : device.format ≠ .other) (n : Nat) :
    FrameLocal F device n ↔
      n < 2 ^ 31 ∧ ¬ (device.format = .int16 ∧ device.channels = 1 ∧ 0 < n) := by
  constructor
  · intro frameLocal
    rcases exists_samples F device.format (n * device.channels) with ⟨data, sized⟩
    rcases frameLocal.inside {} reachable_start data sized with ⟨out, ran, length⟩
    rcases Option.map_eq_some_iff.1 ran with ⟨t, completed, rfl⟩
    constructor
    · have wrapped := length_convertPacket completed
      rw [length] at wrapped
      have below : n * 2 % 2 ^ 32 < 2 ^ 32 := Nat.mod_lt _ (by decide)
      have same : n * 2 = n * 2 % 2 ^ 32 := wrapped
      omega
    · rintro ⟨bits, mono, nonempty⟩
      rcases device with ⟨format, channels⟩
      cases bits
      cases mono
      have stuck : convertPacket ({} : Thread F) (Packet.sound n data sized) = none :=
        convertInt16_mono nonempty sized
      exact absurd (stuck.symm.trans completed) (by simp)
  · rintro ⟨few, spared⟩
    exact FrameLocal.of_spared positive converts few spared

/-- Arithmetic without rounding: that of `float` on samples such as a half, whose
products it represents. -/
@[reducible]
def exactOps : FloatOps Rat where
  add := Rat.add
  mul := Rat.mul
  div := Rat.div
  neg := Rat.neg
  ofScientific := Rat.ofScientific
  lt := Rat.blt
  ofSize := fun size => size
  toInt16 := fun v => Int16.ofInt (v.num.tdiv v.den)

/-- A device of one channel. -/
def monoDevice (format : SampleFormat) : Device where
  format := format
  channels := 1

theorem two_mono_float_frames :
    @FrameLocal Rat exactOps (monoDevice .float32) 2 ∧
      @converted Rat exactOps (monoDevice .float32) {}
        (Packet.sound 2 ([0.5, -1] : List Rat) rfl) = some [16383, 16383, -32767, -32767] :=
  ⟨(@conversion_is_frame_local_iff Rat exactOps (monoDevice .float32) (by decide) (by decide) 2).2
    ⟨by decide, by decide⟩, by decide +kernel⟩

/-- Two frames of one channel of 16 bits: the first output frame has the second sample on
its right, and the turn of the second frame reads behind the packet. -/
theorem mono_int16_takes_the_next_frame :
    @converted Rat exactOps (monoDevice .int16) {}
        (Packet.sound 2 ([7, 9] : List Int16) rfl) = none ∧
      fill (fun i => int16Frame fun k => ([7, 9] : List Int16)[i * 1 + k]?) 1 [0, 0, 0, 0] =
        some [7, 9, 0, 0] ∧
      fill (fun i => int16Frame fun k => ([7, 5] : List Int16)[i * 1 + k]?) 1 [0, 0, 0, 0] =
        some [7, 5, 0, 0] ∧
      ¬ @FrameLocal Rat exactOps (monoDevice .int16) 2 := by
  have stuck : @converted Rat exactOps (monoDevice .int16) {}
      (Packet.sound 2 ([7, 9] : List Int16) rfl) = none := by decide +kernel
  refine ⟨stuck, by decide +kernel, by decide +kernel, ?_⟩
  intro frameLocal
  have inside := @FrameLocal.inside Rat exactOps (monoDevice .int16) 2 frameLocal {}
    (@reachable_start Rat exactOps (monoDevice .int16)) ([7, 9] : List Int16) rfl
  rcases inside with ⟨out, ran, _⟩
  exact absurd (stuck.symm.trans ran) (by simp)

/-! ## Whole runs -/

/-- Every block that a run hands on has the samples of its frames, where a `UINT32` counts
the samples of every packet. -/
theorem handed_sized (packets : List (Packet F device))
    (few : ∀ p ∈ packets, p.numFramesAvailable < 2 ^ 31)
    (ran : Transition.run capturePacket ({} : Thread F) packets = some t) :
    ∀ block ∈ t.handed, block.samples.length = block.frames * 2 := by
  have kept : ∀ (s : Thread F) (p : Packet F device) (t : Thread F),
      (∀ block ∈ s.handed, block.samples.length = block.frames * 2) →
        p.numFramesAvailable < 2 ^ 31 → capturePacket s p = some t →
          ∀ block ∈ t.handed, block.samples.length = block.frames * 2 := by
    intro s p t before small captured
    rw [capturePacket] at captured
    split at captured
    · rcases Option.map_eq_some_iff.1 captured with ⟨u, completed, rfl⟩
      rcases convertPacket_cases completed with ⟨temp, out, rfl, sized, _⟩
      intro block present
      rcases List.mem_append.1 present with old | new
      · exact before block old
      · rw [List.mem_singleton.1 new]
        exact sized.trans (stereoSamples_eq small)
    · rwa [← Option.some.inj captured]
  have every : Transition.EveryStep capturePacket
      (fun _ p => p.numFramesAvailable < 2 ^ 31) ({} : Thread F) packets :=
    Transition.everyStep_of_mem _ packets fun p present _ => few p present
  exact Transition.run_invariant kept packets (by simp) every ran

end AudioRouter.WasapiCapture
