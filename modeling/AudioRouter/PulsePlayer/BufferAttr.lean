import AudioRouter.AudioTypes
import AudioRouter.Lib.FixedWidth
import Mathlib.Tactic.Ring

/-!
# Sizing the playback buffer

`compute_buffer_attr` of `client/pulse_player.cpp`, in both readings of its 64-bit and
32-bit arithmetic.  The specification is in terms of multiples of a frame and of the
least latency that holds four packets.
-/

namespace AudioRouter.PulsePlayer

open FixedWidth

def kMinLatencyMs : Nat := 10
def kMaxLatencyMs : Nat := 500

/-- `BufferAttr`: four fields of `pa_buffer_attr`, in bytes. -/
structure BufferAttr where
  maxlength : Nat := 0
  tlength : Nat := 0
  prebuf : Nat := 0
  minreq : Nat := 0
  deriving DecidableEq, Repr

/-- `std::clamp`. -/
def clamp (value low high : Nat) : Nat :=
  if value < low then low else if high < value then high else value

/-- The latency to size for: the caller's, or four packets rounded up to a millisecond. -/
def requestLatency (mode : Mode) (packetBytes byteRate latencyMs : Nat) : Option Nat :=
  if latencyMs = 0 then do
    let fourfold ← mode.fit 64 (packetBytes * 4)
    let scaled ← mode.fit 64 (fourfold * 1000)
    let raised ← mode.fit 64 (scaled + byteRate)
    let lowered ← mode.sub 64 raised 1
    let derived ← mode.div lowered byteRate
    mode.fit 32 derived
  else some latencyMs

def computeBufferAttr (mode : Mode)
    (sampleRate bytesPerFrame framesPerPacket latencyMs : Nat) : Option BufferAttr :=
  if sampleRate = 0 ∨ bytesPerFrame = 0 then some {}
  else do
    -- 5 ms at 48 kHz, the default of the server
    let frames := if framesPerPacket = 0 then 240 else framesPerPacket
    let packetBytes ← mode.fit 64 (frames * bytesPerFrame)
    let byteRate ← mode.fit 64 (sampleRate * bytesPerFrame)
    let requested ← requestLatency mode packetBytes byteRate latencyMs
    let product ← mode.fit 64 (byteRate * clamp requested kMinLatencyMs kMaxLatencyMs)
    -- never less than one packet, and then whole frames
    let atLeast := max (product / 1000) packetBytes
    let tlength ← mode.sub 64 atLeast (atLeast % bytesPerFrame)
    let doubled ← mode.fit 64 (tlength * 2)
    return {
      tlength := ← mode.fit 32 tlength
      minreq := ← mode.fit 32 packetBytes
      prebuf := ← mode.fit 32 packetBytes
      maxlength := ← mode.fit 32 (min doubled 0xFFFFFFFF) }

/-! ## What the sizes are -/

/-- The bytes of one packet and of one second. -/
def packetBytes (config : AudioConfig) : Nat :=
  config.framesPerPacket * config.bytesPerFrame

def byteRate (config : AudioConfig) : Nat :=
  config.sampleRate * config.bytesPerFrame

/-- The latencies, in milliseconds, that hold four packets. -/
def holdsFourPackets (config : AudioConfig) : Set Nat :=
  {ms | 4 * config.framesPerPacket * 1000 ≤ ms * config.sampleRate}

/-- The latency that the buffer is sized for: the requested one, or else the least
that holds four packets, in either case brought into the bounds. -/
def IsLatency (config : AudioConfig) (latencyMs effective : Nat) : Prop :=
  ∃ requested, effective = max kMinLatencyMs (min requested kMaxLatencyMs) ∧
    if latencyMs = 0 then IsLeast (holdsFourPackets config) requested
    else requested = latencyMs

/-- The whole frames that last no longer than a latency, in bytes. -/
def lastsAtMost (config : AudioConfig) (effective : Nat) : Set Nat :=
  {bytes | config.bytesPerFrame ∣ bytes ∧ bytes * 1000 ≤ byteRate config * effective}

structure Sizes (config : AudioConfig) (latencyMs : Nat) (attr : BufferAttr) : Prop where
  minreq : attr.minreq = packetBytes config
  prebuf : attr.prebuf = packetBytes config
  aligned : config.bytesPerFrame ∣ attr.tlength
  onePacket : attr.minreq ≤ attr.tlength
  maxlength : attr.maxlength = 2 * attr.tlength
  target :
    ∃ effective whole, IsLatency config latencyMs effective ∧
      IsGreatest (lastsAtMost config effective) whole ∧
      attr.tlength = max (packetBytes config) whole

/-! ## The same numbers without a width -/

/-- The latency that is asked for. -/
def requestedLatency (config : AudioConfig) (latencyMs : Nat) : Nat :=
  if latencyMs = 0 then
    (packetBytes config * 4 * 1000 + byteRate config - 1) / byteRate config
  else latencyMs

/-- The latency that the buffer is sized for. -/
def effectiveLatency (config : AudioConfig) (latencyMs : Nat) : Nat :=
  max kMinLatencyMs (min (requestedLatency config latencyMs) kMaxLatencyMs)

/-- The bytes that last as long as the latency. -/
def lastingBytes (config : AudioConfig) (latencyMs : Nat) : Nat :=
  byteRate config * effectiveLatency config latencyMs / 1000

/-- Those of them that make up whole frames. -/
def wholeFrames (config : AudioConfig) (latencyMs : Nat) : Nat :=
  lastingBytes config latencyMs - lastingBytes config latencyMs % config.bytesPerFrame

/-- The target fill level. -/
def targetLength (config : AudioConfig) (latencyMs : Nat) : Nat :=
  max (wholeFrames config latencyMs) (packetBytes config)

/-! ## The computation -/

theorem clamp_eq {value low high : Nat} (ordered : low ≤ high) :
    clamp value low high = max low (min value high) := by
  unfold clamp
  split_ifs <;> omega

section

variable {config : AudioConfig} {latencyMs : Nat} {mode : Mode}

theorem bytesPerFrame_bounds (valid : config.Valid) :
    0 < config.bytesPerFrame ∧ config.bytesPerFrame ≤ 128 := by
  have sample : 0 < config.bytesPerSample ∧ config.bytesPerSample ≤ 4 := by
    unfold AudioConfig.bytesPerSample
    split <;> decide
  constructor
  · exact Nat.mul_pos sample.1 valid.channels.1
  · exact Nat.mul_le_mul sample.2 valid.channels.2

theorem byteRate_bounds (valid : config.Valid) :
    0 < byteRate config ∧ byteRate config ≤ 24576000 := by
  have frame := bytesPerFrame_bounds valid
  have product := Nat.mul_le_mul valid.sampleRate.2 frame.2
  constructor
  · exact Nat.mul_pos valid.sampleRate.1 frame.1
  · unfold byteRate
    omega

/-- The derived latency is the least that holds four packets. -/
theorem derivedLatency_least (valid : config.Valid) :
    IsLeast (holdsFourPackets config)
      ((packetBytes config * 4 * 1000 + byteRate config - 1) / byteRate config) := by
  have frame := (bytesPerFrame_bounds valid).1
  have rate := (byteRate_bounds valid).1
  -- the bytes of a frame cancel
  have same :
      holdsFourPackets config =
        {count | packetBytes config * 4 * 1000 ≤ byteRate config * count} := by
    ext ms
    have left :
        packetBytes config * 4 * 1000 =
          4 * config.framesPerPacket * 1000 * config.bytesPerFrame := by
      unfold packetBytes
      ring
    have right :
        byteRate config * ms = ms * config.sampleRate * config.bytesPerFrame := by
      unfold byteRate
      ring
    simp only [holdsFourPackets, Set.mem_ofPred_eq, left, right]
    exact (Nat.mul_le_mul_right_iff frame).symm
  rw [same]
  exact isLeast_div_round_up rate

theorem isLatency_effective (valid : config.Valid) :
    IsLatency config latencyMs (effectiveLatency config latencyMs) := by
  refine ⟨requestedLatency config latencyMs, rfl, ?_⟩
  unfold requestedLatency
  split_ifs
  · exact derivedLatency_least valid
  · rfl

theorem wholeFrames_greatest (valid : config.Valid) (latencyMs : Nat) :
    IsGreatest (lastsAtMost config (effectiveLatency config latencyMs))
      (wholeFrames config latencyMs) := by
  have frame := (bytesPerFrame_bounds valid).1
  have same :
      lastsAtMost config (effectiveLatency config latencyMs) =
        {multiple | config.bytesPerFrame ∣ multiple ∧
          multiple ≤ lastingBytes config latencyMs} := by
    ext bytes
    simp only [lastsAtMost, lastingBytes, Set.mem_ofPred_eq, Nat.le_div_iff_mul_le (k := 1000) (by omega)]
  rw [same]
  exact isGreatest_align frame

/-- For a valid configuration the latency is found without an overflow. -/
theorem requestLatency_eq (valid : config.Valid) :
    requestLatency mode (packetBytes config) (byteRate config) latencyMs =
      some (requestedLatency config latencyMs) := by
  have packet : packetBytes config ≤ 65507 := valid.payload
  have rate := byteRate_bounds valid
  have fourfold : packetBytes config * 4 ≤ 262028 := by omega
  have scaled : packetBytes config * 4 * 1000 ≤ 262028000 := Nat.mul_le_mul_right 1000 fourfold
  have raised : packetBytes config * 4 * 1000 + byteRate config ≤ 286604000 :=
    Nat.add_le_add scaled rate.2
  have enough : 1 ≤ packetBytes config * 4 * 1000 + byteRate config :=
    Nat.le_add_left_of_le rate.1
  have quotient :
      (packetBytes config * 4 * 1000 + byteRate config - 1) / byteRate config ≤
        286604000 := by
    calc
      _ ≤ packetBytes config * 4 * 1000 + byteRate config - 1 := Nat.div_le_self _ _
      _ ≤ packetBytes config * 4 * 1000 + byteRate config := Nat.sub_le _ _
      _ ≤ 286604000 := raised
  unfold requestLatency requestedLatency
  split_ifs
  · simp only [Mode.fit_of_le fourfold (show 262028 < 2 ^ 64 by decide),
      Mode.fit_of_le scaled (show 262028000 < 2 ^ 64 by decide),
      Mode.fit_of_le raised (show 286604000 < 2 ^ 64 by decide),
      Mode.sub_of_le enough raised (show 286604000 < 2 ^ 64 by decide),
      Mode.div_of_pos rate.1, Mode.fit_of_le quotient (show 286604000 < 2 ^ 32 by decide),
      Option.bind_eq_bind, Option.bind_some]
  · rfl

theorem product_bound (valid : config.Valid) (latencyMs : Nat) :
    byteRate config * effectiveLatency config latencyMs ≤ 12288000000 := by
  have short : effectiveLatency config latencyMs ≤ 500 := by
    unfold effectiveLatency kMinLatencyMs kMaxLatencyMs
    omega
  have product := Nat.mul_le_mul (byteRate_bounds valid).2 short
  omega

theorem lastingBytes_bound (valid : config.Valid) (latencyMs : Nat) :
    lastingBytes config latencyMs ≤ 12288000 := by
  have product := product_bound valid latencyMs
  unfold lastingBytes
  omega

/-- One packet at least, and then whole frames: the source's order comes to the same. -/
theorem targetLength_eq (valid : config.Valid) (latencyMs : Nat) :
    max (lastingBytes config latencyMs) (packetBytes config) -
        max (lastingBytes config latencyMs) (packetBytes config) % config.bytesPerFrame =
      targetLength config latencyMs :=
  align_max (bytesPerFrame_bounds valid).1 (Nat.dvd_mul_left _ _)

theorem bytesPerFrame_dvd_targetLength (valid : config.Valid) (latencyMs : Nat) :
    config.bytesPerFrame ∣ targetLength config latencyMs := by
  rcases max_choice (wholeFrames config latencyMs) (packetBytes config) with chosen | chosen
  · rw [targetLength, chosen]
    exact (wholeFrames_greatest valid latencyMs).1.1
  · rw [targetLength, chosen]
    exact Nat.dvd_mul_left _ _

/-- In either mode the source computes these sizes. -/
theorem computeBufferAttr_eq (valid : config.Valid) :
    computeBufferAttr mode config.sampleRate config.bytesPerFrame config.framesPerPacket
        latencyMs =
      some
        { minreq := packetBytes config
          prebuf := packetBytes config
          tlength := targetLength config latencyMs
          maxlength := targetLength config latencyMs * 2 } := by
  have given : ¬ (config.sampleRate = 0 ∨ config.bytesPerFrame = 0) := by
    have rate := valid.sampleRate
    have frame := bytesPerFrame_bounds valid
    omega
  have framed : config.framesPerPacket ≠ 0 := by
    have frames := valid.framesPerPacket
    omega
  have packet : packetBytes config ≤ 65507 := valid.payload
  have rate : byteRate config ≤ 24576000 := (byteRate_bounds valid).2
  have clamped :
      clamp (requestedLatency config latencyMs) kMinLatencyMs kMaxLatencyMs =
        effectiveLatency config latencyMs := clamp_eq (by decide)
  have product := product_bound valid latencyMs
  have lasting := lastingBytes_bound valid latencyMs
  have atLeast : max (lastingBytes config latencyMs) (packetBytes config) ≤ 12288000 := by
    omega
  have target : targetLength config latencyMs ≤ 12288000 := by
    unfold targetLength wholeFrames
    omega
  have twice : targetLength config latencyMs * 2 ≤ 24576000 := Nat.mul_le_mul_right 2 target
  have uncapped :
      min (targetLength config latencyMs * 2) 0xFFFFFFFF = targetLength config latencyMs * 2 :=
    Nat.min_eq_left (Nat.le_trans twice (by decide))
  simp only [computeBufferAttr, given, framed, if_false]
  rw [← packetBytes, ← byteRate]
  simp only [Mode.fit_of_le packet (show 65507 < 2 ^ 64 by decide),
    Mode.fit_of_le rate (show 24576000 < 2 ^ 64 by decide), requestLatency_eq valid, clamped,
    Mode.fit_of_le product (show 12288000000 < 2 ^ 64 by decide),
    Option.bind_eq_bind, Option.bind_some]
  rw [← lastingBytes]
  simp only [Mode.sub_of_le (Nat.mod_le _ _) atLeast (show 12288000 < 2 ^ 64 by decide),
    targetLength_eq valid, Mode.fit_of_le twice (show 24576000 < 2 ^ 64 by decide),
    Mode.fit_of_le target (show 12288000 < 2 ^ 32 by decide),
    Mode.fit_of_le packet (show 65507 < 2 ^ 32 by decide), uncapped,
    Mode.fit_of_le twice (show 24576000 < 2 ^ 32 by decide), Option.bind_some, Option.pure_def]

end

/-- For every valid configuration and latency the sizes are computed without overflow or
truncation, and they are what they should be. -/
theorem computeBufferAttr_sizes (config : AudioConfig) (latencyMs : UInt32)
    (valid : config.isValid = true) :
    ∃ attr, Sizes config latencyMs.toNat attr ∧
      ∀ mode, computeBufferAttr mode config.sampleRate config.bytesPerFrame
        config.framesPerPacket latencyMs.toNat = some attr := by
  have bounds := AudioConfig.valid_of_isValid valid
  have whole := wholeFrames_greatest bounds latencyMs.toNat
  refine ⟨_, ?_, fun mode => computeBufferAttr_eq bounds⟩
  exact
    { minreq := rfl
      prebuf := rfl
      aligned := bytesPerFrame_dvd_targetLength bounds _
      onePacket := Nat.le_max_right _ _
      maxlength := Nat.mul_comm _ _
      target := ⟨_, _, isLatency_effective bounds, whole, max_comm _ _⟩ }

/-- Stereo at 48 kHz with packets of 5 ms and a latency that is derived. -/
theorem computeBufferAttr_sizes_stereo :
    ∃ attr, Sizes { framesPerPacket := 240 } 0 attr ∧
      ∀ mode, computeBufferAttr mode 48000 4 240 0 = some attr :=
  computeBufferAttr_sizes { framesPerPacket := 240 } 0 (by decide)

end AudioRouter.PulsePlayer
