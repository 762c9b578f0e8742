import AudioRouter.Client.Model

/-!
# What the players read of the play buffer

`audio_playback_thread` pops 16-bit samples into a buffer of its own and hands the
buffer to the installed player, which sizes its read by the sample format that the
handshake brought.
-/

namespace AudioRouter

namespace Client

open Protocol Transition

/-! ## The players -/

/-- The players whose reads follow the negotiated format. -/
inductive Backend where
  | pulse
  | aaudio
  | termuxApi
  deriving DecidableEq, Repr

/-- An open player: `config_` is its own copy of the configuration. -/
structure Player where
  backend : Backend
  config : AudioConfig
  deriving DecidableEq, Repr

/-- `to_pa_format` does not return `PA_SAMPLE_INVALID`. -/
def hasPaFormat : AudioSampleFormat → Bool
  | .pcmS16le | .pcmFloat32le | .pcmS24le | .pcmS32le => true
  | .unknown | .unnamed _ => false

/-- `config_` of a `PulsePlayer` that connects. -/
def PulsePlayer.openedConfig (config : AudioConfig) : Option AudioConfig :=
  if !hasPaFormat config.format then none
  else if config.sampleRate = 0 ∨ config.channels = 0 then none
  else some config

/-- `config_` of an `AaudioFifoPlayer` or a `TermuxApiPlayer`, which fill in what is
missing. -/
def fillMissing (config : AudioConfig) : AudioConfig :=
  { config with
    sampleRate := if config.sampleRate = 0 then 48000 else config.sampleRate
    channels := if config.channels = 0 then 2 else config.channels }

/-- The player that `open` leaves behind if nothing but the configuration can stop
it. -/
def openPlayer (config : AudioConfig) : Backend → Option Player
  | .pulse => (PulsePlayer.openedConfig config).map (Player.mk .pulse)
  | .aaudio => some ⟨.aaudio, fillMissing config⟩
  | .termuxApi => some ⟨.termuxApi, fillMissing config⟩

/-- The bytes of a chunk in the configuration of the player. -/
def chunkBytes (config : AudioConfig) (pcmData : Bool) (numFrames : Nat) : Nat :=
  if !pcmData ∨ numFrames = 0 then 0
  else if config.bytesPerFrame = 0 then 0
  else numFrames * config.bytesPerFrame

/-- The bytes behind `pcm_data` that `write_frames` hands to `pa_simple_write`. -/
def PulsePlayer.writeFrames (config : AudioConfig) (pcmData : Bool) (numFrames : Nat) :
    Nat :=
  chunkBytes config pcmData numFrames

/-- The bytes behind `pcm_data` that `write_frames` writes to the FIFO. -/
def AaudioFifoPlayer.writeFrames (config : AudioConfig) (pcmData : Bool)
    (numFrames : Nat) : Nat :=
  chunkBytes config pcmData numFrames

/-- The bytes that `convert_to_s16le` reads. -/
def convertToS16le (numFrames channels : Nat) (format : AudioSampleFormat) : Nat :=
  let samples := numFrames * channels
  if format = .pcmS32le then samples * 4 else samples * 3

/-- The bytes behind `pcm_data` that `write_frames` converts, or else writes to the
segment file. -/
def TermuxApiPlayer.writeFrames (config : AudioConfig) (pcmData : Bool)
    (numFrames : Nat) : Nat :=
  if !pcmData ∨ numFrames = 0 then 0
  else if config.bytesPerFrame = 0 then 0
  else if config.format = .pcmS24le ∨ config.format = .pcmS32le then
    convertToS16le numFrames config.channels config.format
  else
    let bytesPerFrame :=
      if config.format = .pcmFloat32le then config.bytesPerFrame
      else 2 * config.channels
    numFrames * bytesPerFrame

/-- `write_frames` of the installed player. -/
def Player.writeFrames (player : Player) : (pcmData : Bool) → (numFrames : Nat) → Nat :=
  match player.backend with
  | .pulse => PulsePlayer.writeFrames player.config
  | .aaudio => AaudioFifoPlayer.writeFrames player.config
  | .termuxApi => TermuxApiPlayer.writeFrames player.config

/-! ## The playback thread -/

def periodFrames (config : AudioConfig) : Nat :=
  if config.framesPerPacket > 0 then config.framesPerPacket else 240

/-- `play_buffer.size()`, in samples. -/
def playBufferSize (config : AudioConfig) : Nat :=
  periodFrames config * config.channels

/-- The size of the play buffer in memory: its samples are `int16_t`. -/
def playBufferBytes (config : AudioConfig) : Nat :=
  playBufferSize config * 2

/-- Whether `play_buffer.data()` is a pointer.  For an empty vector the standard
leaves it open: `emptyData`. -/
def hasPlayBuffer (emptyData : Bool) (config : AudioConfig) : Bool :=
  if playBufferSize config = 0 then emptyData else true

/-- A call of `write_frames` with `play_buffer.data()`. -/
structure WriteCall where
  player : Player
  pcmData : Bool
  frames : Nat
  deriving DecidableEq, Repr

/-- How far the player reads. -/
def WriteCall.bytesRead (call : WriteCall) : Nat :=
  call.player.writeFrames call.pcmData call.frames

/-- One turn of the loop of `audio_playback_thread`, for the configuration that the
thread was started with: what it leaves in the jitter buffer, and the call it makes. -/
def playbackTurn (emptyData : Bool) (config : AudioConfig) (b : JitterBuffer Sample)
    (installed : Option Player) (nowMs : Clock) :
    JitterBuffer Sample × Option WriteCall :=
  let pcmData := hasPlayBuffer emptyData config
  let popped := b.popFrames pcmData (periodFrames config) nowMs
  (popped.1,
    if popped.2.frames > 0 then
      installed.map fun player => ⟨player, pcmData, popped.2.frames⟩
    else none)

/-! ## What a player reads -/

theorem bytesPerFrame_pos {config : AudioConfig} (channels : config.channels ≠ 0) :
    0 < config.bytesPerFrame := by
  unfold AudioConfig.bytesPerFrame
  exact Nat.mul_pos config.bytesPerSample_pos (Nat.pos_of_ne_zero channels)

theorem chunkBytes_of_frames {config : AudioConfig} {numFrames : Nat}
    (channels : config.channels ≠ 0) (frames : 0 < numFrames) :
    chunkBytes config true numFrames = numFrames * config.bytesPerFrame := by
  have positive := bytesPerFrame_pos channels
  unfold chunkBytes
  rw [if_neg (by simp; omega), if_neg (by omega)]

/-- The conversion of the segment file reads the same bytes that it would write. -/
theorem TermuxApiPlayer.writeFrames_eq (config : AudioConfig) (pcmData : Bool)
    (numFrames : Nat) :
    TermuxApiPlayer.writeFrames config pcmData numFrames =
      chunkBytes config pcmData numFrames := by
  unfold TermuxApiPlayer.writeFrames chunkBytes
  split
  · rfl
  · split
    · rfl
    · unfold convertToS16le AudioConfig.bytesPerFrame AudioConfig.bytesPerSample
      cases config.format <;> simp <;> ring

theorem Player.writeFrames_eq (player : Player) (pcmData : Bool) (numFrames : Nat) :
    player.writeFrames pcmData numFrames = chunkBytes player.config pcmData numFrames := by
  unfold Player.writeFrames
  cases player.backend with
  | pulse => rfl
  | aaudio => rfl
  | termuxApi => exact TermuxApiPlayer.writeFrames_eq player.config pcmData numFrames

/-- An open player has channels, and those of the handshake if it brought any; its
samples are the handshake's. -/
theorem openPlayer_config {config : AudioConfig} {backend : Backend} {player : Player}
    (opened : openPlayer config backend = some player) :
    player.config.channels ≠ 0 ∧
      (config.channels ≠ 0 → player.config.channels = config.channels) ∧
        player.config.bytesPerSample = config.bytesPerSample := by
  have filled :
      (fillMissing config).channels ≠ 0 ∧
        (config.channels ≠ 0 → (fillMissing config).channels = config.channels) ∧
          (fillMissing config).bytesPerSample = config.bytesPerSample := by
    refine ⟨?_, fun channels => if_neg channels, rfl⟩
    change (if config.channels = 0 then 2 else config.channels) ≠ 0
    split <;> omega
  cases backend with
  | pulse =>
    simp only [openPlayer, PulsePlayer.openedConfig] at opened
    split_ifs at opened with unknown missing
    · cases opened
    · cases opened
    · obtain rfl := Option.some.inj opened
      exact ⟨fun mute => missing (.inr mute), fun _ => rfl, rfl⟩
  | aaudio =>
    obtain rfl := Option.some.inj opened
    exact filled
  | termuxApi =>
    obtain rfl := Option.some.inj opened
    exact filled

theorem two_le_bytesPerSample (config : AudioConfig) : 2 ≤ config.bytesPerSample := by
  unfold AudioConfig.bytesPerSample
  split <;> decide

/-- A frame of an open player fits the 16-bit samples of a frame of the handshake. -/
theorem frame_fits_iff {config : AudioConfig} {backend : Backend} {player : Player}
    (opened : openPlayer config backend = some player) :
    player.config.bytesPerFrame ≤ config.channels * 2 ↔
      config.channels ≠ 0 ∧ config.bytesPerSample = 2 := by
  obtain ⟨channels, same, samples⟩ := openPlayer_config opened
  by_cases mute : config.channels = 0
  · have positive := bytesPerFrame_pos channels
    constructor
    · intro fits
      omega
    · intro ⟨channels, _⟩
      exact absurd mute channels
  · have atLeast := two_le_bytesPerSample config
    rw [AudioConfig.bytesPerFrame, samples, same mute, Nat.mul_comm,
      Nat.mul_le_mul_left_iff (Nat.pos_of_ne_zero mute)]
    constructor
    · intro fits
      exact ⟨mute, by omega⟩
    · intro ⟨_, two⟩
      omega

theorem periodFrames_pos (config : AudioConfig) : 0 < periodFrames config := by
  unfold periodFrames
  split <;> omega

/-! ## The jitter buffer of a run -/

/-- The jitter buffer of a streaming client satisfies its invariant. -/
theorem run_sound (config : ClientConfig) (audioConfig : AudioConfig) (nowMs : Clock)
    (actions : List Action) {t : Client}
    (reached : run step (start config audioConfig nowMs) actions = some t) :
    t.jitterBuffer.Sound := by
  have preserved (c : Client) (action : Action) (d : Client) (sound : c.jitterBuffer.Sound)
      (stepped : c.step action = some d) : d.jitterBuffer.Sound :=
    (step_keeps stepped).1.sound sound
  have begins : (start config audioConfig nowMs).jitterBuffer.Sound :=
    JitterBuffer.sound_configure _ audioConfig config.targetLatencyMs
  exact run_preserves preserved actions begins reached

/-! ## The calls of the playback thread -/

/-- A turn takes from the jitter buffer what the step of the client takes. -/
theorem playbackTurn_step {config : AudioConfig} (c : Client) (emptyData : Bool)
    (samples : playBufferSize config ≠ 0) (installed : Option Player) :
    c.step (.pop (periodFrames config)) =
      some { c with
        jitterBuffer :=
          (playbackTurn emptyData config c.jitterBuffer installed c.clock).1 } := by
  unfold playbackTurn hasPlayBuffer
  rw [if_neg samples]
  rfl

/-- A call is made with a pointer and asks for a whole period. -/
theorem playbackTurn_call {b : JitterBuffer Sample} (sound : b.Sound) {emptyData : Bool}
    {config : AudioConfig} {installed : Option Player} {nowMs : Clock} {call : WriteCall}
    (made : (playbackTurn emptyData config b installed nowMs).2 = some call) :
    ∃ player, installed = some player ∧ call = ⟨player, true, periodFrames config⟩ := by
  unfold playbackTurn at made
  dsimp only at made
  rw [sound.popFrames_frames] at made
  cases data : hasPlayBuffer emptyData config with
  | false => simp [data] at made
  | true =>
    simp only [data, if_true] at made
    rw [if_pos (periodFrames_pos config)] at made
    obtain ⟨player, there, rfl⟩ := Option.map_eq_some_iff.1 made
    exact ⟨player, there, rfl⟩

/-- Every call that the playback thread makes in a run of the client reads bytes of the
play buffer only: exactly when the negotiated configuration has channels and samples of
two bytes. -/
theorem write_inside_iff (settings : ClientConfig) (config : AudioConfig) (startMs : Clock)
    (actions : List Action) (t : Client)
    (reached : run step (start settings config startMs) actions = some t)
    (emptyData : Bool) (backend : Backend) (nowMs : Clock) (call : WriteCall)
    (made :
      (playbackTurn emptyData config t.jitterBuffer (openPlayer config backend)
        nowMs).2 = some call) :
    call.bytesRead ≤ playBufferBytes config ↔
      config.channels ≠ 0 ∧ config.bytesPerSample = 2 := by
  have sound := run_sound settings config startMs actions reached
  obtain ⟨player, opened, rfl⟩ := playbackTurn_call sound made
  have period := periodFrames_pos config
  have read :
      (⟨player, true, periodFrames config⟩ : WriteCall).bytesRead =
        periodFrames config * player.config.bytesPerFrame := by
    rw [WriteCall.bytesRead, Player.writeFrames_eq]
    exact chunkBytes_of_frames (openPlayer_config opened).1 period
  rw [read, playBufferBytes, playBufferSize, Nat.mul_assoc, Nat.mul_le_mul_left_iff period]
  exact frame_fits_iff opened

/-- The first call of a 16-bit stereo stream. -/
theorem stereo_write_inside :
    (⟨⟨.aaudio, {}⟩, true, 480⟩ : WriteCall).bytesRead ≤ playBufferBytes {} :=
  (write_inside_iff {} {} 1 [] (start {} {} 1) rfl false .aaudio 1 _ (by decide +kernel)).2
    (by decide)

/-- A `CONNECT_ACK` for a stereo stream of `float` samples. -/
def floatAck : Datagram :=
  stereoAck.set 31 2

/-- The configuration of `floatAck`. -/
def floatConfig : AudioConfig :=
  { format := .pcmFloat32le }

/-- The samples of a float stream take twice the room that the play buffer has. -/
theorem float_write_leaves :
    ¬ ∀ (received : List (Option Datagram)) (config : AudioConfig)
        (settings : ClientConfig) (startMs : Clock) (actions : List Action) (t : Client)
        (emptyData : Bool) (backend : Backend) (nowMs : Clock) (call : WriteCall),
      performHandshake handshakeRetries received = some config →
        run step (start settings config startMs) actions = some t →
          (playbackTurn emptyData config t.jitterBuffer (openPlayer config backend)
              nowMs).2 = some call →
            call.bytesRead ≤ playBufferBytes config := by
  intro claim
  have inside :=
    claim [some floatAck] floatConfig {} 1 [] (start {} floatConfig 1) false .pulse 1
      ⟨⟨.pulse, floatConfig⟩, true, 480⟩ (by decide +kernel) rfl (by decide +kernel)
  exact absurd inside (by decide)

end Client

end AudioRouter
