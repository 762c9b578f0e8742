import AudioRouter.Server.Packetizer

/-!
# Blocks into packets

The capture engine delivers blocks of any size, and `on_audio_captured` cuts them into
packets of `target_chunk_frames`; what is left over waits in `chunk_buffer_` for the next
block.  While one client is streamed to, no byte is lost or doubled by this, whatever the
sends return and whatever the other threads do in between.
-/

namespace AudioRouter.Server

open Protocol Transition

/-! ## What the other threads leave alone -/

/-- The configuration, the place of the callback, and the counters of its packets are the
same. -/
structure SameCallback (s t : Server) : Prop where
  config : t.config = s.config
  capture : t.capture = s.capture
  packetsSent : t.stats.packetsSent = s.stats.packetsSent
  bytesSent : t.stats.bytesSent = s.stats.bytesSent
  audioFramesCaptured : t.stats.audioFramesCaptured = s.stats.audioFramesCaptured

section

variable {s t : Server} {o : Outcome}

theorem disconnectStep_callback (sendAck : Bool) (pc : DisconnectStep) :
    SameCallback s (s.disconnectStep sendAck pc).1 := by
  rcases s.disconnectStep_eq sendAck pc with ⟨_, _, _, _, equal, _⟩
  rw [equal]
  constructor <;> rfl

theorem connectStep_callback {sender : Address} {pc : ConnectStep}
    (stepped : s.connectStep o sender pc = some t) : SameCallback s t := by
  cases pc with
  | lock =>
    rw [connectStep] at stepped
    split at stepped
    · cases stepped
      constructor <;> rfl
    · cases stepped
  | compareActivity | mutePcSpeaker =>
    rw [connectStep] at stepped
    split at stepped <;> cases stepped <;> constructor <;> rfl
  | startCapture =>
    rw [connectStep] at stepped
    split at stepped
    · cases stepped
      constructor <;> rfl
    · cases started : o.captureStart with
      | none | some actual =>
        rw [started] at stepped
        cases stepped
        constructor <;> rfl
  | checkState | checkActive | readClock | setActive | readActivityClock | setActivity
  | resetSequence | setStreaming | sendAck =>
    cases stepped
    constructor <;> rfl

/-- A ping of the client writes other members of the statistics. -/
theorem heartbeatStep_callback (sender : Address) (seqNum : UInt32)
    (payload : Option HeartbeatPayload) (pc : HeartbeatStep) :
    SameCallback s (s.heartbeatStep sender seqNum payload pc) := by
  cases pc with
  | checkActive =>
    rw [heartbeatStep]
    split <;> constructor <;> rfl
  | readClock | setActivity => constructor <;> rfl
  | reply => cases payload <;> constructor <;> rfl

theorem handleControlCmd_callback (sender : Address) (payload : Option ControlCmdPayload) :
    SameCallback s (s.handleControlCmd sender payload) := by
  unfold handleControlCmd
  dsimp only
  split
  · constructor <;> rfl
  · cases payload with
    | none => constructor <;> rfl
    | some cmd =>
      dsimp only
      split_ifs <;> constructor <;> rfl

theorem netStep_callback (stepped : s.netStep o = some t) : SameCallback s t := by
  unfold netStep at stepped
  cases thread : s.net with
  | idle =>
    rw [thread] at stepped
    cases stepped
  | discovery sender =>
    rw [thread] at stepped
    cases stepped
    constructor <;> rfl
  | connect sender pc =>
    rw [thread] at stepped
    exact connectStep_callback stepped
  | disconnectLock sender =>
    rw [thread] at stepped
    dsimp only at stepped
    split at stepped
    · cases stepped
      constructor <;> rfl
    · cases stepped
  | disconnectCompare sender =>
    rw [thread] at stepped
    dsimp only at stepped
    split at stepped <;> cases stepped <;> constructor <;> rfl
  | disconnect pc =>
    rw [thread] at stepped
    have kept : SameCallback s (s.disconnectStep true pc).1 := disconnectStep_callback true pc
    dsimp only at stepped
    split at stepped <;> cases stepped <;>
      next equal =>
        rw [equal] at kept
        cases kept
        constructor <;> assumption
  | heartbeat sender seqNum payload pc =>
    rw [thread] at stepped
    cases stepped
    exact heartbeatStep_callback sender seqNum payload pc
  | control sender payload =>
    rw [thread] at stepped
    cases stepped
    exact handleControlCmd_callback sender payload

theorem watchdogStep_callback (stepped : s.watchdogStep = some t) : SameCallback s t := by
  unfold watchdogStep at stepped
  cases thread : s.watchdog with
  | sleeping | checkState | readClock | loadActivity | compare =>
    rw [thread] at stepped
    cases stepped
    constructor <;> rfl
  | lock =>
    rw [thread] at stepped
    dsimp only at stepped
    split at stepped
    · cases stepped
      constructor <;> rfl
    · cases stepped
  | disconnect pc =>
    rw [thread] at stepped
    have kept : SameCallback s (s.disconnectStep false pc).1 :=
      disconnectStep_callback false pc
    dsimp only at stepped
    split at stepped <;> cases stepped <;>
      next equal =>
        rw [equal] at kept
        cases kept
        constructor <;> assumption

def Action.isCapture : Action → Bool
  | .capture _ => true
  | _ => false

def Action.isCaptured : Action → Bool
  | .captured _ _ => true
  | _ => false

/-- A step of another thread. -/
theorem step_callback {action : Action} (stepped : s.step action = some t)
    (notCapture : action.isCapture = false) (notCaptured : action.isCaptured = false) :
    SameCallback s t ∧ t.chunkBuffer = s.chunkBuffer := by
  have buffer : t.chunkBuffer = s.chunkBuffer := by
    refine (step_packetizer stepped ?_).2
    rintro o rfl
    cases notCapture
  refine ⟨?_, buffer⟩
  cases action with
  | capture o => cases notCapture
  | captured data config => cases notCaptured
  | net o => exact netStep_callback stepped
  | watchdog => exact watchdogStep_callback stepped
  | relay =>
    rcases relayStep_eq stepped with ⟨_, _, _, _, _, rfl, _⟩
    constructor <;> rfl
  | receive sender buffer =>
    rw [step] at stepped
    split at stepped
    · cases requested : requestOf buffer <;> rw [requested] at stepped <;> cases stepped <;>
        constructor <;> rfl
    · cases stepped
  | tick nowMs | tunnelLost =>
    rw [step] at stepped
    split at stepped
    · cases stepped
      constructor <;> rfl
    · cases stepped
  | captureEnds =>
    cases stepped
    constructor <;> rfl

/-- A step is one of the callback, the call of it, or one of another thread. -/
inductive StepKind (s t : Server) : Action → Prop where
  | capture (o : Outcome) (moved : s.captureStep o = some t) : StepKind s t (.capture o)
  | captured (data : List UInt8) (given : AudioConfig) (idle : s.capture = .idle)
      (effect : { s with capture := .checkState data given } = t) :
      StepKind s t (.captured data given)
  | other {action : Action} (notCapture : action.isCapture = false)
      (notCaptured : action.isCaptured = false) (same : SameCallback s t)
      (buffer : t.chunkBuffer = s.chunkBuffer) : StepKind s t action

theorem step_kind {action : Action} (stepped : s.step action = some t) :
    StepKind s t action := by
  by_cases capture : action.isCapture = true
  · cases action with
    | capture o => exact .capture o stepped
    | _ => cases capture
  by_cases captured : action.isCaptured = true
  · cases action with
    | captured data given =>
      rw [step] at stepped
      split at stepped
      · next idle => exact .captured data given idle (Option.some.inj stepped)
      · cases stepped
    | _ => cases captured
  rw [Bool.not_eq_true] at capture captured
  rcases step_callback stepped capture captured with ⟨same, buffer⟩
  exact .other capture captured same buffer

/-! ## The callback -/

/-- A packet that `on_audio_captured` has built, and whether its `send_to` returned a
positive count. -/
structure Packet where
  header : AudioPacketHeader
  pcm : List UInt8
  sent : Bool
  deriving DecidableEq

/-- The packet that a step builds. -/
def packetOf (s : Server) : Action → Option Packet
  | .capture o =>
      match s.capture with
      | .send config seqNum =>
          some
            { header := s.audioHeader config seqNum o.timestampUs
              pcm := s.chunkBuffer.take (s.targetChunkBytes config)
              sent := s.activeClient.isSome && o.sendOk }
      | _ => none
  | _ => none

/-- The block that a step delivers. -/
def Action.block : Action → List UInt8
  | .captured data _ => data
  | _ => []

/-- A block that is delivered is in the configuration. -/
def Action.comesIn (config : AudioConfig) : Action → Bool
  | .captured _ given => decide (given = config)
  | _ => true

/-- The block that the callback has been given and not yet appended. -/
def CaptureThread.inFlight : CaptureThread → List UInt8
  | .checkState data _ | .checkActive data _ | .append data _ => data
  | _ => []

/-- The configuration that the callback has been given. -/
def CaptureThread.config : CaptureThread → Option AudioConfig
  | .idle => none
  | .checkState _ config | .checkActive _ config | .append _ config | .stamp config
  | .send config _ => some config

/-- The steps that are left of the callback: a packet takes two, and the test that ends
the loop one. -/
def callbackSteps (s : Server) : Nat :=
  match s.capture with
  | .idle => 0
  | .checkState data config =>
      4 + 2 * ((s.chunkBuffer ++ data).length / s.targetChunkBytes config)
  | .checkActive data config =>
      3 + 2 * ((s.chunkBuffer ++ data).length / s.targetChunkBytes config)
  | .append data config =>
      2 + 2 * ((s.chunkBuffer ++ data).length / s.targetChunkBytes config)
  | .stamp config => 1 + 2 * (s.chunkBuffer.length / s.targetChunkBytes config)
  | .send config _ => 2 * (s.chunkBuffer.length / s.targetChunkBytes config)

theorem targetChunkFrames_pos : 0 < s.targetChunkFrames := by
  unfold targetChunkFrames
  split <;> omega

theorem targetChunkBytes_pos {config : AudioConfig} (positive : 0 < config.bytesPerFrame) :
    0 < s.targetChunkBytes config :=
  Nat.mul_pos targetChunkFrames_pos positive

theorem targetChunkFrames_congr (same : t.config = s.config) :
    t.targetChunkFrames = s.targetChunkFrames := by
  unfold targetChunkFrames
  rw [same]

theorem targetChunkBytes_congr (same : t.config = s.config) (config : AudioConfig) :
    t.targetChunkBytes config = s.targetChunkBytes config := by
  unfold targetChunkBytes
  rw [targetChunkFrames_congr same]

theorem streamingTo_eq_some {client : Address} (streams : s.streamingTo = some client) :
    s.state = .streaming ∧ s.activeClient = some client := by
  unfold streamingTo at streams
  split at streams
  · next streaming => exact ⟨streaming, streams⟩
  · cases streams

/-- The step of the callback from each of its places, while a client is streamed to. -/
inductive Turn (s : Server) (o : Outcome) (t : Server) : Prop where
  | checkState (data : List UInt8) (config : AudioConfig)
      (place : s.capture = .checkState data config)
      (effect : t = { s with capture := .checkActive data config })
  | checkActive (data : List UInt8) (config : AudioConfig)
      (place : s.capture = .checkActive data config)
      (effect : t = { s with capture := .append data config })
  | append (data : List UInt8) (config : AudioConfig)
      (place : s.capture = .append data config)
      (effect : t = { s with chunkBuffer := s.chunkBuffer ++ data, capture := .stamp config })
  | stamp (config : AudioConfig) (place : s.capture = .stamp config)
      (full : s.targetChunkBytes config ≤ s.chunkBuffer.length)
      (effect :
        t =
          { s with
            sequenceNumber := s.sequenceNumber + 1
            capture := .send config s.sequenceNumber })
  | returns (config : AudioConfig) (place : s.capture = .stamp config)
      (short : s.chunkBuffer.length < s.targetChunkBytes config)
      (effect : t = { s with capture := .idle })
  | send (config : AudioConfig) (seqNum : UInt32) (place : s.capture = .send config seqNum)
      (effect : t = { s.sendChunk o config seqNum with capture := .stamp config })

theorem captureStep_turn {client : Address} (streams : s.streamingTo = some client)
    (stepped : s.captureStep o = some t) : Turn s o t := by
  rcases streamingTo_eq_some streams with ⟨streaming, active⟩
  unfold captureStep at stepped
  cases place : s.capture with
  | idle =>
    rw [place] at stepped
    cases stepped
  | checkState data config =>
    rw [place] at stepped
    dsimp only at stepped
    rw [if_pos streaming] at stepped
    exact Turn.checkState data config place (Option.some.inj stepped).symm
  | checkActive data config =>
    rw [place] at stepped
    have valid : s.activeClient.isSome = true := by simp [active]
    dsimp only at stepped
    rw [if_pos valid] at stepped
    exact Turn.checkActive data config place (Option.some.inj stepped).symm
  | append data config =>
    rw [place] at stepped
    exact Turn.append data config place (Option.some.inj stepped).symm
  | stamp config =>
    rw [place] at stepped
    dsimp only at stepped
    split at stepped
    · next full => exact Turn.stamp config place full (Option.some.inj stepped).symm
    · next short =>
      exact Turn.returns config place (Nat.lt_of_not_le short) (Option.some.inj stepped).symm
  | send config seqNum =>
    rw [place] at stepped
    exact Turn.send config seqNum place (Option.some.inj stepped).symm

/-- What `sendChunk` counts for a client. -/
theorem sendChunk_stats {client : Address} (active : s.activeClient = some client)
    (config : AudioConfig) (seqNum : UInt32) :
    (s.sendChunk o config seqNum).stats =
      if o.sendOk then
        { s.stats with
          packetsSent := s.stats.packetsSent + 1
          bytesSent :=
            s.stats.bytesSent + (sizeofAudioPacketHeader + s.targetChunkBytes config)
          audioFramesCaptured := s.stats.audioFramesCaptured + s.targetChunkFrames }
      else s.stats := by
  unfold sendChunk
  rw [active]
  dsimp only
  split <;> rfl

theorem captureStep_config (stepped : s.captureStep o = some t) : t.config = s.config := by
  rcases captureStep_eq stepped with ⟨_, _, _, _, _, rfl⟩
  rfl

theorem captureStep_isSome (busy : s.capture ≠ .idle) (o : Outcome) :
    (s.captureStep o).isSome = true := by
  unfold captureStep
  cases place : s.capture with
  | idle => exact absurd place busy
  | stamp config =>
    dsimp only
    split <;> rfl
  | checkState | checkActive | append | send => rfl

theorem callbackSteps_eq_zero_iff (full : ∀ config seqNum, s.capture = .send config seqNum →
      0 < s.targetChunkBytes config ∧ s.targetChunkBytes config ≤ s.chunkBuffer.length) :
    s.callbackSteps = 0 ↔ s.capture = .idle := by
  unfold callbackSteps
  cases place : s.capture with
  | send config seqNum =>
    rcases full config seqNum place with ⟨positive, enough⟩
    have one : 0 < s.chunkBuffer.length / s.targetChunkBytes config :=
      Nat.div_pos enough positive
    simp
    omega
  | idle | checkState | checkActive | append | stamp => simp

/-- Each step of the callback is one step less to do. -/
theorem captureStep_callbackSteps {client : Address} (streams : s.streamingTo = some client)
    (full : ∀ config seqNum, s.capture = .send config seqNum →
      0 < s.targetChunkBytes config ∧ s.targetChunkBytes config ≤ s.chunkBuffer.length)
    (stepped : s.captureStep o = some t) : t.callbackSteps + 1 = s.callbackSteps := by
  have sameSize := targetChunkBytes_congr (captureStep_config stepped)
  unfold callbackSteps
  cases captureStep_turn streams stepped with
  | checkState data config place effect | checkActive data config place effect
  | append data config place effect =>
    rw [place]
    subst effect
    dsimp only
    rw [sameSize]
    omega
  | stamp config place enough effect =>
    rw [place]
    subst effect
    dsimp only
    rw [sameSize]
    omega
  | returns config place short effect =>
    rw [place]
    subst effect
    dsimp only
    rw [Nat.div_eq_of_lt short]
  | send config seqNum place effect =>
    rcases full config seqNum place with ⟨positive, enough⟩
    have less := Nat.div_eq_sub_div positive enough
    rw [place]
    subst effect
    dsimp only
    rw [sameSize, sendChunk_chunkBuffer, List.length_drop]
    omega

end

/-! ## The record of a run -/

/-- The server, the bytes of the blocks delivered so far, how many those were, and the
packets built. -/
structure Recut where
  server : Server
  offered : List UInt8 := []
  calls : Nat := 0
  packets : List Packet := []

namespace Recut

def step (r : Recut) (action : Action) : Option Recut :=
  (r.server.step action).map fun t =>
    { server := t
      offered := r.offered ++ action.block
      calls := if action.isCaptured then r.calls + 1 else r.calls
      packets := r.packets ++ (r.server.packetOf action).toList }

/-- The server streams to the client, and a block comes in the one configuration. -/
def Streams (client : Address) (config : AudioConfig) (r : Recut) (action : Action) : Prop :=
  r.server.streamingTo = some client ∧ action.comesIn config = true

instance (client : Address) (config : AudioConfig) (r : Recut) (action : Action) :
    Decidable (r.Streams client config action) :=
  inferInstanceAs (Decidable (_ ∧ _))

def pcm (packets : List Packet) : List UInt8 :=
  packets.flatMap (·.pcm)

/-- What was in the buffer and what was delivered since is in the packets built, in the
buffer, or in the callback's hands, in this order. -/
def Keeps (s : Server) (r : Recut) : Prop :=
  s.chunkBuffer ++ r.offered =
    pcm r.packets ++ r.server.chunkBuffer ++ r.server.capture.inFlight

/-- A packet of `target_chunk_frames` frames, by its PCM and by its header. -/
structure Whole (s : Server) (config : AudioConfig) (packet : Packet) : Prop where
  pcm : packet.pcm.length = s.targetChunkFrames * config.bytesPerFrame
  numFrames : packet.header.numFrames = UInt32.ofNat s.targetChunkFrames

def sentPackets (r : Recut) : Nat :=
  r.packets.countP (·.sent)

/-- The counters have advanced for the packets whose send succeeded, and no others. -/
structure Counted (s : Server) (config : AudioConfig) (r : Recut) : Prop where
  packetsSent : r.server.stats.packetsSent = s.stats.packetsSent + r.sentPackets
  bytesSent :
    r.server.stats.bytesSent =
      s.stats.bytesSent +
        r.sentPackets * (sizeofAudioPacketHeader + s.targetChunkBytes config)
  audioFramesCaptured :
    r.server.stats.audioFramesCaptured =
      s.stats.audioFramesCaptured + r.sentPackets * s.targetChunkFrames

/-- What the loop knows where it stands. -/
structure Loop (config : AudioConfig) (r : Recut) : Prop where
  given : ∀ given, r.server.capture.config = some given → given = config
  full :
    ∀ seqNum, r.server.capture = .send config seqNum →
      r.server.targetChunkBytes config ≤ r.server.chunkBuffer.length
  short :
    r.server.capture = .idle → 0 < r.calls →
      r.server.chunkBuffer.length < r.server.targetChunkBytes config

/-- The invariant of a run from `s`. -/
structure Account (s : Server) (config : AudioConfig) (r : Recut) : Prop where
  settings : r.server.config = s.config
  loop : r.Loop config
  keeps : r.Keeps s
  whole : ∀ packet ∈ r.packets, Whole s config packet
  counted : r.Counted s config

/-! ## One step -/

section

variable {s : Server} {r q : Recut} {action : Action} {client : Address}
  {config : AudioConfig}

theorem pcm_packetOf (s : Server) (action : Action) :
    pcm (s.packetOf action).toList = s.builtBy action := by
  cases action with
  | capture o =>
    unfold packetOf builtBy
    cases s.capture <;> simp [pcm]
  | _ => rfl

/-- A block is in the callback's hands until it is appended. -/
theorem step_inFlight {t : Server} (streams : s.streamingTo = some client)
    (stepped : s.step action = some t) :
    s.capture.inFlight ++ action.block = s.capturedBy action ++ t.capture.inFlight := by
  cases step_kind stepped with
  | captured data given idle effect =>
    subst effect
    rw [idle]
    rfl
  | capture o moved =>
    unfold capturedBy
    cases captureStep_turn streams moved with
    | checkState data config place effect | checkActive data config place effect
    | append data config place effect | stamp config place full effect
    | returns config place short effect | send config seqNum place effect =>
      rw [place]
      subst effect
      simp [CaptureThread.inFlight, Action.block]
  | other notCapture notCaptured same buffer =>
    rw [same.capture]
    cases action with
    | captured data given => cases notCaptured
    | capture o => cases notCapture
    | _ => exact List.append_nil _

theorem step_keeps {t : Server} {r : Recut} (streams : r.server.streamingTo = some client)
    (keeps : r.Keeps s) (stepped : r.server.step action = some t) :
    s.chunkBuffer ++ (r.offered ++ action.block) =
      pcm (r.packets ++ (r.server.packetOf action).toList) ++ t.chunkBuffer ++
        t.capture.inFlight := by
  have moved := step_inFlight streams stepped
  have cut := step_account stepped
  have split : pcm (r.packets ++ (r.server.packetOf action).toList) =
      pcm r.packets ++ r.server.builtBy action := by
    rw [pcm, List.flatMap_append]
    exact congrArg _ (pcm_packetOf _ _)
  unfold Keeps at keeps
  calc
    s.chunkBuffer ++ (r.offered ++ action.block)
    _ = pcm r.packets ++ r.server.chunkBuffer ++
          (r.server.capture.inFlight ++ action.block) := by
        rw [← List.append_assoc, keeps, List.append_assoc]
    _ = pcm r.packets ++ (r.server.chunkBuffer ++ r.server.capturedBy action) ++
          t.capture.inFlight := by
        rw [moved]
        simp only [List.append_assoc]
    _ = pcm (r.packets ++ (r.server.packetOf action).toList) ++ t.chunkBuffer ++
          t.capture.inFlight := by
        rw [cut, split]
        simp only [List.append_assoc]

theorem step_loop (loop : r.Loop config) (streams : r.Streams client config action)
    (stepped : r.step action = some q) : q.Loop config := by
  rcases Option.map_eq_some_iff.1 stepped with ⟨t, served, rfl⟩
  cases step_kind served with
  | captured data given idle effect =>
    have same : given = config := by simpa [Action.comesIn] using streams.2
    subst effect
    constructor <;> simp [CaptureThread.config, same]
  | other notCapture notCaptured same buffer =>
    have size := targetChunkBytes_congr same.config config
    rcases loop with ⟨given, full, short⟩
    constructor
    · dsimp only
      rwa [same.capture]
    · dsimp only
      rwa [same.capture, size, buffer]
    · dsimp only
      rwa [same.capture, size, buffer, notCaptured]
  | capture o moved =>
    cases captureStep_turn streams.1 moved with
    | checkState data given place effect | checkActive data given place effect
    | append data given place effect | send given seqNum place effect =>
      have same : given = config := loop.given given (by rw [place]; rfl)
      subst effect
      constructor <;> simp [CaptureThread.config, same]
    | stamp given place full effect =>
      have same : given = config := loop.given given (by rw [place]; rfl)
      subst same effect
      constructor
      · simp [CaptureThread.config]
      · intro _ _
        exact full
      · simp
    | returns given place short effect =>
      have same : given = config := loop.given given (by rw [place]; rfl)
      subst same effect
      constructor
      · simp [CaptureThread.config]
      · simp
      · intro _ _
        exact short

/-- The packet of a step, with what the loop and the send know about it. -/
theorem packetOf_eq_some {packet : Packet} (loop : r.Loop config)
    (built : r.server.packetOf action = some packet) :
    ∃ o seqNum,
      action = .capture o ∧ r.server.capture = .send config seqNum ∧
        Whole r.server config packet ∧
          packet.sent = (r.server.activeClient.isSome && o.sendOk) := by
  cases action with
  | capture o =>
    unfold packetOf at built
    dsimp only at built
    split at built
    · next given seqNum place =>
      have same : given = config := loop.given given (by rw [place]; rfl)
      subst same
      cases built
      refine ⟨o, seqNum, rfl, place, ⟨?_, rfl⟩, rfl⟩
      rw [List.length_take]
      exact Nat.min_eq_left (loop.full seqNum place)
    · cases built
  | _ => cases built

theorem Whole.congr {s t : Server} {packet : Packet} (same : t.config = s.config)
    (whole : Whole t config packet) : Whole s config packet := by
  rcases whole with ⟨length, frames⟩
  rw [targetChunkFrames_congr same] at length frames
  exact ⟨length, frames⟩

/-- A step counts the packet that it builds if the send succeeds. -/
theorem step_stats {t : Server} (loop : r.Loop config)
    (streams : r.Streams client config action) (stepped : r.server.step action = some t) :
    let sent := (r.server.packetOf action).toList.countP (·.sent)
    t.stats.packetsSent = r.server.stats.packetsSent + sent ∧
      t.stats.bytesSent =
        r.server.stats.bytesSent +
          sent * (sizeofAudioPacketHeader + r.server.targetChunkBytes config) ∧
      t.stats.audioFramesCaptured =
        r.server.stats.audioFramesCaptured + sent * r.server.targetChunkFrames := by
  cases step_kind stepped with
  | captured data given idle effect =>
    subst effect
    simp [packetOf]
  | other notCapture notCaptured same buffer =>
    have unbuilt : r.server.packetOf action = none := by
      cases action with
      | capture o => cases notCapture
      | _ => rfl
    simp [unbuilt, same.packetsSent, same.bytesSent, same.audioFramesCaptured]
  | capture o moved =>
    have active := (streamingTo_eq_some streams.1).2
    unfold packetOf
    cases captureStep_turn streams.1 moved with
    | checkState data given place effect | checkActive data given place effect
    | append data given place effect | stamp given place full effect
    | returns given place short effect =>
      rw [place]
      subst effect
      simp
    | send given seqNum place effect =>
      have same : given = config := loop.given given (by rw [place]; rfl)
      rw [place]
      subst same effect
      dsimp only
      rw [sendChunk_stats active, active]
      cases o.sendOk <;> simp

theorem step_config {t : Server} (stepped : s.step action = some t) :
    t.config = s.config := by
  cases step_kind stepped with
  | capture o moved => exact captureStep_config moved
  | captured data given idle effect =>
    subst effect
    rfl
  | other notCapture notCaptured same buffer => exact same.config

theorem step_accounted (account : r.Account s config)
    (streams : r.Streams client config action) (stepped : r.step action = some q) :
    q.Account s config := by
  have loop := step_loop account.loop streams stepped
  rcases Option.map_eq_some_iff.1 stepped with ⟨t, served, rfl⟩
  have frames := targetChunkFrames_congr account.settings
  have size := targetChunkBytes_congr account.settings config
  refine ⟨?_, loop, ?_, ?_, ?_⟩
  · exact (step_config served).trans account.settings
  · exact step_keeps streams.1 account.keeps served
  · intro packet member
    rcases List.mem_append.1 member with before | now
    · exact account.whole packet before
    · have built := Option.mem_toList.1 now
      rcases packetOf_eq_some account.loop built with ⟨o, seqNum, _, _, whole, _⟩
      exact whole.congr account.settings
  · rcases step_stats account.loop streams served with ⟨packets, bytes, captured⟩
    rcases account.counted with ⟨packetsBefore, bytesBefore, capturedBefore⟩
    constructor
    · dsimp only
      rw [packets, packetsBefore, sentPackets, sentPackets, List.countP_append]
      omega
    · dsimp only
      rw [bytes, bytesBefore, size, sentPackets, sentPackets, List.countP_append, Nat.add_mul]
      omega
    · dsimp only
      rw [captured, capturedBefore, frames, sentPackets, sentPackets, List.countP_append,
        Nat.add_mul]
      omega

/-- The steps of the callback that a list of actions takes. -/
def captureSteps (actions : List Action) : Nat :=
  actions.countP (·.isCapture)

theorem Account.full (account : r.Account s config) (positive : 0 < config.bytesPerFrame) :
    ∀ given seqNum, r.server.capture = .send given seqNum →
      0 < r.server.targetChunkBytes given ∧
        r.server.targetChunkBytes given ≤ r.server.chunkBuffer.length := by
  intro given seqNum place
  have same : given = config := account.loop.given given (by rw [place]; rfl)
  subst same
  exact ⟨targetChunkBytes_pos positive, account.loop.full seqNum place⟩

/-- The callback that is under way gets on by its own steps, and by no other ones. -/
theorem run_callbackSteps (positive : 0 < config.bytesPerFrame) (actions : List Action) :
    ∀ {r q : Recut}, r.Account s config →
      EveryStep step (Streams client config) r actions → run step r actions = some q →
        (∀ action ∈ actions, action.isCaptured = false) →
          q.server.callbackSteps + captureSteps actions = r.server.callbackSteps := by
  induction actions with
  | nil =>
    intro r q _ _ reached _
    cases reached
    rfl
  | cons action actions inductionHypothesis =>
    intro r q account streams reached noBlock
    rcases run_cons_eq_some.1 reached with ⟨u, first, rest⟩
    have later :=
      inductionHypothesis (step_accounted account streams.1 first) (streams.tail first) rest
        fun other member => noBlock other (List.mem_cons_of_mem action member)
    have captured := noBlock action List.mem_cons_self
    rcases Option.map_eq_some_iff.1 first with ⟨t, served, rfl⟩
    cases step_kind served with
    | capture o moved =>
      have one := captureStep_callbackSteps streams.1.1 (account.full positive) moved
      have counts : captureSteps (.capture o :: actions) = captureSteps actions + 1 :=
        List.countP_cons_of_pos rfl
      dsimp only at later
      omega
    | captured data given idle effect => cases captured
    | other notCapture notCaptured same buffer =>
      have steps : t.callbackSteps = r.server.callbackSteps := by
        unfold callbackSteps
        rw [same.capture, buffer]
        simp only [targetChunkBytes_congr same.config]
      have counts : captureSteps (action :: actions) = captureSteps actions :=
        List.countP_cons_of_neg (by simp [notCapture])
      rw [counts, ← steps]
      exact later

end

/-- What holds of a run from `s`, while one client is streamed to and the blocks come in
one configuration. -/
structure Lawful (s : Server) (client : Address) (config : AudioConfig) (r : Recut) :
    Prop where
  keeps : r.Keeps s
  short :
    r.server.capture = .idle → 0 < r.calls →
      r.server.chunkBuffer.length < s.targetChunkBytes config
  whole : ∀ packet ∈ r.packets, Whole s config packet
  counted : r.Counted s config
  /-- The loop can go on until it is left. -/
  enabled : r.server.capture ≠ .idle → ∀ o, (r.step (.capture o)).isSome = true
  /-- It is left after `callbackSteps` steps of its own. -/
  terminates :
    ∀ more q, EveryStep step (Streams client config) r more → run step r more = some q →
      (∀ action ∈ more, action.isCaptured = false) →
        captureSteps more ≤ r.server.callbackSteps ∧
          (q.server.capture = .idle ↔ captureSteps more = r.server.callbackSteps)

/-- Whatever the sizes of the blocks, the results of the sends and the steps of the other
threads, blocks are cut into whole packets without loss, and the callback returns. -/
theorem blocks_are_recut (client : Address) {config : AudioConfig}
    (positive : 0 < config.bytesPerFrame) {s : Server} (idle : s.capture = .idle)
    (actions : List Action) {r : Recut}
    (streams : EveryStep step (Streams client config) { server := s } actions)
    (reached : run step { server := s } actions = some r) : r.Lawful s client config := by
  have start : Account s config { server := s } := by
    refine ⟨rfl, ⟨?_, ?_, ?_⟩, ?_, ?_, ⟨?_, ?_, ?_⟩⟩ <;>
      simp [idle, CaptureThread.config, Keeps, pcm, CaptureThread.inFlight, sentPackets]
  have kept : ∀ r action q, Account s config r → Streams client config r action →
      step r action = some q → Account s config q :=
    fun _ _ _ account streams stepped => step_accounted account streams stepped
  have account : r.Account s config := run_invariant kept actions start streams reached
  constructor
  · exact account.keeps
  · intro ended called
    rw [← targetChunkBytes_congr account.settings]
    exact account.loop.short ended called
  · exact account.whole
  · exact account.counted
  · intro busy o
    rw [step, Option.isSome_map]
    exact captureStep_isSome busy o
  · intro more q streamsOn onward noBlock
    have left := run_callbackSteps positive more account streamsOn onward noBlock
    have after : q.Account s config := run_invariant kept more account streamsOn onward
    have ended := callbackSteps_eq_zero_iff (after.full positive)
    refine ⟨by omega, ?_⟩
    rw [← ended]
    omega

section Blocks

/-- A block, and the callback up to its end if one packet gets full. -/
def blockOf (data : List UInt8) (o : Outcome) : List Action :=
  .captured data {} :: List.replicate 6 (.capture o)

/-- A frame and a half, and the other half, whose packet is not sent. -/
def twoBlocks : List Action :=
  blockOf [1, 2, 3, 4, 5, 6] {} ++ blockOf [7, 8] { sendOk := false }

/-- A packet is one stereo frame. -/
def recut (actions : List Action) : Recut :=
  (run step { server := Stretch.connected } actions).getD { server := Stretch.connected }

theorem two_blocks_recut :
    (recut twoBlocks).Lawful Stretch.connected phone {} ∧
      pcm (recut twoBlocks).packets = [1, 2, 3, 4, 5, 6, 7, 8] ∧
        (recut twoBlocks).sentPackets = 1 := by
  have positive : 0 < AudioConfig.bytesPerFrame {} := by decide
  have idle : Stretch.connected.capture = .idle := by decide +kernel
  refine ⟨?_, by decide +kernel, by decide +kernel⟩
  exact
    blocks_are_recut phone positive idle twoBlocks (by decide +kernel)
      (run_eq_some_getD (by decide +kernel))

end Blocks

end Recut

end AudioRouter.Server
