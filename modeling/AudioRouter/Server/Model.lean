import AudioRouter.Protocol
import AudioRouter.Lib.Transition

/-!
# The server

`AudioRouterServer` (`server/server.cpp`) as four threads over shared members:
the network thread with its handlers, the capture callback, the watchdog, and
the USB relay where it ends a session.  One step of a thread is one access to a
member that another thread uses, so that the order of a list of actions is an
interleaving.  The lock of the chunk buffer is taken by the one capture thread
only and is left out.
-/

namespace AudioRouter

namespace Server

open Protocol LittleEndian

/-- `get_time_ms()`: a monotone 64-bit clock. -/
abbrev Millis := BitVec 64

structure ServerConfig where
  sampleRate : Nat := 48000
  channels : Nat := 2
  framesPerPacket : Nat := 240
  autoMutePcSpeaker : Bool := true
  clientTimeoutMs : Nat := 8000
  deriving DecidableEq, Repr

inductive ServerState where
  | stopped
  | listening
  | streaming
  deriving DecidableEq, Repr

structure ServerStats where
  packetsSent : Nat := 0
  bytesSent : Nat := 0
  audioFramesCaptured : Nat := 0
  clientBufferLevel : UInt32 := 0
  clientLostPackets : UInt32 := 0
  deriving DecidableEq, Repr

/-- The fields of `HeartbeatPayload` that the server reads. -/
structure HeartbeatPayload where
  origTimestampUs : UInt64
  clientBufferLevelFrames : UInt32
  packetsLost : UInt32
  deriving DecidableEq, Repr

/-- `sizeof(HeartbeatPayload)`. -/
def sizeofHeartbeatPayload : Nat := 28

def HeartbeatPayload.ofBytes (buffer : List UInt8) : HeartbeatPayload :=
  { origTimestampUs := UInt64.ofNat (field buffer 24 8)
    clientBufferLevelFrames := UInt32.ofNat (field buffer 32 4)
    packetsLost := UInt32.ofNat (field buffer 40 4) }

/-- `ControlCmdPayload`, with the bits of its float. -/
structure ControlCmdPayload where
  cmdId : UInt8
  paramFloat : UInt32
  deriving DecidableEq, Repr

/-- `sizeof(ControlCmdPayload)`. -/
def sizeofControlCmdPayload : Nat := 9

def ControlCmdPayload.ofBytes (buffer : List UInt8) : ControlCmdPayload :=
  { cmdId := UInt8.ofNat (field buffer 24 1)
    paramFloat := UInt32.ofNat (field buffer 25 4) }

/-- What the handlers read of a datagram; a payload that is too short for its
handler is `none`. -/
inductive Request where
  | discovery
  | connect
  | disconnect
  | heartbeat (seqNum : UInt32) (payload : Option HeartbeatPayload)
  | control (payload : Option ControlCmdPayload)
  deriving DecidableEq, Repr

/-- The checks and the switch of `network_receive_thread`. -/
def requestOf (buffer : List UInt8) : Option Request :=
  let header := CommonHeader.ofBytes buffer
  let len := buffer.length - sizeofCommonHeader
  if buffer.length < sizeofCommonHeader then none
  else if !isValidHeader header buffer.length then none
  else if header.msgType = MsgType.discoveryReq.code then some .discovery
  else if header.msgType = MsgType.connectReq.code then some .connect
  else if header.msgType = MsgType.disconnectReq.code then some .disconnect
  else if header.msgType = MsgType.heartbeatPing.code then
    some (.heartbeat header.seqNum
      (if len ≥ sizeofHeartbeatPayload then some (.ofBytes buffer) else none))
  else if header.msgType = MsgType.controlCmd.code then
    some (.control
      (if len < sizeofControlCmdPayload then none else some (.ofBytes buffer)))
  else none

/-- What the server sends. -/
inductive Message where
  | discoveryResp (isBusy pcMuted : Bool)
  | connectAck (config : AudioConfig) (pcSpeakerMuted : Bool)
  | connectNak
  | disconnectAck
  | heartbeatPong (seqNum : UInt32) (origTimestampUs : UInt64)
      (packetsReceived : UInt32)
  | audioData (header : AudioPacketHeader) (pcm : List UInt8)
  deriving DecidableEq, Repr

/-- Calls of the endpoint control. -/
inductive EndpointCall where
  | mutePcSpeaker
  | unmutePcSpeaker
  | setMute (mute : Bool)
  | setVolume (volume : UInt32)
  deriving DecidableEq, Repr

/-! ## Threads -/

/-- Where `disconnect_client` stands. -/
inductive DisconnectStep where
  | checkState
  | checkActive
  | clearActive
  | setListening
  deriving DecidableEq, Repr

/-- Where `handle_connect_req` stands. -/
inductive ConnectStep where
  | lock
  | checkState
  | checkActive
  | readClock
  | compareActivity (nowMs : Millis)
  | setActive
  | readActivityClock
  | setActivity (nowMs : Millis)
  | resetSequence
  | startCapture
  | mutePcSpeaker
  | setStreaming (mutedOk : Bool)
  | sendAck (mutedOk : Bool)
  deriving DecidableEq, Repr

/-- Where `handle_heartbeat_ping` stands. -/
inductive HeartbeatStep where
  | checkActive
  | readClock
  | setActivity (nowMs : Millis)
  | reply
  deriving DecidableEq, Repr

/-- The network thread: the handler it is in. -/
inductive NetThread where
  | idle
  | discovery (sender : Address)
  | connect (sender : Address) (pc : ConnectStep)
  | disconnectLock (sender : Address)
  | disconnectCompare (sender : Address)
  | disconnect (pc : DisconnectStep)
  | heartbeat (sender : Address) (seqNum : UInt32)
      (payload : Option HeartbeatPayload) (pc : HeartbeatStep)
  | control (sender : Address) (payload : Option ControlCmdPayload)
  deriving DecidableEq, Repr

/-- The capture thread: where `on_audio_captured` stands. -/
inductive CaptureThread where
  | idle
  | checkState (data : List UInt8) (config : AudioConfig)
  | checkActive (data : List UInt8) (config : AudioConfig)
  | append (data : List UInt8) (config : AudioConfig)
  | stamp (config : AudioConfig)
  | send (config : AudioConfig) (seqNum : UInt32)
  deriving DecidableEq, Repr

/-- The watchdog. -/
inductive WatchdogThread where
  | sleeping
  | checkState
  | readClock
  | loadActivity (nowMs : Millis)
  | compare (nowMs lastActivity : Millis)
  | lock
  | disconnect (pc : DisconnectStep)
  deriving DecidableEq, Repr

/-- The USB relay, as far as it ends a session. -/
inductive RelayThread where
  | relaying
  | disconnect (pc : DisconnectStep)
  deriving DecidableEq, Repr

/-- The threads that take `client_mutex_`. -/
inductive MutexHolder where
  | net
  | watchdog
  deriving DecidableEq, Repr

end Server

open Server

/-- The members of `AudioRouterServer`, the threads, the clock, and what has been
sent. -/
structure Server where
  config : ServerConfig := {}
  state : ServerState := .listening
  activeClient : Option Address := none
  lastClientActivityTimeMs : Millis := 0
  sequenceNumber : UInt32 := 0
  capturing : Bool := false
  actualAudioConfig : AudioConfig := {}
  chunkBuffer : List UInt8 := []
  stats : ServerStats := {}
  clientMutex : Option MutexHolder := none
  net : NetThread := .idle
  capture : CaptureThread := .idle
  watchdog : WatchdogThread := .sleeping
  relay : RelayThread := .relaying
  clock : Millis := 0
  endpoint : List EndpointCall := []
  sent : List (Address × Message) := []
  deriving DecidableEq

namespace Server

open Protocol

/-- The server that `start()` leaves behind. -/
def start (config : ServerConfig) : Server := { config := config }

def sendTo (s : Server) (dest : Address) (message : Message) : Server :=
  { s with sent := s.sent ++ [(dest, message)] }

/-- What the calls to other components return at a step. -/
structure Outcome where
  /-- `capture_engine_->start`: the actual configuration, or failure. -/
  captureStart : Option AudioConfig := some {}
  /-- `mute_pc_speaker`. -/
  mutedOk : Bool := true
  /-- `is_currently_silenced_by_us`. -/
  pcMuted : Bool := false
  timestampUs : UInt64 := 0
  /-- Whether `send_to` returned a positive count. -/
  sendOk : Bool := true

/-! ## `disconnect_client` -/

/-- One step of `disconnect_client`, and where it stands afterwards. -/
def disconnectStep (s : Server) (sendAck : Bool) :
    DisconnectStep → Server × Option DisconnectStep
  | .checkState =>
      if s.state = .streaming then (s, some .checkActive) else (s, none)
  | .checkActive =>
      match s.activeClient with
      | none => (s, none)
      | some client =>
          let s := if sendAck then s.sendTo client .disconnectAck else s
          let s :=
            if s.config.autoMutePcSpeaker then
              { s with endpoint := s.endpoint ++ [EndpointCall.unmutePcSpeaker] }
            else s
          (s, some .clearActive)
  | .clearActive => ({ s with activeClient := none }, some .setListening)
  | .setListening => ({ s with state := .listening }, none)

/-- A step of `disconnect_client` touches the session and the speaker only. -/
theorem disconnectStep_eq (s : Server) (sendAck : Bool) (pc : DisconnectStep) :
    ∃ state activeClient endpoint sent,
      (s.disconnectStep sendAck pc).1 =
          { s with
            state := state
            activeClient := activeClient
            endpoint := endpoint
            sent := sent } ∧
        (activeClient = s.activeClient ∨ activeClient = none) := by
  cases pc with
  | checkState =>
      rw [disconnectStep]
      split
      · exact ⟨_, _, _, _, rfl, Or.inl rfl⟩
      · exact ⟨_, _, _, _, rfl, Or.inl rfl⟩
  | checkActive =>
      rw [disconnectStep]
      cases active : s.activeClient with
      | none => exact ⟨_, _, _, _, rfl, Or.inl active⟩
      | some client =>
          dsimp only
          split <;> split <;> exact ⟨_, _, _, _, rfl, Or.inl active⟩
  | clearActive => exact ⟨_, _, _, _, rfl, Or.inr rfl⟩
  | setListening => exact ⟨_, _, _, _, rfl, Or.inl rfl⟩

/-! ## The handlers of the network thread -/

/-- The end of a handler that holds `client_mutex_`. -/
def unlockNet (s : Server) : Server :=
  { s with clientMutex := none, net := .idle }

def enterConnect (s : Server) (sender : Address) (pc : ConnectStep) : Server :=
  { s with net := .connect sender pc }

/-- One step of `handle_connect_req`. -/
def connectStep (s : Server) (o : Outcome) (sender : Address) :
    ConnectStep → Option Server
  | .lock =>
      if s.clientMutex = none then
        some (({ s with clientMutex := some .net }).enterConnect sender .checkState)
      else none
  | .checkState =>
      some (s.enterConnect sender
        (if s.state = .streaming then .checkActive else .setActive))
  | .checkActive =>
      some (s.enterConnect sender
        (if s.activeClient.isSome ∧ s.activeClient ≠ some sender then .readClock
        else .setActive))
  | .readClock => some (s.enterConnect sender (.compareActivity s.clock))
  | .compareActivity nowMs =>
      if (nowMs - s.lastClientActivityTimeMs).toNat < s.config.clientTimeoutMs then
        -- busy with another client
        some (s.sendTo sender .connectNak).unlockNet
      else some (s.enterConnect sender .setActive)
  | .setActive =>
      some (({ s with activeClient := some sender }).enterConnect sender
        .readActivityClock)
  | .readActivityClock => some (s.enterConnect sender (.setActivity s.clock))
  | .setActivity nowMs =>
      some (({ s with lastClientActivityTimeMs := nowMs }).enterConnect sender
        .resetSequence)
  | .resetSequence =>
      some (({ s with sequenceNumber := 0 }).enterConnect sender .startCapture)
  | .startCapture =>
      if s.capturing then some (s.enterConnect sender .mutePcSpeaker)
      else
        match o.captureStart with
        | none => some s.unlockNet
        | some actual =>
            some (({ s with
              capturing := true
              actualAudioConfig := actual }).enterConnect sender .mutePcSpeaker)
  | .mutePcSpeaker =>
      if s.config.autoMutePcSpeaker then
        some (({ s with
          endpoint := s.endpoint ++ [EndpointCall.mutePcSpeaker] }).enterConnect sender
            (.setStreaming o.mutedOk))
      else some (s.enterConnect sender (.setStreaming false))
  | .setStreaming mutedOk =>
      some (({ s with state := .streaming }).enterConnect sender (.sendAck mutedOk))
  | .sendAck mutedOk =>
      some (s.sendTo sender (.connectAck s.actualAudioConfig mutedOk)).unlockNet

/-- One step of `handle_heartbeat_ping`. -/
def heartbeatStep (s : Server) (sender : Address) (seqNum : UInt32)
    (payload : Option HeartbeatPayload) : HeartbeatStep → Server
  | .checkActive =>
      if s.activeClient = some sender then
        { s with net := .heartbeat sender seqNum payload .readClock }
      else { s with net := .idle }
  | .readClock =>
      { s with net := .heartbeat sender seqNum payload (.setActivity s.clock) }
  | .setActivity nowMs =>
      { s with
        lastClientActivityTimeMs := nowMs
        net := .heartbeat sender seqNum payload .reply }
  | .reply =>
      let orig := (payload.map (·.origTimestampUs)).getD 0
      let stats :=
        match payload with
        | none => s.stats
        | some ping =>
            { s.stats with
              clientBufferLevel := ping.clientBufferLevelFrames
              clientLostPackets := ping.packetsLost }
      { (({ s with stats := stats }).sendTo sender
          (.heartbeatPong seqNum orig (UInt32.ofNat stats.packetsSent))) with
        net := .idle }

/-- `handle_control_cmd`. -/
def handleControlCmd (s : Server) (sender : Address)
    (payload : Option ControlCmdPayload) : Server :=
  let s := { s with net := .idle }
  if s.activeClient ≠ some sender then s
  else
    match payload with
    | none => s
    | some cmd =>
        if cmd.cmdId = 1 then
          { s with endpoint := s.endpoint ++ [EndpointCall.setMute true] }
        else if cmd.cmdId = 2 then
          { s with endpoint := s.endpoint ++ [EndpointCall.setMute false] }
        else if cmd.cmdId = 3 then
          { s with endpoint := s.endpoint ++ [EndpointCall.setVolume cmd.paramFloat] }
        else s

/-- `handle_discovery_req`. -/
def handleDiscoveryReq (s : Server) (o : Outcome) (sender : Address) : Server :=
  { (s.sendTo sender
      (.discoveryResp (decide (s.state = .streaming)) o.pcMuted)) with
    net := .idle }

/-- The handler that a request starts. -/
def dispatch (sender : Address) : Request → NetThread
  | .discovery => .discovery sender
  | .connect => .connect sender .lock
  | .disconnect => .disconnectLock sender
  | .heartbeat seqNum payload => .heartbeat sender seqNum payload .checkActive
  | .control payload => .control sender payload

/-- One step of the network thread. -/
def netStep (s : Server) (o : Outcome) : Option Server :=
  match s.net with
  | .idle => none
  | .discovery sender => some (s.handleDiscoveryReq o sender)
  | .connect sender pc => s.connectStep o sender pc
  | .disconnectLock sender =>
      if s.clientMutex = none then
        some { s with clientMutex := some .net, net := .disconnectCompare sender }
      else none
  | .disconnectCompare sender =>
      if s.activeClient = some sender then
        some { s with net := .disconnect .checkState }
      else some s.unlockNet
  | .disconnect pc =>
      match s.disconnectStep true pc with
      | (s, some pc) => some { s with net := .disconnect pc }
      | (s, none) => some s.unlockNet
  | .heartbeat sender seqNum payload pc =>
      some (s.heartbeatStep sender seqNum payload pc)
  | .control sender payload => some (s.handleControlCmd sender payload)

/-! ## The capture callback -/

def targetChunkFrames (s : Server) : Nat :=
  if s.config.framesPerPacket > 0 then s.config.framesPerPacket else 240

def targetChunkBytes (s : Server) (config : AudioConfig) : Nat :=
  s.targetChunkFrames * config.bytesPerFrame

/-- The header that `on_audio_captured` stamps. -/
def audioHeader (s : Server) (config : AudioConfig) (seqNum : UInt32)
    (timestampUs : UInt64) : AudioPacketHeader :=
  { common :=
      { magic := magic
        version := currentVersion
        msgType := MsgType.audioData.code
        flags := 0
        seqNum := seqNum
        timestampUs := timestampUs
        payloadSize :=
          UInt32.ofNat
            (sizeofAudioPacketHeader - sizeofCommonHeader +
              s.targetChunkBytes config) }
    sampleRate := UInt32.ofNat config.sampleRate
    channels := UInt16.ofNat config.channels
    format := config.format.toCode
    reserved := 0
    numFrames := UInt32.ofNat s.targetChunkFrames }

/-- Copies one chunk into a packet, sends it to the client that is active now,
and counts it if the send succeeded. -/
def sendChunk (s : Server) (o : Outcome) (config : AudioConfig)
    (seqNum : UInt32) : Server :=
  let size := s.targetChunkBytes config
  let message : Message :=
    .audioData (s.audioHeader config seqNum o.timestampUs)
      (s.chunkBuffer.take size)
  let s := { s with chunkBuffer := s.chunkBuffer.drop size }
  match s.activeClient with
  | none => s
  | some client =>
      if o.sendOk then
        ({ s with
          stats :=
            { s.stats with
              packetsSent := s.stats.packetsSent + 1
              bytesSent := s.stats.bytesSent + (sizeofAudioPacketHeader + size)
              audioFramesCaptured :=
                s.stats.audioFramesCaptured + s.targetChunkFrames } }).sendTo
          client message
      else s

/-- One step of `on_audio_captured`. -/
def captureStep (s : Server) (o : Outcome) : Option Server :=
  match s.capture with
  | .idle => none
  | .checkState data config =>
      some { s with
        capture :=
          if s.state = .streaming then .checkActive data config else .idle }
  | .checkActive data config =>
      some { s with
        capture := if s.activeClient.isSome then .append data config else .idle }
  | .append data config =>
      some { s with
        chunkBuffer := s.chunkBuffer ++ data
        capture := .stamp config }
  | .stamp config =>
      if s.chunkBuffer.length ≥ s.targetChunkBytes config then
        -- `fetch_add`
        some { s with
          sequenceNumber := s.sequenceNumber + 1
          capture := .send config s.sequenceNumber }
      else some { s with capture := .idle }
  | .send config seqNum =>
      some { s.sendChunk o config seqNum with capture := .stamp config }

/-- The callback touches its own members only. -/
theorem captureStep_eq {s t : Server} {o : Outcome}
    (stepped : s.captureStep o = some t) :
    ∃ sequenceNumber chunkBuffer stats capture sent,
      t =
        { s with
          sequenceNumber := sequenceNumber
          chunkBuffer := chunkBuffer
          stats := stats
          capture := capture
          sent := sent } := by
  unfold captureStep at stepped
  cases thread : s.capture with
  | idle =>
      rw [thread] at stepped
      nomatch stepped
  | checkState data config | checkActive data config | append data config =>
      rw [thread] at stepped
      exact ⟨_, _, _, _, _, (Option.some.inj stepped).symm⟩
  | stamp config =>
      rw [thread] at stepped
      dsimp only at stepped
      split at stepped
      · exact ⟨_, _, _, _, _, (Option.some.inj stepped).symm⟩
      · exact ⟨_, _, _, _, _, (Option.some.inj stepped).symm⟩
  | send config seqNum =>
      rw [thread] at stepped
      obtain rfl := Option.some.inj stepped
      unfold sendChunk
      cases active : s.activeClient with
      | none => exact ⟨_, _, _, _, _, rfl⟩
      | some client =>
          dsimp only
          split
          · exact ⟨_, _, _, _, _, rfl⟩
          · exact ⟨_, _, _, _, _, rfl⟩

/-! ## The watchdog and the relay -/

/-- The test of the watchdog, with unsigned 64-bit subtraction. -/
def timedOut (s : Server) (nowMs lastActivity : Millis) : Bool :=
  decide (lastActivity.toNat > 0) &&
    decide ((nowMs - lastActivity).toNat > s.config.clientTimeoutMs)

/-- One step of `watchdog_thread`. -/
def watchdogStep (s : Server) : Option Server :=
  match s.watchdog with
  | .sleeping => some { s with watchdog := .checkState }
  | .checkState =>
      some { s with
        watchdog := if s.state = .streaming then .readClock else .sleeping }
  | .readClock => some { s with watchdog := .loadActivity s.clock }
  | .loadActivity nowMs =>
      some { s with watchdog := .compare nowMs s.lastClientActivityTimeMs }
  | .compare nowMs lastActivity =>
      some { s with
        watchdog := if s.timedOut nowMs lastActivity then .lock else .sleeping }
  | .lock =>
      if s.clientMutex = none then
        some { s with
          clientMutex := some .watchdog
          watchdog := .disconnect .checkState }
      else none
  | .disconnect pc =>
      match s.disconnectStep false pc with
      | (s, some pc) => some { s with watchdog := .disconnect pc }
      | (s, none) => some { s with clientMutex := none, watchdog := .sleeping }

/-- The disconnect that the relay makes, without `client_mutex_`. -/
def relayStep (s : Server) : Option Server :=
  match s.relay with
  | .relaying => none
  | .disconnect pc =>
      match s.disconnectStep true pc with
      | (s, some pc) => some { s with relay := .disconnect pc }
      | (s, none) => some { s with relay := .relaying }

theorem relayStep_eq {s t : Server} (stepped : s.relayStep = some t) :
    ∃ state activeClient endpoint sent relay,
      t =
          { s with
            state := state
            activeClient := activeClient
            endpoint := endpoint
            sent := sent
            relay := relay } ∧
        (activeClient = s.activeClient ∨ activeClient = none) := by
  unfold relayStep at stepped
  cases thread : s.relay with
  | relaying =>
      rw [thread] at stepped
      nomatch stepped
  | disconnect pc =>
      rw [thread] at stepped
      obtain ⟨_, _, _, _, equal, kept⟩ := s.disconnectStep_eq true pc
      dsimp only at stepped
      split at stepped <;> obtain rfl := Option.some.inj stepped <;>
        next ended =>
          rw [ended] at equal
          dsimp only at equal
          subst equal
          exact ⟨_, _, _, _, _, rfl, kept⟩

/-! ## Runs -/

inductive Action where
  /-- Time passes. -/
  | tick (nowMs : Millis)
  /-- The network thread takes a datagram. -/
  | receive (sender : Address) (buffer : List UInt8)
  | net (outcome : Outcome)
  /-- The capture engine delivers a block. -/
  | captured (data : List UInt8) (config : AudioConfig)
  | capture (outcome : Outcome)
  /-- The capture engine ends by itself. -/
  | captureEnds
  | watchdog
  /-- The USB tunnel breaks. -/
  | tunnelLost
  | relay

/-- One step of some thread or of the environment. -/
def step (s : Server) : Action → Option Server
  | .tick nowMs => if s.clock ≤ nowMs then some { s with clock := nowMs } else none
  | .receive sender buffer =>
      if s.net = .idle then
        match requestOf buffer with
        | none => some s
        | some request => some { s with net := dispatch sender request }
      else none
  | .net outcome => s.netStep outcome
  | .captured data config =>
      if s.capture = .idle then
        some { s with capture := .checkState data config }
      else none
  | .capture outcome => s.captureStep outcome
  | .captureEnds => some { s with capturing := false }
  | .watchdog => s.watchdogStep
  | .tunnelLost =>
      if s.relay = .relaying then
        some { s with relay := .disconnect .checkState }
      else none
  | .relay => s.relayStep

/-! ## A session -/

/-- A phone behind `adb reverse`. -/
def phone : Address := { ip := 0x7F000001, port := 40000 }

/-- A second one. -/
def otherPhone : Address := { ip := 0x7F000001, port := 40001 }

/-- A request without a payload. -/
def emptyRequest (type : MsgType) : Datagram :=
  [0x52, 0x44, 0x55, 0x41, 1, type.code] ++ List.replicate 18 0

/-- The phone connects to a server that is listening. -/
def connecting : List Action :=
  .receive phone (emptyRequest .connectReq) :: List.replicate 10 (.net {})

end Server

end AudioRouter
