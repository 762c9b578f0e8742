import AudioRouter.Server.Model

/-!
# Handlers as single steps

The handlers of `AudioRouterServer` as functions, and a run of the server in which
each of them is one step.  Only the capture callback keeps its own steps, so that
it falls between any two handlers.  Each handler is shown to be an uninterrupted
run of the threads of the interleaved model.
-/

namespace AudioRouter

namespace Server

open Protocol Transition

/-! ## The handlers -/

/-- `disconnect_client`. -/
def disconnectClient (s : Server) (sendAck : Bool) : Server :=
  if s.state = .streaming then
    match s.activeClient with
    | none => s
    | some client =>
        let s := if sendAck then s.sendTo client .disconnectAck else s
        let s :=
          if s.config.autoMutePcSpeaker then
            { s with endpoint := s.endpoint ++ [EndpointCall.unmutePcSpeaker] }
          else s
        { s with activeClient := none, state := .listening }
  else s

/-- The test that rejects a `CONNECT_REQ`: another client is active and not silent
for the timeout. -/
def isBusyFor (s : Server) (sender : Address) : Bool :=
  decide (s.state = .streaming) && s.activeClient.isSome &&
    decide (s.activeClient ≠ some sender) &&
    decide
      ((s.clock - s.lastClientActivityTimeMs).toNat < s.config.clientTimeoutMs)

theorem isBusyFor_iff {s : Server} {sender : Address} :
    s.isBusyFor sender = true ↔
      s.state = .streaming ∧ s.activeClient.isSome = true ∧
        s.activeClient ≠ some sender ∧
          (s.clock - s.lastClientActivityTimeMs).toNat < s.config.clientTimeoutMs := by
  simp only [isBusyFor, Bool.and_eq_true, decide_eq_true_eq, and_assoc]

/-- `capture_engine_->start`, if the engine is not capturing. -/
def startCapture (s : Server) (o : Outcome) : Option Server :=
  if s.capturing then some s
  else o.captureStart.map fun actual =>
    { s with capturing := true, actualAudioConfig := actual }

/-- What follows in `handle_connect_req` when the capture engine runs. -/
def acceptClient (s : Server) (o : Outcome) (sender : Address) : Server :=
  let mutedOk := if s.config.autoMutePcSpeaker then o.mutedOk else false
  let s :=
    if s.config.autoMutePcSpeaker then
      { s with endpoint := s.endpoint ++ [EndpointCall.mutePcSpeaker] }
    else s
  ({ s with state := .streaming }).sendTo sender
    (.connectAck s.actualAudioConfig mutedOk)

/-- The members that `handle_connect_req` sets before it starts the engine. -/
def setClient (s : Server) (sender : Address) : Server :=
  { s with
    activeClient := some sender
    lastClientActivityTimeMs := s.clock
    sequenceNumber := 0 }

/-- `handle_connect_req`. -/
def handleConnectReq (s : Server) (o : Outcome) (sender : Address) : Server :=
  if s.isBusyFor sender then s.sendTo sender .connectNak
  else
    match (s.setClient sender).startCapture o with
    | none => s.setClient sender
    | some s => s.acceptClient o sender

/-- `handle_disconnect_req`. -/
def handleDisconnectReq (s : Server) (sender : Address) : Server :=
  if s.activeClient = some sender then s.disconnectClient true else s

/-- `handle_heartbeat_ping`. -/
def handleHeartbeatPing (s : Server) (sender : Address) (seqNum : UInt32)
    (payload : Option HeartbeatPayload) : Server :=
  if s.activeClient = some sender then
    let stats :=
      match payload with
      | none => s.stats
      | some ping =>
          { s.stats with
            clientBufferLevel := ping.clientBufferLevelFrames
            clientLostPackets := ping.packetsLost }
    ({ s with lastClientActivityTimeMs := s.clock, stats := stats }).sendTo sender
      (.heartbeatPong seqNum ((payload.map HeartbeatPayload.origTimestampUs).getD 0)
        (UInt32.ofNat stats.packetsSent))
  else s

/-- The switch of `network_receive_thread`. -/
def handleRequest (s : Server) (o : Outcome) (sender : Address) : Request → Server
  | .discovery =>
      s.sendTo sender (.discoveryResp (decide (s.state = .streaming)) o.pcMuted)
  | .connect => s.handleConnectReq o sender
  | .disconnect => s.handleDisconnectReq sender
  | .heartbeat seqNum payload => s.handleHeartbeatPing sender seqNum payload
  | .control payload => { s.handleControlCmd sender payload with net := s.net }

/-- A turn of `network_receive_thread` on one datagram. -/
def handleDatagram (s : Server) (o : Outcome) (sender : Address)
    (buffer : List UInt8) : Server :=
  match requestOf buffer with
  | none => s
  | some request => s.handleRequest o sender request

/-- A turn of `watchdog_thread`. -/
def watchdogTick (s : Server) : Server :=
  if s.state = .streaming ∧ s.timedOut s.clock s.lastClientActivityTimeMs then
    s.disconnectClient false
  else s

/-! ## What the handlers change -/

theorem disconnectClient_of_active {s : Server} {client : Address}
    (streaming : s.state = .streaming) (active : s.activeClient = some client)
    (sendAck : Bool) :
    s.disconnectClient sendAck =
      { s with
        activeClient := none
        state := .listening
        endpoint :=
          s.endpoint ++ if s.config.autoMutePcSpeaker then [.unmutePcSpeaker] else []
        sent := s.sent ++ if sendAck then [(client, .disconnectAck)] else [] } := by
  unfold disconnectClient
  rw [if_pos streaming, active]
  dsimp only
  split_ifs <;> simp_all [sendTo]

theorem disconnectClient_of_idle {s : Server}
    (idle : ¬ (s.state = .streaming ∧ s.activeClient.isSome = true)) (sendAck : Bool) :
    s.disconnectClient sendAck = s := by
  unfold disconnectClient
  by_cases streaming : s.state = .streaming
  · cases active : s.activeClient with
    | none => rw [if_pos streaming]
    | some client => exact absurd ⟨streaming, by simp [active]⟩ idle
  · rw [if_neg streaming]

/-- `disconnect_client` touches the session and the speaker only. -/
theorem disconnectClient_eq (s : Server) (sendAck : Bool) :
    ∃ state activeClient endpoint sent,
      s.disconnectClient sendAck =
          { s with
            state := state
            activeClient := activeClient
            endpoint := endpoint
            sent := sent } ∧
        (activeClient = none ∨ activeClient = s.activeClient) := by
  by_cases session : s.state = .streaming ∧ s.activeClient.isSome = true
  · obtain ⟨client, active⟩ := Option.isSome_iff_exists.1 session.2
    exact ⟨_, _, _, _, disconnectClient_of_active session.1 active sendAck, .inl rfl⟩
  · exact ⟨_, _, _, _, disconnectClient_of_idle session sendAck, .inr rfl⟩

theorem acceptClient_eq (s : Server) (o : Outcome) (sender : Address) :
    s.acceptClient o sender =
      { s with
        state := .streaming
        endpoint :=
          s.endpoint ++ if s.config.autoMutePcSpeaker then [.mutePcSpeaker] else []
        sent :=
          s.sent ++
            [(sender,
              .connectAck s.actualAudioConfig
                (s.config.autoMutePcSpeaker && o.mutedOk))] } := by
  unfold acceptClient sendTo
  cases s.config.autoMutePcSpeaker <;> simp

theorem startCapture_eq {s t : Server} {o : Outcome}
    (started : s.startCapture o = some t) :
    ∃ capturing actual,
      t = { s with capturing := capturing, actualAudioConfig := actual } := by
  unfold startCapture at started
  split at started
  · exact ⟨_, _, (Option.some.inj started).symm⟩
  · obtain ⟨actual, _, rfl⟩ := Option.map_eq_some_iff.1 started
    exact ⟨_, _, rfl⟩

theorem startCapture_eq_none_iff {s : Server} {o : Outcome} :
    s.startCapture o = none ↔ s.capturing = false ∧ o.captureStart = none := by
  unfold startCapture
  cases s.capturing <;> simp

theorem startCapture_setClient_eq_none_iff {s : Server} {o : Outcome}
    {sender : Address} :
    (s.setClient sender).startCapture o = none ↔ s.startCapture o = none := by
  rw [startCapture_eq_none_iff, startCapture_eq_none_iff]
  rfl

theorem handleConnectReq_of_busy {s : Server} {o : Outcome} {sender : Address}
    (busy : s.isBusyFor sender = true) :
    s.handleConnectReq o sender = s.sendTo sender .connectNak :=
  if_pos busy

theorem handleConnectReq_of_failure {s : Server} {o : Outcome} {sender : Address}
    (free : s.isBusyFor sender = false)
    (fails : (s.setClient sender).startCapture o = none) :
    s.handleConnectReq o sender = s.setClient sender := by
  simp [handleConnectReq, free, fails]

theorem handleConnectReq_of_start {s t : Server} {o : Outcome} {sender : Address}
    (free : s.isBusyFor sender = false)
    (starts : (s.setClient sender).startCapture o = some t) :
    s.handleConnectReq o sender = t.acceptClient o sender := by
  simp [handleConnectReq, free, starts]

/-! ## Handlers as runs of the threads -/

/-- One thread runs from one state to another with nothing in between. -/
def RunsBy (a : Action) (s t : Server) : Prop :=
  ∃ n, run step s (List.replicate n a) = some t

section

variable {o : Outcome} {s t u : Server} {sender : Address}

theorem RunsBy.refl {a : Action} : RunsBy a s s :=
  ⟨0, rfl⟩

theorem RunsBy.step {a : Action} (first : s.step a = some u) (rest : RunsBy a u t) :
    RunsBy a s t := by
  obtain ⟨n, reached⟩ := rest
  exact ⟨n + 1, run_cons_eq_some.2 ⟨u, first, reached⟩⟩

/-- `s` with the network thread inside `handle_connect_req`. -/
def inConnect (s : Server) (sender : Address) (pc : ConnectStep) : Server :=
  { s with clientMutex := some .net, net := .connect sender pc }

theorem unlockNet_inConnect {pc : ConnectStep} (idle : s.net = .idle)
    (free : s.clientMutex = none) : (s.inConnect sender pc).unlockNet = s := by
  rw [inConnect, unlockNet, ← idle, ← free]

theorem netRuns_accept (idle : s.net = .idle) (free : s.clientMutex = none) :
    RunsBy (.net o) (s.inConnect sender .mutePcSpeaker) (s.acceptClient o sender) := by
  obtain ⟨config, state, active, last, seq, capturing, actual, chunk, stats, mutex, net,
    capture, watchdog, relay, clock, endpoint, sent⟩ := s
  obtain rfl : net = .idle := idle
  obtain rfl : mutex = none := free
  obtain ⟨rate, channels, frames, autoMute, timeout⟩ := config
  cases autoMute with
  | true => exact .step rfl (.step rfl (.step rfl .refl))
  | false => exact .step rfl (.step rfl (.step rfl .refl))

theorem netRuns_startCapture (idle : s.net = .idle) (free : s.clientMutex = none) :
    RunsBy (.net o) (s.inConnect sender .startCapture)
      (match s.startCapture o with
      | none => s
      | some s => s.acceptClient o sender) := by
  cases capturing : s.capturing with
  | true =>
    have starts : s.startCapture o = some s := if_pos capturing
    rw [starts]
    apply RunsBy.step
    · exact if_pos capturing
    · exact netRuns_accept idle free
  | false =>
    cases started : o.captureStart with
    | none =>
      have fails : s.startCapture o = none := by simp [startCapture, capturing, started]
      have first :
          (s.inConnect sender .startCapture).step (.net o) =
            some (s.inConnect sender .startCapture).unlockNet := by
        simp [step, netStep, connectStep, inConnect, capturing, started]
      rw [unlockNet_inConnect idle free] at first
      rw [fails]
      exact .step first .refl
    | some actual =>
      have starts :
          s.startCapture o =
            some { s with capturing := true, actualAudioConfig := actual } := by
        simp [startCapture, capturing, started]
      have first :
          (s.inConnect sender .startCapture).step (.net o) =
            some (({ s with
              capturing := true
              actualAudioConfig := actual }).inConnect sender .mutePcSpeaker) := by
        simp [step, netStep, connectStep, inConnect, capturing, started, enterConnect]
      rw [starts]
      exact .step first (netRuns_accept idle free)

theorem netRuns_setClient (idle : s.net = .idle) (free : s.clientMutex = none) :
    RunsBy (.net o) (s.inConnect sender .setActive)
      (match (s.setClient sender).startCapture o with
      | none => s.setClient sender
      | some s => s.acceptClient o sender) :=
  .step rfl (.step rfl (.step rfl (.step rfl
    (netRuns_startCapture (s := s.setClient sender) idle free))))

theorem netRuns_connect (idle : s.net = .idle) (free : s.clientMutex = none) :
    RunsBy (.net o) { s with net := .connect sender .lock } (s.handleConnectReq o sender) := by
  have locks :
      step { s with net := .connect sender .lock } (.net o) =
        some (s.inConnect sender .checkState) := by
    simp [step, netStep, connectStep, free, enterConnect, inConnect]
  apply RunsBy.step locks
  rw [handleConnectReq]
  by_cases streaming : s.state = .streaming
  · have checks :
        (s.inConnect sender .checkState).step (.net o) =
          some (s.inConnect sender .checkActive) := by
      simp [step, netStep, connectStep, inConnect, enterConnect, streaming]
    apply RunsBy.step checks
    by_cases other : s.activeClient.isSome = true ∧ s.activeClient ≠ some sender
    · have reads :
          (s.inConnect sender .checkActive).step (.net o) =
            some (s.inConnect sender .readClock) := by
        simp [step, netStep, connectStep, inConnect, enterConnect, other]
      apply RunsBy.step reads
      apply RunsBy.step rfl
      by_cases recent :
          (s.clock - s.lastClientActivityTimeMs).toNat < s.config.clientTimeoutMs
      · have busy : s.isBusyFor sender = true :=
          isBusyFor_iff.2 ⟨streaming, other.1, other.2, recent⟩
        rw [if_pos busy]
        apply RunsBy.step
        · exact if_pos recent
        have unlocked : (s.inConnect sender .lock).unlockNet = s :=
          unlockNet_inConnect idle free
        have sent :
            ((s.inConnect sender .lock).sendTo sender .connectNak).unlockNet =
              (s.inConnect sender .lock).unlockNet.sendTo sender .connectNak := rfl
        rw [unlocked] at sent
        exact ⟨0, congrArg some sent⟩
      · have notBusy : ¬ s.isBusyFor sender = true := fun busy =>
          recent (isBusyFor_iff.1 busy).2.2.2
        rw [if_neg notBusy]
        apply RunsBy.step
        · exact if_neg recent
        exact netRuns_setClient idle free
    · have notBusy : ¬ s.isBusyFor sender = true := fun busy =>
        other ⟨(isBusyFor_iff.1 busy).2.1, (isBusyFor_iff.1 busy).2.2.1⟩
      have skips :
          (s.inConnect sender .checkActive).step (.net o) =
            some (s.inConnect sender .setActive) :=
        congrArg (fun pc => some (s.inConnect sender pc)) (if_neg other)
      rw [if_neg notBusy]
      apply RunsBy.step skips
      exact netRuns_setClient idle free
  · have notBusy : ¬ s.isBusyFor sender = true := fun busy =>
      streaming (isBusyFor_iff.1 busy).1
    have skips :
        (s.inConnect sender .checkState).step (.net o) =
          some (s.inConnect sender .setActive) :=
      congrArg (fun pc => some (s.inConnect sender pc)) (if_neg streaming)
    rw [if_neg notBusy]
    apply RunsBy.step skips
    exact netRuns_setClient idle free

theorem netRuns_disconnectClient (idle : s.net = .idle) (free : s.clientMutex = none) :
    RunsBy (.net o) { s with clientMutex := some .net, net := .disconnect .checkState }
      (s.disconnectClient true) := by
  obtain ⟨config, state, active, last, seq, capturing, actual, chunk, stats, mutex, net,
    capture, watchdog, relay, clock, endpoint, sent⟩ := s
  obtain rfl : net = .idle := idle
  obtain rfl : mutex = none := free
  obtain ⟨rate, channels, frames, autoMute, timeout⟩ := config
  cases state with
  | stopped | listening => exact .step rfl .refl
  | streaming =>
    cases active with
    | none => exact .step rfl (.step rfl .refl)
    | some client =>
      cases autoMute with
      | true => exact .step rfl (.step rfl (.step rfl (.step rfl .refl)))
      | false => exact .step rfl (.step rfl (.step rfl (.step rfl .refl)))

theorem netRuns_disconnect (idle : s.net = .idle) (free : s.clientMutex = none) :
    RunsBy (.net o) { s with net := .disconnectLock sender }
      (s.handleDisconnectReq sender) := by
  have locks :
      step { s with net := .disconnectLock sender } (.net o) =
        some { s with clientMutex := some .net, net := .disconnectCompare sender } := by
    simp [step, netStep, free]
  apply RunsBy.step locks
  rw [handleDisconnectReq]
  by_cases active : s.activeClient = some sender
  · rw [if_pos active]
    apply RunsBy.step
    · exact if_pos active
    · exact netRuns_disconnectClient idle free
  · have unlocked : (s.inConnect sender .lock).unlockNet = s :=
      unlockNet_inConnect idle free
    rw [if_neg active]
    apply RunsBy.step
    · exact if_neg active
    · exact ⟨0, congrArg some unlocked⟩

theorem netRuns_heartbeat {seqNum : UInt32} {payload : Option HeartbeatPayload}
    (idle : s.net = .idle) :
    RunsBy (.net o) { s with net := .heartbeat sender seqNum payload .checkActive }
      (s.handleHeartbeatPing sender seqNum payload) := by
  obtain ⟨config, state, client, last, seq, capturing, actual, chunk, stats, mutex, net,
    capture, watchdog, relay, clock, endpoint, sent⟩ := s
  obtain rfl : net = .idle := idle
  unfold handleHeartbeatPing
  by_cases active : client = some sender
  · rw [if_pos active]
    apply RunsBy.step
    · exact congrArg some (if_pos active)
    · cases payload <;> exact .step rfl (.step rfl (.step rfl .refl))
  · rw [if_neg active]
    apply RunsBy.step
    · exact congrArg some (if_neg active)
    · exact .refl

/-- A command reaches the endpoint control at most. -/
theorem handleRequest_control (payload : Option ControlCmdPayload) :
    ∃ calls, s.handleRequest o sender (.control payload) =
      { s with endpoint := s.endpoint ++ calls } := by
  have none : s = { s with endpoint := s.endpoint ++ [] } := by
    rw [List.append_nil]
  unfold handleRequest handleControlCmd
  dsimp only
  split
  · exact ⟨[], none⟩
  · cases payload with
    | none => exact ⟨[], none⟩
    | some cmd =>
      dsimp only
      split_ifs
      · exact ⟨_, rfl⟩
      · exact ⟨_, rfl⟩
      · exact ⟨_, rfl⟩
      · exact ⟨[], none⟩

theorem handleRequest_control_of_ne {payload : Option ControlCmdPayload}
    (other : s.activeClient ≠ some sender) :
    s.handleRequest o sender (.control payload) = s := by
  unfold handleRequest handleControlCmd
  dsimp only
  rw [if_pos other]

theorem handleControlCmd_net {payload : Option ControlCmdPayload} :
    (s.handleControlCmd sender payload).net = .idle := by
  unfold handleControlCmd
  dsimp only
  split
  · rfl
  · cases payload with
    | none => rfl
    | some cmd =>
      dsimp only
      split_ifs <;> rfl

theorem netRuns_control {payload : Option ControlCmdPayload} (idle : s.net = .idle) :
    RunsBy (.net o) { s with net := .control sender payload }
      (s.handleRequest o sender (.control payload)) := by
  have same : s.handleRequest o sender (.control payload) =
      s.handleControlCmd sender payload := by
    rw [handleRequest, idle, ← handleControlCmd_net]
  rw [same]
  exact .step rfl .refl

theorem netRuns_discovery (idle : s.net = .idle) :
    RunsBy (.net o) { s with net := .discovery sender }
      (s.handleRequest o sender .discovery) := by
  obtain ⟨config, state, client, last, seq, capturing, actual, chunk, stats, mutex, net,
    capture, watchdog, relay, clock, endpoint, sent⟩ := s
  obtain rfl : net = .idle := idle
  exact .step rfl .refl

theorem netRuns_request (idle : s.net = .idle) (free : s.clientMutex = none)
    (request : Request) :
    RunsBy (.net o) { s with net := dispatch sender request }
      (s.handleRequest o sender request) := by
  cases request with
  | discovery => exact netRuns_discovery idle
  | connect => exact netRuns_connect idle free
  | disconnect => exact netRuns_disconnect idle free
  | heartbeat seqNum payload => exact netRuns_heartbeat idle
  | control payload => exact netRuns_control idle

/-- A datagram that is handled in one step is handled by the network thread alone. -/
theorem handleDatagram_run (idle : s.net = .idle) (free : s.clientMutex = none)
    (buffer : List UInt8) :
    ∃ n, run step s (.receive sender buffer :: List.replicate n (.net o)) =
      some (s.handleDatagram o sender buffer) := by
  rw [handleDatagram]
  cases asked : requestOf buffer with
  | none =>
    have first : s.step (.receive sender buffer) = some s := by
      simp [step, idle, asked]
    exact ⟨0, run_cons_eq_some.2 ⟨s, first, rfl⟩⟩
  | some request =>
    have first :
        s.step (.receive sender buffer) =
          some { s with net := dispatch sender request } := by
      simp [step, idle, asked]
    obtain ⟨n, reached⟩ := netRuns_request (o := o) idle free request
    exact ⟨n, run_cons_eq_some.2 ⟨_, first, reached⟩⟩

theorem runsBy_watchdog (sleeping : s.watchdog = .sleeping)
    (free : s.clientMutex = none) :
    RunsBy .watchdog
      { s with clientMutex := some .watchdog, watchdog := .disconnect .checkState }
      (s.disconnectClient false) := by
  obtain ⟨config, state, active, last, seq, capturing, actual, chunk, stats, mutex, net,
    capture, watchdog, relay, clock, endpoint, sent⟩ := s
  obtain rfl : watchdog = .sleeping := sleeping
  obtain rfl : mutex = none := free
  obtain ⟨rate, channels, frames, autoMute, timeout⟩ := config
  cases state with
  | stopped | listening => exact ⟨1, rfl⟩
  | streaming =>
    cases active with
    | none => exact ⟨2, rfl⟩
    | some client => cases autoMute <;> exact ⟨4, rfl⟩

/-- A tick of the watchdog is a run of its thread alone. -/
theorem watchdogTick_run (sleeping : s.watchdog = .sleeping)
    (free : s.clientMutex = none) : RunsBy .watchdog s s.watchdogTick := by
  have wakes : s.step .watchdog = some { s with watchdog := .checkState } := by
    simp [step, watchdogStep, sleeping]
  apply RunsBy.step wakes
  rw [watchdogTick]
  by_cases streaming : s.state = .streaming
  · apply RunsBy.step
    · exact congrArg (fun pc => some { s with watchdog := pc }) (if_pos streaming)
    apply RunsBy.step rfl
    apply RunsBy.step rfl
    by_cases silent : s.timedOut s.clock s.lastClientActivityTimeMs = true
    · rw [if_pos ⟨streaming, silent⟩]
      apply RunsBy.step
      · exact congrArg (fun pc => some { s with watchdog := pc }) (if_pos silent)
      apply RunsBy.step
      · exact if_pos free
      exact runsBy_watchdog sleeping free
    · rw [if_neg fun both => silent both.2]
      apply RunsBy.step
      · exact congrArg (fun pc => some { s with watchdog := pc }) (if_neg silent)
      rw [← sleeping]
      exact .refl
  · rw [if_neg fun both => streaming both.1]
    apply RunsBy.step
    · exact congrArg (fun pc => some { s with watchdog := pc }) (if_neg streaming)
    rw [← sleeping]
    exact .refl

/-- The relay's disconnect is a run of its thread alone. -/
theorem tunnelLost_run (relaying : s.relay = .relaying) :
    ∃ n, run step s (.tunnelLost :: List.replicate n .relay) =
      some (s.disconnectClient true) := by
  obtain ⟨config, state, active, last, seq, capturing, actual, chunk, stats, mutex, net,
    capture, watchdog, relay, clock, endpoint, sent⟩ := s
  obtain rfl : relay = .relaying := relaying
  obtain ⟨rate, channels, frames, autoMute, timeout⟩ := config
  cases state with
  | stopped | listening => exact ⟨1, rfl⟩
  | streaming =>
    cases active with
    | none => exact ⟨2, rfl⟩
    | some client => cases autoMute <;> exact ⟨4, rfl⟩

end

/-! ## Runs of handlers -/

/-- What happens between two states of the server in which no handler runs. -/
inductive Event where
  /-- Time passes. -/
  | tick (nowMs : Millis)
  /-- A datagram arrives and is handled. -/
  | datagram (sender : Address) (buffer : List UInt8) (outcome : Outcome)
  /-- The capture engine delivers a block. -/
  | captured (data : List UInt8) (config : AudioConfig)
  /-- A step of the capture callback. -/
  | capture (outcome : Outcome)
  /-- The capture engine ends by itself. -/
  | captureEnds
  | watchdog
  /-- The USB tunnel breaks. -/
  | tunnelLost

def handle (s : Server) : Event → Option Server
  | .tick nowMs => s.step (.tick nowMs)
  | .datagram sender buffer outcome => some (s.handleDatagram outcome sender buffer)
  | .captured data config => s.step (.captured data config)
  | .capture outcome => s.step (.capture outcome)
  | .captureEnds => s.step .captureEnds
  | .watchdog => some s.watchdogTick
  | .tunnelLost => some (s.disconnectClient true)

end Server

end AudioRouter
