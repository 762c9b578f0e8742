import AudioRouter.Server.SilentClient

/-!
# Stopping the server

`AudioRouterServer::stop()` as one more thread over the server.  Each loop tests
`is_running_` before its body, and the network thread once more after a receive that
brought nothing; the capture engine has its own flag and thread, which a `CONNECT_REQ` in
flight may start again.  `stop()` takes no lock.
-/

namespace AudioRouter

namespace Server

/-- Where `stop()` stands. -/
inductive StopStep where
  | notCalled
  | disconnect (pc : DisconnectStep)
  | stopCapture
  | joinCapture
  | closeSocket
  | joinNet
  | joinWatchdog
  | joinRelay
  | unmutePcSpeaker
  | shutdownEndpoint
  | setStopped
  | returned
  deriving DecidableEq, Repr

/-- The order of these places. -/
def StopStep.phase : StopStep → Nat
  | .notCalled => 0
  | .disconnect _ => 1
  | .stopCapture => 2
  | .joinCapture => 3
  | .closeSocket => 4
  | .joinNet => 5
  | .joinWatchdog => 6
  | .joinRelay => 7
  | .unmutePcSpeaker => 8
  | .shutdownEndpoint => 9
  | .setStopped => 10
  | .returned => 11

/-- The loop of a thread, where the thread is not in the body. -/
inductive Loop where
  /-- About to test the flag, or in the body. -/
  | checking
  /-- In the call that the body begins with. -/
  | waiting
  | ended
  deriving DecidableEq, Repr

/-- The test of the flag. -/
def Loop.check (running : Bool) : Loop :=
  if running then .waiting else .ended

end Server

open Server

/-- The server with the loops of its threads, and `stop()`. -/
structure Lifecycle where
  server : Server
  isRunning : Bool := true
  netLoop : Loop := .checking
  watchdogLoop : Loop := .checking
  relayLoop : Loop := .ended
  /-- The relay listens, and has its socket. -/
  relayReady : Bool := false
  captureLoop : Loop := .ended
  /-- `joinable()` of the capture engine's thread. -/
  captureJoinable : Bool := false
  socketOpen : Bool := true
  endpointOpen : Bool := true
  stop : StopStep := .notCalled
  /-- `std::terminate`: a thread object was assigned while it was joinable. -/
  terminated : Bool := false

namespace Lifecycle

/-- What `start()` leaves behind. -/
def start (config : ServerConfig) (usbMode : Bool) : Lifecycle :=
  { server := Server.start config
    relayLoop := if usbMode then .checking else .ended }

inductive Action where
  /-- A step in the body of a loop, or of the environment. -/
  | body (action : Server.Action)
  | netCheck
  /-- `receive_from` returned nothing. -/
  | receiveFails
  | watchdogCheck
  /-- `listen`, `open` and `bind` of the relay. -/
  | relayStarts (ok : Bool)
  | relayCheck
  /-- No connection was accepted, or the relaying ended without a loss. -/
  | relayWaits
  | captureCheck
  /-- The capture engine had no block. -/
  | captureWaits
  | stop

/-- Whether a step of the network thread starts the capture engine. -/
def startsCapture (s : Lifecycle) (o : Outcome) : Bool :=
  match s.server.net with
  | .connect _ .startCapture => !s.server.capturing && o.captureStart.isSome
  | _ => false

/-- A step of a handler. -/
def netStep (s : Lifecycle) (o : Outcome) : Option Lifecycle :=
  if s.startsCapture o then
    if s.captureJoinable then some { s with terminated := true }
    else
      (s.server.netStep o).map fun server =>
        { s with
          server := server
          captureLoop := .checking
          captureJoinable := true }
  else (s.server.netStep o).map fun server => { s with server := server }

def bodyStep (s : Lifecycle) : Server.Action → Option Lifecycle
  | .tick nowMs =>
      (s.server.step (.tick nowMs)).map fun server => { s with server := server }
  | .receive sender buffer =>
      if s.netLoop = .waiting ∧ s.socketOpen then
        (s.server.step (.receive sender buffer)).map fun server =>
          { s with server := server, netLoop := .checking }
      else none
  | .net o => s.netStep o
  | .captured data config =>
      if s.captureLoop = .waiting then
        (s.server.step (.captured data config)).map fun server =>
          { s with server := server, captureLoop := .checking }
      else none
  | .capture o => (s.server.captureStep o).map fun server => { s with server := server }
  -- neither engine ends by itself
  | .captureEnds => none
  | .watchdog =>
      if s.server.watchdog = .sleeping then
        if s.watchdogLoop = .waiting then
          s.server.watchdogStep.map fun server =>
            { s with server := server, watchdogLoop := .checking }
        else none
      else s.server.watchdogStep.map fun server => { s with server := server }
  | .tunnelLost =>
      if s.relayLoop = .waiting ∧ s.isRunning then
        (s.server.step .tunnelLost).map fun server =>
          { s with server := server, relayLoop := .checking }
      else none
  | .relay => s.server.relayStep.map fun server => { s with server := server }

/-- One step of `stop()`. -/
def stopStep (s : Lifecycle) : Option Lifecycle :=
  match s.stop with
  | .notCalled => some { s with isRunning := false, stop := .disconnect .checkState }
  | .disconnect pc =>
      match s.server.disconnectStep true pc with
      | (server, some pc) => some { s with server := server, stop := .disconnect pc }
      | (server, none) => some { s with server := server, stop := .stopCapture }
  | .stopCapture =>
      if s.server.capturing then
        some { s with server := { s.server with capturing := false }, stop := .joinCapture }
      else some { s with stop := .closeSocket }
  | .joinCapture =>
      if s.captureLoop = .ended then
        some { s with captureJoinable := false, stop := .closeSocket }
      else none
  | .closeSocket => some { s with socketOpen := false, stop := .joinNet }
  | .joinNet => if s.netLoop = .ended then some { s with stop := .joinWatchdog } else none
  | .joinWatchdog =>
      if s.watchdogLoop = .ended then some { s with stop := .joinRelay } else none
  | .joinRelay =>
      if s.relayLoop = .ended then some { s with stop := .unmutePcSpeaker } else none
  | .unmutePcSpeaker =>
      if s.server.config.autoMutePcSpeaker then
        some { s with
          server :=
            { s.server with endpoint := s.server.endpoint ++ [EndpointCall.unmutePcSpeaker] }
          stop := .shutdownEndpoint }
      else some { s with stop := .setStopped }
  | .shutdownEndpoint => some { s with endpointOpen := false, stop := .setStopped }
  | .setStopped =>
      some { s with server := { s.server with state := .stopped }, stop := .returned }
  | .returned => none

/-- One step of a thread, as long as the process lives. -/
def step (s : Lifecycle) (action : Action) : Option Lifecycle :=
  if s.terminated then none
  else
    match action with
    | .body action => s.bodyStep action
    | .netCheck =>
        if s.netLoop = .checking ∧ s.server.net = .idle then
          some { s with netLoop := .check s.isRunning }
        else none
    | .receiveFails =>
        if s.netLoop = .waiting then
          some { s with netLoop := if s.isRunning then .checking else .ended }
        else none
    | .watchdogCheck =>
        if s.watchdogLoop = .checking ∧ s.server.watchdog = .sleeping then
          some { s with watchdogLoop := .check s.isRunning }
        else none
    | .relayStarts ok =>
        if s.relayLoop = .checking ∧ s.relayReady = false ∧ s.server.relay = .relaying then
          some { s with relayLoop := if ok then .checking else .ended, relayReady := ok }
        else none
    | .relayCheck =>
        if s.relayLoop = .checking ∧ s.relayReady = true ∧ s.server.relay = .relaying then
          some { s with relayLoop := .check s.isRunning }
        else none
    | .relayWaits =>
        if s.relayLoop = .waiting then some { s with relayLoop := .checking } else none
    | .captureCheck =>
        if s.captureLoop = .checking ∧ s.server.capture = .idle then
          some { s with captureLoop := .check s.server.capturing }
        else none
    | .captureWaits =>
        if s.captureLoop = .waiting then some { s with captureLoop := .checking } else none
    | .stop => s.stopStep

/-- The order of the accesses in a run. -/
def Reachable (config : ServerConfig) (usbMode : Bool) (s : Lifecycle) : Prop :=
  ∃ actions, Transition.run step (start config usbMode) actions = some s

end Lifecycle

/-! ## What a step of a thread leaves to the others -/

namespace Server

/-- A step outside of the capture callback: it mutes where the configuration says so. -/
structure Serves (s t : Server) : Prop where
  config : t.config = s.config
  capture : t.capture = s.capture
  calls :
    ∃ calls, t.endpoint = s.endpoint ++ calls ∧
      (s.config.autoMutePcSpeaker = false → EndpointCall.mutePcSpeaker ∉ calls)

section

variable {s t : Server} {o : Outcome}

theorem Serves.quiet (config : t.config = s.config) (capture : t.capture = s.capture)
    (endpoint : t.endpoint = s.endpoint) : Serves s t :=
  ⟨config, capture, [], by rw [endpoint, List.append_nil], fun _ => List.not_mem_nil⟩

theorem Serves.ofUnmute (config : t.config = s.config) (capture : t.capture = s.capture)
    (endpoint : t.endpoint = s.endpoint ++ [EndpointCall.unmutePcSpeaker]) : Serves s t :=
  ⟨config, capture, _, endpoint, fun _ => by decide⟩

theorem disconnectStep_serves (s : Server) (sendAck : Bool) (pc : DisconnectStep) :
    Serves s (s.disconnectStep sendAck pc).1 := by
  cases pc with
  | clearActive | setListening => exact .quiet rfl rfl rfl
  | checkState =>
    rw [disconnectStep]
    split <;> exact .quiet rfl rfl rfl
  | checkActive =>
    rw [disconnectStep]
    cases s.activeClient with
    | none => exact .quiet rfl rfl rfl
    | some client =>
      dsimp only
      split <;> split
      · exact .ofUnmute rfl rfl rfl
      · exact .quiet rfl rfl rfl
      · exact .ofUnmute rfl rfl rfl
      · exact .quiet rfl rfl rfl

/-- A thread puts its place on top of a step of `disconnect_client`. -/
theorem Serves.after {u : Server} (serves : Serves s u) (config : t.config = u.config)
    (capture : t.capture = u.capture) (endpoint : t.endpoint = u.endpoint) : Serves s t :=
  ⟨config.trans serves.config, capture.trans serves.capture, by
    rw [endpoint]
    exact serves.calls⟩

theorem disconnectStep_serves_of {u : Server} {next : Option DisconnectStep} {sendAck : Bool}
    {pc : DisconnectStep} (stepped : s.disconnectStep sendAck pc = (u, next)) :
    Serves s u := by
  have serves := s.disconnectStep_serves sendAck pc
  rwa [stepped] at serves

theorem connectStep_serves {sender : Address} {pc : ConnectStep}
    (stepped : s.connectStep o sender pc = some t) : Serves s t ∧ t.relay = s.relay := by
  cases pc with
  | lock | compareActivity =>
    rw [connectStep] at stepped
    split at stepped <;> cases stepped <;> exact ⟨.quiet rfl rfl rfl, rfl⟩
  | startCapture =>
    rw [connectStep] at stepped
    split at stepped
    · cases stepped
      exact ⟨.quiet rfl rfl rfl, rfl⟩
    · cases started : o.captureStart with
      | none | some actual =>
        rw [started] at stepped
        cases stepped
        exact ⟨.quiet rfl rfl rfl, rfl⟩
  | mutePcSpeaker =>
    rw [connectStep] at stepped
    split at stepped <;> cases stepped
    · next auto => exact ⟨⟨rfl, rfl, _, rfl, fun off => by simp [off] at auto⟩, rfl⟩
    · exact ⟨.quiet rfl rfl rfl, rfl⟩
  | checkState | checkActive | readClock | setActive | readActivityClock | setActivity
  | resetSequence | setStreaming | sendAck =>
    cases stepped
    exact ⟨.quiet rfl rfl rfl, rfl⟩

theorem heartbeatStep_serves (s : Server) (sender : Address) (seqNum : UInt32)
    (payload : Option HeartbeatPayload) (pc : HeartbeatStep) :
    Serves s (s.heartbeatStep sender seqNum payload pc) ∧
      (s.heartbeatStep sender seqNum payload pc).relay = s.relay := by
  cases pc with
  | checkActive =>
    rw [heartbeatStep]
    split <;> exact ⟨.quiet rfl rfl rfl, rfl⟩
  | readClock | setActivity | reply => exact ⟨.quiet rfl rfl rfl, rfl⟩

theorem handleControlCmd_serves (s : Server) (sender : Address)
    (payload : Option ControlCmdPayload) :
    Serves s (s.handleControlCmd sender payload) ∧
      (s.handleControlCmd sender payload).relay = s.relay := by
  have sets (call : EndpointCall) (other : call ≠ .mutePcSpeaker) :
      Serves s { s with net := .idle, endpoint := s.endpoint ++ [call] } := by
    refine ⟨rfl, rfl, _, rfl, fun _ => ?_⟩
    rw [List.mem_singleton]
    exact other.symm
  unfold handleControlCmd
  dsimp only
  split
  · exact ⟨.quiet rfl rfl rfl, rfl⟩
  · cases payload with
    | none => exact ⟨.quiet rfl rfl rfl, rfl⟩
    | some cmd =>
      dsimp only
      split_ifs
      · exact ⟨sets _ nofun, rfl⟩
      · exact ⟨sets _ nofun, rfl⟩
      · exact ⟨sets _ nofun, rfl⟩
      · exact ⟨.quiet rfl rfl rfl, rfl⟩

theorem netStep_serves (stepped : s.netStep o = some t) :
    Serves s t ∧ t.relay = s.relay := by
  unfold netStep at stepped
  cases thread : s.net with
  | idle =>
    rw [thread] at stepped
    cases stepped
  | discovery sender =>
    rw [thread] at stepped
    cases stepped
    exact ⟨.quiet rfl rfl rfl, rfl⟩
  | connect sender pc =>
    rw [thread] at stepped
    exact connectStep_serves stepped
  | disconnectLock sender | disconnectCompare sender =>
    rw [thread] at stepped
    dsimp only at stepped
    split at stepped <;> cases stepped <;> exact ⟨.quiet rfl rfl rfl, rfl⟩
  | disconnect pc =>
    rw [thread] at stepped
    dsimp only at stepped
    split at stepped <;> cases stepped
    · next ended =>
      exact
        ⟨(disconnectStep_serves_of ended).after rfl rfl rfl, (disconnectStep_threads ended).2.2⟩
    · next ended =>
      exact
        ⟨(disconnectStep_serves_of ended).after rfl rfl rfl, (disconnectStep_threads ended).2.2⟩
  | heartbeat sender seqNum payload pc =>
    rw [thread] at stepped
    cases stepped
    exact s.heartbeatStep_serves sender seqNum payload pc
  | control sender payload =>
    rw [thread] at stepped
    cases stepped
    exact s.handleControlCmd_serves sender payload

theorem watchdogStep_serves (stepped : s.watchdogStep = some t) :
    Serves s t ∧ t.net = s.net ∧ t.relay = s.relay := by
  unfold watchdogStep at stepped
  cases thread : s.watchdog with
  | sleeping | checkState | readClock | loadActivity | compare =>
    rw [thread] at stepped
    cases stepped
    exact ⟨.quiet rfl rfl rfl, rfl, rfl⟩
  | lock =>
    rw [thread] at stepped
    dsimp only at stepped
    split at stepped <;> cases stepped
    exact ⟨.quiet rfl rfl rfl, rfl, rfl⟩
  | disconnect pc =>
    rw [thread] at stepped
    dsimp only at stepped
    split at stepped <;> cases stepped
    · next ended =>
      rcases disconnectStep_threads ended with ⟨net, _, relay⟩
      exact ⟨(disconnectStep_serves_of ended).after rfl rfl rfl, net, relay⟩
    · next ended =>
      rcases disconnectStep_threads ended with ⟨net, _, relay⟩
      exact ⟨(disconnectStep_serves_of ended).after rfl rfl rfl, net, relay⟩

theorem relayStep_serves (stepped : s.relayStep = some t) :
    Serves s t ∧ t.net = s.net ∧ t.watchdog = s.watchdog := by
  unfold relayStep at stepped
  cases thread : s.relay with
  | relaying =>
    rw [thread] at stepped
    cases stepped
  | disconnect pc =>
    rw [thread] at stepped
    dsimp only at stepped
    split at stepped <;> cases stepped
    · next ended =>
      rcases disconnectStep_threads ended with ⟨net, watchdog, _⟩
      exact ⟨(disconnectStep_serves_of ended).after rfl rfl rfl, net, watchdog⟩
    · next ended =>
      rcases disconnectStep_threads ended with ⟨net, watchdog, _⟩
      exact ⟨(disconnectStep_serves_of ended).after rfl rfl rfl, net, watchdog⟩

/-! ## The mutex -/

theorem Locked.same (locked : Locked s) (mutex : t.clientMutex = s.clientMutex)
    (net : t.net = s.net) (watchdog : t.watchdog = s.watchdog) : Locked t :=
  ⟨by rw [mutex, net]; exact locked.net, by rw [mutex, watchdog]; exact locked.watchdog⟩

/-- A step that leaves the network thread and the mutex alone. -/
theorem Locked.move (locked : Locked s) {w : WatchdogThread}
    (part : w.locked = s.watchdog.locked) : Locked { s with watchdog := w } :=
  ⟨locked.net, by rw [part]; exact locked.watchdog⟩

theorem disconnectStep_mutex {u : Server} {next : Option DisconnectStep} {sendAck : Bool}
    {pc : DisconnectStep} (stepped : s.disconnectStep sendAck pc = (u, next)) :
    u.clientMutex = s.clientMutex := by
  rcases s.disconnectStep_eq sendAck pc with ⟨_, _, _, _, equal, _⟩
  rw [stepped] at equal
  subst equal
  rfl

theorem watchdogStep_locked (locked : Locked s) (stepped : s.watchdogStep = some t) :
    Locked t := by
  unfold watchdogStep at stepped
  cases thread : s.watchdog with
  | sleeping | readClock | loadActivity =>
    rw [thread] at stepped
    cases stepped
    exact locked.move (by rw [thread]; rfl)
  | checkState | compare =>
    rw [thread] at stepped
    cases stepped
    split <;> exact locked.move (by rw [thread]; rfl)
  | lock =>
    rw [thread] at stepped
    dsimp only at stepped
    split at stepped <;> cases stepped
    next free =>
      have outside := Observed.not_netLocked locked (by simp [free])
      exact ⟨by simp [outside], by simp [WatchdogThread.locked]⟩
  | disconnect pc =>
    have holds : s.clientMutex = some .watchdog :=
      locked.watchdog.2 (by rw [thread]; rfl)
    have outside := Observed.not_netLocked locked (by simp [holds])
    rw [thread] at stepped
    dsimp only at stepped
    split at stepped <;> cases stepped
    · next ended =>
      have net := (disconnectStep_threads ended).1
      have mutex := disconnectStep_mutex ended
      exact ⟨by simp [net, mutex, holds, outside], by simp [mutex, holds, WatchdogThread.locked]⟩
    · next ended =>
      have net := (disconnectStep_threads ended).1
      exact ⟨by simp [net, outside], by simp [WatchdogThread.locked]⟩

end

end Server

end AudioRouter
