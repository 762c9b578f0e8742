import AudioRouter.Server.Handlers

/-!
# The session between handlers

A client is active exactly while the server streams, and only the client of the
session moves it.  Every handler keeps this, except for a `CONNECT_REQ` whose
capture engine does not start: it returns in the middle of its updates.
-/

namespace AudioRouter

namespace Server

open Protocol Transition

/-- A client is active exactly while the server streams. -/
def SessionLaw (s : Server) : Prop :=
  s.activeClient.isSome = true ↔ s.state = .streaming

/-- A `HEARTBEAT_PING` or a `CONTROL_CMD`. -/
def Request.isForClient : Request → Bool
  | .heartbeat _ _ | .control _ => true
  | _ => false

section

variable {s t : Server} {o : Outcome} {sender : Address}

theorem disconnectClient_of_session {client : Address}
    (streaming : s.state = .streaming) (active : s.activeClient = some client)
    (sendAck : Bool) :
    (s.disconnectClient sendAck).activeClient = none ∧
      (s.disconnectClient sendAck).state = .listening := by
  unfold disconnectClient
  rw [if_pos streaming]
  simp only [active, and_self]

theorem disconnectClient_law (law : SessionLaw s) (sendAck : Bool) :
    SessionLaw (s.disconnectClient sendAck) := by
  by_cases streaming : s.state = .streaming
  · obtain ⟨client, active⟩ := Option.isSome_iff_exists.1 (law.2 streaming)
    obtain ⟨noClient, listening⟩ :=
      disconnectClient_of_session streaming active sendAck
    rw [SessionLaw, noClient, listening]
    simp
  · rw [disconnectClient, if_neg streaming]
    exact law

theorem acceptClient_law (active : s.activeClient.isSome = true) :
    SessionLaw (s.acceptClient o sender) := by
  unfold acceptClient SessionLaw sendTo
  split <;> simp [active]

/-! ## The failing `CONNECT_REQ` -/

/-- The request is answered by a `CONNECT_NAK`, or the capture engine does not
start. -/
def connectFails (s : Server) (o : Outcome) (sender : Address) : Bool :=
  s.isBusyFor sender || (s.startCapture o).isNone

/-- A `CONNECT_REQ` that fails leaves the session, the counter and the activity
time as they were. -/
def FailedConnectKeeps (s : Server) : Event → Prop
  | .datagram sender buffer o =>
      requestOf buffer = some .connect → s.connectFails o sender = true →
        let t := s.handleDatagram o sender buffer
        t.activeClient = s.activeClient ∧ t.state = s.state ∧
          t.sequenceNumber = s.sequenceNumber ∧
            t.lastClientActivityTimeMs = s.lastClientActivityTimeMs
  | _ => True

/-- The capture engine starts for every `CONNECT_REQ` that needs it and is not
rejected before, unless the request comes from the active client, with the counter
at 0 and at the very time of its last contact. -/
def CaptureStarts (s : Server) : Event → Prop
  | .datagram sender buffer o =>
      requestOf buffer = some .connect → s.isBusyFor sender = false →
        s.capturing = false → o.captureStart = none →
          s.activeClient = some sender ∧ s.sequenceNumber = 0 ∧
            s.clock = s.lastClientActivityTimeMs
  | _ => True

theorem failedConnectKeeps_iff (event : Event) :
    s.FailedConnectKeeps event ↔ s.CaptureStarts event := by
  cases event with
  | datagram sender buffer o =>
    rw [FailedConnectKeeps, CaptureStarts]
    apply forall_congr'
    intro asked
    have handled : s.handleDatagram o sender buffer = s.handleConnectReq o sender := by
      simp only [handleDatagram, asked, handleRequest]
    rw [handled]
    cases busy : s.isBusyFor sender with
    | true =>
      rw [handleConnectReq_of_busy busy]
      simp [sendTo]
    | false =>
      cases started : s.startCapture o with
      | some t =>
        have starts : ¬ (s.capturing = false ∧ o.captureStart = none) := by
          rw [← startCapture_eq_none_iff, started]
          simp
        simp only [connectFails, busy, started, Option.isNone_some, Bool.or_self]
        constructor
        · intro _ _ stopped failed
          exact absurd ⟨stopped, failed⟩ starts
        · intro _ never
          cases never
      | none =>
        obtain ⟨stopped, failed⟩ := startCapture_eq_none_iff.1 started
        have fails : (s.setClient sender).startCapture o = none :=
          startCapture_setClient_eq_none_iff.2 started
        rw [handleConnectReq_of_failure busy fails]
        simp only [connectFails, busy, started, Option.isNone_none, Bool.or_true,
          stopped, failed, setClient, true_and, forall_const, eq_comm]
  | _ => exact Iff.rfl

/-! ## Every handler -/

theorem handleConnectReq_law (law : SessionLaw s)
    (keeps : s.isBusyFor sender = false → s.startCapture o = none →
      s.activeClient = some sender) :
    SessionLaw (s.handleConnectReq o sender) := by
  cases busy : s.isBusyFor sender with
  | true =>
    rw [handleConnectReq_of_busy busy]
    exact law
  | false =>
    cases started : (s.setClient sender).startCapture o with
    | none =>
      have fails : s.startCapture o = none :=
        startCapture_setClient_eq_none_iff.1 started
      have active := keeps busy fails
      have streaming : s.state = .streaming := law.1 (by simp [active])
      rw [handleConnectReq_of_failure busy started]
      simp [SessionLaw, setClient, streaming]
    | some t =>
      obtain ⟨_, _, rfl⟩ := startCapture_eq started
      rw [handleConnectReq_of_start busy started]
      exact acceptClient_law rfl

theorem handleRequest_law (law : SessionLaw s) (request : Request)
    (keeps : request = .connect → s.isBusyFor sender = false → s.startCapture o = none →
      s.activeClient = some sender) :
    SessionLaw (s.handleRequest o sender request) := by
  cases request with
  | discovery => exact law
  | connect => exact handleConnectReq_law law (keeps rfl)
  | disconnect =>
    simp only [handleRequest, handleDisconnectReq]
    split
    · exact disconnectClient_law law true
    · exact law
  | heartbeat seqNum payload =>
    simp only [handleRequest, handleHeartbeatPing]
    split
    · exact law
    · exact law
  | control payload =>
    obtain ⟨calls, handled⟩ := handleRequest_control (o := o) (s := s) payload
    rw [handled]
    exact law

theorem captureStep_law (law : SessionLaw s) (stepped : s.captureStep o = some t) :
    SessionLaw t := by
  obtain ⟨_, _, _, _, _, rfl⟩ := captureStep_eq stepped
  exact law

/-- What one event preserves. -/
theorem handle_law {event : Event} (law : SessionLaw s) (starts : s.CaptureStarts event)
    (handled : s.handle event = some t) : SessionLaw t := by
  cases event with
  | tick nowMs =>
    simp only [handle, step] at handled
    split at handled
    · obtain rfl := Option.some.inj handled
      exact law
    · cases handled
  | datagram sender buffer outcome =>
    obtain rfl := Option.some.inj handled
    unfold handleDatagram
    cases asked : requestOf buffer with
    | none => exact law
    | some request =>
      apply handleRequest_law law
      rintro rfl free fails
      obtain ⟨stopped, failed⟩ := startCapture_eq_none_iff.1 fails
      exact (starts asked free stopped failed).1
  | captured data config =>
    simp only [handle, step] at handled
    split at handled
    · obtain rfl := Option.some.inj handled
      exact law
    · cases handled
  | capture outcome => exact captureStep_law law handled
  | captureEnds =>
    obtain rfl := Option.some.inj handled
    exact law
  | watchdog =>
    obtain rfl := Option.some.inj handled
    unfold watchdogTick
    split
    · exact disconnectClient_law law false
    · exact law
  | tunnelLost =>
    obtain rfl := Option.some.inj handled
    exact disconnectClient_law law true

/-- Only the client of the session moves the server by a ping or a command. -/
theorem SessionLaw.takesEffect (law : SessionLaw s) {request : Request}
    (forClient : request.isForClient = true)
    (moved : s.handleRequest o sender request ≠ s) :
    s.state = .streaming ∧ s.activeClient = some sender := by
  have active : s.activeClient = some sender := by
    by_contra other
    apply moved
    cases request with
    | discovery | connect | disconnect => cases forClient
    | heartbeat seqNum payload => exact if_neg other
    | control payload => exact handleRequest_control_of_ne other
  exact ⟨law.1 (by simp [active]), active⟩

end

/-- The phone asks for a connection and the capture engine does not start. -/
def refusedByCapture : List Event :=
  [.datagram phone (emptyRequest .connectReq) { captureStart := none }]

def refusedServer : Server :=
  (run handle (start {}) refusedByCapture).getD {}

end Server

end AudioRouter
