import AudioRouter.Server.Handlers

/-!
# Datagrams of other addresses

A session is compared with the same session without the datagrams that other
addresses send.  As long as each of them finds the client in contact, it is answered
to its sender and changes nothing else, so that the two runs agree on all that the
client of the session can see.
-/

namespace AudioRouter

namespace Server

open Protocol Transition

/-! ## The last contact of a client -/

/-- A `CONNECT_REQ` or a `HEARTBEAT_PING`. -/
def Request.isContact : Request → Bool
  | .connect | .heartbeat _ _ => true
  | _ => false

def Event.isContactOf (client : Address) : Event → Bool
  | .datagram sender buffer _ =>
      decide (sender = client) && (requestOf buffer).any Request.isContact
  | _ => false

/-- A datagram from another address. -/
def Event.isOutsideOf (client : Address) : Event → Bool
  | .datagram sender _ _ => decide (sender ≠ client)
  | _ => false

/-- The server, and the time of the last `CONNECT_REQ` or `HEARTBEAT_PING` of one
client. -/
structure Contacted where
  server : Server
  contact : Option Millis := none

def Contacted.step (client : Address) (c : Contacted) (event : Event) :
    Option Contacted :=
  (c.server.handle event).map fun server =>
    { server := server
      contact := if event.isContactOf client then some c.server.clock else c.contact }

/-- The last contact is younger than the timeout. -/
def Contacted.inContact (c : Contacted) : Bool :=
  c.contact.any fun contactMs =>
    decide (c.server.clock.toNat - contactMs.toNat < c.server.config.clientTimeoutMs)

/-- The server streams to a client. -/
def StreamsTo (s : Server) (client : Address) : Prop :=
  s.state = .streaming ∧ s.activeClient = some client

/-- The client is in its session, and a datagram of another address finds it in
contact. -/
def Undisturbed (client : Address) (c : Contacted) (event : Event) : Prop :=
  c.server.StreamsTo client ∧ (event.isOutsideOf client = true → c.inContact = true)

instance (client : Address) (c : Contacted) (event : Event) :
    Decidable (Undisturbed client c event) :=
  inferInstanceAs
    (Decidable ((c.server.state = .streaming ∧ c.server.activeClient = some client) ∧
      (event.isOutsideOf client = true → c.inContact = true)))

/-! ## What a handler sends -/

/-- A handler adds messages to what was sent, and does not look at it. -/
def Appends (f : Server → Option Server) : Prop :=
  ∀ s t, f s = some t →
    ∃ new, ∀ sent, f { s with sent := sent } = some { t with sent := sent ++ new }

section

variable {s t : Server} {o : Outcome} {sender client : Address}

theorem Appends.of_total {f : Server → Server}
    (appends : ∀ s, ∃ new, ∀ sent,
      f { s with sent := sent } = { f s with sent := sent ++ new }) :
    Appends fun s => some (f s) := by
  intro s t done
  obtain rfl := Option.some.inj done
  obtain ⟨new, same⟩ := appends s
  exact ⟨new, fun sent => congrArg some (same sent)⟩

theorem disconnectClient_appends (s : Server) (sendAck : Bool) :
    ∃ new, ∀ sent, disconnectClient { s with sent := sent } sendAck =
      { s.disconnectClient sendAck with sent := sent ++ new } := by
  by_cases session : s.state = .streaming ∧ s.activeClient.isSome = true
  · obtain ⟨client, active⟩ := Option.isSome_iff_exists.1 session.2
    refine ⟨if sendAck then [(client, .disconnectAck)] else [], fun sent => ?_⟩
    rw [disconnectClient_of_active session.1 active,
      disconnectClient_of_active (s := { s with sent := sent }) session.1 active]
  · refine ⟨[], fun sent => ?_⟩
    rw [disconnectClient_of_idle session,
      disconnectClient_of_idle (s := { s with sent := sent }) session, List.append_nil]

theorem startCapture_withSent (sent : List (Address × Message)) :
    startCapture { s with sent := sent } o =
      (s.startCapture o).map fun t => { t with sent := sent } := by
  unfold startCapture
  by_cases capturing : s.capturing = true
  · simp [capturing]
  · simp only [if_neg capturing]
    cases o.captureStart <;> rfl

theorem handleConnectReq_appends (s : Server) (o : Outcome) (sender : Address) :
    ∃ new, ∀ sent, handleConnectReq { s with sent := sent } o sender =
      { s.handleConnectReq o sender with sent := sent ++ new } := by
  cases busy : s.isBusyFor sender with
  | true =>
    refine ⟨[(sender, .connectNak)], fun sent => ?_⟩
    rw [handleConnectReq_of_busy busy,
      handleConnectReq_of_busy (s := { s with sent := sent }) busy]
    rfl
  | false =>
    have starts (sent) := startCapture_withSent (s := s.setClient sender) (o := o) sent
    cases started : (s.setClient sender).startCapture o with
    | none =>
      refine ⟨[], fun sent => ?_⟩
      have fails := starts sent
      rw [started] at fails
      rw [handleConnectReq_of_failure busy started,
        handleConnectReq_of_failure (s := { s with sent := sent }) busy fails,
        List.append_nil]
      rfl
    | some t =>
      refine
        ⟨[(sender,
          .connectAck t.actualAudioConfig (t.config.autoMutePcSpeaker && o.mutedOk))],
          fun sent => ?_⟩
      have startsToo := starts sent
      rw [started] at startsToo
      rw [handleConnectReq_of_start busy started,
        handleConnectReq_of_start (s := { s with sent := sent }) busy startsToo,
        acceptClient_eq, acceptClient_eq]

theorem handleHeartbeatPing_appends (s : Server) (sender : Address) (seqNum : UInt32)
    (payload : Option HeartbeatPayload) :
    ∃ new, ∀ sent, handleHeartbeatPing { s with sent := sent } sender seqNum payload =
      { s.handleHeartbeatPing sender seqNum payload with sent := sent ++ new } := by
  unfold handleHeartbeatPing
  by_cases active : s.activeClient = some sender
  · simp only [if_pos active]
    exact ⟨_, fun sent => rfl⟩
  · refine ⟨[], fun sent => ?_⟩
    simp only [if_neg active, List.append_nil]

theorem handleControlCmd_withSent (payload : Option ControlCmdPayload)
    (sent : List (Address × Message)) :
    handleControlCmd { s with sent := sent } sender payload =
      { s.handleControlCmd sender payload with sent := sent } := by
  unfold handleControlCmd
  dsimp only
  split_ifs
  · rfl
  · cases payload with
    | none => rfl
    | some cmd =>
      dsimp only
      split_ifs <;> rfl

theorem handleRequest_appends (s : Server) (o : Outcome) (sender : Address)
    (request : Request) :
    ∃ new, ∀ sent, handleRequest { s with sent := sent } o sender request =
      { s.handleRequest o sender request with sent := sent ++ new } := by
  cases request with
  | discovery =>
    exact
      ⟨[(sender, .discoveryResp (decide (s.state = .streaming)) o.pcMuted)],
        fun sent => rfl⟩
  | connect => exact handleConnectReq_appends s o sender
  | disconnect =>
    simp only [handleRequest, handleDisconnectReq]
    by_cases active : s.activeClient = some sender
    · simp only [if_pos active]
      exact disconnectClient_appends s true
    · refine ⟨[], fun sent => ?_⟩
      simp only [if_neg active, List.append_nil]
  | heartbeat seqNum payload => exact handleHeartbeatPing_appends s sender seqNum payload
  | control payload =>
    refine ⟨[], fun sent => ?_⟩
    simp only [handleRequest, handleControlCmd_withSent, List.append_nil]

theorem captureStep_appends (o : Outcome) : Appends fun s => s.captureStep o := by
  intro s t stepped
  dsimp only at stepped
  unfold captureStep at stepped ⊢
  dsimp only
  cases thread : s.capture with
  | idle =>
    rw [thread] at stepped
    cases stepped
  | checkState data config | checkActive data config | append data config =>
    rw [thread] at stepped
    obtain rfl := Option.some.inj stepped
    refine ⟨[], fun sent => ?_⟩
    rw [List.append_nil]
  | stamp config =>
    rw [thread] at stepped
    refine ⟨[], fun sent => ?_⟩
    rw [List.append_nil]
    dsimp only at stepped ⊢
    split at stepped
    · next full =>
      obtain rfl := Option.some.inj stepped
      exact if_pos full
    · next short =>
      obtain rfl := Option.some.inj stepped
      exact if_neg short
  | send config seqNum =>
    rw [thread] at stepped
    obtain rfl := Option.some.inj stepped
    unfold sendChunk
    dsimp only
    cases s.activeClient with
    | none =>
      refine ⟨[], fun sent => ?_⟩
      rw [List.append_nil]
      rfl
    | some client =>
      cases o.sendOk with
      | true =>
        exact
          ⟨[(client, .audioData (s.audioHeader config seqNum o.timestampUs)
            (s.chunkBuffer.take (s.targetChunkBytes config)))], fun sent => rfl⟩
      | false =>
        refine ⟨[], fun sent => ?_⟩
        rw [List.append_nil]
        rfl

theorem handle_appends (event : Event) : Appends fun s => s.handle event := by
  cases event with
  | tick nowMs =>
    intro s t handled
    simp only [handle, step] at handled ⊢
    split at handled
    · next later =>
      obtain rfl := Option.some.inj handled
      refine ⟨[], fun sent => ?_⟩
      rw [List.append_nil]
      exact if_pos later
    · cases handled
  | datagram sender buffer outcome =>
    apply Appends.of_total
    intro s
    unfold handleDatagram
    cases requestOf buffer with
    | none =>
      refine ⟨[], fun sent => ?_⟩
      rw [List.append_nil]
    | some request => exact handleRequest_appends s outcome sender request
  | captured data config =>
    intro s t handled
    simp only [handle, step] at handled ⊢
    split at handled
    · next idle =>
      obtain rfl := Option.some.inj handled
      refine ⟨[], fun sent => ?_⟩
      rw [List.append_nil]
      exact if_pos idle
    · cases handled
  | capture outcome => exact captureStep_appends outcome
  | captureEnds =>
    intro s t handled
    obtain rfl := Option.some.inj handled
    refine ⟨[], fun sent => ?_⟩
    rw [List.append_nil]
    rfl
  | watchdog =>
    apply Appends.of_total
    intro s
    unfold watchdogTick
    by_cases silent :
        s.state = .streaming ∧ s.timedOut s.clock s.lastClientActivityTimeMs = true
    · rw [if_pos silent]
      obtain ⟨new, same⟩ := disconnectClient_appends s false
      refine ⟨new, fun sent => ?_⟩
      have silentToo :
          ({ s with sent := sent }).state = .streaming ∧
            timedOut { s with sent := sent } s.clock s.lastClientActivityTimeMs = true :=
        silent
      rw [if_pos silentToo]
      exact same sent
    · rw [if_neg silent]
      refine ⟨[], fun sent => ?_⟩
      rw [List.append_nil]
      exact if_neg silent
  | tunnelLost =>
    apply Appends.of_total
    intro s
    exact disconnectClient_appends s true

/-! ## The activity time -/

/-- A handler sets the activity time for the sender of a contact, or leaves it with
the client it belongs to. -/
theorem handleRequest_activity (s : Server) (o : Outcome) (sender : Address)
    (request : Request) :
    let t := s.handleRequest o sender request
    t.clock = s.clock ∧
      ((t.lastClientActivityTimeMs = s.clock ∧ t.activeClient = some sender ∧
          request.isContact = true) ∨
        (t.lastClientActivityTimeMs = s.lastClientActivityTimeMs ∧
          (t.activeClient = none ∨
            t.activeClient = s.activeClient ∧
              (request.isContact = true → s.activeClient ≠ some sender)))) := by
  cases request with
  | discovery =>
    refine ⟨rfl, .inr ⟨rfl, .inr ⟨rfl, fun isContact => ?_⟩⟩⟩
    cases isContact
  | connect =>
    dsimp only [handleRequest]
    cases busy : s.isBusyFor sender with
    | true =>
      have other := (isBusyFor_iff.1 busy).2.2.1
      rw [handleConnectReq_of_busy busy]
      exact ⟨rfl, .inr ⟨rfl, .inr ⟨rfl, fun _ => other⟩⟩⟩
    | false =>
      cases started : (s.setClient sender).startCapture o with
      | none =>
        rw [handleConnectReq_of_failure busy started]
        exact ⟨rfl, .inl ⟨rfl, rfl, rfl⟩⟩
      | some t =>
        obtain ⟨capturing, actual, rfl⟩ := startCapture_eq started
        rw [handleConnectReq_of_start busy started, acceptClient_eq]
        exact ⟨rfl, .inl ⟨rfl, rfl, rfl⟩⟩
  | disconnect =>
    simp only [handleRequest, handleDisconnectReq]
    split
    · obtain ⟨_, _, _, _, ends, kept⟩ := disconnectClient_eq s true
      rw [ends]
      refine ⟨rfl, .inr ⟨rfl, kept.imp_right fun same => ⟨same, fun isContact => ?_⟩⟩⟩
      cases isContact
    · refine ⟨rfl, .inr ⟨rfl, .inr ⟨rfl, fun isContact => ?_⟩⟩⟩
      cases isContact
  | heartbeat seqNum payload =>
    simp only [handleRequest, handleHeartbeatPing]
    split
    · next active => exact ⟨rfl, .inl ⟨rfl, active, rfl⟩⟩
    · next other => exact ⟨rfl, .inr ⟨rfl, .inr ⟨rfl, fun _ => other⟩⟩⟩
  | control payload =>
    obtain ⟨calls, handled⟩ := handleRequest_control (o := o) (s := s) payload
    rw [handled]
    refine ⟨rfl, .inr ⟨rfl, .inr ⟨rfl, fun isContact => ?_⟩⟩⟩
    cases isContact

/-- An event without a contact leaves the activity time with the client. -/
theorem silent_activity {event : Event} (silent : ∀ client, event.isContactOf client = false)
    (later : s.clock ≤ t.clock)
    (same : t.lastClientActivityTimeMs = s.lastClientActivityTimeMs)
    (kept : t.activeClient = none ∨ t.activeClient = s.activeClient) :
    s.clock ≤ t.clock ∧
      ((t.lastClientActivityTimeMs = s.clock ∧
          ∃ sender, t.activeClient = some sender ∧ event.isContactOf sender = true) ∨
        (t.lastClientActivityTimeMs = s.lastClientActivityTimeMs ∧
          (t.activeClient = none ∨
            t.activeClient = s.activeClient ∧
              ∀ client, event.isContactOf client = true →
                s.activeClient ≠ some client))) := by
  refine ⟨later, .inr ⟨same, kept.imp_right fun active => ⟨active, ?_⟩⟩⟩
  intro client isContact
  rw [silent client] at isContact
  cases isContact

/-- The same of every event. -/
theorem handle_activity {event : Event} (handled : s.handle event = some t) :
    s.clock ≤ t.clock ∧
      ((t.lastClientActivityTimeMs = s.clock ∧
          ∃ sender, t.activeClient = some sender ∧ event.isContactOf sender = true) ∨
        (t.lastClientActivityTimeMs = s.lastClientActivityTimeMs ∧
          (t.activeClient = none ∨
            t.activeClient = s.activeClient ∧
              ∀ client, event.isContactOf client = true →
                s.activeClient ≠ some client))) := by
  cases event with
  | tick nowMs =>
    simp only [handle, step] at handled
    split at handled
    · next later =>
      obtain rfl := Option.some.inj handled
      exact silent_activity (fun _ => rfl) later rfl (.inr rfl)
    · cases handled
  | datagram sender buffer outcome =>
    obtain rfl := Option.some.inj handled
    unfold handleDatagram
    cases asked : requestOf buffer with
    | none =>
      refine ⟨BitVec.le_refl _, .inr ⟨rfl, .inr ⟨rfl, fun client isContact => ?_⟩⟩⟩
      simp [Event.isContactOf, asked] at isContact
    | some request =>
      obtain ⟨sameClock, activity⟩ := handleRequest_activity s outcome sender request
      refine ⟨by rw [sameClock]; exact BitVec.le_refl _, ?_⟩
      rcases activity with ⟨now, active, contact⟩ | ⟨same, active⟩
      · refine .inl ⟨now, sender, active, ?_⟩
        simp [Event.isContactOf, asked, contact]
      · refine .inr ⟨same, active.imp_right fun kept => ⟨kept.1, ?_⟩⟩
        intro client isContact
        simp only [Event.isContactOf, asked, Option.any_some, Bool.and_eq_true,
          decide_eq_true_eq] at isContact
        rw [← isContact.1]
        exact kept.2 isContact.2
  | captured data config =>
    simp only [handle, step] at handled
    split at handled
    · obtain rfl := Option.some.inj handled
      exact silent_activity (fun _ => rfl) (BitVec.le_refl _) rfl (.inr rfl)
    · cases handled
  | capture outcome =>
    obtain ⟨_, _, _, _, _, rfl⟩ := captureStep_eq handled
    exact silent_activity (fun _ => rfl) (BitVec.le_refl _) rfl (.inr rfl)
  | captureEnds =>
    obtain rfl := Option.some.inj handled
    exact silent_activity (fun _ => rfl) (BitVec.le_refl _) rfl (.inr rfl)
  | watchdog =>
    obtain rfl := Option.some.inj handled
    unfold watchdogTick
    split
    · obtain ⟨_, _, _, _, ends, kept⟩ := disconnectClient_eq s false
      rw [ends]
      exact silent_activity (fun _ => rfl) (BitVec.le_refl _) rfl kept
    · exact silent_activity (fun _ => rfl) (BitVec.le_refl _) rfl (.inr rfl)
  | tunnelLost =>
    obtain rfl := Option.some.inj handled
    obtain ⟨_, _, _, _, ends, kept⟩ := disconnectClient_eq s true
    rw [ends]
    exact silent_activity (fun _ => rfl) (BitVec.le_refl _) rfl kept

/-- The activity time of an active client is that of its last contact, and it has
passed. -/
structure Contacted.Known (client : Address) (c : Contacted) : Prop where
  contact :
    c.server.activeClient = some client →
      c.contact = some c.server.lastClientActivityTimeMs
  past : c.server.lastClientActivityTimeMs ≤ c.server.clock

theorem Contacted.Known.after {c d : Contacted} {event : Event}
    (known : c.Known client) (stepped : c.step client event = some d) :
    d.Known client := by
  obtain ⟨t, handled, rfl⟩ := Option.map_eq_some_iff.1 stepped
  obtain ⟨later, activity⟩ := handle_activity handled
  rcases activity with ⟨now, sender, active, isContact⟩ | ⟨same, active⟩
  · refine ⟨fun activeToo => ?_, ?_⟩
    · have isClient : sender = client :=
        Option.some.inj (active.symm.trans activeToo)
      rw [isClient] at isContact
      simp only [isContact, if_true, now]
    · dsimp only
      rw [now]
      exact later
  · refine ⟨fun activeToo => ?_, ?_⟩
    · rcases active with noClient | ⟨kept, noContact⟩
      · rw [noClient] at activeToo
        cases activeToo
      · rw [kept] at activeToo
        have outside : ¬ event.isContactOf client = true := fun isContact =>
          noContact client isContact activeToo
        dsimp only
        rw [if_neg outside, same]
        exact known.contact activeToo
    · dsimp only
      rw [same]
      exact BitVec.le_trans known.past later

/-! ## The datagram of another address -/

/-- While the client is in contact, a datagram of another address is answered to its
sender, and nothing else changes. -/
theorem handleDatagram_outside {buffer : List UInt8} (session : s.StreamsTo client)
    (other : sender ≠ client)
    (recent :
      (s.clock - s.lastClientActivityTimeMs).toNat < s.config.clientTimeoutMs) :
    ∃ new, s.handleDatagram o sender buffer = { s with sent := s.sent ++ new } ∧
      ∀ packet ∈ new, packet.1 = sender := by
  obtain ⟨streaming, active⟩ := session
  have notActive : s.activeClient ≠ some sender := by
    rw [active]
    intro same
    exact other (Option.some.inj same).symm
  have unchanged : s = { s with sent := s.sent ++ [] } := by
    rw [List.append_nil]
  unfold handleDatagram
  cases requestOf buffer with
  | none => exact ⟨[], unchanged, nofun⟩
  | some request =>
    cases request with
    | discovery => exact ⟨[(sender, _)], rfl, by simp⟩
    | connect =>
      have busy : s.isBusyFor sender = true :=
        isBusyFor_iff.2 ⟨streaming, by simp [active], notActive, recent⟩
      dsimp only [handleRequest]
      rw [handleConnectReq_of_busy busy]
      exact ⟨[(sender, .connectNak)], rfl, by simp⟩
    | disconnect =>
      refine ⟨[], ?_, nofun⟩
      dsimp only [handleRequest, handleDisconnectReq]
      rw [if_neg notActive]
      exact unchanged
    | heartbeat seqNum payload =>
      refine ⟨[], ?_, nofun⟩
      dsimp only [handleRequest, handleHeartbeatPing]
      rw [if_neg notActive]
      exact unchanged
    | control payload =>
      refine ⟨[], ?_, nofun⟩
      dsimp only
      rw [handleRequest_control_of_ne notActive]
      exact unchanged

/-! ## Two runs -/

/-- The packets sent to an address. -/
def sentTo (s : Server) (client : Address) : List Message :=
  (s.sent.filter fun packet => decide (packet.1 = client)).map Prod.snd

/-- Two servers agree on the session, the speaker, and what the client was sent. -/
structure AgreeFor (client : Address) (s u : Server) : Prop where
  state : s.state = u.state
  activeClient : s.activeClient = u.activeClient
  lastClientActivityTimeMs : s.lastClientActivityTimeMs = u.lastClientActivityTimeMs
  sequenceNumber : s.sequenceNumber = u.sequenceNumber
  endpoint : s.endpoint = u.endpoint
  sentTo : s.sentTo client = u.sentTo client

/-- Two servers differ in what was sent to other addresses only. -/
def Alike (client : Address) (c : Contacted) (u : Server) : Prop :=
  c.Known client ∧ u = { c.server with sent := u.sent } ∧
    c.server.sentTo client = u.sentTo client

theorem sentTo_append {sent new : List (Address × Message)} :
    ({ s with sent := sent ++ new } : Server).sentTo client =
      ({ s with sent := sent } : Server).sentTo client ++
        ({ s with sent := new } : Server).sentTo client := by
  simp [sentTo]

theorem alike_kept {c d : Contacted} {u : Server} {event : Event}
    (alike : Alike client c u) (stepped : c.step client event = some d) :
    ∃ v, u.handle event = some v ∧ Alike client d v := by
  obtain ⟨known, same, sameSent⟩ := alike
  have knownNext := known.after stepped
  obtain ⟨t, handled, rfl⟩ := Option.map_eq_some_iff.1 stepped
  obtain ⟨new, appends⟩ := handle_appends event c.server t handled
  have handledToo := appends u.sent
  dsimp only at handledToo
  rw [← same] at handledToo
  have sent : t = { t with sent := c.server.sent ++ new } :=
    Option.some.inj (handled.symm.trans (appends c.server.sent))
  refine ⟨_, handledToo, knownNext, rfl, ?_⟩
  rw [sentTo_append, sent, sentTo_append]
  exact congrArg (· ++ _) sameSent

theorem alike_dropped {c d : Contacted} {u : Server} {event : Event}
    (alike : Alike client c u) (quiet : Undisturbed client c event)
    (outside : event.isOutsideOf client = true)
    (stepped : c.step client event = some d) : Alike client d u := by
  obtain ⟨known, same, sameSent⟩ := alike
  have knownNext := known.after stepped
  obtain ⟨t, handled, rfl⟩ := Option.map_eq_some_iff.1 stepped
  obtain ⟨session, contact⟩ := quiet
  have recent := contact outside
  rw [Contacted.inContact, known.contact session.2] at recent
  cases event with
  | datagram sender buffer outcome =>
    obtain rfl := Option.some.inj handled
    have other : sender ≠ client := of_decide_eq_true outside
    have recentToo :
        (c.server.clock - c.server.lastClientActivityTimeMs).toNat <
          c.server.config.clientTimeoutMs := by
      rw [BitVec.toNat_sub_of_le known.past]
      exact of_decide_eq_true recent
    obtain ⟨new, answered, toSender⟩ :
        ∃ new,
          c.server.handleDatagram outcome sender buffer =
              { c.server with sent := c.server.sent ++ new } ∧
            ∀ packet ∈ new, packet.1 = sender :=
      handleDatagram_outside session other recentToo
    refine ⟨knownNext, ?_, ?_⟩
    · dsimp only
      rw [answered]
      exact same
    · have noNew : ({ c.server with sent := new } : Server).sentTo client = [] := by
        simp only [sentTo, List.map_eq_nil_iff, List.filter_eq_nil_iff]
        intro packet member
        simp [toSender packet member, other]
      dsimp only
      rw [answered, sentTo_append, noNew, List.append_nil]
      exact sameSent
  | _ => cases outside

end

/-- The datagrams of other addresses that find the client in contact change nothing
for it: at any point of the session, and at its end, the run without them agrees
with the run on the session, the activity time, the counter, the speaker, and the
packets sent to the client. -/
theorem outsiders_change_nothing (config : ServerConfig) (client : Address)
    (before during : List Event) (r : Contacted)
    (reached :
      run (Contacted.step client) { server := start config } before = some r)
    (quiet : EveryStep (Contacted.step client) (Undisturbed client) r during) :
    ∀ upTo t, upTo <+: during → run (Contacted.step client) r upTo = some t →
      ∃ u,
        run handle r.server (upTo.filter fun event => !event.isOutsideOf client) =
            some u ∧
          AgreeFor client t.server u := by
  intro upTo t isPrefix onward
  have known : r.Known client := by
    refine run_preserves (fun c event d => Contacted.Known.after) before ?_ reached
    exact ⟨nofun, BitVec.le_refl _⟩
  have kept : ∀ c u event d, Alike client c u → Undisturbed client c event →
      (!event.isOutsideOf client) = true → c.step client event = some d →
        ∃ v, u.handle event = some v ∧ Alike client d v :=
    fun c u event d alike _ _ => alike_kept alike
  have dropped : ∀ c u event d, Alike client c u → Undisturbed client c event →
      (!event.isOutsideOf client) = false → c.step client event = some d →
        Alike client d u := by
    intro c u event d alike still outside
    exact alike_dropped alike still (by simpa using outside)
  obtain ⟨u, reachedToo, _, same, sameSent⟩ :=
    run_filter kept dropped upTo ⟨known, rfl, rfl⟩
      (EveryStep.of_prefix r isPrefix quiet) onward
  refine ⟨u, reachedToo, ?_⟩
  rw [same]
  exact ⟨rfl, rfl, rfl, rfl, rfl, by rw [← same]; exact sameSent⟩

/-- A connected phone, and a second one that probes, asks for the session, and tries
to end it. -/
def probed : List Event :=
  [.datagram otherPhone (emptyRequest .discoveryReq) {},
    .tick 7999,
    .datagram otherPhone (emptyRequest .connectReq) {},
    .datagram otherPhone (emptyRequest .disconnectReq) {},
    .datagram phone (emptyRequest .heartbeatPing) {}]

def connectedPhone : Contacted :=
  (run (Contacted.step phone) { server := start {} }
    [.datagram phone (emptyRequest .connectReq) {}]).getD { server := {} }

def probedPhone : Contacted :=
  (run (Contacted.step phone) connectedPhone probed).getD { server := {} }

theorem probes_change_nothing :
    ∃ u,
      run handle connectedPhone.server
          (probed.filter fun event => !event.isOutsideOf phone) = some u ∧
        AgreeFor phone probedPhone.server u := by
  have connects :
      run (Contacted.step phone) { server := start {} }
        [.datagram phone (emptyRequest .connectReq) {}] = some connectedPhone :=
    run_eq_some_getD (by decide +kernel)
  have ends : run (Contacted.step phone) connectedPhone probed = some probedPhone :=
    run_eq_some_getD (by decide +kernel)
  exact
    outsiders_change_nothing {} phone _ probed connectedPhone connects
      (by decide +kernel) probed probedPhone List.prefix_rfl ends

end Server

end AudioRouter
