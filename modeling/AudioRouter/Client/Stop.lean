import AudioRouter.Client.Lifecycle

/-!
# What `stop()` relies on

What holds in every interleaving of `stop()` with the loops of the client: the flags by the
place of `stop()`, who holds `socket_mutex_`, and the socket until it is closed.
-/

namespace AudioRouter

namespace ClientLifecycle

open Transition Protocol

/-- The network thread is between the lock and the unlock. -/
def NetLoop.holds : NetLoop → Bool
  | .locked | .receiving => true
  | _ => false

/-- The threads that `stop()` has joined at its place `phase` have ended. -/
structure Joined (phase : Nat) (s : ClientLifecycle) : Prop where
  playback : StopStep.joinNet.phase ≤ phase → s.playback = .ended
  net : StopStep.joinHeartbeat.phase ≤ phase → s.net = .ended
  heartbeat : StopStep.joinRelay.phase ≤ phase → s.heartbeat = .ended
  relay : StopStep.setStopped.phase ≤ phase → s.relay = .ended

/-- The flags, the mutex and the socket with `stop()` at its place `phase`. -/
structure OrderlyAt (phase : Nat) (s : ClientLifecycle) : Prop where
  requested : s.stopRequested = true ↔ StopStep.clearRunning.phase ≤ phase
  running : StopStep.sendDisconnect.phase ≤ phase → s.isRunning = false
  state : s.state = .stopped → StopStep.returned.phase ≤ phase
  lock : s.socketLocked = s.net.holds
  opened : phase ≤ StopStep.closeSocket.phase → s.socket = some true
  receiving : s.net = .receiving → phase ≤ StopStep.closeSocket.phase
  /-- A receive without a timeout is one on a socket that was opened again. -/
  untimed : ∀ retries, s.heartbeat = .receiving false retries → s.socket = some false
  told : .disconnectReq ∈ s.sent ↔ StopStep.closeSocket.phase ≤ phase
  joined : Joined phase s

/-- What every step of every thread keeps. -/
def Orderly (s : ClientLifecycle) : Prop :=
  s.OrderlyAt s.stop.phase

section

variable {s t : ClientLifecycle}

theorem OrderlyAt.early_of_goesOn {phase : Nat} (orderly : s.OrderlyAt phase)
    (on : s.goesOn = true) : phase < StopStep.clearRunning.phase := by
  by_contra called
  have requested := orderly.requested.2 (Nat.le_of_not_lt called)
  rw [goesOn, requested, Bool.not_true, Bool.and_false] at on
  cases on

theorem start_orderly (config : Client.ClientConfig) (usbMode : Bool) (nowMs : Clock) :
    (start config usbMode nowMs).Orderly := by
  refine ⟨?_, ?_, ?_, rfl, fun _ => rfl, ?_, ?_, ?_, ⟨?_, ?_, ?_, ?_⟩⟩ <;>
    simp [start, StopStep.phase]

/-! ## The network thread -/

/-- What a step of the network thread leaves alone. -/
structure NetFrame (s t : ClientLifecycle) : Prop where
  isRunning : t.isRunning = true → s.isRunning = true
  stopRequested : t.stopRequested = s.stopRequested
  state : t.state = s.state
  socket : t.socket = s.socket
  heartbeat : t.heartbeat = s.heartbeat
  playback : t.playback = s.playback
  relay : t.relay = s.relay
  stop : t.stop = s.stop
  sent : t.sent = s.sent
  queued : t.queued = s.queued
  tunnelled : t.tunnelled = s.tunnelled

theorem netStep_frame {received : Option Datagram} (stepped : s.netStep received = some t) :
    NetFrame s t := by
  have same : NetFrame s s := ⟨id, rfl, rfl, rfl, rfl, rfl, rfl, rfl, rfl, rfl, rfl⟩
  unfold netStep at stepped
  split at stepped
  · cases stepped
    exact { same with }
  · split at stepped <;> cases stepped
    exact { same with }
  · split at stepped <;> cases stepped <;> exact { same with }
  · split at stepped <;> cases stepped <;> exact { same with }
  · cases stepped
    exact { same with }
  · split at stepped <;> cases stepped
    · exact { same with isRunning := Bool.false_ne_true.elim }
    · exact { same with }
  · cases stepped

/-- The mutex is taken and released around the receive. -/
theorem netStep_lock {received : Option Datagram} (lock : s.socketLocked = s.net.holds)
    (stepped : s.netStep received = some t) : t.socketLocked = t.net.holds := by
  unfold netStep at stepped
  split at stepped
  · next place =>
    rw [place] at lock
    cases stepped
    dsimp only
    split <;> exact lock
  · split at stepped <;> cases stepped
    rfl
  · split at stepped <;> cases stepped <;> first | rfl | simp_all [NetLoop.holds]
  · have released (received : Option Datagram) :
        (s.netReceived received).socketLocked = (s.netReceived received).net.holds := by
      simp only [netReceived]
      split
      · split <;> rfl
      · split
        · rfl
        · split <;> rfl
    split at stepped <;> cases stepped <;> exact released _
  · next place =>
    rw [place] at lock
    cases stepped
    exact lock
  · next place =>
    rw [place] at lock
    split at stepped <;> cases stepped <;> exact lock
  · cases stepped

/-- The network thread receives only while the client goes on. -/
theorem netStep_receiving {received : Option Datagram} (stepped : s.netStep received = some t)
    (receiving : t.net = .receiving) : s.goesOn = true := by
  unfold netStep at stepped
  split at stepped
  · cases stepped
    dsimp only at receiving
    split at receiving <;> cases receiving
  · split at stepped <;> cases stepped
    cases receiving
  · split at stepped
    · next on => exact on
    · cases stepped
      cases receiving
  · have outside (received : Option Datagram) : (s.netReceived received).net ≠ .receiving := by
      simp only [netReceived]
      split
      · split <;> exact NetLoop.noConfusion
      · split
        · exact NetLoop.noConfusion
        · split <;> exact NetLoop.noConfusion
    split at stepped <;> cases stepped <;> exact absurd receiving (outside _)
  · cases stepped
    cases receiving
  · split at stepped <;> cases stepped <;> cases receiving
  · cases stepped

theorem netStep_not_ended {received : Option Datagram} (stepped : s.netStep received = some t) :
    s.net ≠ .ended := by
  intro ended
  simp [netStep, ended] at stepped

theorem OrderlyAt.net {phase : Nat} {received : Option Datagram} (orderly : s.OrderlyAt phase)
    (stepped : s.netStep received = some t) : t.OrderlyAt phase := by
  have frame := netStep_frame stepped
  refine ⟨?_, ?_, ?_, netStep_lock orderly.lock stepped, ?_, ?_, ?_, ?_, ⟨?_, ?_, ?_, ?_⟩⟩
  · rw [frame.stopRequested]
    exact orderly.requested
  · intro past
    by_contra running
    have before := frame.isRunning (by simpa using running)
    rw [orderly.running past] at before
    cases before
  · rw [frame.state]
    exact orderly.state
  · rw [frame.socket]
    exact orderly.opened
  · intro receiving
    have early := orderly.early_of_goesOn (netStep_receiving stepped receiving)
    exact Nat.le_trans (Nat.le_of_lt early) (by decide)
  · rw [frame.heartbeat, frame.socket]
    exact orderly.untimed
  · rw [frame.sent]
    exact orderly.told
  · rw [frame.playback]
    exact orderly.joined.playback
  · exact fun past => absurd (orderly.joined.net past) (netStep_not_ended stepped)
  · rw [frame.heartbeat]
    exact orderly.joined.heartbeat
  · rw [frame.relay]
    exact orderly.joined.relay

/-! ## The heartbeat thread -/

/-- What a step of the heartbeat thread leaves alone. -/
structure HeartbeatFrame (s t : ClientLifecycle) : Prop where
  isRunning : t.isRunning = s.isRunning
  stopRequested : t.stopRequested = s.stopRequested
  state : t.state = s.state
  socketLocked : t.socketLocked = s.socketLocked
  net : t.net = s.net
  playback : t.playback = s.playback
  relay : t.relay = s.relay
  stop : t.stop = s.stop
  tunnelled : t.tunnelled = s.tunnelled

theorem sendTo_frame (s : ClientLifecycle) (message : Sent) (opens : Bool) :
    HeartbeatFrame s (s.sendTo message opens) := by
  unfold sendTo
  split
  · exact ⟨rfl, rfl, rfl, rfl, rfl, rfl, rfl, rfl, rfl⟩
  · split <;> exact ⟨rfl, rfl, rfl, rfl, rfl, rfl, rfl, rfl, rfl⟩

/-- The socket and what is sent on it. -/
structure SameSocket (s t : ClientLifecycle) : Prop where
  socket : t.socket = s.socket
  sent : t.sent = s.sent
  queued : t.queued = s.queued

/-- What a step of the heartbeat thread does with the socket. -/
inductive UsesSocket (s t : ClientLifecycle) : Prop where
  | quiet (same : SameSocket s t)
    (received : ∀ retries, t.heartbeat = .receiving false retries → s.socket = some false)
  | timeout (place : s.heartbeat = .setTimeout)
    (same : SameSocket { s with socket := s.socket.map fun _ => true } t)
    (next : ∃ retries, t.heartbeat = .attempt retries)
  | ping (opens : Bool) (on : s.goesOn = true)
    (same : SameSocket (s.sendTo .heartbeatPing opens) t) (next : t.heartbeat = .readClock)
  | send (opens : Bool) (retries : Nat) (place : s.heartbeat = .send retries)
    (same : SameSocket (s.sendTo .connectReq opens) t)
    (next : t.heartbeat = .receive retries)

theorem handshakeReceived_ne (received : Option Datagram) (retries : Nat) (timed : Bool)
    (left : Nat) : handshakeReceived received retries ≠ .receiving timed left := by
  unfold handshakeReceived
  split <;> exact HeartbeatLoop.noConfusion

/-- A step from one place to another. -/
theorem usesSocket_quiet {pc : HeartbeatLoop}
    (received : ∀ retries, pc = .receiving false retries → s.socket = some false) :
    HeartbeatFrame s { s with heartbeat := pc } ∧ UsesSocket s { s with heartbeat := pc } :=
  ⟨⟨rfl, rfl, rfl, rfl, rfl, rfl, rfl, rfl, rfl⟩, .quiet ⟨rfl, rfl, rfl⟩ received⟩

theorem heartbeatStep_cases {received : Option Datagram} {opens : Bool}
    (stepped : s.heartbeatStep received opens = some t) :
    HeartbeatFrame s t ∧ UsesSocket s t := by
  unfold heartbeatStep at stepped
  split at stepped
  · cases stepped
    exact usesSocket_quiet (by split <;> exact fun _ => HeartbeatLoop.noConfusion)
  · split at stepped
    · cases stepped
    · split at stepped
      · next on =>
        cases stepped
        have sends := s.sendTo_frame .heartbeatPing opens
        exact ⟨{ sends with }, .ping opens on ⟨rfl, rfl, rfl⟩ rfl⟩
      · cases stepped
        exact usesSocket_quiet fun _ => HeartbeatLoop.noConfusion
  · cases stepped
    exact usesSocket_quiet fun _ => HeartbeatLoop.noConfusion
  · cases stepped
    exact usesSocket_quiet fun _ => HeartbeatLoop.noConfusion
  · cases stepped
    exact usesSocket_quiet (by split <;> exact fun _ => HeartbeatLoop.noConfusion)
  · cases stepped
    exact usesSocket_quiet (by split <;> exact fun _ => HeartbeatLoop.noConfusion)
  · next place =>
    cases stepped
    exact ⟨⟨rfl, rfl, rfl, rfl, rfl, rfl, rfl, rfl, rfl⟩,
      .timeout place ⟨rfl, rfl, rfl⟩ ⟨_, rfl⟩⟩
  · cases stepped
    exact usesSocket_quiet fun _ => HeartbeatLoop.noConfusion
  · cases stepped
    exact usesSocket_quiet (by split <;> exact fun _ => HeartbeatLoop.noConfusion)
  · next retries place =>
    cases stepped
    have sends := s.sendTo_frame .connectReq opens
    exact ⟨{ sends with }, .send opens retries place ⟨rfl, rfl, rfl⟩ rfl⟩
  · split at stepped <;> cases stepped
    · exact usesSocket_quiet fun _ => HeartbeatLoop.noConfusion
    · next timed socket =>
      refine usesSocket_quiet fun _ untimed => ?_
      cases untimed
      exact socket
  · split at stepped <;> cases stepped
    exact usesSocket_quiet fun _ untimed => absurd untimed (handshakeReceived_ne _ _ _ _)
  · cases stepped
    exact ⟨⟨rfl, rfl, rfl, rfl, rfl, rfl, rfl, rfl, rfl⟩,
      .quiet ⟨rfl, rfl, rfl⟩ fun _ => HeartbeatLoop.noConfusion⟩
  · cases stepped

theorem heartbeatStep_not_ended {received : Option Datagram} {opens : Bool}
    (stepped : s.heartbeatStep received opens = some t) : s.heartbeat ≠ .ended := by
  intro ended
  simp [heartbeatStep, ended] at stepped

theorem heartbeatStep_send {received : Option Datagram} {opens : Bool} {retries : Nat}
    (place : s.heartbeat = .send retries) :
    s.heartbeatStep received opens =
      some { s.sendTo .connectReq opens with heartbeat := .receive retries } := by
  simp only [heartbeatStep, place]

/-- `send_to` leaves an open socket as it is. -/
theorem sendTo_socket_of_open {timed : Bool} (opened : s.socket = some timed) (message : Sent)
    (opens : Bool) : (s.sendTo message opens).socket = some timed := by
  simp only [sendTo, opened, put]

theorem mem_sendTo_sent {message other : Sent} (different : other ≠ message) (opens : Bool) :
    other ∈ (s.sendTo message opens).sent ↔ other ∈ s.sent := by
  unfold sendTo
  split
  · simp [put, different]
  · split <;> simp [put, different]

/-- The socket that `stop()` has not closed stays as it is. -/
theorem UsesSocket.opened (uses : UsesSocket s t) (opened : s.socket = some true) :
    t.socket = some true := by
  cases uses with
  | quiet same _ => rw [same.socket, opened]
  | timeout _ same _ => rw [same.socket, opened, Option.map_some]
  | ping opens _ same _ => rw [same.socket, sendTo_socket_of_open opened]
  | send opens _ _ same _ => rw [same.socket, sendTo_socket_of_open opened]

theorem UsesSocket.told (uses : UsesSocket s t) :
    .disconnectReq ∈ t.sent ↔ .disconnectReq ∈ s.sent := by
  cases uses with
  | quiet same _ => rw [same.sent]
  | timeout _ same _ => rw [same.sent]
  | ping opens _ same _ => rw [same.sent, mem_sendTo_sent (by decide)]
  | send opens _ _ same _ => rw [same.sent, mem_sendTo_sent (by decide)]

theorem UsesSocket.untimed (uses : UsesSocket s t) {retries : Nat}
    (untimed : t.heartbeat = .receiving false retries) : t.socket = some false := by
  cases uses with
  | quiet same received =>
    rw [same.socket]
    exact received retries untimed
  | timeout _ _ next =>
    obtain ⟨left, next⟩ := next
    rw [next] at untimed
    cases untimed
  | ping _ _ _ next =>
    rw [next] at untimed
    cases untimed
  | send _ _ _ _ next =>
    rw [next] at untimed
    cases untimed

theorem OrderlyAt.heartbeat {phase : Nat} {received : Option Datagram} {opens : Bool}
    (orderly : s.OrderlyAt phase) (stepped : s.heartbeatStep received opens = some t) :
    t.OrderlyAt phase := by
  obtain ⟨frame, uses⟩ := heartbeatStep_cases stepped
  refine ⟨?_, ?_, ?_, ?_, fun early => uses.opened (orderly.opened early), ?_,
    fun _ => uses.untimed, ?_, ⟨?_, ?_, ?_, ?_⟩⟩
  · rw [frame.stopRequested]
    exact orderly.requested
  · rw [frame.isRunning]
    exact orderly.running
  · rw [frame.state]
    exact orderly.state
  · rw [frame.socketLocked, frame.net]
    exact orderly.lock
  · rw [frame.net]
    exact orderly.receiving
  · rw [uses.told]
    exact orderly.told
  · rw [frame.playback]
    exact orderly.joined.playback
  · rw [frame.net]
    exact orderly.joined.net
  · exact fun past => absurd (orderly.joined.heartbeat past) (heartbeatStep_not_ended stepped)
  · rw [frame.relay]
    exact orderly.joined.relay

/-! ## The other threads -/

theorem OrderlyAt.playback {phase : Nat} (orderly : s.OrderlyAt phase)
    (stepped : s.playbackStep = some t) : t.OrderlyAt phase := by
  have outside (past : StopStep.joinNet.phase ≤ phase) : False := by
    simp [playbackStep, orderly.joined.playback past] at stepped
  unfold playbackStep at stepped
  split at stepped <;> cases stepped <;>
    exact { orderly with
      joined := { orderly.joined with playback := fun past => (outside past).elim } }

theorem relayStep_eq {round : RelayRound} (stepped : s.relayStep round = some t) :
    ∃ queued tunnelled relay,
      t = { s with queued := queued, tunnelled := tunnelled, relay := relay } := by
  unfold relayStep at stepped
  split at stepped
  · cases stepped
    exact ⟨_, _, _, rfl⟩
  · split at stepped <;> cases stepped <;> exact ⟨_, _, _, rfl⟩
  · cases stepped

theorem OrderlyAt.relay {phase : Nat} {round : RelayRound} (orderly : s.OrderlyAt phase)
    (stepped : s.relayStep round = some t) : t.OrderlyAt phase := by
  have outside (past : StopStep.setStopped.phase ≤ phase) : False := by
    simp [relayStep, orderly.joined.relay past] at stepped
  obtain ⟨queued, tunnelled, relay, rfl⟩ := relayStep_eq stepped
  exact { orderly with
    joined := { orderly.joined with relay := fun past => (outside past).elim } }

/-! ## `stop()` -/

/-- From one join to the next. -/
theorem OrderlyAt.joins {phase : Nat} (orderly : s.OrderlyAt phase)
    (late : StopStep.closeSocket.phase < phase) (joined : Joined (phase + 1) s) (next : StopStep) :
    OrderlyAt (phase + 1) { s with stop := next } := by
  have requested := orderly.requested
  have running := orderly.running
  have state := orderly.state
  have receiving := orderly.receiving
  have told := orderly.told
  simp only [StopStep.phase] at late requested running state receiving told
  refine ⟨?_, ?_, ?_, orderly.lock, ?_, ?_, orderly.untimed, ?_, { joined with }⟩ <;>
    simp only [StopStep.phase]
  · rw [requested]
    omega
  · exact fun _ => running (by omega)
  · exact fun stopped => Nat.le_succ_of_le (state stopped)
  · exact fun early => absurd early (by omega)
  · exact fun waits => absurd (receiving waits) (by omega)
  · rw [told]
    omega

/-- What a step of `stop()` leaves alone, and what it adds. -/
structure StopFrame (s t : ClientLifecycle) : Prop where
  net : t.net = s.net
  heartbeat : t.heartbeat = s.heartbeat
  playback : t.playback = s.playback
  relay : t.relay = s.relay
  tunnelled : t.tunnelled = s.tunnelled
  stopRequested : s.stopRequested = true → t.stopRequested = true
  socket : t.socket = s.socket ∨ s.stop = .closeSocket ∧ t.socket = none
  phase : s.stop.phase < t.stop.phase
  sends :
    t.sent = s.sent ∧ t.queued = s.queued ∨
      s.stop = .sendDisconnect ∧ t.sent = .disconnectReq :: s.sent ∧
        t.queued = if s.usbMode then s.queued ++ [.disconnectReq] else s.queued

theorem stopStep_frame (stepped : s.stopStep = some t) : StopFrame s t := by
  unfold stopStep at stepped
  cases place : s.stop with
  | notCalled =>
    simp only [place] at stepped
    split at stepped <;> cases stepped
    · exact ⟨rfl, rfl, rfl, rfl, rfl, id, Or.inl rfl, by simp [place, StopStep.phase],
        Or.inl ⟨rfl, rfl⟩⟩
    · exact ⟨rfl, rfl, rfl, rfl, rfl, fun _ => rfl, Or.inl rfl,
        by simp [place, StopStep.phase], Or.inl ⟨rfl, rfl⟩⟩
  | sendDisconnect =>
    simp only [place] at stepped
    split at stepped
    · cases stepped
    · split at stepped <;> cases stepped
      · exact ⟨rfl, rfl, rfl, rfl, rfl, id, Or.inl rfl, by simp [place, StopStep.phase],
          Or.inr ⟨place, rfl, rfl⟩⟩
      · exact ⟨rfl, rfl, rfl, rfl, rfl, id, Or.inl rfl, by simp [place, StopStep.phase],
          Or.inl ⟨rfl, rfl⟩⟩
  | closeSocket =>
    simp only [place] at stepped
    split at stepped <;> cases stepped
    exact ⟨rfl, rfl, rfl, rfl, rfl, id, Or.inr ⟨place, rfl⟩, by simp [place, StopStep.phase],
      Or.inl ⟨rfl, rfl⟩⟩
  | joinPlayback | joinNet | joinHeartbeat | joinRelay =>
    simp only [place] at stepped
    split at stepped <;> cases stepped
    exact ⟨rfl, rfl, rfl, rfl, rfl, id, Or.inl rfl, by simp [place, StopStep.phase],
      Or.inl ⟨rfl, rfl⟩⟩
  | clearRunning | setStopped =>
    simp only [place] at stepped
    cases stepped
    exact ⟨rfl, rfl, rfl, rfl, rfl, id, Or.inl rfl, by simp [place, StopStep.phase],
      Or.inl ⟨rfl, rfl⟩⟩
  | returned => simp [place] at stepped

theorem Joined.early (phase : Nat) (early : phase < StopStep.joinNet.phase) :
    Joined phase s := by
  simp only [StopStep.phase] at early
  refine ⟨?_, ?_, ?_, ?_⟩ <;> simp only [StopStep.phase] <;> omega

/-- The flags go down one after the other. -/
theorem OrderlyAt.requests (orderly : s.OrderlyAt 0) :
    OrderlyAt 1 { s with stopRequested := true, stop := .clearRunning } := by
  refine ⟨by simp [StopStep.phase], by simp [StopStep.phase], ?_, orderly.lock, ?_, ?_,
    orderly.untimed, ?_, { Joined.early 1 (by decide) with }⟩
  · exact fun stopped => absurd (orderly.state stopped) (by decide)
  · exact fun _ => orderly.opened (by decide)
  · exact fun _ => by decide
  · exact iff_of_false (fun sent => absurd (orderly.told.1 sent) (by decide)) (by decide)

theorem OrderlyAt.clearsRunning (orderly : s.OrderlyAt 1) :
    OrderlyAt 2 { s with isRunning := false, stop := .sendDisconnect } := by
  refine ⟨?_, fun _ => rfl, ?_, orderly.lock, ?_, ?_, orderly.untimed, ?_,
    { Joined.early 2 (by decide) with }⟩
  · exact iff_of_true (orderly.requested.2 (by decide)) (by decide)
  · exact fun stopped => absurd (orderly.state stopped) (by decide)
  · exact fun _ => orderly.opened (by decide)
  · exact fun _ => by decide
  · exact iff_of_false (fun sent => absurd (orderly.told.1 sent) (by decide)) (by decide)

theorem OrderlyAt.tells (orderly : s.OrderlyAt 2) :
    OrderlyAt 3 { s.put .disconnectReq with stop := .closeSocket } := by
  refine ⟨?_, ?_, ?_, orderly.lock, ?_, ?_, orderly.untimed, ?_,
    { Joined.early 3 (by decide) with }⟩
  · exact iff_of_true (orderly.requested.2 (by decide)) (by decide)
  · exact fun _ => orderly.running (by decide)
  · exact fun stopped => absurd (orderly.state stopped) (by decide)
  · exact fun _ => orderly.opened (by decide)
  · exact fun _ => by decide
  · exact iff_of_true List.mem_cons_self (by decide)

/-- Nobody receives under the mutex when the socket is closed. -/
theorem OrderlyAt.closes (orderly : s.OrderlyAt 3) (free : ¬ s.socketLocked = true) :
    OrderlyAt 4 { s with socket := none, stop := .joinPlayback } := by
  refine ⟨?_, ?_, ?_, orderly.lock, ?_, ?_, ?_, ?_,
    { Joined.early 4 (by decide) with }⟩
  · exact iff_of_true (orderly.requested.2 (by decide)) (by decide)
  · exact fun _ => orderly.running (by decide)
  · exact fun stopped => absurd (orderly.state stopped) (by decide)
  · exact fun early => absurd early (by decide)
  · intro receiving
    have holds := orderly.lock
    rw [show s.net = .receiving from receiving] at holds
    exact absurd holds free
  · intro retries untimed
    have closed := orderly.untimed retries untimed
    rw [orderly.opened (by decide)] at closed
    cases closed
  · exact iff_of_true (orderly.told.2 (by decide)) (by decide)

theorem OrderlyAt.stop (orderly : s.OrderlyAt s.stop.phase) (stepped : s.stopStep = some t) :
    t.OrderlyAt t.stop.phase := by
  unfold stopStep at stepped
  cases place : s.stop with
  | notCalled =>
    simp only [place] at stepped orderly
    split at stepped
    · next early => exact absurd (orderly.state early.1) (by decide)
    · cases stepped
      exact orderly.requests
  | clearRunning =>
    simp only [place] at stepped orderly
    cases stepped
    exact orderly.clearsRunning
  | sendDisconnect =>
    simp only [place] at stepped orderly
    rw [orderly.opened (by decide)] at stepped
    split at stepped <;> cases stepped
    exact orderly.tells
  | closeSocket =>
    simp only [place] at stepped orderly
    split at stepped <;> cases stepped
    next free => exact orderly.closes free
  | joinPlayback =>
    simp only [place] at stepped orderly
    split at stepped <;> cases stepped
    next ended =>
    refine orderly.joins (by decide) ⟨fun _ => ended, ?_, ?_, ?_⟩ _ <;>
      exact fun past => absurd past (by decide)
  | joinNet =>
    simp only [place] at stepped orderly
    split at stepped <;> cases stepped
    next ended =>
    refine orderly.joins (by decide) ⟨fun _ => ?_, fun _ => ended, ?_, ?_⟩ _
    · exact orderly.joined.playback (by decide)
    · exact fun past => absurd past (by decide)
    · exact fun past => absurd past (by decide)
  | joinHeartbeat =>
    simp only [place] at stepped orderly
    split at stepped <;> cases stepped
    next ended =>
    refine orderly.joins (by decide) ⟨fun _ => ?_, fun _ => ?_, fun _ => ended, ?_⟩ _
    · exact orderly.joined.playback (by decide)
    · exact orderly.joined.net (by decide)
    · exact fun past => absurd past (by decide)
  | joinRelay =>
    simp only [place] at stepped orderly
    split at stepped <;> cases stepped
    next ended =>
    refine orderly.joins (by decide) ⟨fun _ => ?_, fun _ => ?_, fun _ => ?_, fun _ => ended⟩ _
    · exact orderly.joined.playback (by decide)
    · exact orderly.joined.net (by decide)
    · exact orderly.joined.heartbeat (by decide)
  | setStopped =>
    simp only [place] at stepped orderly
    cases stepped
    have joined := orderly.joined
    have last : Joined StopStep.returned.phase s :=
      ⟨fun _ => joined.playback (by decide), fun _ => joined.net (by decide),
        fun _ => joined.heartbeat (by decide), fun _ => joined.relay (by decide)⟩
    have returned := orderly.joins (by decide) last .returned
    exact { returned with
      state := fun _ => Nat.le_refl _
      joined := { last with } }
  | returned =>
    rw [place] at stepped
    cases stepped

theorem Orderly.step {a : Action} (orderly : s.Orderly) (stepped : s.step a = some t) :
    t.Orderly := by
  cases a with
  | tick nowMs =>
    simp only [ClientLifecycle.step] at stepped
    split at stepped <;> cases stepped
    exact { orderly with joined := { orderly.joined with } }
  | net received =>
    rw [Orderly, (netStep_frame stepped).stop]
    exact OrderlyAt.net orderly stepped
  | heartbeat received opens =>
    rw [Orderly, (heartbeatStep_cases stepped).1.stop]
    exact OrderlyAt.heartbeat orderly stepped
  | playback =>
    have kept := OrderlyAt.playback orderly stepped
    simp only [ClientLifecycle.step, playbackStep] at stepped
    split at stepped <;> cases stepped <;> exact kept
  | relay round =>
    have kept := OrderlyAt.relay orderly stepped
    obtain ⟨_, _, _, rfl⟩ := relayStep_eq stepped
    exact kept
  | stop => exact OrderlyAt.stop orderly stepped

/-- The socket is open as long as the client goes on. -/
theorem Orderly.opened_of_goesOn (orderly : s.Orderly) (on : s.goesOn = true) :
    s.socket = some true := by
  have early := OrderlyAt.early_of_goesOn orderly on
  exact OrderlyAt.opened orderly (Nat.le_trans (Nat.le_of_lt early) (by decide))

end

theorem run_orderly {config : Client.ClientConfig} {usbMode : Bool} {nowMs : Clock}
    {actions : List Action} {s : ClientLifecycle}
    (reached : run step (start config usbMode nowMs) actions = some s) : s.Orderly :=
  run_preserves (fun _ _ _ orderly stepped => Orderly.step orderly stepped) actions
    (start_orderly config usbMode nowMs) reached

end ClientLifecycle

end AudioRouter
