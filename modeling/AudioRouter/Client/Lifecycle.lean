import AudioRouter.Client.Model

/-!
# Stopping the client

`AudioRouterClient::stop()` as one more thread over the loops of the client
(`client/client.cpp`).  `socket_mutex_` guards `socket_`, but `perform_handshake` uses the
socket without it, and `send_to` opens a socket that is closed.  In USB mode the server's
address is the socket of the relay, which sends each datagram on through the tunnel.
-/

namespace AudioRouter

namespace ClientLifecycle

open Client Protocol

/-- `ClientState`, as far as a started client has it. -/
inductive ClientState where
  | stopped
  | streaming
  deriving DecidableEq, Repr

/-- A `while` loop whose body is one step. -/
inductive Loop where
  | checking
  | body
  | ended
  deriving DecidableEq, Repr

/-- The test of the loop. -/
def Loop.check (running : Bool) : Loop :=
  if running then .body else .ended

/-- Where `network_receive_thread` stands. -/
inductive NetLoop where
  | checking
  /-- About to take `socket_mutex_`. -/
  | locking
  /-- The second test, under the mutex. -/
  | locked
  /-- In `receive_from`, under the mutex. -/
  | receiving
  | storePacketTime (bytes : List UInt8)
  | deliver (bytes : List UInt8)
  | ended
  deriving DecidableEq, Repr

/-- Where `heartbeat_thread` stands; from `handshake` to `receiving` it is in
`perform_handshake`, with so many attempts left. -/
inductive HeartbeatLoop where
  | checking
  | ping
  | readClock
  | loadPacketTime (nowMs : Clock)
  | compare (nowMs lastPacket : Clock)
  | handshake
  | setTimeout
  | attempt (retries : Nat)
  | send (retries : Nat)
  | receive (retries : Nat)
  /-- In `receive_from`, on a socket that has a timeout or not. -/
  | receiving (timed : Bool) (retries : Nat)
  | storePacketTime
  | ended
  deriving DecidableEq, Repr

/-- Where `stop()` stands. -/
inductive StopStep where
  | notCalled
  | clearRunning
  | sendDisconnect
  | closeSocket
  | joinPlayback
  | joinNet
  | joinHeartbeat
  | joinRelay
  | setStopped
  | returned
  deriving DecidableEq, Repr

/-- What the client sends to the server. -/
inductive Sent where
  | connectReq
  | heartbeatPing
  | disconnectReq
  deriving DecidableEq, Repr

/-- What one round of the relay does with the datagrams of the client. -/
inductive RelayRound where
  | quiet
  | forwards
  | loses
  deriving DecidableEq, Repr

end ClientLifecycle

open ClientLifecycle Client

/-- The members that the loops and `stop()` share. -/
structure ClientLifecycle where
  config : ClientConfig := {}
  isRunning : Bool := true
  stopRequested : Bool := false
  state : ClientLifecycle.ClientState := .streaming
  /-- `socket_`, if it is open, and whether a receive timeout has been set on it. -/
  socket : Option Bool := some true
  /-- `socket_mutex_`, which is held across steps by the network thread only. -/
  socketLocked : Bool := false
  lastPacketTimeMs : Clock
  clock : Clock
  net : NetLoop := .checking
  heartbeat : HeartbeatLoop := .checking
  playback : Loop := .checking
  relay : Loop := .ended
  stop : StopStep := .notCalled
  /-- What has been sent on `socket_`, the last message first. -/
  sent : List Sent := []
  /-- What the relay has not taken from its socket, the first datagram first. -/
  queued : List Sent := []
  /-- What the relay has sent through the tunnel, the last datagram first. -/
  tunnelled : List Sent := []
  usbMode : Bool
  deriving DecidableEq, Repr

namespace ClientLifecycle

open Protocol

/-- What `start()` leaves behind. -/
def start (config : ClientConfig) (usbMode : Bool) (nowMs : Clock) : ClientLifecycle :=
  { config := config
    lastPacketTimeMs := nowMs
    clock := nowMs
    relay := if usbMode then .checking else .ended
    usbMode := usbMode }

/-- A message goes out on an open socket. -/
def put (s : ClientLifecycle) (message : Sent) : ClientLifecycle :=
  { s with
    sent := message :: s.sent
    queued := if s.usbMode then s.queued ++ [message] else s.queued }

/-- `send_to`, which opens a closed socket, without a receive timeout; `opens` says whether
that succeeds. -/
def sendTo (s : ClientLifecycle) (message : Sent) (opens : Bool) : ClientLifecycle :=
  match s.socket with
  | some _ => s.put message
  | none => if opens then { s with socket := some false }.put message else s

/-! ## The network thread -/

/-- The test that ends the loops of the network thread and of the heartbeat thread. -/
def goesOn (s : ClientLifecycle) : Bool :=
  s.isRunning && !s.stopRequested

/-- `receive_from` has returned, and the mutex is released. -/
def netReceived (s : ClientLifecycle) (received : Option Datagram) : ClientLifecycle :=
  let bytes := (received.map (receiveFrom 65536)).getD []
  { s with
    socketLocked := false
    net :=
      if bytes.isEmpty then if s.isRunning then .checking else .ended
      else if bytes.length < sizeofCommonHeader then .checking
      else if !isValidHeader (.ofBytes bytes) bytes.length then .checking
      else .storePacketTime bytes }

/-- Whether a message ends the session. -/
def isDisconnect (bytes : List UInt8) : Bool :=
  let msgType := (CommonHeader.ofBytes bytes).msgType
  msgType == MsgType.disconnectAck.code || msgType == MsgType.disconnectReq.code

/-- One step of `network_receive_thread`; `none` is a timeout. -/
def netStep (s : ClientLifecycle) (received : Option Datagram) : Option ClientLifecycle :=
  match s.net with
  | .checking => some { s with net := if s.goesOn then .locking else .ended }
  | .locking =>
      if s.socketLocked then none else some { s with socketLocked := true, net := .locked }
  | .locked =>
      if s.goesOn then some { s with net := .receiving }
      else some { s with socketLocked := false, net := .ended }
  | .receiving =>
      match s.socket, received with
      -- a closed socket fails at once, an open one waits
      | none, _ => some (s.netReceived none)
      | some false, none => none
      | some _, received => some (s.netReceived received)
  | .storePacketTime bytes =>
      some { s with lastPacketTimeMs := s.clock, net := .deliver bytes }
  | .deliver bytes =>
      if isDisconnect bytes then some { s with isRunning := false, net := .ended }
      else some { s with net := .checking }
  | .ended => none

/-! ## The heartbeat thread -/

/-- The watchdog's test, with unsigned 64-bit subtraction. -/
def timedOut (s : ClientLifecycle) (nowMs lastPacket : Clock) : Bool :=
  !s.stopRequested && decide (lastPacket.toNat > 0) &&
    decide ((nowMs - lastPacket).toNat > s.config.reconnectTimeoutMs)

/-- The end of an attempt of `perform_handshake`. -/
def handshakeReceived (received : Option Datagram) (retries : Nat) : HeartbeatLoop :=
  match received.map fun datagram => handshakeReply (receiveFrom 4096 datagram) with
  | some (.accepted _) | some .rejected => .storePacketTime
  | some .ignored | none => .attempt retries

/-- One step of `heartbeat_thread`. -/
def heartbeatStep (s : ClientLifecycle) (received : Option Datagram) (opens : Bool) :
    Option ClientLifecycle :=
  match s.heartbeat with
  | .checking => some { s with heartbeat := if s.goesOn then .ping else .ended }
  | .ping =>
      if s.socketLocked then none
      else if s.goesOn then
        some { s.sendTo .heartbeatPing opens with heartbeat := .readClock }
      else some { s with heartbeat := .ended }
  | .readClock => some { s with heartbeat := .loadPacketTime s.clock }
  | .loadPacketTime nowMs => some { s with heartbeat := .compare nowMs s.lastPacketTimeMs }
  | .compare nowMs lastPacket =>
      some { s with heartbeat := if s.timedOut nowMs lastPacket then .handshake else .checking }
  | .handshake =>
      some { s with heartbeat := if s.stopRequested then .storePacketTime else .setTimeout }
  | .setTimeout =>
      some { s with
        socket := s.socket.map fun _ => true
        heartbeat := .attempt handshakeRetries }
  | .attempt 0 => some { s with heartbeat := .storePacketTime }
  | .attempt (retries + 1) =>
      some { s with heartbeat := if s.stopRequested then .storePacketTime else .send retries }
  | .send retries => some { s.sendTo .connectReq opens with heartbeat := .receive retries }
  | .receive retries =>
      match s.socket with
      | none => some { s with heartbeat := .attempt retries }
      | some timed => some { s with heartbeat := .receiving timed retries }
  | .receiving timed retries =>
      if received.isNone && !timed then none
      else some { s with heartbeat := handshakeReceived received retries }
  | .storePacketTime => some { s with lastPacketTimeMs := s.clock, heartbeat := .checking }
  | .ended => none

/-! ## The other loops, and `stop()` -/

/-- `audio_playback_thread`, whose body always returns. -/
def playbackStep (s : ClientLifecycle) : Option ClientLifecycle :=
  match s.playback with
  | .checking => some { s with playback := .check s.isRunning }
  | .body => some { s with playback := .checking }
  | .ended => none

/-- `usb_relay_thread_fn`. -/
def relayStep (s : ClientLifecycle) (round : RelayRound) : Option ClientLifecycle :=
  match s.relay with
  | .checking => some { s with relay := .check !s.stopRequested }
  | .body =>
      match round, s.queued with
      | .forwards, message :: queued =>
          some { s with
            queued := queued
            tunnelled := message :: s.tunnelled
            relay := .checking }
      | .loses, _ :: queued => some { s with queued := queued, relay := .checking }
      | _, _ => some { s with relay := .checking }
  | .ended => none

/-- One step of `stop()`. -/
def stopStep (s : ClientLifecycle) : Option ClientLifecycle :=
  match s.stop with
  | .notCalled =>
      if s.state = .stopped ∧ s.isRunning = false then some { s with stop := .returned }
      else some { s with stopRequested := true, stop := .clearRunning }
  | .clearRunning => some { s with isRunning := false, stop := .sendDisconnect }
  | .sendDisconnect =>
      if s.socketLocked then none
      else if s.socket.isSome then some { s.put .disconnectReq with stop := .closeSocket }
      else some { s with stop := .closeSocket }
  | .closeSocket =>
      if s.socketLocked then none else some { s with socket := none, stop := .joinPlayback }
  | .joinPlayback => if s.playback = .ended then some { s with stop := .joinNet } else none
  | .joinNet => if s.net = .ended then some { s with stop := .joinHeartbeat } else none
  | .joinHeartbeat => if s.heartbeat = .ended then some { s with stop := .joinRelay } else none
  | .joinRelay => if s.relay = .ended then some { s with stop := .setStopped } else none
  | .setStopped => some { s with state := .stopped, stop := .returned }
  | .returned => none

inductive Action where
  | tick (nowMs : Clock)
  | net (received : Option Datagram)
  | heartbeat (received : Option Datagram) (opens : Bool)
  | playback
  | relay (round : RelayRound)
  | stop
  deriving DecidableEq, Repr

def step (s : ClientLifecycle) : Action → Option ClientLifecycle
  | .tick nowMs => if s.clock ≤ nowMs then some { s with clock := nowMs } else none
  | .net received => s.netStep received
  | .heartbeat received opens => s.heartbeatStep received opens
  | .playback => s.playbackStep
  | .relay round => s.relayStep round
  | .stop => s.stopStep

/-- The order of the places of `stop()`. -/
def StopStep.phase : StopStep → Nat
  | .notCalled => 0
  | .clearRunning => 1
  | .sendDisconnect => 2
  | .closeSocket => 3
  | .joinPlayback => 4
  | .joinNet => 5
  | .joinHeartbeat => 6
  | .joinRelay => 7
  | .setStopped => 8
  | .returned => 9

end ClientLifecycle

end AudioRouter
