import AudioRouter.Client.Receive
import AudioRouter.JitterBuffer.Invariant
import AudioRouter.Lib.Transition

/-!
# The client while it streams

`AudioRouterClient` (`client/client.cpp`) after a successful `start()`: the network
thread, the heartbeat thread with its watchdog and the handshake it repeats, and the
calls that the playback thread makes on the jitter buffer.  One step of a thread is
one access to a member that another thread uses.
-/

namespace AudioRouter

namespace Client

open Protocol

structure ClientConfig where
  targetLatencyMs : Nat := 35
  reconnectTimeoutMs : Nat := 5000
  deriving DecidableEq, Repr

structure ClientStats where
  packetsReceived : Nat := 0
  bytesReceived : Nat := 0
  deriving DecidableEq, Repr

/-- A sample in memory; `none` is one behind the end of a datagram. -/
abbrev Sample := Option UInt16

/-- Silence. -/
instance : Zero Sample := ⟨some 0⟩

/-- Where the loop of `network_receive_thread` stands, with the bytes of the datagram
it handles. -/
inductive NetThread where
  | receive
  | readClock (bytes : List UInt8)
  | storePacketTime (bytes : List UInt8) (nowMs : Clock)
  | deliver (bytes : List UInt8)
  | stopped
  deriving DecidableEq, Repr

/-- Where the loop of `heartbeat_thread` stands; `retries` attempts of
`perform_handshake` are left. -/
inductive HeartbeatThread where
  | ping
  | readClock
  | loadPacketTime (nowMs : Clock)
  | compare (nowMs lastPacket : Clock)
  | handshake (retries : Nat)
  | readClockAgain
  | storePacketTime (nowMs : Clock)
  | sleeping
  | stopped
  deriving DecidableEq, Repr

end Client

open Client

/-- The members of `AudioRouterClient` that the threads use, the threads, and the
clock. -/
structure Client where
  config : ClientConfig := {}
  isRunning : Bool := true
  stopRequested : Bool := false
  audioConfig : AudioConfig
  jitterBuffer : JitterBuffer Sample
  lastPacketTimeMs : Clock
  lastRttUs : UInt32 := 0
  stats : ClientStats := {}
  net : NetThread := .receive
  heartbeat : HeartbeatThread := .ping
  clock : Clock

namespace Client

open Protocol

/-- The client that `start()` leaves behind after a handshake that brought
`audioConfig`. -/
def start (config : ClientConfig) (audioConfig : AudioConfig) (nowMs : Clock) : Client :=
  { config := config
    audioConfig := audioConfig
    jitterBuffer :=
      (JitterBuffer.new config.targetLatencyMs).configure audioConfig
        config.targetLatencyMs
    lastPacketTimeMs := nowMs
    clock := nowMs }

/-! ## The network thread -/

/-- `receive_from` returns; `none` is a timeout. -/
def receiveStep (c : Client) (received : Option Datagram) : Client :=
  if !c.isRunning || c.stopRequested then { c with net := .stopped }
  else
    match received with
    | none => c
    | some datagram =>
        let bytes := receiveFrom 65536 datagram
        if bytes.length < sizeofCommonHeader then c
        else if !isValidHeader (.ofBytes bytes) bytes.length then c
        else { c with net := .readClock bytes }

/-- `sizeof(HeartbeatPayload)`. -/
def sizeofHeartbeatPayload : Nat := 28

/-- The round trip of a `HEARTBEAT_PONG`, if its clock is behind. -/
def rttOf (bytes : List UInt8) (nowUs : UInt64) : Option UInt32 :=
  let origTimestampUs := UInt64.ofNat (LittleEndian.field bytes sizeofCommonHeader 8)
  if bytes.length ≥ sizeofCommonHeader + sizeofHeartbeatPayload ∧
      nowUs > origTimestampUs then
    some (nowUs - origTimestampUs).toUInt32
  else none

/-- The end of the loop body: the counters, and what the type of the message asks
for. -/
def deliverStep (c : Client) (bytes : List UInt8) (nowUs : UInt64) : Client :=
  let msgType := (CommonHeader.ofBytes bytes).msgType
  let c :=
    { c with
      stats :=
        { packetsReceived := c.stats.packetsReceived + 1
          bytesReceived := c.stats.bytesReceived + bytes.length }
      net := .receive }
  if msgType = MsgType.audioData.code then
    match audioCall bytes c.clock with
    | some push => { c with jitterBuffer := (c.jitterBuffer.call push).1 }
    | none => c
  else if msgType = MsgType.heartbeatPong.code then
    { c with lastRttUs := (rttOf bytes nowUs).getD c.lastRttUs }
  else if msgType = MsgType.disconnectAck.code ∨
      msgType = MsgType.disconnectReq.code then
    { c with isRunning := false, net := .stopped }
  else c

/-- One step of `network_receive_thread`. -/
def netStep (c : Client) (received : Option Datagram) (nowUs : UInt64) : Option Client :=
  match c.net with
  | .receive => some (c.receiveStep received)
  | .readClock bytes => some { c with net := .storePacketTime bytes c.clock }
  | .storePacketTime bytes nowMs =>
      some { c with lastPacketTimeMs := nowMs, net := .deliver bytes }
  | .deliver bytes => some (c.deliverStep bytes nowUs)
  | .stopped => none

/-! ## The heartbeat thread -/

/-- The test of the watchdog, with unsigned 64-bit subtraction. -/
def timedOut (c : Client) (nowMs lastPacket : Clock) : Bool :=
  !c.stopRequested && decide (lastPacket.toNat > 0) &&
    decide ((nowMs - lastPacket).toNat > c.config.reconnectTimeoutMs)

/-- One attempt of `perform_handshake`; `none` is a timeout. -/
def handshakeStep (c : Client) (received : Option Datagram) : (retries : Nat) → Client
  | 0 => { c with heartbeat := .readClockAgain }
  | retries + 1 =>
      if c.stopRequested then { c with heartbeat := .readClockAgain }
      else
        match received.map fun datagram => handshakeReply (receiveFrom 4096 datagram) with
        | some (.accepted config) =>
            { c with audioConfig := config, heartbeat := .readClockAgain }
        | some .rejected => { c with heartbeat := .readClockAgain }
        | some .ignored | none => { c with heartbeat := .handshake retries }

/-- One step of `heartbeat_thread`. -/
def heartbeatStep (c : Client) (received : Option Datagram) : Option Client :=
  match c.heartbeat with
  | .ping =>
      some { c with
        heartbeat := if !c.isRunning || c.stopRequested then .stopped else .readClock }
  | .readClock => some { c with heartbeat := .loadPacketTime c.clock }
  | .loadPacketTime nowMs =>
      some { c with heartbeat := .compare nowMs c.lastPacketTimeMs }
  | .compare nowMs lastPacket =>
      some { c with
        heartbeat :=
          if c.timedOut nowMs lastPacket then .handshake handshakeRetries else .sleeping }
  | .handshake retries => some (c.handshakeStep received retries)
  | .readClockAgain => some { c with heartbeat := .storePacketTime c.clock }
  | .storePacketTime nowMs =>
      some { c with lastPacketTimeMs := nowMs, heartbeat := .sleeping }
  | .sleeping => some { c with heartbeat := .ping }
  | .stopped => none

/-- The configuration that an attempt of `perform_handshake` takes over. -/
def acceptedConfig (c : Client) (received : Option Datagram) : (retries : Nat) →
    Option AudioConfig
  | 0 => none
  | _ + 1 =>
      if c.stopRequested then none
      else
        match received.map fun datagram => handshakeReply (receiveFrom 4096 datagram) with
        | some (.accepted config) => some config
        | _ => none

/-! ## What the steps change -/

theorem receiveStep_eq (c : Client) (received : Option Datagram) :
    ∃ net, c.receiveStep received = { c with net := net } ∧
      ∀ bytes nowMs, net = .storePacketTime bytes nowMs →
        c.net = .storePacketTime bytes nowMs := by
  unfold receiveStep
  split
  · exact ⟨_, rfl, nofun⟩
  · cases received with
    | none => exact ⟨c.net, rfl, fun _ _ same => same⟩
    | some datagram =>
      dsimp only
      split_ifs
      · exact ⟨c.net, rfl, fun _ _ same => same⟩
      · exact ⟨c.net, rfl, fun _ _ same => same⟩
      · exact ⟨_, rfl, nofun⟩

/-- What a push or a pop keeps of the jitter buffer. -/
structure KeepsBuffer (b d : JitterBuffer Sample) : Prop where
  config : d.config = b.config
  sound : b.Sound → d.Sound

theorem KeepsBuffer.refl (b : JitterBuffer Sample) : KeepsBuffer b b :=
  ⟨rfl, id⟩

theorem audioCall_keeps {bytes : List UInt8} {nowMs : Clock}
    {push : JitterBuffer.Call Sample} (b : JitterBuffer Sample)
    (handed : audioCall bytes nowMs = some push) : KeepsBuffer b (b.call push).1 := by
  obtain ⟨header, _, rfl⟩ := Option.map_eq_some_iff.1 handed
  exact ⟨b.pushPacket_config _ _ _ _ _, fun sound => sound.call _⟩

theorem pop_keeps (b : JitterBuffer Sample) (numFrames : Nat) (nowMs : Clock) :
    KeepsBuffer b (b.call (.popFrames true numFrames nowMs)).1 :=
  ⟨b.popFrames_config true numFrames nowMs, fun sound => sound.call _⟩

/-- The end of the loop body leaves the times and both configurations alone. -/
theorem deliverStep_eq (c : Client) (bytes : List UInt8) (nowUs : UInt64) :
    ∃ isRunning jitterBuffer lastRttUs stats net,
      c.deliverStep bytes nowUs =
          { c with
            isRunning := isRunning
            jitterBuffer := jitterBuffer
            lastRttUs := lastRttUs
            stats := stats
            net := net } ∧
        KeepsBuffer c.jitterBuffer jitterBuffer ∧
          ∀ bytes nowMs, net ≠ .storePacketTime bytes nowMs := by
  have kept := KeepsBuffer.refl c.jitterBuffer
  unfold deliverStep
  dsimp only
  split_ifs
  · cases handed : audioCall bytes c.clock with
    | none => exact ⟨_, _, _, _, _, rfl, kept, nofun⟩
    | some push =>
      exact ⟨_, _, _, _, _, rfl, audioCall_keeps c.jitterBuffer handed, nofun⟩
  · exact ⟨_, _, _, _, _, rfl, kept, nofun⟩
  · exact ⟨_, _, _, _, _, rfl, kept, nofun⟩
  · exact ⟨_, _, _, _, _, rfl, kept, nofun⟩

theorem handshakeStep_eq (c : Client) (received : Option Datagram) (retries : Nat) :
    ∃ pc,
      c.handshakeStep received retries =
          { c with
            heartbeat := pc
            audioConfig := (c.acceptedConfig received retries).getD c.audioConfig } ∧
        (pc = .readClockAgain ∨ ∃ left, pc = .handshake left) := by
  cases retries with
  | zero => exact ⟨_, rfl, .inl rfl⟩
  | succ retries =>
    rw [handshakeStep, acceptedConfig]
    by_cases stop : c.stopRequested = true
    · rw [if_pos stop, if_pos stop]
      exact ⟨_, rfl, .inl rfl⟩
    · rw [if_neg stop, if_neg stop]
      cases received.map fun datagram => handshakeReply (receiveFrom 4096 datagram) with
      | none => exact ⟨_, rfl, .inr ⟨retries, rfl⟩⟩
      | some reply =>
        cases reply with
        | accepted config => exact ⟨_, rfl, .inl rfl⟩
        | rejected => exact ⟨_, rfl, .inl rfl⟩
        | ignored => exact ⟨_, rfl, .inr ⟨retries, rfl⟩⟩

/-! ## Runs -/

inductive Action where
  /-- Time passes. -/
  | tick (nowMs : Clock)
  | net (received : Option Datagram) (nowUs : UInt64)
  | heartbeat (received : Option Datagram)
  /-- The playback thread calls `pop_frames`. -/
  | pop (numFrames : Nat)
  /-- `stop()` is called. -/
  | stop

def step (c : Client) : Action → Option Client
  | .tick nowMs => if c.clock ≤ nowMs then some { c with clock := nowMs } else none
  | .net received nowUs => c.netStep received nowUs
  | .heartbeat received => c.heartbeatStep received
  | .pop numFrames =>
      some { c with
        jitterBuffer := (c.jitterBuffer.call (.popFrames true numFrames c.clock)).1 }
  | .stop => some { c with stopRequested := true, isRunning := false }

/-- The configuration of the `CONNECT_ACK` that a step accepts. -/
def acceptedBy (c : Client) : Action → Option AudioConfig
  | .heartbeat received =>
      match c.heartbeat with
      | .handshake retries => c.acceptedConfig received retries
      | _ => none
  | _ => none

/-- No step configures the jitter buffer, and a step takes over the configuration that
it accepts. -/
theorem step_keeps {c d : Client} {action : Action} (stepped : c.step action = some d) :
    KeepsBuffer c.jitterBuffer d.jitterBuffer ∧
      d.audioConfig = (c.acceptedBy action).getD c.audioConfig := by
  have kept := KeepsBuffer.refl c.jitterBuffer
  cases action with
  | tick nowMs =>
    simp only [step] at stepped
    split at stepped
    · obtain rfl := Option.some.inj stepped
      exact ⟨kept, rfl⟩
    · cases stepped
  | net received nowUs =>
    simp only [step, netStep] at stepped
    split at stepped
    · obtain rfl := Option.some.inj stepped
      obtain ⟨_, equal, _⟩ := receiveStep_eq c received
      rw [equal]
      exact ⟨kept, rfl⟩
    · obtain rfl := Option.some.inj stepped
      exact ⟨kept, rfl⟩
    · obtain rfl := Option.some.inj stepped
      exact ⟨kept, rfl⟩
    · next bytes _ =>
      obtain rfl := Option.some.inj stepped
      obtain ⟨_, _, _, _, _, equal, delivered, _⟩ := deliverStep_eq c bytes nowUs
      rw [equal]
      exact ⟨delivered, rfl⟩
    · cases stepped
  | heartbeat received =>
    simp only [step, heartbeatStep, acceptedBy] at stepped ⊢
    cases thread : c.heartbeat with
    | handshake retries =>
      rw [thread] at stepped
      obtain rfl := Option.some.inj stepped
      obtain ⟨_, equal, _⟩ := handshakeStep_eq c received retries
      rw [equal]
      exact ⟨kept, rfl⟩
    | stopped =>
      rw [thread] at stepped
      cases stepped
    | _ =>
      rw [thread] at stepped
      obtain rfl := Option.some.inj stepped
      exact ⟨kept, rfl⟩
  | pop numFrames =>
    obtain rfl := Option.some.inj stepped
    exact ⟨pop_keeps c.jitterBuffer numFrames c.clock, rfl⟩
  | stop =>
    obtain rfl := Option.some.inj stepped
    exact ⟨kept, rfl⟩

end Client

end AudioRouter
