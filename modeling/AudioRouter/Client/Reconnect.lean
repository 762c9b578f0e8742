import AudioRouter.Client.Model

/-!
# The watchdog of the heartbeat thread

The heartbeat thread reads the clock, then the time of the last packet, and compares
them by an unsigned subtraction.  A re-handshake is therefore started only after a
silence longer than `reconnect_timeout_ms` unless the network thread records a packet
behind its back: later than a clock that it has read and not yet used, or after it has
loaded the time that makes it decide.
-/

namespace AudioRouter

namespace Client

open Protocol Transition

/-- The client, and the times of the valid packets that the network thread has
recorded. -/
structure Observed where
  client : Client
  recorded : List Clock := []

namespace Observed

/-- The packet time that a step of the network thread stores. -/
def stores (r : Observed) : Action → Option Clock
  | .net _ _ =>
      match r.client.net with
      | .storePacketTime _ nowMs => some nowMs
      | _ => none
  | _ => none

def step (r : Observed) (action : Action) : Option Observed :=
  (r.client.step action).map fun client =>
    { client := client
      recorded := (r.stores action).toList ++ r.recorded }

/-- The step that starts a re-handshake. -/
def startsHandshake (r : Observed) : Action → Bool
  | .heartbeat _ =>
      match r.client.heartbeat with
      | .compare nowMs lastPacket => r.client.timedOut nowMs lastPacket
      | _ => false
  | _ => false

/-- The heartbeat thread holds no older clock that it is going to use, and it is not
about to start a re-handshake. -/
def allowsStore (c : Client) (time : Clock) : Bool :=
  match c.heartbeat with
  | .loadPacketTime nowMs | .storePacketTime nowMs => decide (time ≤ nowMs)
  | .compare nowMs lastPacket => !c.timedOut nowMs lastPacket
  | _ => true

/-- A packet time is stored only where the heartbeat thread allows it. -/
def StoresInTime (r : Observed) (action : Action) : Prop :=
  (r.stores action).all (allowsStore r.client) = true

instance (r : Observed) (action : Action) : Decidable (r.StoresInTime action) :=
  inferInstanceAs (Decidable (_ = _))

/-- What the heartbeat thread knows of the packets at each of its steps. -/
def HeartbeatKnows (c : Client) (recorded : List Clock) : HeartbeatThread → Prop
  | .loadPacketTime nowMs => c.lastPacketTimeMs ≤ nowMs ∧ nowMs ≤ c.clock
  | .compare nowMs lastPacket =>
      c.timedOut nowMs lastPacket = true →
        lastPacket = c.lastPacketTimeMs ∧ lastPacket ≤ nowMs ∧ nowMs ≤ c.clock
  | .storePacketTime nowMs => nowMs ≤ c.clock ∧ ∀ time ∈ recorded, time ≤ nowMs
  | _ => True

/-- The times that are recorded have passed, and the member holds the latest. -/
structure Sound (r : Observed) : Prop where
  past : r.client.lastPacketTimeMs ≤ r.client.clock
  latest : ∀ time ∈ r.recorded, time ≤ r.client.lastPacketTimeMs
  pending :
    ∀ bytes nowMs, r.client.net = .storePacketTime bytes nowMs →
      nowMs ≤ r.client.clock ∧ ∀ time ∈ r.recorded, time ≤ nowMs
  heartbeat : HeartbeatKnows r.client r.recorded r.client.heartbeat

section

variable {r s : Observed} {c d : Client} {recorded : List Clock}

/-- What the heartbeat thread knows stays true when time passes and other members
change. -/
theorem HeartbeatKnows.mono {pc : HeartbeatThread} (knows : HeartbeatKnows c recorded pc)
    (config : d.config = c.config) (stop : d.stopRequested = false → c.stopRequested = false)
    (time : d.lastPacketTimeMs = c.lastPacketTimeMs) (clock : c.clock ≤ d.clock) :
    HeartbeatKnows d recorded pc := by
  cases pc with
  | loadPacketTime nowMs =>
    refine ⟨?_, BitVec.le_trans knows.2 clock⟩
    rw [time]
    exact knows.1
  | compare nowMs lastPacket =>
    intro late
    have lateBefore : c.timedOut nowMs lastPacket = true := by
      simp only [timedOut, Bool.and_eq_true, Bool.not_eq_true', config] at late ⊢
      exact ⟨⟨stop late.1.1, late.1.2⟩, late.2⟩
    obtain ⟨loaded, order, before⟩ := knows lateBefore
    exact ⟨by rw [loaded, time], order, BitVec.le_trans before clock⟩
  | storePacketTime nowMs => exact ⟨BitVec.le_trans knows.1 clock, knows.2⟩
  | _ => trivial

/-- Steps that leave the packet time alone. -/
theorem Sound.frame (sound : r.Sound) (config : d.config = r.client.config)
    (stop : d.stopRequested = false → r.client.stopRequested = false)
    (time : d.lastPacketTimeMs = r.client.lastPacketTimeMs)
    (clock : r.client.clock ≤ d.clock) (heartbeat : d.heartbeat = r.client.heartbeat)
    (net :
      ∀ bytes nowMs, d.net = .storePacketTime bytes nowMs →
        r.client.net = .storePacketTime bytes nowMs) :
    Sound { client := d, recorded := r.recorded } where
  past := by
    dsimp only
    rw [time]
    exact BitVec.le_trans sound.past clock
  latest := by
    dsimp only
    rw [time]
    exact sound.latest
  pending := by
    intro bytes nowMs thread
    obtain ⟨before, order⟩ := sound.pending bytes nowMs (net bytes nowMs thread)
    exact ⟨BitVec.le_trans before clock, order⟩
  heartbeat := by
    dsimp only
    rw [heartbeat]
    exact sound.heartbeat.mono config stop time clock

/-! ## The network thread -/

/-- The network thread stores a packet time. -/
theorem store_sound {bytes : List UInt8} {nowMs : Clock} (sound : r.Sound)
    (thread : r.client.net = .storePacketTime bytes nowMs)
    (allowed : allowsStore r.client nowMs = true) :
    Sound
      { client := { r.client with lastPacketTimeMs := nowMs, net := .deliver bytes }
        recorded := nowMs :: r.recorded } where
  past := (sound.pending bytes nowMs thread).1
  latest := by
    intro time member
    rcases List.mem_cons.1 member with rfl | earlier
    · exact BitVec.le_refl _
    · exact (sound.pending bytes nowMs thread).2 time earlier
  pending := nofun
  heartbeat := by
    have knows := sound.heartbeat
    unfold allowsStore at allowed
    dsimp only
    cases pc : r.client.heartbeat with
    | loadPacketTime readMs =>
      rw [pc] at allowed knows
      exact ⟨of_decide_eq_true allowed, knows.2⟩
    | compare readMs lastPacket =>
      rw [pc] at allowed
      intro late
      have early : r.client.timedOut readMs lastPacket = false := by simpa using allowed
      have lateBefore : r.client.timedOut readMs lastPacket = true := late
      rw [early] at lateBefore
      cases lateBefore
    | storePacketTime readMs =>
      rw [pc] at allowed knows
      refine ⟨knows.1, fun time member => ?_⟩
      rcases List.mem_cons.1 member with rfl | earlier
      · exact of_decide_eq_true allowed
      · exact knows.2 time earlier
    | _ => trivial

theorem net_sound {received : Option Datagram} {nowUs : UInt64} (sound : r.Sound)
    (inTime : r.StoresInTime (.net received nowUs))
    (stepped : r.client.netStep received nowUs = some d) :
    Sound
      { client := d, recorded := (r.stores (.net received nowUs)).toList ++ r.recorded } := by
  have same : r.client.clock ≤ r.client.clock := BitVec.le_refl _
  unfold netStep at stepped
  unfold StoresInTime at inTime
  simp only [stores] at inTime ⊢
  cases thread : r.client.net with
  | receive =>
    rw [thread] at stepped
    obtain rfl := Option.some.inj stepped
    obtain ⟨_, equal, kept⟩ := receiveStep_eq r.client received
    rw [equal]
    exact sound.frame rfl id rfl same rfl kept
  | readClock bytes =>
    rw [thread] at stepped
    obtain rfl := Option.some.inj stepped
    refine ⟨sound.past, sound.latest, ?_, sound.heartbeat⟩
    intro _ nowMs reads
    injection reads with _ isClock
    subst isClock
    exact ⟨same, fun time member => BitVec.le_trans (sound.latest time member) sound.past⟩
  | storePacketTime bytes nowMs =>
    rw [thread] at stepped inTime
    obtain rfl := Option.some.inj stepped
    exact store_sound sound thread inTime
  | deliver bytes =>
    rw [thread] at stepped
    obtain rfl := Option.some.inj stepped
    obtain ⟨_, _, _, _, _, equal, _, idle⟩ := deliverStep_eq r.client bytes nowUs
    rw [equal]
    exact sound.frame rfl id rfl same rfl fun bytes nowMs pending =>
      absurd pending (idle bytes nowMs)
  | stopped =>
    rw [thread] at stepped
    cases stepped

/-! ## The heartbeat thread -/

/-- The heartbeat thread moves on and leaves the packet time alone. -/
theorem move_sound {pc : HeartbeatThread} {audioConfig : AudioConfig} (sound : r.Sound)
    (knows : HeartbeatKnows r.client r.recorded pc) :
    Sound
      { client := { r.client with heartbeat := pc, audioConfig := audioConfig }
        recorded := r.recorded } where
  past := sound.past
  latest := sound.latest
  pending := sound.pending
  heartbeat := knows.mono rfl id rfl (BitVec.le_refl _)

theorem heartbeat_sound {received : Option Datagram} (sound : r.Sound)
    (stepped : r.client.heartbeatStep received = some d) :
    Sound { client := d, recorded := r.recorded } := by
  have knows := sound.heartbeat
  unfold heartbeatStep at stepped
  cases pc : r.client.heartbeat with
  | ping =>
    rw [pc] at stepped
    obtain rfl := Option.some.inj stepped
    split
    · exact move_sound sound trivial
    · exact move_sound sound trivial
  | readClock =>
    rw [pc] at stepped
    obtain rfl := Option.some.inj stepped
    exact move_sound sound ⟨sound.past, BitVec.le_refl _⟩
  | loadPacketTime nowMs =>
    rw [pc] at stepped knows
    obtain rfl := Option.some.inj stepped
    exact move_sound sound fun _ => ⟨rfl, knows.1, knows.2⟩
  | compare nowMs lastPacket =>
    rw [pc] at stepped
    obtain rfl := Option.some.inj stepped
    split
    · exact move_sound sound trivial
    · exact move_sound sound trivial
  | handshake retries =>
    rw [pc] at stepped
    obtain rfl := Option.some.inj stepped
    obtain ⟨_, equal, ended | ⟨left, goesOn⟩⟩ :=
      handshakeStep_eq r.client received retries
    · rw [equal, ended]
      exact move_sound sound trivial
    · rw [equal, goesOn]
      exact move_sound sound trivial
  | readClockAgain =>
    rw [pc] at stepped
    obtain rfl := Option.some.inj stepped
    refine move_sound sound ⟨BitVec.le_refl _, fun time member => ?_⟩
    exact BitVec.le_trans (sound.latest time member) sound.past
  | storePacketTime nowMs =>
    rw [pc] at stepped knows
    obtain rfl := Option.some.inj stepped
    exact ⟨knows.1, knows.2, sound.pending, trivial⟩
  | sleeping =>
    rw [pc] at stepped
    obtain rfl := Option.some.inj stepped
    exact move_sound sound trivial
  | stopped =>
    rw [pc] at stepped
    cases stepped

/-! ## Runs -/

theorem step_sound {action : Action} (sound : r.Sound) (inTime : r.StoresInTime action)
    (stepped : r.step action = some s) : s.Sound := by
  obtain ⟨d, moved, rfl⟩ := Option.map_eq_some_iff.1 stepped
  have same : r.client.clock ≤ r.client.clock := BitVec.le_refl _
  cases action with
  | tick nowMs =>
    simp only [Client.step] at moved
    split at moved
    · next later =>
      obtain rfl := Option.some.inj moved
      exact sound.frame rfl id rfl later rfl fun _ _ => id
    · cases moved
  | net received nowUs => exact net_sound sound inTime moved
  | heartbeat received => exact heartbeat_sound sound moved
  | pop numFrames =>
    obtain rfl := Option.some.inj moved
    exact sound.frame rfl id rfl same rfl fun _ _ => id
  | stop =>
    obtain rfl := Option.some.inj moved
    refine sound.frame rfl (fun running => ?_) rfl same rfl fun _ _ => id
    cases running

theorem start_sound (config : ClientConfig) (audioConfig : AudioConfig) (nowMs : Clock) :
    Sound { client := start config audioConfig nowMs } where
  past := BitVec.le_refl _
  latest := nofun
  pending := nofun
  heartbeat := trivial

end

/-- In every run whose packet times are stored in time, the heartbeat thread starts a
re-handshake only when every valid packet was recorded longer than
`reconnect_timeout_ms` ago. -/
theorem rehandshake_after_silence (config : ClientConfig) (audioConfig : AudioConfig)
    (nowMs : Clock) (actions : List Action) {r : Observed} {action : Action}
    (inTime :
      EveryStep step StoresInTime { client := start config audioConfig nowMs } actions)
    (reached : run step { client := start config audioConfig nowMs } actions = some r)
    (starts : r.startsHandshake action = true) :
    ∀ time ∈ r.recorded,
      r.client.config.reconnectTimeoutMs < r.client.clock.toNat - time.toNat := by
  have sound : r.Sound :=
    run_invariant (fun _ _ _ sound inTime stepped => step_sound sound inTime stepped)
      actions (start_sound config audioConfig nowMs) inTime reached
  intro time member
  unfold startsHandshake at starts
  split at starts
  · split at starts
    · next readMs lastPacket thread =>
      have knows := sound.heartbeat
      rw [thread] at knows
      obtain ⟨rfl, order, before⟩ := knows starts
      simp only [timedOut, Bool.and_eq_true, decide_eq_true_eq,
        BitVec.toNat_sub_of_le order] at starts
      have latest : time.toNat ≤ r.client.lastPacketTimeMs.toNat :=
        sound.latest time member
      have past : readMs.toNat ≤ r.client.clock.toNat := before
      omega
    · cases starts
  · cases starts

section Runs

/-- A client that was started at 1 ms, after a run. -/
def observe (actions : List Action) : Observed :=
  (run step { client := start {} {} 1 } actions).getD { client := start {} {} 1 }

/-- A valid packet from the server. -/
def pong : Datagram :=
  [0x52, 0x44, 0x55, 0x41, 1, MsgType.heartbeatPong.code] ++ List.replicate 18 0

/-- The network thread records a packet. -/
def recording : List Action :=
  [.net (some pong) 0, .net none 0, .net none 0]

/-- One packet, and then silence until the heartbeat thread is about to decide. -/
def silence : List Action :=
  recording ++ .tick 5002 :: List.replicate 3 (.heartbeat none)

/-- The packet was recorded at 1 ms. -/
theorem silence_reconnects :
    (observe silence).client.config.reconnectTimeoutMs <
      (observe silence).client.clock.toNat - (1 : Clock).toNat := by
  have reached :
      run step { client := start {} {} 1 } silence = some (observe silence) :=
    run_eq_some_getD (by decide +kernel)
  have starts : (observe silence).startsHandshake (.heartbeat none) = true := by
    decide +kernel
  exact
    rehandshake_after_silence {} {} 1 silence (by decide +kernel) reached starts 1
      (by decide +kernel)

/-- A packet is recorded after the heartbeat thread has read the clock and before it
loads the packet time. -/
def packetBehindClock : List Action :=
  .tick 1000 :: List.replicate 2 (.heartbeat none) ++ .tick 1001 :: recording ++
    [.heartbeat none]

/-- The difference wraps, and the client reconnects in the middle of a stream. -/
theorem packet_reconnects :
    ¬ ∀ (config : ClientConfig) (audioConfig : AudioConfig) (nowMs : Clock)
        (actions : List Action) (r : Observed) (action : Action),
        run step { client := start config audioConfig nowMs } actions = some r →
          r.startsHandshake action = true →
            ∀ time ∈ r.recorded,
              r.client.config.reconnectTimeoutMs <
                r.client.clock.toNat - time.toNat := by
  intro claim
  have reached :
      run step { client := start {} {} 1 } packetBehindClock =
        some (observe packetBehindClock) :=
    run_eq_some_getD (by decide +kernel)
  have starts : (observe packetBehindClock).startsHandshake (.heartbeat none) = true := by
    decide +kernel
  have member : (1001 : Clock) ∈ (observe packetBehindClock).recorded := by
    decide +kernel
  have silent := claim {} {} 1 packetBehindClock _ _ reached starts 1001 member
  have clock : (observe packetBehindClock).client.clock = 1001 := by decide +kernel
  rw [clock, Nat.sub_self] at silent
  exact Nat.not_lt_zero _ silent

end Runs

end Observed

end Client

end AudioRouter
