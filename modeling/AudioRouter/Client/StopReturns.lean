import AudioRouter.Client.Stop

/-!
# `stop()` returns, or waits for a datagram

A `perform_handshake` that has passed its test of `stop_requested_` may send its
`CONNECT_REQ` behind `stop()`.  Where the socket is closed by then, `send_to` opens a new
one, on which nobody has set a receive timeout: the heartbeat thread waits there for as
long as no datagram comes, and `stop()` waits for the heartbeat thread.
-/

namespace AudioRouter

namespace ClientLifecycle

open Transition Protocol

/-! ## The socket behind `stop()` -/

/-- A step opens the socket that `stop()` has closed. -/
def reopens (s : ClientLifecycle) : Action → Bool
  | .heartbeat _ opens =>
      match s.heartbeat with
      | .send _ => s.socket.isNone && opens
      | _ => false
  | _ => false

section

variable {s t : ClientLifecycle} {a : Action}

theorem reopens_heartbeat {received : Option Datagram} {opens : Bool}
    (elsewhere : ∀ retries, s.heartbeat ≠ .send retries) :
    s.reopens (.heartbeat received opens) = false := by
  simp only [reopens]

/-- Any other step leaves a socket that is open as it is, or closes it. -/
theorem socket_step (orderly : s.Orderly) (closed : s.socket ≠ some false)
    (stepped : s.step a = some t) : t.socket ≠ some false ↔ s.reopens a = false := by
  cases a with
  | tick nowMs =>
    simp only [step] at stepped
    split at stepped <;> cases stepped
    exact iff_of_true closed rfl
  | net received =>
    rw [(netStep_frame stepped).socket]
    exact iff_of_true closed rfl
  | heartbeat received opens =>
    by_cases sends : ∃ retries, s.heartbeat = .send retries
    · obtain ⟨retries, place⟩ := sends
      have result := (heartbeatStep_send place).symm.trans stepped
      cases result
      simp only [reopens, place, sendTo]
      cases socket : s.socket with
      | some timed =>
        rw [socket] at closed
        simpa [put, socket] using closed
      | none => cases opens <;> simp [put, socket]
    · have elsewhere : ∀ retries, s.heartbeat ≠ .send retries := not_exists.1 sends
      refine iff_of_true ?_ (reopens_heartbeat elsewhere)
      cases (heartbeatStep_cases stepped).2 with
      | quiet same _ =>
        rw [same.socket]
        exact closed
      | timeout _ same _ =>
        rw [same.socket]
        cases s.socket <;> simp
      | ping opens on same _ =>
        rw [same.socket, sendTo_socket_of_open (orderly.opened_of_goesOn on)]
        simp
      | send _ retries place _ _ => exact absurd place (elsewhere retries)
  | playback =>
    simp only [step, playbackStep] at stepped
    split at stepped <;> cases stepped <;> exact iff_of_true closed rfl
  | relay round =>
    obtain ⟨_, _, _, rfl⟩ := relayStep_eq stepped
    exact iff_of_true closed rfl
  | stop =>
    refine iff_of_true ?_ rfl
    rcases (stopStep_frame stepped).socket with same | ⟨-, none⟩
    · rw [same]
      exact closed
    · rw [none]
      simp

/-! ## A heartbeat thread that waits for a datagram -/

/-- The heartbeat thread is about to receive on the socket that it has opened, or does. -/
def Hung (s : ClientLifecycle) : Prop :=
  s.socket = some false ∧
    ∃ retries, s.heartbeat = .receive retries ∨ s.heartbeat = .receiving false retries

/-- A step that brings the heartbeat thread no datagram. -/
def Action.isQuiet : Action → Bool
  | .heartbeat received _ => received.isNone
  | _ => true

theorem hung_of_reopens (reopens : s.reopens a = true) (stepped : s.step a = some t) :
    t.Hung := by
  cases a with
  | heartbeat received opens =>
    simp only [ClientLifecycle.reopens] at reopens
    split at reopens
    · next retries place =>
      rw [Bool.and_eq_true, Option.isNone_iff_eq_none] at reopens
      have result := (heartbeatStep_send place).symm.trans stepped
      cases result
      refine ⟨?_, retries, Or.inl rfl⟩
      simp [sendTo, reopens.1, reopens.2, put]
    · cases reopens
  | _ => cases reopens

theorem Hung.step (hung : s.Hung) (orderly : s.Orderly) (quiet : a.isQuiet = true)
    (stepped : s.step a = some t) : t.Hung := by
  obtain ⟨socket, retries, place⟩ := hung
  cases a with
  | tick nowMs =>
    simp only [ClientLifecycle.step] at stepped
    split at stepped <;> cases stepped
    exact ⟨socket, retries, place⟩
  | net received =>
    have frame := netStep_frame stepped
    rw [Hung, frame.socket, frame.heartbeat]
    exact ⟨socket, retries, place⟩
  | heartbeat received opens =>
    obtain rfl := Option.isNone_iff_eq_none.1 quiet
    rcases place with place | place
    · simp only [ClientLifecycle.step, heartbeatStep, place, socket] at stepped
      cases stepped
      exact ⟨rfl, retries, Or.inr rfl⟩
    · simp [ClientLifecycle.step, heartbeatStep, place] at stepped
  | playback =>
    simp only [ClientLifecycle.step, playbackStep] at stepped
    split at stepped <;> cases stepped <;> exact ⟨socket, retries, place⟩
  | relay round =>
    obtain ⟨_, _, _, rfl⟩ := relayStep_eq stepped
    exact ⟨socket, retries, place⟩
  | stop =>
    have frame := stopStep_frame stepped
    rcases frame.socket with same | ⟨closing, -⟩
    · rw [Hung, same, frame.heartbeat]
      exact ⟨socket, retries, place⟩
    · rw [Orderly, closing] at orderly
      rw [orderly.opened (Nat.le_refl _)] at socket
      cases socket

/-- `stop()` does not return without it. -/
theorem Hung.not_returned (hung : s.Hung) (orderly : s.Orderly) : s.stop ≠ .returned := by
  intro returned
  obtain ⟨-, retries, place⟩ := hung
  rw [Orderly, returned] at orderly
  have ended := orderly.joined.heartbeat (by decide)
  rcases place with place | place
  · rw [ended] at place
    cases place
  · rw [ended] at place
    cases place

/-! ## Nobody else waits for ever -/

theorem netStep_enabled (orderly : s.Orderly) (closed : s.socket ≠ some false)
    (running : s.net ≠ .ended) : (s.netStep none).isSome := by
  have lock := OrderlyAt.lock orderly
  unfold netStep
  cases place : s.net with
  | ended => exact absurd place running
  | checking | storePacketTime => rfl
  | locking =>
    rw [place] at lock
    simp [lock, NetLoop.holds]
  | locked =>
    dsimp only
    split <;> rfl
  | receiving =>
    cases socket : s.socket with
    | none => rfl
    | some timed =>
      cases timed with
      | false => exact absurd socket closed
      | true => rfl
  | deliver bytes =>
    dsimp only
    split <;> rfl

theorem heartbeatStep_enabled (orderly : s.Orderly) (closed : s.socket ≠ some false)
    (free : s.socketLocked = false) (running : s.heartbeat ≠ .ended) :
    (s.heartbeatStep none false).isSome := by
  unfold heartbeatStep
  cases place : s.heartbeat with
  | ended => exact absurd place running
  | ping =>
    dsimp only
    rw [free]
    simp only [Bool.false_eq_true, if_false]
    split <;> rfl
  | attempt retries => cases retries <;> rfl
  | receive retries =>
    dsimp only
    split <;> rfl
  | receiving timed retries =>
    cases timed with
    | false => exact absurd (OrderlyAt.untimed orderly retries place) closed
    | true => rfl
  | _ => rfl

/-- The threads, and steps of theirs that need nothing from outside. -/
def unaided : List Action :=
  [.stop, .net none, .heartbeat none false, .playback, .relay .quiet]

/-- Somebody can go on until `stop()` has returned. -/
theorem goes_on (orderly : s.Orderly) (closed : s.socket ≠ some false)
    (waits : s.stop ≠ .returned) : ∃ a ∈ unaided, (s.step a).isSome := by
  have net (running : s.net ≠ .ended) : ∃ a ∈ unaided, (s.step a).isSome :=
    ⟨.net none, by decide, netStep_enabled orderly closed running⟩
  have stop (enabled : s.stopStep.isSome) : ∃ a ∈ unaided, (s.step a).isSome :=
    ⟨.stop, by decide, enabled⟩
  have locked (taken : s.socketLocked = true) : ∃ a ∈ unaided, (s.step a).isSome := by
    refine net fun ended => ?_
    rw [OrderlyAt.lock orderly, ended] at taken
    cases taken
  unfold stopStep at stop
  cases place : s.stop with
  | returned => exact absurd place waits
  | notCalled =>
    simp only [place] at stop
    exact stop (by split <;> rfl)
  | clearRunning | setStopped =>
    simp only [place] at stop
    exact stop rfl
  | sendDisconnect =>
    simp only [place] at stop
    by_cases taken : s.socketLocked = true
    · exact locked taken
    · rw [if_neg taken] at stop
      exact stop (by split <;> rfl)
  | closeSocket =>
    simp only [place] at stop
    by_cases taken : s.socketLocked = true
    · exact locked taken
    · rw [if_neg taken] at stop
      exact stop rfl
  | joinPlayback =>
    simp only [place] at stop
    by_cases ended : s.playback = .ended
    · rw [if_pos ended] at stop
      exact stop rfl
    · refine ⟨.playback, by decide, ?_⟩
      simp only [step, playbackStep]
      split
      · rfl
      · rfl
      · next same => exact absurd same ended
  | joinNet =>
    simp only [place] at stop
    by_cases ended : s.net = .ended
    · rw [if_pos ended] at stop
      exact stop rfl
    · exact net ended
  | joinHeartbeat =>
    simp only [place] at stop
    by_cases ended : s.heartbeat = .ended
    · rw [if_pos ended] at stop
      exact stop rfl
    · have free : s.socketLocked = false := by
        rw [Orderly, place] at orderly
        rw [orderly.lock, orderly.joined.net (by decide)]
        rfl
      have enabled := heartbeatStep_enabled orderly closed free ended
      exact ⟨.heartbeat none false, by decide, enabled⟩
  | joinRelay =>
    simp only [place] at stop
    by_cases ended : s.relay = .ended
    · rw [if_pos ended] at stop
      exact stop rfl
    · refine ⟨.relay .quiet, by decide, ?_⟩
      simp only [step, relayStep]
      split
      · rfl
      · rfl
      · next same => exact absurd same ended

/-! ## Not for long -/

/-- Steps that each thread has left once both flags are down. -/
def NetLoop.left : NetLoop → Nat
  | .ended => 0
  | .checking | .locked => 1
  | .locking | .deliver _ => 2
  | .storePacketTime _ => 3
  | .receiving => 4

def HeartbeatLoop.left : HeartbeatLoop → Nat
  | .ended => 0
  | .checking | .ping => 1
  | .storePacketTime | .compare _ _ => 2
  | .loadPacketTime _ | .handshake | .attempt _ => 3
  | .readClock | .setTimeout | .receiving _ _ => 4
  | .receive _ => 5
  | .send _ => 6

def Loop.left : Loop → Nat
  | .ended => 0
  | .checking => 1
  | .body => 2

/-- Steps that `stop()` and the threads that it joins have left. -/
def rank (s : ClientLifecycle) : Nat :=
  s.net.left + s.heartbeat.left + s.playback.left + s.relay.left +
    (StopStep.returned.phase - s.stop.phase)

/-- A step of `stop()` or of a thread that it joins. -/
def Action.isService : Action → Bool
  | .tick _ => false
  | _ => true

/-- Both flags are down. -/
structure Stopping (s : ClientLifecycle) : Prop where
  stopRequested : s.stopRequested = true
  isRunning : s.isRunning = false

theorem Stopping.goesOn (stopping : s.Stopping) : s.goesOn = false := by
  rw [ClientLifecycle.goesOn, stopping.isRunning, Bool.false_and]

theorem netStep_left {received : Option Datagram} (stopping : s.Stopping)
    (stepped : s.netStep received = some t) : t.net.left + 1 ≤ s.net.left := by
  unfold netStep at stepped
  cases place : s.net with
  | checking =>
    rw [place, stopping.goesOn] at stepped
    cases stepped
    simp [NetLoop.left]
  | locking =>
    simp only [place] at stepped
    split at stepped <;> cases stepped
    simp [NetLoop.left]
  | locked =>
    simp only [place, stopping.goesOn] at stepped
    cases stepped
    simp [NetLoop.left]
  | receiving =>
    have after (received : Option Datagram) : (s.netReceived received).net.left + 1 ≤ 4 := by
      simp only [netReceived]
      split
      · split <;> decide
      · split
        · decide
        · split
          · decide
          · exact Nat.le_refl _
    simp only [place] at stepped
    split at stepped <;> cases stepped <;> exact after _
  | storePacketTime bytes =>
    simp only [place] at stepped
    cases stepped
    exact Nat.le_refl _
  | deliver bytes =>
    simp only [place] at stepped
    split at stepped <;> cases stepped <;> simp [NetLoop.left]
  | ended => simp [place] at stepped

theorem handshakeReceived_left (received : Option Datagram) (retries : Nat) :
    (handshakeReceived received retries).left ≤ 3 := by
  unfold handshakeReceived
  split <;> simp [HeartbeatLoop.left]

theorem heartbeatStep_left {received : Option Datagram} {opens : Bool} (stopping : s.Stopping)
    (stepped : s.heartbeatStep received opens = some t) :
    t.heartbeat.left + 1 ≤ s.heartbeat.left := by
  unfold heartbeatStep at stepped
  cases place : s.heartbeat with
  | checking =>
    rw [place, stopping.goesOn] at stepped
    cases stepped
    simp [HeartbeatLoop.left]
  | ping =>
    simp only [place, stopping.goesOn] at stepped
    split at stepped <;> cases stepped
    simp [HeartbeatLoop.left]
  | compare nowMs lastPacket =>
    simp only [place, timedOut, stopping.stopRequested] at stepped
    cases stepped
    simp [HeartbeatLoop.left]
  | handshake =>
    simp only [place, stopping.stopRequested] at stepped
    cases stepped
    simp [HeartbeatLoop.left]
  | attempt retries =>
    cases retries with
    | zero =>
      simp only [place] at stepped
      cases stepped
      simp [HeartbeatLoop.left]
    | succ retries =>
      simp only [place, stopping.stopRequested] at stepped
      cases stepped
      simp [HeartbeatLoop.left]
  | receive retries =>
    simp only [place] at stepped
    split at stepped <;> cases stepped <;> simp [HeartbeatLoop.left]
  | receiving timed retries =>
    simp only [place] at stepped
    split at stepped <;> cases stepped
    exact Nat.succ_le_succ (handshakeReceived_left received retries)
  | readClock | loadPacketTime | setTimeout | send | storePacketTime =>
    simp only [place] at stepped
    cases stepped
    simp [HeartbeatLoop.left]
  | ended => simp [place] at stepped

theorem stopStep_stopping (stopping : s.Stopping) (stepped : s.stopStep = some t) :
    t.Stopping := by
  have stopRequested := stopping.stopRequested
  have isRunning := stopping.isRunning
  unfold stopStep at stepped
  split at stepped
  · split at stepped <;> cases stepped
    · exact ⟨stopRequested, isRunning⟩
    · exact ⟨rfl, isRunning⟩
  · cases stepped
    exact ⟨stopRequested, rfl⟩
  · split at stepped
    · cases stepped
    · split at stepped <;> cases stepped <;> exact ⟨stopRequested, isRunning⟩
  · split at stepped <;> cases stepped
    exact ⟨stopRequested, isRunning⟩
  all_goals
    first
    | split at stepped <;> cases stepped <;> exact ⟨stopRequested, isRunning⟩
    | cases stepped <;> exact ⟨stopRequested, isRunning⟩

theorem Stopping.step (stopping : s.Stopping) (stepped : s.step a = some t) :
    t.Stopping ∧ t.rank + (if a.isService then 1 else 0) ≤ s.rank := by
  cases a with
  | tick nowMs =>
    simp only [ClientLifecycle.step] at stepped
    split at stepped <;> cases stepped
    exact ⟨{ stopping with }, Nat.le_refl _⟩
  | net received =>
    have frame := netStep_frame stepped
    have less := netStep_left stopping stepped
    refine ⟨⟨frame.stopRequested.trans stopping.stopRequested, ?_⟩, ?_⟩
    · by_contra running
      have before := frame.isRunning (by simpa using running)
      rw [stopping.isRunning] at before
      cases before
    · simp only [rank, frame.heartbeat, frame.playback, frame.relay, frame.stop,
        Action.isService, if_true]
      omega
  | heartbeat received opens =>
    have frame := (heartbeatStep_cases stepped).1
    have less := heartbeatStep_left stopping stepped
    refine ⟨⟨frame.stopRequested.trans stopping.stopRequested,
      frame.isRunning.trans stopping.isRunning⟩, ?_⟩
    simp only [rank, frame.net, frame.playback, frame.relay, frame.stop, Action.isService,
      if_true]
    omega
  | playback =>
    have ends : Loop.check s.isRunning = .ended := by
      rw [stopping.isRunning]
      rfl
    simp only [ClientLifecycle.step, playbackStep] at stepped
    split at stepped
    · next place =>
      cases stepped
      refine ⟨{ stopping with }, ?_⟩
      simp only [rank, place, ends, Action.isService, if_true, Loop.left]
      omega
    · next place =>
      cases stepped
      refine ⟨{ stopping with }, ?_⟩
      simp only [rank, place, Action.isService, if_true, Loop.left]
      omega
    · cases stepped
  | relay round =>
    have ends : Loop.check (!s.stopRequested) = .ended := by
      rw [stopping.stopRequested]
      rfl
    simp only [ClientLifecycle.step, relayStep] at stepped
    split at stepped
    · next place =>
      cases stepped
      refine ⟨{ stopping with }, ?_⟩
      simp only [rank, place, ends, Action.isService, if_true, Loop.left]
      omega
    · next place =>
      split at stepped <;> cases stepped <;> refine ⟨{ stopping with }, ?_⟩ <;>
        simp only [rank, place, Action.isService, if_true, Loop.left] <;> omega
    · cases stepped
  | stop =>
    have frame := stopStep_frame stepped
    have last : t.stop.phase ≤ StopStep.returned.phase := by
      cases t.stop <;> decide
    have next := frame.phase
    refine ⟨stopStep_stopping stopping stepped, ?_⟩
    simp only [rank, frame.net, frame.heartbeat, frame.playback, frame.relay, Action.isService,
      if_true]
    omega

/-! ## The runs -/

theorem Orderly.stopping (orderly : s.Orderly)
    (begun : StopStep.sendDisconnect.phase ≤ s.stop.phase) : s.Stopping := by
  refine ⟨OrderlyAt.requested orderly |>.2 ?_, OrderlyAt.running orderly begun⟩
  exact Nat.le_trans (by decide) begun

theorem rank_le (begun : StopStep.sendDisconnect.phase ≤ s.stop.phase) : s.rank ≤ 21 := by
  have net : s.net.left ≤ 4 := by cases s.net <;> simp [NetLoop.left]
  have heartbeat : s.heartbeat.left ≤ 6 := by cases s.heartbeat <;> simp [HeartbeatLoop.left]
  have playback : s.playback.left ≤ 2 := by cases s.playback <;> decide
  have relay : s.relay.left ≤ 2 := by cases s.relay <;> decide
  simp only [StopStep.phase] at begun
  simp only [rank, StopStep.phase]
  omega

end

/-- The server has been silent for six seconds, and `stop()` closes the socket while the
heartbeat thread is behind its test of `stop_requested_`. -/
def stoppedInHandshake : List Action :=
  [.tick 6000] ++ List.replicate 8 (.heartbeat none false) ++ List.replicate 4 .stop

def stoppedClient : ClientLifecycle :=
  (run step (start {} false 1) stoppedInHandshake).getD (start {} false 1)

/-- The client behind its next `send_to`. -/
def waitingClient : ClientLifecycle :=
  (stoppedClient.step (.heartbeat none true)).getD stoppedClient

end ClientLifecycle

end AudioRouter
