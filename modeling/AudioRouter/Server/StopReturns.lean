import AudioRouter.Server.Handlers
import AudioRouter.Server.Stop

/-!
# `stop()` returns

Once `stop()` has been called, no thread begins anything long: the network thread takes at
most one more datagram, and every other step brings a thread closer to the end of its loop.
The threads that `stop()` waits for never wait for each other.
-/

namespace AudioRouter

open Server

namespace Server

/-! ## Steps that a thread has left -/

/-- Steps left in `disconnect_client`. -/
def DisconnectStep.left : DisconnectStep → Nat
  | .checkState => 4
  | .checkActive => 3
  | .clearActive => 2
  | .setListening => 1

/-- Steps left in `handle_connect_req`. -/
def ConnectStep.left : ConnectStep → Nat
  | .lock => 13
  | .checkState => 12
  | .checkActive => 11
  | .readClock => 10
  | .compareActivity _ => 9
  | .setActive => 8
  | .readActivityClock => 7
  | .setActivity _ => 6
  | .resetSequence => 5
  | .startCapture => 4
  | .mutePcSpeaker => 3
  | .setStreaming _ => 2
  | .sendAck _ => 1

def HeartbeatStep.left : HeartbeatStep → Nat
  | .checkActive => 4
  | .readClock => 3
  | .setActivity _ => 2
  | .reply => 1

def NetThread.left : NetThread → Nat
  | .idle => 0
  | .discovery _ => 1
  | .connect _ pc => pc.left
  | .disconnectLock _ => 6
  | .disconnectCompare _ => 5
  | .disconnect pc => pc.left
  | .heartbeat _ _ _ pc => pc.left
  | .control _ _ => 1

def WatchdogThread.left : WatchdogThread → Nat
  | .sleeping => 0
  | .checkState => 9
  | .readClock => 8
  | .loadActivity _ => 7
  | .compare _ _ => 6
  | .lock => 5
  | .disconnect pc => pc.left

def RelayThread.left : RelayThread → Nat
  | .relaying => 0
  | .disconnect pc => pc.left

/-- Steps of `stop()` itself. -/
def StopStep.left : StopStep → Nat
  | .notCalled => 14
  | .disconnect pc => pc.left + 9
  | .stopCapture => 9
  | .joinCapture => 8
  | .closeSocket => 7
  | .joinNet => 6
  | .joinWatchdog => 5
  | .joinRelay => 4
  | .unmutePcSpeaker => 3
  | .shutdownEndpoint => 2
  | .setStopped => 1
  | .returned => 0

section

variable {s t : Server} {o : Outcome}

theorem disconnectStep_left {u : Server} {sendAck : Bool} {pc next : DisconnectStep}
    (stepped : s.disconnectStep sendAck pc = (u, some next)) : next.left + 1 ≤ pc.left := by
  cases pc with
  | checkState =>
    rw [disconnectStep] at stepped
    split at stepped <;> cases stepped
    decide
  | checkActive =>
    rw [disconnectStep] at stepped
    split at stepped <;> cases stepped
    decide
  | clearActive =>
    cases stepped
    decide
  | setListening => cases stepped

theorem DisconnectStep.left_pos (pc : DisconnectStep) : 0 < pc.left := by
  cases pc <;> decide

theorem connectStep_left {sender : Address} {pc : ConnectStep}
    (stepped : s.connectStep o sender pc = some t) : t.net.left + 1 ≤ pc.left := by
  cases pc with
  | lock =>
    rw [connectStep] at stepped
    split at stepped <;> cases stepped
    simp [enterConnect, NetThread.left, ConnectStep.left]
  | checkState | checkActive =>
    cases stepped
    simp only [enterConnect, NetThread.left]
    split <;> decide
  | compareActivity nowMs =>
    rw [connectStep] at stepped
    split at stepped <;> cases stepped <;>
      simp [enterConnect, unlockNet, NetThread.left, ConnectStep.left]
  | startCapture =>
    rw [connectStep] at stepped
    split at stepped
    · cases stepped
      simp [enterConnect, NetThread.left, ConnectStep.left]
    · cases started : o.captureStart with
      | none | some actual =>
        rw [started] at stepped
        cases stepped
        simp [enterConnect, unlockNet, NetThread.left, ConnectStep.left]
  | mutePcSpeaker =>
    rw [connectStep] at stepped
    split at stepped <;> cases stepped <;> simp [enterConnect, NetThread.left, ConnectStep.left]
  | readClock | setActive | readActivityClock | setActivity | resetSequence | setStreaming
  | sendAck =>
    cases stepped
    simp [enterConnect, unlockNet, NetThread.left, ConnectStep.left]

theorem netStep_left (stepped : s.netStep o = some t) : t.net.left + 1 ≤ s.net.left := by
  unfold netStep at stepped
  cases thread : s.net with
  | idle =>
    rw [thread] at stepped
    cases stepped
  | discovery sender =>
    rw [thread] at stepped
    cases stepped
    exact Nat.le_refl _
  | connect sender pc =>
    rw [thread] at stepped
    exact connectStep_left stepped
  | disconnectLock sender | disconnectCompare sender =>
    rw [thread] at stepped
    dsimp only at stepped
    split at stepped <;> cases stepped <;>
      simp [unlockNet, NetThread.left, DisconnectStep.left]
  | disconnect pc =>
    rw [thread] at stepped
    dsimp only at stepped
    split at stepped <;> cases stepped
    · next ended => exact disconnectStep_left ended
    · exact pc.left_pos
  | heartbeat sender seqNum payload pc =>
    rw [thread] at stepped
    cases stepped
    cases pc with
    | checkActive =>
      rw [heartbeatStep]
      split <;> simp [NetThread.left, HeartbeatStep.left]
    | readClock | setActivity | reply =>
      simp [heartbeatStep, NetThread.left, HeartbeatStep.left]
  | control sender payload =>
    rw [thread] at stepped
    cases stepped
    rw [handleControlCmd_net]
    exact Nat.le_refl _

theorem dispatch_left (sender : Address) (request : Request) :
    (dispatch sender request).left ≤ 13 := by
  cases request <;> simp [dispatch, NetThread.left, ConnectStep.left, HeartbeatStep.left]

theorem watchdogStep_left (awake : s.watchdog ≠ .sleeping) (stepped : s.watchdogStep = some t) :
    t.watchdog.left + 1 ≤ s.watchdog.left := by
  unfold watchdogStep at stepped
  cases thread : s.watchdog with
  | sleeping => exact absurd thread awake
  | checkState | compare =>
    rw [thread] at stepped
    cases stepped
    dsimp only
    split <;> simp [WatchdogThread.left]
  | readClock | loadActivity =>
    rw [thread] at stepped
    cases stepped
    simp [WatchdogThread.left]
  | lock =>
    rw [thread] at stepped
    dsimp only at stepped
    split at stepped <;> cases stepped
    simp [WatchdogThread.left, DisconnectStep.left]
  | disconnect pc =>
    rw [thread] at stepped
    dsimp only at stepped
    split at stepped <;> cases stepped
    · next ended => exact disconnectStep_left ended
    · exact pc.left_pos

theorem relayStep_left (stepped : s.relayStep = some t) : t.relay.left + 1 ≤ s.relay.left := by
  unfold relayStep at stepped
  cases thread : s.relay with
  | relaying =>
    rw [thread] at stepped
    cases stepped
  | disconnect pc =>
    rw [thread] at stepped
    dsimp only at stepped
    split at stepped <;> cases stepped
    · next ended => exact disconnectStep_left ended
    · exact pc.left_pos

/-! ## Where a thread has to wait -/

/-- The network thread waits for the mutex only. -/
theorem netStep_enabled (o : Outcome) (busy : s.net ≠ .idle) :
    (s.netStep o).isSome ∨ s.clientMutex ≠ none ∧ s.net.locked = false := by
  unfold netStep
  cases thread : s.net with
  | idle => exact absurd thread busy
  | discovery | heartbeat | control => exact Or.inl rfl
  | disconnectCompare sender =>
    dsimp only
    split <;> exact Or.inl rfl
  | disconnect pc =>
    dsimp only
    split <;> exact Or.inl rfl
  | disconnectLock sender =>
    dsimp only
    split
    · exact Or.inl rfl
    · next taken => exact Or.inr ⟨taken, rfl⟩
  | connect sender pc =>
    dsimp only
    cases pc with
    | lock =>
      rw [connectStep]
      split
      · exact Or.inl rfl
      · next taken => exact Or.inr ⟨taken, rfl⟩
    | compareActivity | mutePcSpeaker =>
      rw [connectStep]
      split <;> exact Or.inl rfl
    | startCapture =>
      rw [connectStep]
      split
      · exact Or.inl rfl
      · cases o.captureStart <;> exact Or.inl rfl
    | checkState | checkActive | readClock | setActive | readActivityClock | setActivity
    | resetSequence | setStreaming | sendAck => exact Or.inl rfl

/-- So does the watchdog. -/
theorem watchdogStep_enabled (s : Server) :
    s.watchdogStep.isSome ∨ s.clientMutex ≠ none ∧ s.watchdog.locked = false := by
  unfold watchdogStep
  cases s.watchdog with
  | sleeping | checkState | readClock | loadActivity | compare => exact Or.inl rfl
  | lock =>
    dsimp only
    split
    · exact Or.inl rfl
    · next taken => exact Or.inr ⟨taken, rfl⟩
  | disconnect pc =>
    dsimp only
    split <;> exact Or.inl rfl

theorem relayStep_enabled (losing : s.relay ≠ .relaying) : s.relayStep.isSome := by
  unfold relayStep
  cases thread : s.relay with
  | relaying => exact absurd thread losing
  | disconnect pc =>
    dsimp only
    split <;> rfl

theorem captureStep_enabled (o : Outcome) (busy : s.capture ≠ .idle) :
    (s.captureStep o).isSome := by
  unfold captureStep
  cases thread : s.capture with
  | idle => exact absurd thread busy
  | checkState | checkActive | append | send => rfl
  | stamp config =>
    dsimp only
    split <;> rfl

/-- Whoever holds the mutex can go on: one of the two threads always can. -/
theorem Locked.goes_on (locked : Locked s) (o : Outcome) (taken : s.clientMutex ≠ none) :
    (s.net ≠ .idle ∧ (s.netStep o).isSome) ∨ (s.watchdog ≠ .sleeping ∧ s.watchdogStep.isSome) := by
  cases holder : s.clientMutex with
  | none => exact absurd holder taken
  | some thread =>
    cases thread with
    | net =>
      have inside := locked.net.1 holder
      have busy : s.net ≠ .idle := fun idle => by
        rw [idle] at inside
        cases inside
      rcases netStep_enabled o busy with enabled | ⟨_, outside⟩
      · exact Or.inl ⟨busy, enabled⟩
      · rw [inside] at outside
        cases outside
    | watchdog =>
      have inside := locked.watchdog.1 holder
      have awake : s.watchdog ≠ .sleeping := fun sleeping => by
        rw [sleeping] at inside
        cases inside
      rcases s.watchdogStep_enabled with enabled | ⟨_, outside⟩
      · exact Or.inr ⟨awake, enabled⟩
      · rw [inside] at outside
        cases outside

end

end Server

namespace Lifecycle

/-! ## The ranks of the threads -/

/-- Steps that the network thread has left once `is_running_` is false; in `receive_from`
it may take one more datagram. -/
def netRank (s : Lifecycle) : Nat :=
  if s.terminated then 0
  else
    match s.netLoop with
    | .ended => 0
    | .checking => s.server.net.left + 1
    | .waiting => 15

def watchdogRank (s : Lifecycle) : Nat :=
  match s.watchdogLoop with
  | .ended => 0
  | .checking => s.server.watchdog.left + 1
  | .waiting => 11

def relayRank (s : Lifecycle) : Nat :=
  match s.relayLoop with
  | .ended => 0
  | .checking => s.server.relay.left + (if s.relayReady then 1 else 2)
  | .waiting => 3

def rank (s : Lifecycle) : Nat :=
  s.netRank + s.watchdogRank + s.relayRank + s.stop.left

/-- A step of `stop()` or of a thread that it joins, the capture engine's apart. -/
def Action.isService : Action → Bool
  | .body (.net _) | .body .watchdog | .body .relay => true
  | .netCheck | .receiveFails | .watchdogCheck => true
  | .relayStarts _ | .relayCheck | .relayWaits | .stop => true
  | _ => false

/-- A step of the capture engine's thread. -/
def Action.isCapture : Action → Bool
  | .body (.capture _) | .captureCheck | .captureWaits => true
  | _ => false

/-- `stop()` has returned, or the process has been terminated. -/
def Finished (s : Lifecycle) : Prop :=
  s.stop = .returned ∨ s.terminated = true

instance (s : Lifecycle) : Decidable s.Finished :=
  inferInstanceAs (Decidable (_ ∨ _))

/-- `stop()` has been called. -/
structure Stopping (s : Lifecycle) : Prop where
  orderly : s.Orderly
  isRunning : s.isRunning = false

section

variable {s t : Lifecycle}

/-- What a step of the server leaves of the lifecycle. -/
theorem bodyStep_frame {action : Server.Action} (stepped : s.bodyStep action = some t) :
    t.isRunning = s.isRunning ∧ t.stop = s.stop := by
  cases action with
  | net o =>
    rw [bodyStep, netStep] at stepped
    split at stepped
    · split at stepped
      · cases stepped
        exact ⟨rfl, rfl⟩
      · obtain ⟨_, _, rfl⟩ := Option.map_eq_some_iff.1 stepped
        exact ⟨rfl, rfl⟩
    · obtain ⟨_, _, rfl⟩ := Option.map_eq_some_iff.1 stepped
      exact ⟨rfl, rfl⟩
  | captureEnds => cases stepped
  | tick | capture | relay =>
    obtain ⟨_, _, rfl⟩ := Option.map_eq_some_iff.1 stepped
    exact ⟨rfl, rfl⟩
  | receive | captured | tunnelLost =>
    rw [bodyStep] at stepped
    split at stepped
    · obtain ⟨_, _, rfl⟩ := Option.map_eq_some_iff.1 stepped
      exact ⟨rfl, rfl⟩
    · cases stepped
  | watchdog =>
    rw [bodyStep] at stepped
    split at stepped
    · split at stepped
      · obtain ⟨_, _, rfl⟩ := Option.map_eq_some_iff.1 stepped
        exact ⟨rfl, rfl⟩
      · cases stepped
    · obtain ⟨_, _, rfl⟩ := Option.map_eq_some_iff.1 stepped
      exact ⟨rfl, rfl⟩

theorem stopStep_isRunning (off : s.isRunning = false) (stepped : s.stopStep = some t) :
    t.isRunning = false := by
  unfold stopStep at stepped
  cases place : s.stop with
  | notCalled | closeSocket | shutdownEndpoint | setStopped =>
    rw [place] at stepped
    cases stepped
    first | rfl | exact off
  | disconnect pc | stopCapture | joinCapture | joinNet | joinWatchdog | joinRelay
  | unmutePcSpeaker =>
    rw [place] at stepped
    dsimp only at stepped
    split at stepped <;> cases stepped <;> exact off
  | returned =>
    rw [place] at stepped
    cases stepped

/-- The ranks of the loops do not change with the members that they do not name. -/
theorem rank_congr (terminated : t.terminated = s.terminated) (netLoop : t.netLoop = s.netLoop)
    (net : t.server.net = s.server.net)
    (watchdogLoop : t.watchdogLoop = s.watchdogLoop)
    (watchdog : t.server.watchdog = s.server.watchdog)
    (relayLoop : t.relayLoop = s.relayLoop) (relay : t.server.relay = s.server.relay)
    (ready : t.relayReady = s.relayReady) :
    t.netRank = s.netRank ∧ t.watchdogRank = s.watchdogRank ∧ t.relayRank = s.relayRank := by
  unfold netRank watchdogRank relayRank
  rw [terminated, netLoop, net, watchdogLoop, watchdog, relayLoop, relay, ready]
  exact ⟨rfl, rfl, rfl⟩

theorem stopStep_rank (stopping : s.Stopping) (stepped : s.stopStep = some t) :
    t.rank + 1 ≤ s.rank := by
  have begun : s.stop ≠ .notCalled := fun same => by
    have running := stopping.orderly.running.2 same
    rw [stopping.isRunning] at running
    cases running
  have ranks :
      (t.netRank = s.netRank ∧ t.watchdogRank = s.watchdogRank ∧ t.relayRank = s.relayRank) ∧
        t.stop.left + 1 ≤ s.stop.left := by
    unfold stopStep at stepped
    cases place : s.stop with
    | notCalled => exact absurd place begun
    | disconnect pc =>
      rw [place] at stepped
      dsimp only at stepped
      split at stepped <;> cases stepped
      · next moved =>
        rcases disconnectStep_threads moved with ⟨net, watchdog, relay⟩
        have less := disconnectStep_left moved
        refine ⟨rank_congr rfl rfl net rfl watchdog rfl relay rfl, ?_⟩
        simp only [StopStep.left]
        omega
      · next moved =>
        rcases disconnectStep_threads moved with ⟨net, watchdog, relay⟩
        have left := pc.left_pos
        refine ⟨rank_congr rfl rfl net rfl watchdog rfl relay rfl, ?_⟩
        simp only [StopStep.left]
        omega
    | stopCapture | joinCapture | joinNet | joinWatchdog | joinRelay | unmutePcSpeaker =>
      rw [place] at stepped
      dsimp only at stepped
      split at stepped <;> cases stepped <;>
        exact ⟨rank_congr rfl rfl rfl rfl rfl rfl rfl rfl, by simp [StopStep.left]⟩
    | closeSocket | shutdownEndpoint | setStopped =>
      rw [place] at stepped
      cases stepped
      exact ⟨rank_congr rfl rfl rfl rfl rfl rfl rfl rfl, by simp [StopStep.left]⟩
    | returned =>
      rw [place] at stepped
      cases stepped
  rcases ranks with ⟨⟨net, watchdog, relay⟩, less⟩
  unfold rank
  omega

/-! ### Steps in the body of a loop -/

theorem netStep_rank {o : Outcome} (stopping : s.Stopping) (alive : s.terminated ≠ true)
    (stepped : s.netStep o = some t) : t.rank + 1 ≤ s.rank := by
  have inBody (busy : s.server.net ≠ .idle) : s.netLoop = .checking := by
    by_contra outside
    exact busy (stopping.orderly.places.net outside)
  have served {server : Server} (moved : s.server.netStep o = some server) {loop : Loop}
      {joinable : Bool} :
      rank { s with server := server, captureLoop := loop, captureJoinable := joinable } + 1
        ≤ s.rank := by
    have loop := inBody fun idle => by
      rw [Server.netStep, idle] at moved
      cases moved
    have less := netStep_left moved
    have watchdog := (netStep_effect moved).watchdog
    have relay := (netStep_serves moved).2
    simp only [rank, netRank, if_neg alive, watchdogRank, relayRank, loop, watchdog, relay]
    omega
  unfold netStep at stepped
  split at stepped
  · next starts =>
    split at stepped
    · cases stepped
      have loop := inBody fun idle => by simp [startsCapture, idle] at starts
      simp only [rank, netRank, if_neg alive, if_true, watchdogRank, relayRank, loop]
      omega
    · obtain ⟨server, moved, rfl⟩ := Option.map_eq_some_iff.1 stepped
      exact served moved
  · obtain ⟨server, moved, rfl⟩ := Option.map_eq_some_iff.1 stepped
    exact served moved

theorem watchdogStep_rank (stopping : s.Stopping) (stepped : s.bodyStep .watchdog = some t) :
    t.rank + 1 ≤ s.rank := by
  rw [bodyStep] at stepped
  split at stepped
  · next sleeping =>
    split at stepped
    · next waiting =>
      obtain ⟨server, moved, rfl⟩ := Option.map_eq_some_iff.1 stepped
      rw [watchdogStep, sleeping] at moved
      cases moved
      simp only [rank, netRank, watchdogRank, relayRank, waiting, WatchdogThread.left]
      omega
    · cases stepped
  · next awake =>
    obtain ⟨server, moved, rfl⟩ := Option.map_eq_some_iff.1 stepped
    have inBody : s.watchdogLoop = .checking := by
      by_contra outside
      exact awake (stopping.orderly.places.watchdog outside)
    have less := watchdogStep_left awake moved
    rcases watchdogStep_serves moved with ⟨_, net, relay⟩
    simp only [rank, netRank, watchdogRank, relayRank, inBody, net, relay]
    omega

theorem relayStep_rank (stopping : s.Stopping) (stepped : s.bodyStep .relay = some t) :
    t.rank + 1 ≤ s.rank := by
  obtain ⟨server, moved, rfl⟩ := Option.map_eq_some_iff.1 stepped
  have inBody : s.relayLoop = .checking := by
    by_contra outside
    rw [relayStep, stopping.orderly.places.relay outside] at moved
    cases moved
  have less := relayStep_left moved
  rcases relayStep_serves moved with ⟨_, net, watchdog⟩
  simp only [rank, netRank, watchdogRank, relayRank, inBody, net, watchdog]
  omega

/-- The last datagram. -/
theorem receive_rank {sender : Address} {buffer : List UInt8} (stopping : s.Stopping)
    (alive : s.terminated ≠ true) (stepped : s.bodyStep (.receive sender buffer) = some t) :
    t.rank ≤ s.rank := by
  rw [bodyStep] at stepped
  split at stepped
  · next ready =>
    have idle := stopping.orderly.places.net (by simp [ready.1])
    obtain ⟨server, moved, rfl⟩ := Option.map_eq_some_iff.1 stepped
    rw [Server.step, if_pos idle] at moved
    split at moved <;> cases moved
    · simp only [rank, netRank, if_neg alive, watchdogRank, relayRank, ready.1, idle,
        NetThread.left]
      omega
    · next request _ =>
      have few := dispatch_left sender request
      simp only [rank, netRank, if_neg alive, watchdogRank, relayRank, ready.1]
      omega
  · cases stepped

theorem bodyStep_rank {action : Server.Action} (stopping : s.Stopping)
    (alive : s.terminated ≠ true) (stepped : s.bodyStep action = some t) :
    t.rank + (if (Action.body action).isService then 1 else 0) ≤ s.rank := by
  cases action with
  | net o => exact netStep_rank stopping alive stepped
  | watchdog => exact watchdogStep_rank stopping stepped
  | relay => exact relayStep_rank stopping stepped
  | receive sender buffer => exact receive_rank stopping alive stepped
  | captureEnds => cases stepped
  | tunnelLost =>
    rw [bodyStep] at stepped
    split at stepped
    · next ready =>
      rw [stopping.isRunning] at ready
      cases ready.2
    · cases stepped
  | tick nowMs =>
    obtain ⟨server, moved, rfl⟩ := Option.map_eq_some_iff.1 stepped
    rw [Server.step] at moved
    split at moved <;> cases moved
    exact Nat.le_refl _
  | captured data config =>
    rw [bodyStep] at stepped
    split at stepped
    · obtain ⟨server, moved, rfl⟩ := Option.map_eq_some_iff.1 stepped
      rw [Server.step] at moved
      split at moved <;> cases moved
      exact Nat.le_refl _
    · cases stepped
  | capture o =>
    obtain ⟨server, moved, rfl⟩ := Option.map_eq_some_iff.1 stepped
    rcases captureStep_eq moved with ⟨_, _, _, _, _, rfl⟩
    exact Nat.le_refl _

theorem step_rank {action : Action} (stopping : s.Stopping) (stepped : s.step action = some t) :
    t.Stopping ∧ t.rank + (if action.isService then 1 else 0) ≤ s.rank := by
  have orderly := step_orderly stopping.orderly stepped
  have off := stopping.isRunning
  unfold step at stepped
  split at stepped
  · cases stepped
  next alive =>
    cases action with
    | body action =>
      exact
        ⟨⟨orderly, (bodyStep_frame stepped).1.trans off⟩, bodyStep_rank stopping alive stepped⟩
    | stop =>
      exact ⟨⟨orderly, stopStep_isRunning off stepped⟩, stopStep_rank stopping stepped⟩
    | netCheck =>
      dsimp only at stepped
      split at stepped <;> cases stepped
      next ready =>
        refine ⟨⟨orderly, off⟩, ?_⟩
        simp only [rank, netRank, if_neg alive, watchdogRank, relayRank, ready.1, off, Loop.check,
          Action.isService, if_true, Bool.false_eq_true, if_false]
        omega
    | receiveFails =>
      dsimp only at stepped
      split at stepped <;> cases stepped
      next waiting =>
        refine ⟨⟨orderly, off⟩, ?_⟩
        simp only [rank, netRank, if_neg alive, watchdogRank, relayRank, waiting, off,
          Action.isService, if_true, Bool.false_eq_true, if_false]
        omega
    | watchdogCheck =>
      dsimp only at stepped
      split at stepped <;> cases stepped
      next ready =>
        refine ⟨⟨orderly, off⟩, ?_⟩
        simp only [rank, netRank, watchdogRank, relayRank, ready.1, off, Loop.check,
          Action.isService, if_true, Bool.false_eq_true, if_false]
        omega
    | relayStarts ok =>
      dsimp only at stepped
      split at stepped <;> cases stepped
      next ready =>
        refine ⟨⟨orderly, off⟩, ?_⟩
        simp only [rank, netRank, watchdogRank, relayRank, ready.1, ready.2.1, ready.2.2,
          Action.isService, RelayThread.left, if_true, Bool.false_eq_true, if_false]
        cases ok with
        | false =>
          simp only [Bool.false_eq_true, if_false]
          omega
        | true =>
          simp only [if_true]
          omega
    | relayCheck =>
      dsimp only at stepped
      split at stepped <;> cases stepped
      next ready =>
        refine ⟨⟨orderly, off⟩, ?_⟩
        simp only [rank, netRank, watchdogRank, relayRank, ready.1, ready.2.1, off, Loop.check,
          Action.isService, if_true, Bool.false_eq_true, if_false]
        omega
    | relayWaits =>
      dsimp only at stepped
      split at stepped <;> cases stepped
      next waiting =>
        refine ⟨⟨orderly, off⟩, ?_⟩
        have relaying := stopping.orderly.places.relay (by simp [waiting])
        have few : (if s.relayReady = true then 1 else 2) ≤ 2 := by split <;> decide
        simp only [rank, netRank, watchdogRank, relayRank, waiting, relaying, RelayThread.left,
          Action.isService, if_true]
        omega
    | captureCheck | captureWaits =>
      dsimp only at stepped
      split at stepped <;> cases stepped
      exact ⟨⟨orderly, off⟩, Nat.le_refl _⟩

theorem rank_le (begun : s.stop ≠ .notCalled) : s.rank ≤ 45 := by
  have net : s.netRank ≤ 15 := by
    have few : s.server.net.left ≤ 13 := by
      cases s.server.net with
      | idle | discovery | disconnectLock | disconnectCompare | control =>
        simp [NetThread.left]
      | connect sender pc => cases pc <;> simp [NetThread.left, ConnectStep.left]
      | disconnect pc => cases pc <;> simp [NetThread.left, DisconnectStep.left]
      | heartbeat sender seqNum payload pc =>
        cases pc <;> simp [NetThread.left, HeartbeatStep.left]
    unfold netRank
    split
    · omega
    · split <;> omega
  have watchdog : s.watchdogRank ≤ 11 := by
    have few : s.server.watchdog.left ≤ 9 := by
      cases s.server.watchdog with
      | disconnect pc => cases pc <;> simp [WatchdogThread.left, DisconnectStep.left]
      | _ => simp [WatchdogThread.left]
    unfold watchdogRank
    split <;> omega
  have relay : s.relayRank ≤ 6 := by
    have few : s.server.relay.left ≤ 4 := by
      cases s.server.relay with
      | relaying => simp [RelayThread.left]
      | disconnect pc => cases pc <;> simp [RelayThread.left, DisconnectStep.left]
    unfold relayRank
    split
    · omega
    · split <;> omega
    · omega
  have stop : s.stop.left ≤ 13 := by
    cases place : s.stop with
    | notCalled => exact absurd place begun
    | disconnect pc => cases pc <;> simp [StopStep.left, DisconnectStep.left]
    | _ => simp [StopStep.left]
  unfold rank
  omega

/-! ## No deadlock -/

theorem step_isSome {action : Action} (alive : s.terminated ≠ true)
    (enabled : (match action with
      | .body action => s.bodyStep action
      | .stop => s.stopStep
      | _ => none).isSome = true) : (s.step action).isSome := by
  unfold step
  rw [if_neg alive]
  cases action <;> first | exact enabled | cases enabled

theorem net_enabled (o : Outcome) (alive : s.terminated ≠ true)
    (moves : (s.server.netStep o).isSome) : (s.step (.body (.net o))).isSome := by
  refine step_isSome alive ?_
  dsimp only [bodyStep]
  unfold netStep
  split
  · split
    · rfl
    · rwa [Option.isSome_map]
  · rwa [Option.isSome_map]

theorem watchdog_enabled (alive : s.terminated ≠ true) (awake : s.server.watchdog ≠ .sleeping)
    (moves : s.server.watchdogStep.isSome) : (s.step (.body .watchdog)).isSome := by
  refine step_isSome alive ?_
  dsimp only [bodyStep]
  rw [if_neg awake, Option.isSome_map]
  exact moves

/-- A thread that holds the mutex can go on. -/
theorem holder_enabled (orderly : s.Orderly) (alive : s.terminated ≠ true)
    (taken : s.server.clientMutex ≠ none) :
    ∃ action : Action, action.isService = true ∧ (s.step action).isSome := by
  rcases orderly.locked.goes_on {} taken with ⟨_, moves⟩ | ⟨awake, moves⟩
  · exact ⟨.body (.net {}), rfl, net_enabled {} alive moves⟩
  · exact ⟨.body .watchdog, rfl, watchdog_enabled alive awake moves⟩

/-- The network thread gets to the end of its loop. -/
theorem net_goes_on (orderly : s.Orderly) (alive : s.terminated ≠ true)
    (going : s.netLoop ≠ .ended) :
    ∃ action : Action, action.isService = true ∧ (s.step action).isSome := by
  cases loop : s.netLoop with
  | ended => exact absurd loop going
  | waiting => exact ⟨.receiveFails, rfl, by simp [step, alive, loop]⟩
  | checking =>
    by_cases idle : s.server.net = .idle
    · exact ⟨.netCheck, rfl, by simp [step, alive, loop, idle]⟩
    · rcases netStep_enabled {} idle with moves | ⟨taken, _⟩
      · exact ⟨.body (.net {}), rfl, net_enabled {} alive moves⟩
      · exact holder_enabled orderly alive taken

theorem watchdog_goes_on (orderly : s.Orderly) (alive : s.terminated ≠ true)
    (going : s.watchdogLoop ≠ .ended) :
    ∃ action : Action, action.isService = true ∧ (s.step action).isSome := by
  cases loop : s.watchdogLoop with
  | ended => exact absurd loop going
  | waiting =>
    have sleeping := orderly.places.watchdog (by simp [loop])
    exact
      ⟨.body .watchdog, rfl, by simp [step, alive, bodyStep, sleeping, loop, watchdogStep]⟩
  | checking =>
    by_cases sleeping : s.server.watchdog = .sleeping
    · exact ⟨.watchdogCheck, rfl, by simp [step, alive, loop, sleeping]⟩
    · rcases s.server.watchdogStep_enabled with moves | ⟨taken, _⟩
      · exact ⟨.body .watchdog, rfl, watchdog_enabled alive sleeping moves⟩
      · exact holder_enabled orderly alive taken

theorem relay_goes_on (alive : s.terminated ≠ true) (going : s.relayLoop ≠ .ended) :
    ∃ action : Action, action.isService = true ∧ (s.step action).isSome := by
  cases loop : s.relayLoop with
  | ended => exact absurd loop going
  | waiting => exact ⟨.relayWaits, rfl, by simp [step, alive, loop]⟩
  | checking =>
    by_cases relaying : s.server.relay = .relaying
    · cases ready : s.relayReady with
      | false => exact ⟨.relayStarts true, rfl, by simp [step, alive, loop, relaying, ready]⟩
      | true => exact ⟨.relayCheck, rfl, by simp [step, alive, loop, relaying, ready]⟩
    · refine ⟨.body .relay, rfl, step_isSome alive ?_⟩
      dsimp only [bodyStep]
      rw [Option.isSome_map]
      exact relayStep_enabled relaying

theorem capture_goes_on (alive : s.terminated ≠ true) (going : s.captureLoop ≠ .ended) :
    ∃ action : Action, action.isCapture = true ∧ (s.step action).isSome := by
  cases loop : s.captureLoop with
  | ended => exact absurd loop going
  | waiting => exact ⟨.captureWaits, rfl, by simp [step, alive, loop]⟩
  | checking =>
    by_cases idle : s.server.capture = .idle
    · exact ⟨.captureCheck, rfl, by simp [step, alive, loop, idle]⟩
    · refine ⟨.body (.capture {}), rfl, step_isSome alive ?_⟩
      dsimp only [bodyStep]
      rw [Option.isSome_map]
      exact captureStep_enabled {} idle

/-- Until `stop()` returns, some thread that it waits for can take a step. -/
theorem stop_goes_on (orderly : s.Orderly) (going : ¬ s.Finished) :
    (∃ action : Action, action.isService = true ∧ (s.step action).isSome) ∨
      s.stop = .joinCapture ∧
        ∃ action : Action, action.isCapture = true ∧ (s.step action).isSome := by
  have alive : s.terminated ≠ true := fun dead => going (Or.inr dead)
  have itself (moves : s.stopStep.isSome) :
      ∃ action : Action, action.isService = true ∧ (s.step action).isSome :=
    ⟨.stop, rfl, step_isSome alive moves⟩
  cases place : s.stop with
  | returned => exact absurd (Or.inl place) going
  | notCalled | closeSocket | shutdownEndpoint | setStopped =>
    exact Or.inl (itself (by simp [stopStep, place]))
  | disconnect pc =>
    refine Or.inl (itself ?_)
    unfold stopStep
    rw [place]
    dsimp only
    split <;> rfl
  | stopCapture | unmutePcSpeaker =>
    refine Or.inl (itself ?_)
    unfold stopStep
    rw [place]
    dsimp only
    split <;> rfl
  | joinCapture =>
    by_cases ended : s.captureLoop = .ended
    · exact Or.inl (itself (by simp [stopStep, place, ended]))
    · exact Or.inr ⟨rfl, capture_goes_on alive ended⟩
  | joinNet =>
    by_cases ended : s.netLoop = .ended
    · exact Or.inl (itself (by simp [stopStep, place, ended]))
    · exact Or.inl (net_goes_on orderly alive ended)
  | joinWatchdog =>
    by_cases ended : s.watchdogLoop = .ended
    · exact Or.inl (itself (by simp [stopStep, place, ended]))
    · exact Or.inl (watchdog_goes_on orderly alive ended)
  | joinRelay =>
    by_cases ended : s.relayLoop = .ended
    · exact Or.inl (itself (by simp [stopStep, place, ended]))
    · exact Or.inl (relay_goes_on alive ended)

end

/-- `stop()` is called while the phone's `CONNECT_REQ` is in its handler. -/
def stoppedWhileConnecting : List Action :=
  .netCheck :: (connecting.take 4).map .body ++ [.stop]

def connectingStopped : Lifecycle :=
  (Transition.run step (start {} false) stoppedWhileConnecting).getD (start {} false)

end Lifecycle

end AudioRouter
