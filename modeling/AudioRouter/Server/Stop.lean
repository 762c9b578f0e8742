import AudioRouter.Server.EndpointControl
import AudioRouter.Server.Lifecycle

/-!
# What `stop()` leaves behind

Once `stop()` has returned, the threads that it joins have ended, the mutex is free, the
server is `STOPPED`, and the speaker of the PC is as it was before `start()`, whatever was
in flight when `stop()` was called.
-/

namespace AudioRouter

open Server

namespace Lifecycle

/-! ## What holds in every reachable state -/

/-- A thread is in the body of its loop only where the loop is in its body. -/
structure Places (s : Lifecycle) : Prop where
  net : s.netLoop ≠ .checking → s.server.net = .idle
  watchdog : s.watchdogLoop ≠ .checking → s.server.watchdog = .sleeping
  relay : s.relayLoop ≠ .checking → s.server.relay = .relaying
  capture : s.captureLoop ≠ .checking → s.server.capture = .idle

/-- What `stop()` has waited for, and has done since. -/
structure Joined (s : Lifecycle) : Prop where
  net : StopStep.joinNet.phase < s.stop.phase → s.netLoop = .ended
  watchdog : StopStep.joinWatchdog.phase < s.stop.phase → s.watchdogLoop = .ended
  relay : StopStep.joinRelay.phase < s.stop.phase → s.relayLoop = .ended
  unmuted :
    StopStep.unmutePcSpeaker.phase < s.stop.phase →
      s.server.config.autoMutePcSpeaker = true →
        ∃ calls, s.server.endpoint = calls ++ [EndpointCall.unmutePcSpeaker]
  shutDown :
    StopStep.shutdownEndpoint.phase < s.stop.phase →
      s.server.config.autoMutePcSpeaker = true → s.endpointOpen = false
  stopped : s.stop = .returned → s.server.state = .stopped

/-- The invariant of the runs. -/
structure Orderly (s : Lifecycle) : Prop where
  locked : Locked s.server
  places : s.Places
  joined : s.Joined
  running : s.isRunning = true ↔ s.stop = .notCalled
  closed : StopStep.closeSocket.phase < s.stop.phase → s.socketOpen = false
  mutes :
    s.server.config.autoMutePcSpeaker = false →
      EndpointCall.mutePcSpeaker ∉ s.server.endpoint
  unjoined : s.captureJoinable = false → s.captureLoop = .ended

section

variable {s t : Lifecycle}

/-- Steps other than those of `stop()`: a loop that has ended stays so, and once all three
have, nobody touches the speaker and the state. -/
theorem Joined.after (joined : s.Joined) (stop : t.stop = s.stop)
    (endpointOpen : t.endpointOpen = s.endpointOpen)
    (net : s.netLoop = .ended → t.netLoop = .ended)
    (watchdog : s.watchdogLoop = .ended → t.watchdogLoop = .ended)
    (relay : s.relayLoop = .ended → t.relayLoop = .ended)
    (config : t.server.config = s.server.config)
    (alone :
      s.netLoop = .ended → s.watchdogLoop = .ended → s.relayLoop = .ended →
        t.server.endpoint = s.server.endpoint ∧ t.server.state = s.server.state) :
    t.Joined := by
  have after (late : StopStep.joinRelay.phase < s.stop.phase) :
      t.server.endpoint = s.server.endpoint ∧ t.server.state = s.server.state := by
    simp only [StopStep.phase] at late
    refine alone (joined.net ?_) (joined.watchdog ?_) (joined.relay late) <;>
      · simp only [StopStep.phase]
        omega
  constructor
  · rw [stop]
    exact fun late => net (joined.net late)
  · rw [stop]
    exact fun late => watchdog (joined.watchdog late)
  · rw [stop]
    exact fun late => relay (joined.relay late)
  · rw [stop, config]
    intro late auto
    have past : StopStep.joinRelay.phase < s.stop.phase := by
      simp only [StopStep.phase] at late ⊢
      omega
    rw [(after past).1]
    exact joined.unmuted late auto
  · rw [stop, config, endpointOpen]
    exact joined.shutDown
  · rw [stop]
    intro returned
    have past : StopStep.joinRelay.phase < s.stop.phase := by
      rw [returned]
      decide
    rw [(after past).2]
    exact joined.stopped returned

theorem mutes_after {s t : Server} (serves : Serves s t)
    (mutes :
      s.config.autoMutePcSpeaker = false → EndpointCall.mutePcSpeaker ∉ s.endpoint) :
    t.config.autoMutePcSpeaker = false → EndpointCall.mutePcSpeaker ∉ t.endpoint := by
  rcases serves.calls with ⟨calls, added, quiet⟩
  rw [serves.config, added, List.mem_append]
  exact fun off => not_or.2 ⟨mutes off, quiet off⟩

/-! ### Steps in the body of a loop -/

theorem netStep_orderly {o : Outcome} (orderly : s.Orderly) (stepped : s.netStep o = some t) :
    t.Orderly := by
  unfold netStep at stepped
  have served {server : Server} (moved : s.server.netStep o = some server) {loop : Loop}
      {joinable : Bool} (capture : loop ≠ .checking → server.capture = .idle)
      (unjoined : joinable = false → loop = .ended) :
      Orderly { s with server := server, captureLoop := loop, captureJoinable := joinable } := by
    rcases netStep_serves moved with ⟨serves, relay⟩
    have effect := netStep_effect moved
    -- a thread with a step to take has not ended
    have inBody : s.netLoop = .checking := by
      by_contra outside
      rw [Server.netStep, orderly.places.net outside] at moved
      cases moved
    refine ⟨Observed.net_locked effect orderly.locked, ?_, ?_, orderly.running, orderly.closed,
      mutes_after serves orderly.mutes, unjoined⟩
    · refine ⟨fun outside => absurd inBody outside, fun outside => ?_, fun outside => ?_, capture⟩
      · exact effect.watchdog.trans (orderly.places.watchdog outside)
      · exact relay.trans (orderly.places.relay outside)
    · refine orderly.joined.after rfl rfl id id id serves.config fun ended => ?_
      rw [inBody] at ended
      cases ended
  split at stepped
  · split at stepped
    · cases stepped
      exact ⟨orderly.locked, ⟨orderly.places.1, orderly.places.2, orderly.places.3,
        orderly.places.4⟩, orderly.joined.after rfl rfl id id id rfl fun _ _ _ => ⟨rfl, rfl⟩,
        orderly.running, orderly.closed, orderly.mutes, orderly.unjoined⟩
    · obtain ⟨server, moved, rfl⟩ := Option.map_eq_some_iff.1 stepped
      exact served moved (fun outside => absurd rfl outside) fun started => by cases started
  · obtain ⟨server, moved, rfl⟩ := Option.map_eq_some_iff.1 stepped
    refine served moved (fun outside => ?_) orderly.unjoined
    exact (netStep_serves moved).1.capture.trans (orderly.places.capture outside)

/-- A step of the watchdog, which is in its body or enters it. -/
theorem watchdogStep_orderly (orderly : s.Orderly) {server : Server} {loop : Loop}
    (moved : s.server.watchdogStep = some server) (entered : loop = .checking)
    (inside : s.watchdogLoop ≠ .ended) :
    Orderly { s with server := server, watchdogLoop := loop } := by
  rcases watchdogStep_serves moved with ⟨serves, net, relay⟩
  refine ⟨watchdogStep_locked orderly.locked moved, ?_, ?_, orderly.running, orderly.closed,
    mutes_after serves orderly.mutes, orderly.unjoined⟩
  · refine ⟨fun outside => ?_, fun outside => absurd entered outside, fun outside => ?_,
      fun outside => ?_⟩
    · exact net.trans (orderly.places.net outside)
    · exact relay.trans (orderly.places.relay outside)
    · exact serves.capture.trans (orderly.places.capture outside)
  · exact
      orderly.joined.after rfl rfl id (fun ended => absurd ended inside) id serves.config
        fun _ ended _ => absurd ended inside

/-- A step of the relay, which is in its body or enters it. -/
theorem relayStep_orderly (orderly : s.Orderly) {server : Server} {loop : Loop}
    (serves : Serves s.server server) (net : server.net = s.server.net)
    (watchdog : server.watchdog = s.server.watchdog)
    (mutex : server.clientMutex = s.server.clientMutex) (entered : loop = .checking)
    (inside : s.relayLoop ≠ .ended) :
    Orderly { s with server := server, relayLoop := loop } := by
  refine ⟨orderly.locked.same mutex net watchdog, ?_, ?_, orderly.running, orderly.closed,
    mutes_after serves orderly.mutes, orderly.unjoined⟩
  · refine ⟨fun outside => ?_, fun outside => ?_, fun outside => absurd entered outside,
      fun outside => ?_⟩
    · exact net.trans (orderly.places.net outside)
    · exact watchdog.trans (orderly.places.watchdog outside)
    · exact serves.capture.trans (orderly.places.capture outside)
  · exact
      orderly.joined.after rfl rfl id id (fun ended => absurd ended inside) serves.config
        fun _ _ ended => absurd ended inside

/-- What the capture callback and the clock leave as it is. -/
structure Beside (s t : Server) : Prop where
  config : t.config = s.config
  endpoint : t.endpoint = s.endpoint
  state : t.state = s.state
  clientMutex : t.clientMutex = s.clientMutex
  net : t.net = s.net
  watchdog : t.watchdog = s.watchdog
  relay : t.relay = s.relay

theorem beside_orderly (orderly : s.Orderly) {server : Server} {loop : Loop}
    (beside : Beside s.server server) (capture : loop ≠ .checking → server.capture = .idle)
    (unjoined : s.captureJoinable = false → loop = .ended) :
    Orderly { s with server := server, captureLoop := loop } := by
  have serves : s.server.config.autoMutePcSpeaker = false →
      EndpointCall.mutePcSpeaker ∉ server.endpoint := by
    rw [beside.endpoint]
    exact orderly.mutes
  refine ⟨orderly.locked.same beside.clientMutex beside.net beside.watchdog, ?_, ?_,
    orderly.running, orderly.closed, ?_, unjoined⟩
  · refine ⟨fun outside => ?_, fun outside => ?_, fun outside => ?_, capture⟩
    · exact beside.net.trans (orderly.places.net outside)
    · exact beside.watchdog.trans (orderly.places.watchdog outside)
    · exact beside.relay.trans (orderly.places.relay outside)
  · exact
      orderly.joined.after rfl rfl id id id beside.config
        fun _ _ _ => ⟨beside.endpoint, beside.state⟩
  · dsimp only
    rw [beside.config]
    exact serves

theorem receive_orderly (orderly : s.Orderly) {server : Server} {sender : Address}
    {buffer : List UInt8} (waiting : s.netLoop = .waiting)
    (moved : s.server.step (.receive sender buffer) = some server) :
    Orderly { s with server := server, netLoop := .checking } := by
  have idle : s.server.net = .idle := orderly.places.net (by simp [waiting])
  have open' : s.netLoop ≠ .ended := by simp [waiting]
  rw [Server.step, if_pos idle] at moved
  have served (net : NetThread) (locked : Locked { s.server with net := net }) :
      Orderly { s with server := { s.server with net := net }, netLoop := .checking } := by
    refine ⟨locked, ?_, ?_, orderly.running, orderly.closed, orderly.mutes, orderly.unjoined⟩
    · exact
        ⟨fun outside => absurd rfl outside, orderly.places.watchdog, orderly.places.relay,
          orderly.places.capture⟩
    · exact
        orderly.joined.after rfl rfl (fun ended => absurd ended open') id id rfl
          fun ended => absurd ended open'
  split at moved <;> cases moved
  · exact served s.server.net orderly.locked
  · next request _ =>
    exact served _ (Observed.net_locked (receive_effect idle sender request) orderly.locked)

theorem bodyStep_orderly {action : Server.Action} (orderly : s.Orderly)
    (stepped : s.bodyStep action = some t) : t.Orderly := by
  cases action with
  | net o => exact netStep_orderly orderly stepped
  | captureEnds => cases stepped
  | tick nowMs =>
    obtain ⟨server, moved, rfl⟩ := Option.map_eq_some_iff.1 stepped
    rw [Server.step] at moved
    split at moved <;> cases moved
    exact
      beside_orderly orderly ⟨rfl, rfl, rfl, rfl, rfl, rfl, rfl⟩ orderly.places.capture
        orderly.unjoined
  | receive sender buffer =>
    rw [bodyStep] at stepped
    split at stepped
    · next ready =>
      obtain ⟨server, moved, rfl⟩ := Option.map_eq_some_iff.1 stepped
      exact receive_orderly orderly ready.1 moved
    · cases stepped
  | captured data config =>
    rw [bodyStep] at stepped
    split at stepped
    · next waiting =>
      obtain ⟨server, moved, rfl⟩ := Option.map_eq_some_iff.1 stepped
      rw [Server.step] at moved
      split at moved <;> cases moved
      refine
        beside_orderly orderly ⟨rfl, rfl, rfl, rfl, rfl, rfl, rfl⟩
          (fun outside => absurd rfl outside) fun unjoined => ?_
      rw [orderly.unjoined unjoined] at waiting
      cases waiting
    · cases stepped
  | capture o =>
    obtain ⟨server, moved, rfl⟩ := Option.map_eq_some_iff.1 stepped
    have inBody : s.captureLoop = .checking := by
      by_contra outside
      rw [captureStep, orderly.places.capture outside] at moved
      cases moved
    rcases captureStep_eq moved with ⟨_, _, _, _, _, rfl⟩
    exact
      beside_orderly orderly ⟨rfl, rfl, rfl, rfl, rfl, rfl, rfl⟩
        (fun outside => absurd inBody outside) orderly.unjoined
  | watchdog =>
    rw [bodyStep] at stepped
    split at stepped
    · split at stepped
      · next waiting =>
        obtain ⟨server, moved, rfl⟩ := Option.map_eq_some_iff.1 stepped
        exact watchdogStep_orderly orderly moved rfl (by simp [waiting])
      · cases stepped
    · next awake =>
      obtain ⟨server, moved, rfl⟩ := Option.map_eq_some_iff.1 stepped
      have inBody : s.watchdogLoop = .checking := by
        by_contra outside
        exact awake (orderly.places.watchdog outside)
      exact watchdogStep_orderly orderly moved inBody (by simp [inBody])
  | tunnelLost =>
    rw [bodyStep] at stepped
    split at stepped
    · next ready =>
      obtain ⟨server, moved, rfl⟩ := Option.map_eq_some_iff.1 stepped
      rw [Server.step] at moved
      split at moved <;> cases moved
      exact
        relayStep_orderly orderly (.quiet rfl rfl rfl) rfl rfl rfl rfl (by simp [ready.1])
    · cases stepped
  | relay =>
    obtain ⟨server, moved, rfl⟩ := Option.map_eq_some_iff.1 stepped
    rcases relayStep_serves moved with ⟨serves, net, watchdog⟩
    have inBody : s.relayLoop = .checking := by
      by_contra outside
      rw [relayStep, orderly.places.relay outside] at moved
      cases moved
    have mutex : server.clientMutex = s.server.clientMutex := by
      rcases relayStep_eq moved with ⟨_, _, _, _, _, rfl, _⟩
      rfl
    exact relayStep_orderly orderly serves net watchdog mutex inBody (by simp [inBody])

/-! ### The loops -/

/-- The loops move, their threads stay outside of the bodies. -/
theorem loops_orderly (orderly : s.Orderly) {net watchdog relay capture : Loop} {ready : Bool}
    (places :
      Places { s with
        netLoop := net, watchdogLoop := watchdog, relayLoop := relay, relayReady := ready
        captureLoop := capture })
    (netEnded : s.netLoop = .ended → net = .ended)
    (watchdogEnded : s.watchdogLoop = .ended → watchdog = .ended)
    (relayEnded : s.relayLoop = .ended → relay = .ended)
    (captureEnded : s.captureLoop = .ended → capture = .ended) :
    Orderly { s with
      netLoop := net, watchdogLoop := watchdog, relayLoop := relay, relayReady := ready
      captureLoop := capture } :=
  ⟨orderly.locked, places,
    orderly.joined.after rfl rfl netEnded watchdogEnded relayEnded rfl
      fun _ _ _ => ⟨rfl, rfl⟩,
    orderly.running, orderly.closed, orderly.mutes,
    fun unjoined => captureEnded (orderly.unjoined unjoined)⟩

theorem netLoop_orderly (orderly : s.Orderly) (loop : Loop) (idle : s.server.net = .idle)
    (inside : s.netLoop ≠ .ended) : Orderly { s with netLoop := loop } :=
  loops_orderly orderly ⟨fun _ => idle, orderly.places.2, orderly.places.3, orderly.places.4⟩
    (fun ended => absurd ended inside) id id id

theorem watchdogLoop_orderly (orderly : s.Orderly) (loop : Loop)
    (sleeping : s.server.watchdog = .sleeping) (inside : s.watchdogLoop ≠ .ended) :
    Orderly { s with watchdogLoop := loop } :=
  loops_orderly orderly
    ⟨orderly.places.1, fun _ => sleeping, orderly.places.3, orderly.places.4⟩ id
    (fun ended => absurd ended inside) id id

theorem relayLoop_orderly (orderly : s.Orderly) (loop : Loop) (ready : Bool)
    (relaying : s.server.relay = .relaying) (inside : s.relayLoop ≠ .ended) :
    Orderly { s with relayLoop := loop, relayReady := ready } :=
  loops_orderly orderly
    ⟨orderly.places.1, orderly.places.2, fun _ => relaying, orderly.places.4⟩ id id
    (fun ended => absurd ended inside) id

theorem captureLoop_orderly (orderly : s.Orderly) (loop : Loop)
    (idle : s.server.capture = .idle) (inside : s.captureLoop ≠ .ended) :
    Orderly { s with captureLoop := loop } :=
  loops_orderly orderly ⟨orderly.places.1, orderly.places.2, orderly.places.3, fun _ => idle⟩
    id id id (fun ended => absurd ended inside)

/-! ### The steps of `stop()` -/

/-- `stop()` moves on, and changes what no thread stands on. -/
theorem moveStop_orderly (orderly : s.Orderly) {next : StopStep} {open' joinable : Bool}
    (begun : s.stop ≠ .notCalled) (goes : next ≠ .notCalled)
    (joined : Joined { s with stop := next })
    (closed : StopStep.closeSocket.phase < next.phase → open' = false)
    (unjoined : joinable = false → s.captureLoop = .ended) :
    Orderly { s with stop := next, socketOpen := open', captureJoinable := joinable } := by
  refine ⟨orderly.locked,
    ⟨orderly.places.1, orderly.places.2, orderly.places.3, orderly.places.4⟩,
    ⟨joined.1, joined.2, joined.3, joined.4, joined.5, joined.6⟩, ?_, closed, orderly.mutes,
    unjoined⟩
  have off : s.isRunning = false := by
    rw [← Bool.not_eq_true]
    exact fun running => begun (orderly.running.1 running)
  exact ⟨fun running => absurd (off.symm.trans running) nofun, fun same => absurd same goes⟩

/-- Early on, `stop()` has joined no thread. -/
theorem joined_early (place : StopStep) (same : s.stop = place)
    (early : place.phase ≤ StopStep.joinNet.phase) : s.Joined := by
  subst same
  simp only [StopStep.phase] at early
  constructor
  · exact fun late => absurd late (by simp only [StopStep.phase]; omega)
  · exact fun late => absurd late (by simp only [StopStep.phase]; omega)
  · exact fun late => absurd late (by simp only [StopStep.phase]; omega)
  · exact fun late => absurd late (by simp only [StopStep.phase]; omega)
  · exact fun late => absurd late (by simp only [StopStep.phase]; omega)
  · intro returned
    rw [returned] at early
    exact absurd early (by decide)

theorem disconnect_orderly (orderly : s.Orderly) {server : Server}
    {after : Option DisconnectStep} {pc : DisconnectStep} {next : StopStep}
    (place : s.stop = .disconnect pc) (moved : s.server.disconnectStep true pc = (server, after))
    (goes : next ≠ .notCalled) (early : next.phase ≤ StopStep.stopCapture.phase) :
    Orderly { s with server := server, stop := next } := by
  rcases disconnectStep_threads moved with ⟨net, watchdog, relay⟩
  have serves := disconnectStep_serves_of moved
  simp only [StopStep.phase] at early
  refine ⟨orderly.locked.same (disconnectStep_mutex moved) net watchdog, ?_,
    joined_early next rfl ?_, ?_, ?_, mutes_after serves orderly.mutes, orderly.unjoined⟩
  · refine ⟨fun outside => ?_, fun outside => ?_, fun outside => ?_, fun outside => ?_⟩
    · exact net.trans (orderly.places.net outside)
    · exact watchdog.trans (orderly.places.watchdog outside)
    · exact relay.trans (orderly.places.relay outside)
    · exact serves.capture.trans (orderly.places.capture outside)
  · simp only [StopStep.phase]
    omega
  · have off : s.isRunning ≠ true := fun running => by
      rw [orderly.running.1 running] at place
      cases place
    exact ⟨fun running => absurd running off, fun same => absurd same goes⟩
  · intro late
    simp only [StopStep.phase] at late
    omega

theorem stopStep_orderly (orderly : s.Orderly) (stepped : s.stopStep = some t) :
    t.Orderly := by
  have joined := orderly.joined
  have closed := orderly.closed
  unfold stopStep at stepped
  cases place : s.stop with
  | notCalled =>
    rw [place] at stepped
    cases stepped
    refine ⟨orderly.locked,
      ⟨orderly.places.1, orderly.places.2, orderly.places.3, orderly.places.4⟩,
      joined_early (.disconnect .checkState) rfl (by decide), ⟨nofun, nofun⟩,
      by simp [StopStep.phase],
      orderly.mutes, orderly.unjoined⟩
  | disconnect pc =>
    rw [place] at stepped
    dsimp only at stepped
    split at stepped <;> cases stepped
    · next moved => exact disconnect_orderly orderly place moved nofun (by simp [StopStep.phase])
    · next moved => exact disconnect_orderly orderly place moved nofun (by simp [StopStep.phase])
  | stopCapture =>
    have begun : s.stop ≠ .notCalled := by simp [place]
    rw [place] at stepped
    dsimp only at stepped
    split at stepped <;> cases stepped
    · have stopped : Orderly { s with server := { s.server with capturing := false } } :=
        beside_orderly orderly ⟨rfl, rfl, rfl, rfl, rfl, rfl, rfl⟩ orderly.places.capture
          orderly.unjoined
      exact
        moveStop_orderly stopped begun nofun (joined_early .joinCapture rfl (by decide))
          (by simp [StopStep.phase]) orderly.unjoined
    · exact
        moveStop_orderly orderly begun nofun (joined_early .closeSocket rfl (by decide))
          (by simp [StopStep.phase]) orderly.unjoined
  | joinCapture =>
    rw [place] at stepped
    dsimp only at stepped
    split at stepped <;> cases stepped
    next ended =>
      exact
        moveStop_orderly orderly (by simp [place]) nofun (joined_early .closeSocket rfl (by decide))
          (by simp [StopStep.phase]) fun _ => ended
  | closeSocket =>
    rw [place] at stepped
    cases stepped
    exact
      moveStop_orderly orderly (by simp [place]) nofun (joined_early .joinNet rfl (by decide))
        (fun _ => rfl) orderly.unjoined
  | joinNet =>
    rw [place] at stepped closed
    dsimp only at stepped
    split at stepped <;> cases stepped
    next ended =>
      refine moveStop_orderly orderly (by simp [place]) nofun ?_ (fun _ => closed (by decide))
        orderly.unjoined
      exact
        ⟨fun _ => ended, by simp [StopStep.phase], by simp [StopStep.phase],
          by simp [StopStep.phase], by simp [StopStep.phase], nofun⟩
  | joinWatchdog =>
    have net := joined.net (by rw [place]; decide)
    rw [place] at stepped closed
    dsimp only at stepped
    split at stepped <;> cases stepped
    next ended =>
      refine moveStop_orderly orderly (by simp [place]) nofun ?_ (fun _ => closed (by decide))
        orderly.unjoined
      exact
        ⟨fun _ => net, fun _ => ended, by simp [StopStep.phase],
          by simp [StopStep.phase], by simp [StopStep.phase], nofun⟩
  | joinRelay =>
    have net := joined.net (by rw [place]; decide)
    have watchdog := joined.watchdog (by rw [place]; decide)
    rw [place] at stepped closed
    dsimp only at stepped
    split at stepped <;> cases stepped
    next ended =>
      refine moveStop_orderly orderly (by simp [place]) nofun ?_ (fun _ => closed (by decide))
        orderly.unjoined
      exact
        ⟨fun _ => net, fun _ => watchdog, fun _ => ended, by simp [StopStep.phase],
          by simp [StopStep.phase], nofun⟩
  | unmutePcSpeaker =>
    have net := joined.net (by rw [place]; decide)
    have watchdog := joined.watchdog (by rw [place]; decide)
    have relay := joined.relay (by rw [place]; decide)
    have off : s.isRunning ≠ true := fun running => by
      rw [orderly.running.1 running] at place
      cases place
    rw [place] at stepped closed
    dsimp only at stepped
    split at stepped <;> cases stepped
    · have serves :
          Serves s.server
            { s.server with endpoint := s.server.endpoint ++ [EndpointCall.unmutePcSpeaker] } :=
        .ofUnmute rfl rfl rfl
      exact
        ⟨⟨orderly.locked.1, orderly.locked.2⟩,
          ⟨orderly.places.1, orderly.places.2, orderly.places.3, orderly.places.4⟩,
          ⟨fun _ => net, fun _ => watchdog, fun _ => relay, fun _ _ => ⟨_, rfl⟩,
            by simp [StopStep.phase], nofun⟩,
          ⟨fun running => absurd running off, nofun⟩, fun _ => closed (by decide),
          mutes_after serves orderly.mutes, orderly.unjoined⟩
    · next manual =>
      refine moveStop_orderly orderly (by simp [place]) nofun ?_ (fun _ => closed (by decide))
        orderly.unjoined
      exact
        ⟨fun _ => net, fun _ => watchdog, fun _ => relay, fun _ auto => absurd auto manual,
          fun _ auto => absurd auto manual, nofun⟩
  | shutdownEndpoint =>
    have net := joined.net (by rw [place]; decide)
    have watchdog := joined.watchdog (by rw [place]; decide)
    have relay := joined.relay (by rw [place]; decide)
    have unmuted := joined.unmuted (by rw [place]; decide)
    have off : s.isRunning ≠ true := fun running => by
      rw [orderly.running.1 running] at place
      cases place
    rw [place] at stepped closed
    cases stepped
    exact
      ⟨orderly.locked,
        ⟨orderly.places.1, orderly.places.2, orderly.places.3, orderly.places.4⟩,
        ⟨fun _ => net, fun _ => watchdog, fun _ => relay, fun _ => unmuted, fun _ _ => rfl,
          nofun⟩,
        ⟨fun running => absurd running off, nofun⟩, fun _ => closed (by decide),
        orderly.mutes, orderly.unjoined⟩
  | setStopped =>
    have net := joined.net (by rw [place]; decide)
    have watchdog := joined.watchdog (by rw [place]; decide)
    have relay := joined.relay (by rw [place]; decide)
    have unmuted := joined.unmuted (by rw [place]; decide)
    have shutDown := joined.shutDown (by rw [place]; decide)
    have off : s.isRunning ≠ true := fun running => by
      rw [orderly.running.1 running] at place
      cases place
    rw [place] at stepped closed
    cases stepped
    exact
      ⟨⟨orderly.locked.1, orderly.locked.2⟩,
        ⟨orderly.places.1, orderly.places.2, orderly.places.3, orderly.places.4⟩,
        ⟨fun _ => net, fun _ => watchdog, fun _ => relay, fun _ => unmuted, fun _ => shutDown,
          fun _ => rfl⟩,
        ⟨fun running => absurd running off, nofun⟩, fun _ => closed (by decide),
        orderly.mutes, orderly.unjoined⟩
  | returned =>
    rw [place] at stepped
    cases stepped

/-! ### Runs -/

theorem step_orderly {action : Action} (orderly : s.Orderly)
    (stepped : s.step action = some t) : t.Orderly := by
  unfold step at stepped
  split at stepped
  · cases stepped
  · cases action with
    | body action => exact bodyStep_orderly orderly stepped
    | stop => exact stopStep_orderly orderly stepped
    | netCheck =>
      dsimp only at stepped
      split at stepped <;> cases stepped
      next ready => exact netLoop_orderly orderly _ ready.2 (by simp [ready.1])
    | receiveFails =>
      dsimp only at stepped
      split at stepped <;> cases stepped
      next waiting =>
        exact netLoop_orderly orderly _ (orderly.places.net (by simp [waiting])) (by simp [waiting])
    | watchdogCheck =>
      dsimp only at stepped
      split at stepped <;> cases stepped
      next ready => exact watchdogLoop_orderly orderly _ ready.2 (by simp [ready.1])
    | relayStarts ok =>
      dsimp only at stepped
      split at stepped <;> cases stepped
      next ready => exact relayLoop_orderly orderly _ _ ready.2.2 (by simp [ready.1])
    | relayCheck =>
      dsimp only at stepped
      split at stepped <;> cases stepped
      next ready => exact relayLoop_orderly orderly _ _ ready.2.2 (by simp [ready.1])
    | relayWaits =>
      dsimp only at stepped
      split at stepped <;> cases stepped
      next waiting =>
        exact
          relayLoop_orderly orderly _ _ (orderly.places.relay (by simp [waiting]))
            (by simp [waiting])
    | captureCheck =>
      dsimp only at stepped
      split at stepped <;> cases stepped
      next ready => exact captureLoop_orderly orderly _ ready.2 (by simp [ready.1])
    | captureWaits =>
      dsimp only at stepped
      split at stepped <;> cases stepped
      next waiting =>
        exact
          captureLoop_orderly orderly _ (orderly.places.capture (by simp [waiting]))
            (by simp [waiting])

theorem start_orderly (config : ServerConfig) (usbMode : Bool) :
    (start config usbMode).Orderly := by
  refine ⟨⟨⟨nofun, nofun⟩, ⟨nofun, nofun⟩⟩,
    ⟨fun _ => rfl, fun _ => rfl, fun _ => rfl, fun _ => rfl⟩,
    joined_early .notCalled rfl (by decide), ⟨fun _ => rfl, fun _ => rfl⟩, ?_,
    fun _ => List.not_mem_nil, fun _ => rfl⟩
  simp [start, StopStep.phase]

theorem Reachable.orderly {config : ServerConfig} {usbMode : Bool}
    (reachable : Reachable config usbMode s) : s.Orderly := by
  rcases reachable with ⟨actions, reached⟩
  exact
    Transition.run_preserves (fun s a t => step_orderly) actions
      (start_orderly config usbMode) reached

end

end Lifecycle

/-! ## The speaker -/

namespace AudioEndpointControl

variable {V : Type} [LT V] [DecidableLT V] [Zero V] [One V]

/-- The calls of the server, with the configured method and the volumes that the bits of
the commands stand for. -/
def perform (method : MuteMethod) (level : UInt32 → V) (c : AudioEndpointControl V) :
    EndpointCall → Option (AudioEndpointControl V)
  | .mutePcSpeaker => (c.mutePcSpeaker method).map Prod.snd
  | .unmutePcSpeaker => some c.unmutePcSpeaker.2
  | .setMute mute => some (c.setMute mute).2
  | .setVolume volume => some (c.setVolume (level volume)).2

/-- The device is as the user left it, or a restore makes it so. -/
structure Keeps (method : MuteMethod) (saved : RenderEndpoint V)
    (c : AudioEndpointControl V) : Prop where
  hasEndpoint : c.hasEndpoint = true
  free : c.isSilencedByUs = false → c.device = saved
  silenced :
    c.isSilencedByUs = true →
      c.Silenced saved ∧ c.activeMuteMethod = method ∧ c.writePrevious.device = saved

section

variable {method : MuteMethod} {level : UInt32 → V} {saved : RenderEndpoint V}
  {c d : AudioEndpointControl V}

omit [LT V] [DecidableLT V] [One V] in
/-- Silencing the speaker, for the first time or again, can be undone. -/
theorem Keeps.mute (keeps : c.Keeps method saved) :
    ∃ d, (c.mutePcSpeaker method).map Prod.snd = some d ∧ d.Keeps method saved := by
  have hasEndpoint := keeps.hasEndpoint
  rw [mutePcSpeaker_eq hasEndpoint]
  refine ⟨_, rfl, ?_, nofun, fun _ => ?_⟩
  · cases silent : c.isSilencedByUs <;> simp [savePrevious, silent, hasEndpoint]
  · cases silent : c.isSilencedByUs with
    | false =>
      obtain rfl := keeps.free silent
      refine ⟨?_, rfl, ?_⟩
      · constructor <;> simp [savePrevious, silent, hasEndpoint]
      · cases method <;>
          simp [savePrevious, silent, writePrevious, writeMute, writeVolume, MuteMethod.mutes,
            MuteMethod.zeroesVolume]
    | true =>
      rcases keeps.silenced silent with ⟨kept, rfl, restores⟩
      rw [kept.writePrevious_iff] at restores
      have still :
          Silenced { c.savePrevious with
            activeMuteMethod := c.activeMuteMethod
            isSilencedByUs := true
            device :=
              { muted := if c.activeMuteMethod.mutes then true else c.device.muted
                volume := if c.activeMuteMethod.zeroesVolume then 0 else c.device.volume } }
            saved := by
        constructor <;>
          simp [savePrevious, silent, hasEndpoint, kept.prevMuteState, kept.prevVolumeLevel]
      refine ⟨still, rfl, still.writePrevious_iff.2 ⟨?_, ?_⟩⟩
      · rcases restores.1 with writes | same
        · exact Or.inl writes
        · cases c.activeMuteMethod.mutes <;> simp [same]
      · rcases restores.2 with writes | same
        · exact Or.inl writes
        · cases c.activeMuteMethod.zeroesVolume <;> simp [same]

omit [LT V] [DecidableLT V] [Zero V] [One V] in
theorem Keeps.unmute (keeps : c.Keeps method saved) :
    c.unmutePcSpeaker.2.Keeps method saved ∧ c.unmutePcSpeaker.2.isSilencedByUs = false := by
  cases silent : c.isSilencedByUs with
  | false =>
    have same : c.unmutePcSpeaker.2 = c := by simp [unmutePcSpeaker, silent]
    rw [same]
    exact ⟨keeps, silent⟩
  | true =>
    rcases keeps.silenced silent with ⟨kept, _, restores⟩
    have same : c.unmutePcSpeaker.2 = { c.writePrevious with isSilencedByUs := false } := by
      simp [unmutePcSpeaker, silent, kept.hasEndpoint]
    have hasEndpoint : c.writePrevious.hasEndpoint = true := by
      simp only [writePrevious, writeMute, writeVolume]
      split <;> split <;> exact kept.hasEndpoint
    rw [same]
    exact ⟨⟨hasEndpoint, fun _ => restores, by simp⟩, rfl⟩

/-- Calls of the session handling alone. -/
theorem Keeps.perform (keeps : c.Keeps method saved) {call : EndpointCall}
    (plain : call = .mutePcSpeaker ∨ call = .unmutePcSpeaker) :
    ∃ d, c.perform method level call = some d ∧ d.Keeps method saved := by
  rcases plain with rfl | rfl
  · exact keeps.mute
  · exact ⟨_, rfl, keeps.unmute.1⟩

theorem Keeps.run {calls : List EndpointCall}
    (plain : ∀ call ∈ calls, call = .mutePcSpeaker ∨ call = .unmutePcSpeaker)
    (keeps : c.Keeps method saved) :
    ∃ d, Transition.run (AudioEndpointControl.perform method level) c calls = some d ∧
      d.Keeps method saved := by
  induction calls generalizing c with
  | nil => exact ⟨c, rfl, keeps⟩
  | cons call calls inductionHypothesis =>
    rcases keeps.perform (plain call List.mem_cons_self) with ⟨u, first, next⟩
    rcases inductionHypothesis (fun call later => plain call (List.mem_cons_of_mem _ later))
      next with ⟨d, rest, ends⟩
    exact ⟨d, Transition.run_cons_eq_some.2 ⟨u, first, rest⟩, ends⟩

/-- Calls that only unmute leave a speaker alone that is not silenced. -/
theorem run_unmutes {calls : List EndpointCall} (plain : ∀ call ∈ calls, call = .unmutePcSpeaker)
    (free : c.isSilencedByUs = false) :
    Transition.run (AudioEndpointControl.perform method level) c calls = some c := by
  induction calls with
  | nil => rfl
  | cons call calls inductionHypothesis =>
    obtain rfl := plain call List.mem_cons_self
    have same : c.unmutePcSpeaker.2 = c := by simp [unmutePcSpeaker, free]
    refine Transition.run_cons_eq_some.2 ⟨c, by rw [AudioEndpointControl.perform, same], ?_⟩
    exact inductionHypothesis fun call later => plain call (List.mem_cons_of_mem _ later)

omit [LT V] [DecidableLT V] [Zero V] [One V] in
theorem shutdown_device (free : c.isSilencedByUs = false) : c.shutdown.device = c.device := by
  simp [shutdown, free]

end

end AudioEndpointControl

namespace Lifecycle

/-- The mutex is free where neither of its threads is in a handler. -/
theorem Orderly.mutex_free {s : Lifecycle} (orderly : s.Orderly) (net : s.netLoop = .ended)
    (watchdog : s.watchdogLoop = .ended) : s.server.clientMutex = none := by
  have idle := orderly.places.net (by simp [net])
  have sleeping := orderly.places.watchdog (by simp [watchdog])
  cases holder : s.server.clientMutex with
  | none => rfl
  | some thread =>
    cases thread with
    | net =>
      have locked := orderly.locked.net.1 holder
      rw [idle] at locked
      cases locked
    | watchdog =>
      have locked := orderly.locked.watchdog.1 holder
      rw [sleeping] at locked
      cases locked

open AudioEndpointControl in
/-- The calls of a stopped server leave the device as it was. -/
theorem Orderly.restored {V : Type} [LT V] [DecidableLT V] [Zero V] [One V] {s : Lifecycle}
    (orderly : s.Orderly) (late : StopStep.unmutePcSpeaker.phase < s.stop.phase)
    (method : MuteMethod) (level : UInt32 → V) {c : AudioEndpointControl V}
    (ready : c.hasEndpoint = true) (free : c.isSilencedByUs = false)
    (plain : ∀ call ∈ s.server.endpoint, call = .mutePcSpeaker ∨ call = .unmutePcSpeaker) :
    ∃ d, Transition.run (perform method level) c s.server.endpoint = some d ∧
      d.isSilencedByUs = false ∧ d.device = c.device := by
  have keeps : c.Keeps method c.device := ⟨ready, fun _ => rfl, by simp [free]⟩
  cases auto : s.server.config.autoMutePcSpeaker with
  | false =>
    refine ⟨c, run_unmutes (fun call member => ?_) free, free, rfl⟩
    rcases plain call member with rfl | rfl
    · exact absurd member (orderly.mutes auto)
    · rfl
  | true =>
    rcases orderly.joined.unmuted late auto with ⟨calls, last⟩
    rw [last] at plain ⊢
    have earlier :
        ∃ d, Transition.run (perform method level) c calls = some d ∧
          d.Keeps method c.device :=
      keeps.run fun call member => plain call (List.mem_append_left _ member)
    rcases earlier with ⟨u, before, kept⟩
    refine ⟨_, Transition.run_append_eq_some.2 ⟨u, before, rfl⟩, kept.unmute.2, ?_⟩
    exact kept.unmute.1.free kept.unmute.2

/-- What holds once `stop()` has returned. -/
structure Stopped (s : Lifecycle) : Prop where
  state : s.server.state = .stopped
  isRunning : s.isRunning = false
  socket : s.socketOpen = false
  mutex : s.server.clientMutex = none
  net : s.netLoop = .ended ∧ s.server.net = .idle
  watchdog : s.watchdogLoop = .ended ∧ s.server.watchdog = .sleeping
  relay : s.relayLoop = .ended ∧ s.server.relay = .relaying
  endpoint : s.server.config.autoMutePcSpeaker = true → s.endpointOpen = false

/-- The phone connects, and the server is stopped while it streams. -/
def stoppedWhileStreaming : List Action :=
  .netCheck :: connecting.map .body ++ .stop :: .netCheck :: List.replicate 5 .stop ++
    [.captureCheck, .stop, .stop, .stop, .watchdogCheck] ++ List.replicate 5 .stop

def streamingStopped : Lifecycle :=
  (Transition.run step (start {} false) stoppedWhileStreaming).getD (start {} false)

end Lifecycle

end AudioRouter
