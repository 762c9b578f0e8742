import AudioRouter.Server.Watchdog
import AudioRouter.Server.Sequence

/-!
# A silent client is dropped

Once the active client has been silent for longer than `client_timeout_ms`, eleven steps of
the watchdog take it out of the session, wherever the watchdog stands and whatever the
other threads do in between, unless a handler stores a new contact.
-/

namespace AudioRouter.Server

open Transition

/-- Where the threads stand in `disconnect_client`. -/
def disconnecting (s : Server) : List DisconnectStep :=
  (match s.net with | .disconnect pc => [pc] | _ => []) ++
    (match s.watchdog with | .disconnect pc => [pc] | _ => []) ++
      (match s.relay with | .disconnect pc => [pc] | _ => [])

/-- Calls of `unmute_pc_speaker`. -/
def unmutes (s : Server) : Nat :=
  s.endpoint.count .unmutePcSpeaker

/-- A step of a handler that stores a contact, or makes its sender the active client. -/
def contacts (s : Server) : Action → Bool
  | .net _ =>
      match s.net with
      | .connect _ .setActive | .connect _ (.setActivity _)
      | .heartbeat _ _ _ (.setActivity _) => true
      | _ => false
  | _ => false

def NoContact (s : Server) (action : Action) : Prop := s.contacts action = false

instance (s : Server) (action : Action) : Decidable (s.NoContact action) :=
  inferInstanceAs (Decidable (_ = _))

def Action.isWatchdog : Action → Bool
  | .watchdog => true
  | _ => false

/-- The client is gone, and the speaker of the PC is on again. -/
structure Dropped (before : Nat) (s : Server) : Prop where
  inactive : s.activeClient = none
  unmuted : s.config.autoMutePcSpeaker = true → before < s.unmutes

/-- The silent client is still served. -/
structure Lingers (client : Address) (before : Nat) (s : Server) : Prop where
  streaming : s.state = .streaming
  active : s.activeClient = some client
  contacted : 0 < s.lastClientActivityTimeMs.toNat
  silent : Observed.Silent s
  least : before ≤ s.unmutes
  /-- A thread that is about to clear the client has unmuted the speaker. -/
  unmuted :
    ∀ pc ∈ s.disconnecting, pc ≠ .setListening ∧
      (pc = .clearActive → s.config.autoMutePcSpeaker = true → before < s.unmutes)

/-- Steps of the watchdog up to the one that clears the silent client. -/
def watchdogSteps (s : Server) : Nat :=
  match s.watchdog with
  | .disconnect .clearActive => 0
  | .disconnect .checkActive => 1
  | .disconnect .checkState => 2
  | .lock => 3
  | .compare nowMs lastActivity => if s.timedOut nowMs lastActivity then 4 else 9
  | .loadActivity nowMs => if s.timedOut nowMs s.lastClientActivityTimeMs then 5 else 10
  | .readClock => 6
  | .checkState => 7
  | .sleeping => 8
  | .disconnect .setListening => 9

section

variable {s t : Server} {client : Address} {before : Nat} {action : Action} {o : Outcome}

theorem watchdogSteps_congr (watchdog : t.watchdog = s.watchdog) (config : t.config = s.config)
    (activity : t.lastClientActivityTimeMs = s.lastClientActivityTimeMs) :
    t.watchdogSteps = s.watchdogSteps := by
  unfold watchdogSteps
  rw [watchdog, Observed.timedOut_congr config, activity]

theorem mem_disconnecting {pc : DisconnectStep} :
    pc ∈ s.disconnecting ↔
      s.net = .disconnect pc ∨ s.watchdog = .disconnect pc ∨ s.relay = .disconnect pc := by
  unfold disconnecting
  rw [List.mem_append, List.mem_append, or_assoc]
  refine or_congr ?_ (or_congr ?_ ?_)
  · cases s.net <;> simp [eq_comm]
  · cases s.watchdog <;> simp [eq_comm]
  · cases s.relay <;> simp [eq_comm]

/-! ## Steps that belong to no disconnect -/

/-- What a step leaves as it is that belongs to no disconnect. -/
structure Aside (s t : Server) : Prop where
  state : t.state = s.state ∨ t.state = .streaming
  activeClient : t.activeClient = s.activeClient
  activity : t.lastClientActivityTimeMs = s.lastClientActivityTimeMs
  clock : s.clock ≤ t.clock
  config : t.config = s.config
  unmutes : s.unmutes ≤ t.unmutes
  disconnecting : ∀ pc ∈ t.disconnecting, pc ∈ s.disconnecting ∨ pc = .checkState

theorem Aside.lingers (aside : Aside s t) (lingers : s.Lingers client before) :
    t.Lingers client before := by
  refine ⟨?_, ?_, ?_, ?_, ?_, ?_⟩
  · rcases aside.state with same | streaming
    · rw [same, lingers.streaming]
    · exact streaming
  · rw [aside.activeClient, lingers.active]
  · rw [aside.activity]
    exact lingers.contacted
  · exact lingers.silent.mono aside.activity aside.clock aside.config
  · exact lingers.least.trans aside.unmutes
  · intro pc member
    rcases aside.disconnecting pc member with old | rfl
    · rcases lingers.unmuted pc old with ⟨early, unmuted⟩
      refine ⟨early, fun clears auto => ?_⟩
      rw [aside.config] at auto
      exact Nat.lt_of_lt_of_le (unmuted clears auto) aside.unmutes
    · exact ⟨by decide, by simp⟩

theorem Aside.dropped (aside : Aside s t) (dropped : s.Dropped before) : t.Dropped before := by
  refine ⟨by rw [aside.activeClient, dropped.inactive], fun auto => ?_⟩
  rw [aside.config] at auto
  exact Nat.lt_of_lt_of_le (dropped.unmuted auto) aside.unmutes

/-- A step of the network thread that keeps the session. -/
theorem Aside.ofNet (same : SameSession s t) (relay : t.relay = s.relay)
    (state : t.state = s.state ∨ t.state = .streaming) (endpoint : s.endpoint <+: t.endpoint)
    (begins : ∀ pc, t.net = .disconnect pc → pc = .checkState) : Aside s t where
  state := state
  activeClient := same.activeClient
  activity := same.activity
  clock := by rw [same.clock]; exact BitVec.le_refl _
  config := same.config
  unmutes := endpoint.sublist.count_le _
  disconnecting pc member := by
    rcases mem_disconnecting.1 member with here | there | there
    · exact Or.inr (begins pc here)
    · rw [same.watchdog] at there
      exact Or.inl (mem_disconnecting.2 (Or.inr (Or.inl there)))
    · rw [relay] at there
      exact Or.inl (mem_disconnecting.2 (Or.inr (Or.inr there)))

/-- A step of the network thread that calls nothing. -/
theorem Aside.quiet (same : SameSession s t) (relay : t.relay = s.relay)
    (state : t.state = s.state) (endpoint : t.endpoint = s.endpoint)
    (begins : ∀ pc, t.net = .disconnect pc → pc = .checkState) : Aside s t :=
  .ofNet same relay (Or.inl state) (endpoint ▸ List.prefix_refl _) begins

theorem connectStep_aside {sender : Address} {pc : ConnectStep}
    (noContact : pc ≠ .setActive ∧ ∀ nowMs, pc ≠ .setActivity nowMs)
    (stepped : s.connectStep o sender pc = some t) : Aside s t := by
  cases pc with
  | setActive => exact absurd rfl noContact.1
  | setActivity nowMs => exact absurd rfl (noContact.2 nowMs)
  | lock =>
    rw [connectStep] at stepped
    split at stepped
    · cases stepped
      exact .quiet ⟨rfl, rfl, rfl, rfl, rfl⟩ rfl rfl rfl fun _ begins => by cases begins
    · cases stepped
  | checkState | checkActive | readClock | readActivityClock | resetSequence | sendAck =>
    cases stepped
    exact .quiet ⟨rfl, rfl, rfl, rfl, rfl⟩ rfl rfl rfl fun _ begins => by cases begins
  | compareActivity nowMs =>
    rw [connectStep] at stepped
    split at stepped <;> cases stepped <;>
      exact .quiet ⟨rfl, rfl, rfl, rfl, rfl⟩ rfl rfl rfl fun _ begins => by cases begins
  | startCapture =>
    rw [connectStep] at stepped
    split at stepped
    · cases stepped
      exact .quiet ⟨rfl, rfl, rfl, rfl, rfl⟩ rfl rfl rfl fun _ begins => by cases begins
    · cases started : o.captureStart with
      | none | some actual =>
        rw [started] at stepped
        cases stepped
        exact .quiet ⟨rfl, rfl, rfl, rfl, rfl⟩ rfl rfl rfl fun _ begins => by cases begins
  | mutePcSpeaker =>
    rw [connectStep] at stepped
    split at stepped <;> cases stepped
    · exact
        .ofNet ⟨rfl, rfl, rfl, rfl, rfl⟩ rfl (Or.inl rfl) (List.prefix_append _ _)
          fun _ begins => by cases begins
    · exact .quiet ⟨rfl, rfl, rfl, rfl, rfl⟩ rfl rfl rfl fun _ begins => by cases begins
  | setStreaming mutedOk =>
    cases stepped
    exact
      .ofNet ⟨rfl, rfl, rfl, rfl, rfl⟩ rfl (Or.inr rfl) (List.prefix_refl _)
        fun _ begins => by cases begins

theorem heartbeatStep_aside {sender : Address} {seqNum : UInt32}
    {payload : Option HeartbeatPayload} {pc : HeartbeatStep}
    (noContact : ∀ nowMs, pc ≠ .setActivity nowMs) :
    Aside s (s.heartbeatStep sender seqNum payload pc) := by
  cases pc with
  | setActivity nowMs => exact absurd rfl (noContact nowMs)
  | checkActive =>
    rw [heartbeatStep]
    split <;> exact .quiet ⟨rfl, rfl, rfl, rfl, rfl⟩ rfl rfl rfl fun _ begins => by cases begins
  | readClock | reply =>
    exact .quiet ⟨rfl, rfl, rfl, rfl, rfl⟩ rfl rfl rfl fun _ begins => by cases begins

theorem handleControlCmd_aside (sender : Address) (payload : Option ControlCmdPayload) :
    Aside s (s.handleControlCmd sender payload) := by
  have effect (calls : List EndpointCall) :
      Aside s { s with net := .idle, endpoint := s.endpoint ++ calls } :=
    .ofNet ⟨rfl, rfl, rfl, rfl, rfl⟩ rfl (Or.inl rfl) (List.prefix_append _ _) nofun
  have nothing : Aside s { s with net := .idle } :=
    .quiet ⟨rfl, rfl, rfl, rfl, rfl⟩ rfl rfl rfl nofun
  unfold handleControlCmd
  dsimp only
  split
  · exact nothing
  · cases payload with
    | none => exact nothing
    | some cmd =>
      dsimp only
      split_ifs
      · exact effect [_]
      · exact effect [_]
      · exact effect [_]
      · exact nothing

/-! ## Steps of a disconnect -/

/-- The members that a disconnect looks at or writes are the same. -/
structure SameMembers (s t : Server) : Prop where
  state : t.state = s.state
  activeClient : t.activeClient = s.activeClient
  activity : t.lastClientActivityTimeMs = s.lastClientActivityTimeMs
  clock : t.clock = s.clock
  config : t.config = s.config
  endpoint : t.endpoint = s.endpoint

/-- A thread takes a step of its disconnect. -/
structure Disconnects (s t : Server) (sendAck : Bool) (pc : DisconnectStep) : Prop where
  member : pc ∈ s.disconnecting
  same : SameMembers (s.disconnectStep sendAck pc).1 t
  threads :
    ∀ q ∈ t.disconnecting,
      q ∈ s.disconnecting ∨ (s.disconnectStep sendAck pc).2 = some q

theorem disconnectStep_keeps (s : Server) (sendAck : Bool) (pc : DisconnectStep) :
    (s.disconnectStep sendAck pc).1.config = s.config ∧
      s.endpoint <+: (s.disconnectStep sendAck pc).1.endpoint ∧
        (s.activeClient = none → (s.disconnectStep sendAck pc).1.activeClient = none) := by
  cases pc with
  | clearActive | setListening => exact ⟨rfl, List.prefix_refl _, by simp [disconnectStep]⟩
  | checkState =>
    rw [disconnectStep]
    split <;> exact ⟨rfl, List.prefix_refl _, id⟩
  | checkActive =>
    rw [disconnectStep]
    cases active : s.activeClient with
    | none => exact ⟨rfl, List.prefix_refl _, fun _ => active⟩
    | some client =>
      dsimp only
      split <;> split <;>
        exact ⟨rfl, by simp [sendTo], by simp⟩

theorem disconnectStep_threads {u : Server} {next : Option DisconnectStep} {sendAck : Bool}
    {pc : DisconnectStep} (stepped : s.disconnectStep sendAck pc = (u, next)) :
    u.net = s.net ∧ u.watchdog = s.watchdog ∧ u.relay = s.relay := by
  rcases s.disconnectStep_eq sendAck pc with ⟨_, _, _, _, equal, _⟩
  rw [stepped] at equal
  subst equal
  exact ⟨rfl, rfl, rfl⟩

theorem Disconnects.dropped {sendAck : Bool} {pc : DisconnectStep}
    (steps : Disconnects s t sendAck pc) (dropped : s.Dropped before) : t.Dropped before := by
  rcases s.disconnectStep_keeps sendAck pc with ⟨config, endpoint, inactive⟩
  refine ⟨by rw [steps.same.activeClient, inactive dropped.inactive], fun auto => ?_⟩
  rw [steps.same.config, config] at auto
  rw [unmutes, steps.same.endpoint]
  exact Nat.lt_of_lt_of_le (dropped.unmuted auto) (endpoint.sublist.count_le _)

/-- `disconnect_client` has found the client, and turned the speaker on again. -/
structure Found (s u : Server) : Prop where
  state : u.state = s.state
  activeClient : u.activeClient = s.activeClient
  activity : u.lastClientActivityTimeMs = s.lastClientActivityTimeMs
  clock : u.clock = s.clock
  config : u.config = s.config
  more : s.unmutes ≤ u.unmutes
  unmuted : s.config.autoMutePcSpeaker = true → s.unmutes < u.unmutes

theorem disconnectStep_checkActive (active : s.activeClient = some client) (sendAck : Bool) :
    Found s (s.disconnectStep sendAck .checkActive).1 ∧
      (s.disconnectStep sendAck .checkActive).2 = some .clearActive := by
  rw [disconnectStep, active]
  dsimp only
  refine ⟨?_, rfl⟩
  cases sendAck <;> cases auto : s.config.autoMutePcSpeaker <;>
    constructor <;> simp [sendTo, auto, unmutes, active]

/-- A disconnect goes on, or drops the client. -/
theorem Disconnects.lingers {sendAck : Bool} {pc : DisconnectStep}
    (steps : Disconnects s t sendAck pc) (lingers : s.Lingers client before) :
    if pc = .clearActive then t.Dropped before else t.Lingers client before := by
  rcases steps with ⟨member, ⟨state, active, activity, clock, config, endpoint⟩, threads⟩
  rcases lingers.unmuted pc member with ⟨early, unmuted⟩
  cases pc with
  | setListening => exact absurd rfl early
  | clearActive =>
    rw [if_pos rfl]
    refine ⟨active, fun auto => ?_⟩
    rw [config] at auto
    rw [unmutes, endpoint]
    exact unmuted rfl auto
  | checkState =>
    rw [disconnectStep, if_pos lingers.streaming] at state active activity clock config endpoint
    rw [if_neg (by decide)]
    refine ⟨?_, ?_, ?_, ?_, ?_, ?_⟩
    · rw [state, lingers.streaming]
    · rw [active, lingers.active]
    · rw [activity]
      exact lingers.contacted
    · exact lingers.silent.mono activity (clock ▸ BitVec.le_refl _) config
    · rw [unmutes, endpoint]
      exact lingers.least
    · intro q member
      rw [config, unmutes, endpoint]
      rcases threads q member with old | new
      · exact lingers.unmuted q old
      · rw [disconnectStep, if_pos lingers.streaming] at new
        obtain rfl := Option.some.inj new
        exact ⟨by decide, by simp⟩
  | checkActive =>
    rw [if_neg (by decide)]
    rcases disconnectStep_checkActive lingers.active sendAck with ⟨found, next⟩
    have same : t.unmutes = (s.disconnectStep sendAck .checkActive).1.unmutes := by
      rw [unmutes, unmutes, endpoint]
    have settings := config.trans found.config
    refine ⟨?_, ?_, ?_, ?_, ?_, ?_⟩
    · rw [state, found.state, lingers.streaming]
    · rw [active, found.activeClient, lingers.active]
    · rw [activity, found.activity]
      exact lingers.contacted
    · refine lingers.silent.mono (activity.trans found.activity) ?_ settings
      rw [clock, found.clock]
      exact BitVec.le_refl _
    · rw [same]
      exact lingers.least.trans found.more
    · intro q member
      rw [settings, same]
      rcases threads q member with old | new
      · rcases lingers.unmuted q old with ⟨early, unmuted⟩
        exact ⟨early, fun clears auto => Nat.lt_of_lt_of_le (unmuted clears auto) found.more⟩
      · rw [next] at new
        obtain rfl := Option.some.inj new
        exact ⟨by decide, fun _ auto => Nat.lt_of_le_of_lt lingers.least (found.unmuted auto)⟩

/-! ## One step -/

/-- What a step is that stores no contact. -/
inductive StepAway (s t : Server) : Action → Prop where
  | aside {action : Action} (aside : Aside s t) (watchdog : t.watchdog = s.watchdog)
      (other : action.isWatchdog = false) : StepAway s t action
  | disconnects {action : Action} (sendAck : Bool) {pc : DisconnectStep}
      (steps : Disconnects s t sendAck pc) (watchdog : t.watchdog = s.watchdog)
      (other : action.isWatchdog = false) : StepAway s t action
  | watchdog (stepped : s.watchdogStep = some t) : StepAway s t .watchdog

theorem netStep_away (noContact : s.NoContact (.net o)) (stepped : s.netStep o = some t) :
    StepAway s t (.net o) := by
  have watchdog : t.watchdog = s.watchdog := (netStep_effect stepped).watchdog
  unfold netStep at stepped
  unfold NoContact contacts at noContact
  dsimp only at noContact
  cases thread : s.net with
  | idle =>
    rw [thread] at stepped
    cases stepped
  | discovery sender =>
    rw [thread] at stepped
    cases stepped
    exact .aside (.quiet ⟨rfl, rfl, rfl, rfl, rfl⟩ rfl rfl rfl nofun) watchdog rfl
  | connect sender pc =>
    rw [thread] at stepped noContact
    refine .aside (connectStep_aside ⟨?_, ?_⟩ stepped) watchdog rfl
    · rintro rfl
      cases noContact
    · rintro nowMs rfl
      cases noContact
  | disconnectLock sender =>
    rw [thread] at stepped
    dsimp only at stepped
    split at stepped
    · cases stepped
      exact .aside (.quiet ⟨rfl, rfl, rfl, rfl, rfl⟩ rfl rfl rfl nofun) watchdog rfl
    · cases stepped
  | disconnectCompare sender =>
    rw [thread] at stepped
    dsimp only at stepped
    split at stepped <;> cases stepped
    · exact
        .aside (.quiet ⟨rfl, rfl, rfl, rfl, rfl⟩ rfl rfl rfl (by rintro _ ⟨⟩; rfl)) watchdog rfl
    · exact .aside (.quiet ⟨rfl, rfl, rfl, rfl, rfl⟩ rfl rfl rfl nofun) watchdog rfl
  | disconnect pc =>
    rw [thread] at stepped
    have member : pc ∈ s.disconnecting := mem_disconnecting.2 (Or.inl thread)
    dsimp only at stepped
    split at stepped <;> cases stepped
    · next u next ended =>
      rcases disconnectStep_threads ended with ⟨_, others, relay⟩
      refine .disconnects true ⟨member, ?_, ?_⟩ watchdog rfl
      · rw [ended]
        exact ⟨rfl, rfl, rfl, rfl, rfl, rfl⟩
      · intro q inside
        rw [ended]
        rw [mem_disconnecting] at inside ⊢
        dsimp only at inside
        rw [others, relay] at inside
        rcases inside with here | there
        · cases here
          exact Or.inr rfl
        · exact Or.inl (Or.inr there)
    · next u ended =>
      rcases disconnectStep_threads ended with ⟨_, others, relay⟩
      refine .disconnects true ⟨member, ?_, ?_⟩ watchdog rfl
      · rw [ended]
        exact ⟨rfl, rfl, rfl, rfl, rfl, rfl⟩
      · intro q inside
        rw [mem_disconnecting] at inside ⊢
        unfold unlockNet at inside
        dsimp only at inside
        rw [others, relay] at inside
        rcases inside with here | there
        · cases here
        · exact Or.inl (Or.inr there)
  | heartbeat sender seqNum payload pc =>
    rw [thread] at stepped noContact
    cases stepped
    refine .aside (heartbeatStep_aside ?_) watchdog rfl
    rintro nowMs rfl
    cases noContact
  | control sender payload =>
    rw [thread] at stepped
    cases stepped
    exact .aside (handleControlCmd_aside sender payload) watchdog rfl

theorem relayStep_away (stepped : s.relayStep = some t) : StepAway s t .relay := by
  have watchdog : t.watchdog = s.watchdog := by
    rcases relayStep_eq stepped with ⟨_, _, _, _, _, rfl, _⟩
    rfl
  unfold relayStep at stepped
  cases thread : s.relay with
  | relaying =>
    rw [thread] at stepped
    cases stepped
  | disconnect pc =>
    rw [thread] at stepped
    have member : pc ∈ s.disconnecting := mem_disconnecting.2 (Or.inr (Or.inr thread))
    dsimp only at stepped
    split at stepped <;> cases stepped
    · next u next ended =>
      rcases disconnectStep_threads ended with ⟨net, others, _⟩
      refine .disconnects true ⟨member, ?_, ?_⟩ watchdog rfl
      · rw [ended]
        exact ⟨rfl, rfl, rfl, rfl, rfl, rfl⟩
      · intro q inside
        rw [ended]
        rw [mem_disconnecting] at inside ⊢
        dsimp only at inside
        rw [net, others] at inside
        rcases inside with here | there | there
        · exact Or.inl (Or.inl here)
        · exact Or.inl (Or.inr (Or.inl there))
        · cases there
          exact Or.inr rfl
    · next u ended =>
      rcases disconnectStep_threads ended with ⟨net, others, _⟩
      refine .disconnects true ⟨member, ?_, ?_⟩ watchdog rfl
      · rw [ended]
        exact ⟨rfl, rfl, rfl, rfl, rfl, rfl⟩
      · intro q inside
        rw [mem_disconnecting] at inside ⊢
        dsimp only at inside
        rw [net, others] at inside
        rcases inside with here | there | there
        · exact Or.inl (Or.inl here)
        · exact Or.inl (Or.inr (Or.inl there))
        · cases there

theorem step_away (noContact : s.NoContact action) (stepped : s.step action = some t) :
    StepAway s t action := by
  cases action with
  | net o => exact netStep_away noContact stepped
  | watchdog => exact .watchdog stepped
  | relay => exact relayStep_away stepped
  | capture o =>
    rcases captureStep_eq stepped with ⟨_, _, _, _, _, rfl⟩
    exact
      .aside ⟨Or.inl rfl, rfl, rfl, BitVec.le_refl _, rfl, Nat.le_refl _, fun _ => Or.inl⟩ rfl rfl
  | captured data config =>
    rw [step] at stepped
    split at stepped <;> cases stepped
    exact
      .aside ⟨Or.inl rfl, rfl, rfl, BitVec.le_refl _, rfl, Nat.le_refl _, fun _ => Or.inl⟩ rfl rfl
  | captureEnds =>
    cases stepped
    exact
      .aside ⟨Or.inl rfl, rfl, rfl, BitVec.le_refl _, rfl, Nat.le_refl _, fun _ => Or.inl⟩ rfl rfl
  | tick nowMs =>
    rw [step] at stepped
    split at stepped <;> cases stepped
    next later =>
      exact .aside ⟨Or.inl rfl, rfl, rfl, later, rfl, Nat.le_refl _, fun _ => Or.inl⟩ rfl rfl
  | receive sender buffer =>
    rw [step] at stepped
    split at stepped
    · next idle =>
      cases requested : requestOf buffer with
      | none =>
        rw [requested] at stepped
        cases stepped
        exact
          .aside ⟨Or.inl rfl, rfl, rfl, BitVec.le_refl _, rfl, Nat.le_refl _, fun _ => Or.inl⟩ rfl
            rfl
      | some request =>
        rw [requested] at stepped
        cases stepped
        refine .aside (.quiet ⟨rfl, rfl, rfl, rfl, rfl⟩ rfl rfl rfl ?_) rfl rfl
        cases request <;> intro _ begins <;> cases begins
    · cases stepped
  | tunnelLost =>
    rw [step] at stepped
    split at stepped <;> cases stepped
    refine
      .aside ⟨Or.inl rfl, rfl, rfl, BitVec.le_refl _, rfl, Nat.le_refl _, fun q inside => ?_⟩ rfl rfl
    rw [mem_disconnecting] at inside ⊢
    rcases inside with here | there | there
    · exact Or.inl (Or.inl here)
    · exact Or.inl (Or.inr (Or.inl there))
    · cases there
      exact Or.inr rfl

/-- The test of the watchdog comes out positive once the client has been silent. -/
theorem timedOut_clock (lingers : s.Lingers client before) :
    s.timedOut s.clock s.lastClientActivityTimeMs = true := by
  have silent := lingers.silent
  unfold Observed.Silent at silent
  have past : s.lastClientActivityTimeMs ≤ s.clock := by
    rw [BitVec.le_def]
    omega
  unfold timedOut
  rw [BitVec.toNat_sub_of_le past]
  have contacted := lingers.contacted
  simp only [Bool.and_eq_true, decide_eq_true_eq]
  omega

/-- A step of the watchdog outside of a disconnect. -/
theorem Lingers.watch (lingers : s.Lingers client before) {w : WatchdogThread}
    {mutex : Option MutexHolder} (begins : ∀ pc, w = .disconnect pc → pc = .checkState) :
    Lingers client before { s with clientMutex := mutex, watchdog := w } := by
  refine
    ⟨lingers.streaming, lingers.active, lingers.contacted, lingers.silent, lingers.least,
      fun q inside => ?_⟩
  rw [mem_disconnecting] at inside
  rcases inside with here | there | there
  · exact lingers.unmuted q (mem_disconnecting.2 (Or.inl here))
  · obtain rfl := begins q there
    exact ⟨by decide, by simp⟩
  · exact lingers.unmuted q (mem_disconnecting.2 (Or.inr (Or.inr there)))

theorem watchdogStep_disconnects {pc : DisconnectStep} (thread : s.watchdog = .disconnect pc)
    (stepped : s.watchdogStep = some t) :
    Disconnects s t false pc ∧
      (∀ next, (s.disconnectStep false pc).2 = some next → t.watchdog = .disconnect next) := by
  rw [watchdogStep, thread] at stepped
  have member : pc ∈ s.disconnecting := mem_disconnecting.2 (Or.inr (Or.inl thread))
  dsimp only at stepped
  split at stepped <;> cases stepped
  · next u next ended =>
    rcases disconnectStep_threads ended with ⟨net, _, relay⟩
    refine ⟨⟨member, ?_, ?_⟩, ?_⟩
    · rw [ended]
      exact ⟨rfl, rfl, rfl, rfl, rfl, rfl⟩
    · intro q inside
      rw [ended]
      rw [mem_disconnecting] at inside ⊢
      dsimp only at inside
      rw [net, relay] at inside
      rcases inside with here | there | there
      · exact Or.inl (Or.inl here)
      · cases there
        exact Or.inr rfl
      · exact Or.inl (Or.inr (Or.inr there))
    · intro other same
      rw [ended] at same
      cases same
      rfl
  · next u ended =>
    rcases disconnectStep_threads ended with ⟨net, _, relay⟩
    refine ⟨⟨member, ?_, ?_⟩, ?_⟩
    · rw [ended]
      exact ⟨rfl, rfl, rfl, rfl, rfl, rfl⟩
    · intro q inside
      rw [mem_disconnecting] at inside ⊢
      dsimp only at inside
      rw [net, relay] at inside
      rcases inside with here | there | there
      · exact Or.inl (Or.inl here)
      · cases there
      · exact Or.inl (Or.inr (Or.inr there))
    · intro other same
      rw [ended] at same
      cases same

/-- The watchdog comes one step closer to dropping the client, or drops it. -/
theorem watchdogStep_lingers (lingers : s.Lingers client before)
    (stepped : s.watchdogStep = some t) :
    t.Dropped before ∨ t.Lingers client before ∧ t.watchdogSteps + 1 ≤ s.watchdogSteps := by
  have late := timedOut_clock lingers
  cases thread : s.watchdog with
  | sleeping =>
    rw [watchdogStep, thread] at stepped
    cases stepped
    refine Or.inr ⟨lingers.watch nofun, ?_⟩
    simp [watchdogSteps, thread]
  | checkState =>
    rw [watchdogStep, thread] at stepped
    dsimp only at stepped
    rw [if_pos lingers.streaming] at stepped
    cases stepped
    refine Or.inr ⟨lingers.watch nofun, ?_⟩
    simp [watchdogSteps, thread]
  | readClock =>
    rw [watchdogStep, thread] at stepped
    cases stepped
    refine Or.inr ⟨lingers.watch nofun, ?_⟩
    have rank : ({ s with watchdog := .loadActivity s.clock } : Server).watchdogSteps = 5 :=
      if_pos late
    rw [rank]
    simp [watchdogSteps, thread]
  | loadActivity nowMs =>
    rw [watchdogStep, thread] at stepped
    cases stepped
    refine Or.inr ⟨lingers.watch nofun, ?_⟩
    have rank :
        ({ s with watchdog := .compare nowMs s.lastClientActivityTimeMs } : Server).watchdogSteps
          = if s.timedOut nowMs s.lastClientActivityTimeMs then 4 else 9 := rfl
    rw [rank]
    cases timed : s.timedOut nowMs s.lastClientActivityTimeMs <;>
      simp [watchdogSteps, thread, timed]
  | compare nowMs lastActivity =>
    rw [watchdogStep, thread] at stepped
    cases stepped
    refine Or.inr ⟨lingers.watch ?_, ?_⟩
    · split <;> nofun
    · cases timed : s.timedOut nowMs lastActivity <;> simp [watchdogSteps, thread, timed]
  | lock =>
    rw [watchdogStep, thread] at stepped
    dsimp only at stepped
    split at stepped <;> cases stepped
    refine Or.inr ⟨lingers.watch (by rintro _ ⟨⟩; rfl), ?_⟩
    simp [watchdogSteps, thread]
  | disconnect pc =>
    rcases watchdogStep_disconnects thread stepped with ⟨steps, next⟩
    have result := steps.lingers lingers
    rcases lingers.unmuted pc steps.member with ⟨early, _⟩
    cases pc with
    | setListening => exact absurd rfl early
    | clearActive =>
      rw [if_pos rfl] at result
      exact Or.inl result
    | checkState =>
      rw [if_neg (by decide)] at result
      refine Or.inr ⟨result, ?_⟩
      have on := next .checkActive (by rw [disconnectStep, if_pos lingers.streaming])
      simp [watchdogSteps, thread, on]
    | checkActive =>
      rw [if_neg (by decide)] at result
      refine Or.inr ⟨result, ?_⟩
      have on := next .clearActive (disconnectStep_checkActive lingers.active false).2
      simp [watchdogSteps, thread, on]

/-- Steps of the watchdog keep what holds of a client that is gone. -/
theorem watchdogStep_dropped (dropped : s.Dropped before) (stepped : s.watchdogStep = some t) :
    t.Dropped before := by
  cases thread : s.watchdog with
  | disconnect pc => exact (watchdogStep_disconnects thread stepped).1.dropped dropped
  | lock =>
    rw [watchdogStep, thread] at stepped
    dsimp only at stepped
    split at stepped <;> cases stepped
    exact ⟨dropped.inactive, dropped.unmuted⟩
  | sleeping | checkState | readClock | loadActivity | compare =>
    rw [watchdogStep, thread] at stepped
    cases stepped
    exact ⟨dropped.inactive, dropped.unmuted⟩

/-! ## Runs -/

theorem step_dropped (dropped : s.Dropped before) (noContact : s.NoContact action)
    (stepped : s.step action = some t) : t.Dropped before := by
  cases step_away noContact stepped with
  | aside aside => exact aside.dropped dropped
  | disconnects sendAck steps => exact steps.dropped dropped
  | watchdog stepped => exact watchdogStep_dropped dropped stepped

/-- Every step of the watchdog brings the end of the session closer, and no other thread
moves it away. -/
theorem step_lingers (lingers : s.Lingers client before) (noContact : s.NoContact action)
    (stepped : s.step action = some t) :
    t.Dropped before ∨
      t.Lingers client before ∧
        t.watchdogSteps + (if action.isWatchdog then 1 else 0) ≤ s.watchdogSteps := by
  cases step_away noContact stepped with
  | aside aside watchdog other =>
    refine Or.inr ⟨aside.lingers lingers, ?_⟩
    rw [other, watchdogSteps_congr watchdog aside.config aside.activity]
    exact Nat.le_refl _
  | disconnects sendAck steps watchdog other =>
    have result := steps.lingers lingers
    split at result
    · exact Or.inl result
    · refine Or.inr ⟨result, ?_⟩
      have config := steps.same.config.trans (s.disconnectStep_keeps sendAck _).1
      have activity : t.lastClientActivityTimeMs = s.lastClientActivityTimeMs := by
        rcases s.disconnectStep_eq sendAck _ with ⟨_, _, _, _, equal, _⟩
        rw [steps.same.activity, equal]
      rw [other, watchdogSteps_congr watchdog config activity]
      exact Nat.le_refl _
  | watchdog stepped => exact watchdogStep_lingers lingers stepped

theorem watchdogSteps_le (s : Server) : s.watchdogSteps ≤ 10 := by
  unfold watchdogSteps
  split <;> try split
  all_goals decide

end

/-- A client that has been silent for longer than `client_timeout_ms` is dropped by eleven
steps of the watchdog, from wherever it stands, and the speaker of the PC is unmuted. -/
theorem silent_client_dropped {s t : Server} {client : Address} {actions : List Action}
    (streaming : s.state = .streaming) (active : s.activeClient = some client)
    (contacted : 0 < s.lastClientActivityTimeMs.toNat) (silent : Observed.Silent s)
    (early : ∀ pc ∈ s.disconnecting, pc = .checkState ∨ pc = .checkActive)
    (away : EveryStep Server.step NoContact s actions)
    (reached : run Server.step s actions = some t) (enough : 11 ≤ actions.countP Action.isWatchdog) :
    t.activeClient = none ∧
      (t.config.autoMutePcSpeaker = true → s.unmutes < t.unmutes) := by
  let before := s.unmutes
  have lingers : s.Lingers client before := by
    refine ⟨streaming, active, contacted, silent, Nat.le_refl _, fun pc member => ?_⟩
    rcases early pc member with rfl | rfl <;> simp
  have dropped : t.Dropped before := by
    have stays (s : Server) (a : Action) (t : Server) (dropped : s.Dropped before)
        (noContact : s.NoContact a) (stepped : Server.step s a = some t) : t.Dropped before :=
      step_dropped dropped noContact stepped
    have moves (s : Server) (a : Action) (t : Server) (lingers : s.Lingers client before)
        (noContact : s.NoContact a) (stepped : Server.step s a = some t) :=
      step_lingers lingers noContact stepped
    exact
      run_reaches stays moves actions lingers away reached
        (Nat.lt_of_le_of_lt s.watchdogSteps_le enough)
  exact ⟨dropped.inactive, dropped.unmuted⟩

/-- The phone connects at 1 ms and is not heard again. -/
def abandoned : List Action :=
  .tick 1 :: connecting ++ [.tick 9000]

def abandonedServer : Server :=
  (run Server.step (start {}) abandoned).getD (start {})

/-- The relay notices a lost tunnel and steps between the watchdog's. -/
def watched : List Action :=
  List.replicate 5 .watchdog ++ .tunnelLost :: List.replicate 6 .watchdog

theorem abandoned_dropped :
    ((run Server.step abandonedServer watched).getD abandonedServer).activeClient = none ∧
      (((run Server.step abandonedServer watched).getD
            abandonedServer).config.autoMutePcSpeaker = true →
        abandonedServer.unmutes <
          ((run Server.step abandonedServer watched).getD abandonedServer).unmutes) := by
  have silent : Observed.Silent abandonedServer := by
    unfold Observed.Silent
    decide +kernel
  exact
    silent_client_dropped (by decide +kernel) (show _ = some phone by decide +kernel)
      (by decide +kernel) silent (by decide +kernel) (by decide +kernel)
      (run_eq_some_getD (by decide +kernel)) (by decide +kernel)

end AudioRouter.Server
