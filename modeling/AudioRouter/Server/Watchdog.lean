import AudioRouter.Server.Model
import Mathlib.Logic.Function.Basic

/-!
# The heartbeat watchdog

The watchdog reads the clock and the activity time without `client_mutex_` and
does not look again once it holds the lock.  A client is therefore disconnected
only after a silence longer than `client_timeout_ms` unless a handler stores a
new activity time behind the watchdog's back: one that is later than the clock
it has read, or one that comes after it has decided.
-/

namespace AudioRouter.Server

open Transition

/-! ## Who holds `client_mutex_` -/

/-- Whether the network thread is inside its locked section. -/
def NetThread.locked : NetThread → Bool
  | .connect _ .lock => false
  | .connect _ _ => true
  | .disconnectCompare _ => true
  | .disconnect _ => true
  | _ => false

def WatchdogThread.locked : WatchdogThread → Bool
  | .disconnect _ => true
  | _ => false

/-- The mutex knows its holder. -/
structure Locked (s : Server) : Prop where
  net : s.clientMutex = some .net ↔ s.net.locked
  watchdog : s.clientMutex = some .watchdog ↔ s.watchdog.locked

/-! ## Contacts -/

/-- The activity time that a handler is about to store. -/
def NetThread.pendingActivity : NetThread → Option (Address × Millis)
  | .connect sender (.setActivity nowMs) => some (sender, nowMs)
  | .heartbeat sender _ _ (.setActivity nowMs) => some (sender, nowMs)
  | _ => none

/-- The sender that a handler has made the active client without having stored
its activity time. -/
def NetThread.newClient : NetThread → Option Address
  | .connect sender .readActivityClock => some sender
  | .connect sender (.setActivity _) => some sender
  | _ => none

/-! ## The effect of a step of the network thread -/

/-- What the network thread's steps do to the session, its activity time and the
mutex. -/
structure NetEffect (s t : Server) : Prop where
  clock : t.clock = s.clock
  watchdog : t.watchdog = s.watchdog
  config : t.config = s.config
  activity :
    (∃ sender nowMs, s.net.pendingActivity = some (sender, nowMs) ∧
        t.lastClientActivityTimeMs = nowMs ∧ t.net.pendingActivity = none) ∨
      s.net.pendingActivity = none ∧
        t.lastClientActivityTimeMs = s.lastClientActivityTimeMs ∧
        ∀ sender nowMs, t.net.pendingActivity = some (sender, nowMs) →
          nowMs = s.clock
  newClient :
    ∀ client, s.net.newClient = some client →
      t.net.newClient = some client ∨
        ∃ nowMs, s.net.pendingActivity = some (client, nowMs)
  activeClient :
    ∀ client, t.activeClient = some client →
      s.activeClient = some client ∨ t.net.newClient = some client
  mutex :
    s.net.locked = true ∧
        (t.net.locked = true ∧ t.clientMutex = s.clientMutex ∨
          t.net.locked = false ∧ t.clientMutex = none) ∨
      s.net.locked = false ∧
        (t.net.locked = false ∧ t.clientMutex = s.clientMutex ∨
          t.net.locked = true ∧ s.clientMutex = none ∧ t.clientMutex = some .net)

/-- What a step keeps that neither changes the active client nor stores an activity
time. -/
structure SameSession (s t : Server) : Prop where
  clock : t.clock = s.clock
  watchdog : t.watchdog = s.watchdog
  config : t.config = s.config
  activity : t.lastClientActivityTimeMs = s.lastClientActivityTimeMs
  activeClient : t.activeClient = s.activeClient

section

variable {s t : Server} {o : Outcome} {before : NetThread}

/-- A step that keeps the session, of a thread that has nothing to store. -/
theorem NetEffect.quiet (thread : s.net = before) (same : SameSession s t)
    (nothing : before.pendingActivity = none) (noClient : before.newClient = none)
    (reads : ∀ sender nowMs, t.net.pendingActivity = some (sender, nowMs) →
      nowMs = s.clock)
    (mutex :
      before.locked = true ∧
          (t.net.locked = true ∧ t.clientMutex = s.clientMutex ∨
            t.net.locked = false ∧ t.clientMutex = none) ∨
        before.locked = false ∧
          (t.net.locked = false ∧ t.clientMutex = s.clientMutex ∨
            t.net.locked = true ∧ s.clientMutex = none ∧ t.clientMutex = some .net)) :
    NetEffect s t := by
  subst thread
  exact
    { clock := same.clock
      watchdog := same.watchdog
      config := same.config
      activity := Or.inr ⟨nothing, same.activity, reads⟩
      newClient := fun client new => by
        rw [noClient] at new
        nomatch new
      activeClient := fun client active => Or.inl (same.activeClient ▸ active)
      mutex := mutex }

/-- A quiet step that neither enters nor leaves the locked section. -/
theorem NetEffect.stays (thread : s.net = before) (same : SameSession s t)
    (nothing : before.pendingActivity = none) (noClient : before.newClient = none)
    (next : t.net.pendingActivity = none) (part : t.net.locked = before.locked)
    (mutex : t.clientMutex = s.clientMutex) : NetEffect s t := by
  refine .quiet thread same nothing noClient (fun _ _ pending => ?_) ?_
  · rw [next] at pending
    nomatch pending
  · cases locked : before.locked with
    | true => exact Or.inl ⟨rfl, Or.inl ⟨part.trans locked, mutex⟩⟩
    | false => exact Or.inr ⟨rfl, Or.inl ⟨part.trans locked, mutex⟩⟩

/-- A quiet step that leaves the locked section. -/
theorem NetEffect.leaves (thread : s.net = before) (same : SameSession s t)
    (nothing : before.pendingActivity = none) (noClient : before.newClient = none)
    (locked : before.locked = true) (idle : t.net = .idle)
    (mutex : t.clientMutex = none) : NetEffect s t :=
  .quiet thread same nothing noClient
    (fun _ _ pending => by
      rw [idle] at pending
      nomatch pending)
    (Or.inl ⟨locked, Or.inr ⟨by rw [idle]; rfl, mutex⟩⟩)

/-- A quiet step that takes the mutex. -/
theorem NetEffect.enters (thread : s.net = before) (same : SameSession s t)
    (nothing : before.pendingActivity = none) (noClient : before.newClient = none)
    (next : t.net.pendingActivity = none) (unlocked : before.locked = false)
    (locked' : t.net.locked = true) (free : s.clientMutex = none)
    (mutex : t.clientMutex = some .net) : NetEffect s t :=
  .quiet thread same nothing noClient
    (fun _ _ pending => by
      rw [next] at pending
      nomatch pending)
    (Or.inr ⟨unlocked, Or.inr ⟨locked', free, mutex⟩⟩)

theorem connectStep_effect {sender : Address} {pc : ConnectStep}
    (thread : s.net = .connect sender pc)
    (stepped : s.connectStep o sender pc = some t) : NetEffect s t := by
  cases pc with
  | lock =>
      rw [connectStep] at stepped
      split at stepped
      · next free =>
        obtain rfl := Option.some.inj stepped
        exact .enters thread ⟨rfl, rfl, rfl, rfl, rfl⟩ rfl rfl rfl rfl rfl free rfl
      · nomatch stepped
  | checkState | checkActive =>
      obtain rfl := Option.some.inj stepped
      split <;> exact .stays thread ⟨rfl, rfl, rfl, rfl, rfl⟩ rfl rfl rfl rfl rfl
  | readClock | resetSequence | setStreaming =>
      obtain rfl := Option.some.inj stepped
      exact .stays thread ⟨rfl, rfl, rfl, rfl, rfl⟩ rfl rfl rfl rfl rfl
  | compareActivity nowMs =>
      rw [connectStep] at stepped
      split at stepped <;> obtain rfl := Option.some.inj stepped
      · exact .leaves thread ⟨rfl, rfl, rfl, rfl, rfl⟩ rfl rfl rfl rfl rfl
      · exact .stays thread ⟨rfl, rfl, rfl, rfl, rfl⟩ rfl rfl rfl rfl rfl
  | setActive =>
      obtain rfl := Option.some.inj stepped
      exact
        { clock := rfl
          watchdog := rfl
          config := rfl
          activity := Or.inr ⟨by rw [thread]; rfl, rfl, nofun⟩
          newClient := by rw [thread]; nofun
          -- the new client's activity time is not stored yet
          activeClient := fun _ active => Or.inr active
          mutex := Or.inl ⟨by rw [thread]; rfl, Or.inl ⟨rfl, rfl⟩⟩ }
  | readActivityClock =>
      obtain rfl := Option.some.inj stepped
      exact
        { clock := rfl
          watchdog := rfl
          config := rfl
          activity := Or.inr ⟨by rw [thread]; rfl, rfl, by rintro _ _ ⟨⟩; rfl⟩
          newClient := fun _ new => Or.inl (by rw [thread] at new; exact new)
          activeClient := fun _ active => Or.inl active
          mutex := Or.inl ⟨by rw [thread]; rfl, Or.inl ⟨rfl, rfl⟩⟩ }
  | setActivity nowMs =>
      obtain rfl := Option.some.inj stepped
      have pending : s.net.pendingActivity = some (sender, nowMs) := by
        rw [thread]
        rfl
      exact
        { clock := rfl
          watchdog := rfl
          config := rfl
          activity := Or.inl ⟨sender, nowMs, pending, rfl, rfl⟩
          newClient := fun client new => by
            rw [thread] at new
            obtain rfl : sender = client := Option.some.inj new
            exact Or.inr ⟨nowMs, pending⟩
          activeClient := fun _ active => Or.inl active
          mutex := Or.inl ⟨by rw [thread]; rfl, Or.inl ⟨rfl, rfl⟩⟩ }
  | startCapture =>
      rw [connectStep] at stepped
      split at stepped
      · obtain rfl := Option.some.inj stepped
        exact .stays thread ⟨rfl, rfl, rfl, rfl, rfl⟩ rfl rfl rfl rfl rfl
      · cases started : o.captureStart with
        | none =>
            rw [started] at stepped
            obtain rfl := Option.some.inj stepped
            exact .leaves thread ⟨rfl, rfl, rfl, rfl, rfl⟩ rfl rfl rfl rfl rfl
        | some actual =>
            rw [started] at stepped
            obtain rfl := Option.some.inj stepped
            exact .stays thread ⟨rfl, rfl, rfl, rfl, rfl⟩ rfl rfl rfl rfl rfl
  | mutePcSpeaker =>
      rw [connectStep] at stepped
      split at stepped <;> obtain rfl := Option.some.inj stepped
      all_goals exact .stays thread ⟨rfl, rfl, rfl, rfl, rfl⟩ rfl rfl rfl rfl rfl
  | sendAck =>
      obtain rfl := Option.some.inj stepped
      exact .leaves thread ⟨rfl, rfl, rfl, rfl, rfl⟩ rfl rfl rfl rfl rfl

theorem receive_effect (idle : s.net = .idle) (sender : Address)
    (request : Request) :
    NetEffect s { s with net := dispatch sender request } := by
  cases request <;>
    exact .stays idle ⟨rfl, rfl, rfl, rfl, rfl⟩ rfl rfl rfl rfl rfl

theorem heartbeatStep_effect {sender : Address} {seqNum : UInt32}
    {payload : Option HeartbeatPayload} {pc : HeartbeatStep}
    (thread : s.net = .heartbeat sender seqNum payload pc) :
    NetEffect s (s.heartbeatStep sender seqNum payload pc) := by
  cases pc with
  | checkActive =>
      rw [heartbeatStep]
      split <;> exact .stays thread ⟨rfl, rfl, rfl, rfl, rfl⟩ rfl rfl rfl rfl rfl
  | readClock =>
      exact .quiet thread ⟨rfl, rfl, rfl, rfl, rfl⟩ rfl rfl (by rintro _ _ ⟨⟩; rfl)
        (Or.inr ⟨rfl, Or.inl ⟨rfl, rfl⟩⟩)
  | setActivity nowMs =>
      exact
        { clock := rfl
          watchdog := rfl
          config := rfl
          activity := Or.inl ⟨sender, nowMs, by rw [thread]; rfl, rfl, rfl⟩
          newClient := by rw [thread]; nofun
          activeClient := fun _ active => Or.inl active
          mutex := Or.inr ⟨by rw [thread]; rfl, Or.inl ⟨rfl, rfl⟩⟩ }
  | reply => exact .stays thread ⟨rfl, rfl, rfl, rfl, rfl⟩ rfl rfl rfl rfl rfl

theorem handleControlCmd_effect {sender : Address} {payload : Option ControlCmdPayload}
    (thread : s.net = .control sender payload) :
    NetEffect s (s.handleControlCmd sender payload) := by
  have effect (endpoint : List EndpointCall) :
      NetEffect s { s with net := .idle, endpoint := endpoint } :=
    .stays thread ⟨rfl, rfl, rfl, rfl, rfl⟩ rfl rfl rfl rfl rfl
  unfold handleControlCmd
  dsimp only
  split
  · exact effect s.endpoint
  · cases payload with
    | none => exact effect s.endpoint
    | some cmd =>
        dsimp only
        split_ifs <;> exact effect _

/-- A step of `disconnect_client` with the acknowledgement. -/
theorem disconnect_effect {pc : DisconnectStep} (thread : s.net = .disconnect pc)
    (stepped : s.netStep o = some t) : NetEffect s t := by
  obtain ⟨_, activeClient, _, _, equal, kept⟩ := s.disconnectStep_eq true pc
  have client (u : Address) (active : activeClient = some u) : s.activeClient = some u := by
    obtain same | none := kept
    · exact same ▸ active
    · rw [none] at active
      nomatch active
  rw [netStep, thread] at stepped
  dsimp only at stepped
  split at stepped <;> obtain rfl := Option.some.inj stepped
  · next next ended =>
    rw [ended] at equal
    dsimp only at equal
    subst equal
    exact
      { clock := rfl
        watchdog := rfl
        config := rfl
        activity := Or.inr ⟨by rw [thread]; rfl, rfl, nofun⟩
        newClient := by rw [thread]; nofun
        activeClient := fun u active => Or.inl (client u active)
        mutex := Or.inl ⟨by rw [thread]; rfl, Or.inl ⟨rfl, rfl⟩⟩ }
  · next ended =>
    rw [ended] at equal
    dsimp only at equal
    subst equal
    exact
      { clock := rfl
        watchdog := rfl
        config := rfl
        activity := Or.inr ⟨by rw [thread]; rfl, rfl, nofun⟩
        newClient := by rw [thread]; nofun
        activeClient := fun u active => Or.inl (client u active)
        mutex := Or.inl ⟨by rw [thread]; rfl, Or.inr ⟨rfl, rfl⟩⟩ }

theorem netStep_effect (stepped : s.netStep o = some t) : NetEffect s t := by
  cases thread : s.net with
  | disconnect pc => exact disconnect_effect thread stepped
  | idle =>
      rw [netStep, thread] at stepped
      nomatch stepped
  | discovery sender =>
      rw [netStep, thread] at stepped
      obtain rfl := Option.some.inj stepped
      exact .stays thread ⟨rfl, rfl, rfl, rfl, rfl⟩ rfl rfl rfl rfl rfl
  | connect sender pc =>
      rw [netStep, thread] at stepped
      exact connectStep_effect thread stepped
  | disconnectLock sender =>
      rw [netStep, thread] at stepped
      dsimp only at stepped
      split at stepped
      · next free =>
        obtain rfl := Option.some.inj stepped
        exact .enters thread ⟨rfl, rfl, rfl, rfl, rfl⟩ rfl rfl rfl rfl rfl free rfl
      · nomatch stepped
  | disconnectCompare sender =>
      rw [netStep, thread] at stepped
      dsimp only at stepped
      split at stepped <;> obtain rfl := Option.some.inj stepped
      · exact .stays thread ⟨rfl, rfl, rfl, rfl, rfl⟩ rfl rfl rfl rfl rfl
      · exact .leaves thread ⟨rfl, rfl, rfl, rfl, rfl⟩ rfl rfl rfl rfl rfl
  | heartbeat sender seqNum payload pc =>
      rw [netStep, thread] at stepped
      obtain rfl := Option.some.inj stepped
      exact heartbeatStep_effect thread
  | control sender payload =>
      rw [netStep, thread] at stepped
      obtain rfl := Option.some.inj stepped
      exact handleControlCmd_effect thread

end

/-! ## What a run records -/

/-- The server with the contacts of its clients: for each address the time, as
the handler read it, of the last `CONNECT_REQ` or `HEARTBEAT_PING` whose time
has been stored. -/
structure Observed where
  server : Server
  contact : Address → Option Millis := fun _ => none

/-- The contact that a step stores. -/
def activityOf (s : Server) : Action → Option (Address × Millis)
  | .net _ => s.net.pendingActivity
  | _ => none

/-- The client that a step of the watchdog disconnects. -/
def disconnectedByWatchdog (s : Server) : Action → Option Address
  | .watchdog =>
      match s.watchdog with
      | .disconnect .clearActive => s.activeClient
      | _ => none
  | _ => none

namespace Observed

def noteContact (contact : Address → Option Millis) :
    Option (Address × Millis) → Address → Option Millis
  | none => contact
  | some (sender, nowMs) => Function.update contact sender (some nowMs)

def step (r : Observed) (action : Action) : Option Observed :=
  (r.server.step action).map fun server =>
    { server := server
      contact := noteContact r.contact (r.server.activityOf action) }

/-- Whether the watchdog may find a new activity time: none that is later than
the clock it has read, and none once it has decided to disconnect, up to the
point where the client is gone. -/
def inTime (s : Server) (nowMs : Millis) : Bool :=
  match s.watchdog with
  | .loadActivity readMs => decide (nowMs ≤ readMs)
  | .compare readMs lastActivity => !s.timedOut readMs lastActivity
  | .lock => false
  | .disconnect pc => decide (pc = .setListening)
  | _ => true

def StoresInTime (r : Observed) (action : Action) : Prop :=
  (r.server.activityOf action).all (fun stored => inTime r.server stored.2) = true

instance (r : Observed) (action : Action) : Decidable (r.StoresInTime action) :=
  inferInstanceAs (Decidable (_ = _))

/-! ## The invariant -/

/-- The active client has been silent for longer than the timeout. -/
def Silent (s : Server) : Prop :=
  s.lastClientActivityTimeMs.toNat + s.config.clientTimeoutMs < s.clock.toNat

/-- What the watchdog knows where it stands. -/
def WatchdogKnows (s : Server) : Prop :=
  match s.watchdog with
  | .loadActivity nowMs => s.lastClientActivityTimeMs ≤ nowMs ∧ nowMs ≤ s.clock
  | .compare nowMs lastActivity =>
      s.timedOut nowMs lastActivity = true →
        lastActivity = s.lastClientActivityTimeMs ∧ lastActivity ≤ nowMs ∧
          nowMs ≤ s.clock
  | .lock => Silent s
  | .disconnect pc => pc ≠ .setListening → Silent s
  | _ => True

/-- The stored activity time is the latest contact's, and an active client has
one. -/
structure Contacts (r : Observed) : Prop where
  clock : r.server.lastClientActivityTimeMs ≤ r.server.clock
  pending :
    ∀ sender nowMs, r.server.net.pendingActivity = some (sender, nowMs) →
      r.server.lastClientActivityTimeMs ≤ nowMs ∧ nowMs ≤ r.server.clock
  contact :
    ∀ client time, r.contact client = some time →
      time ≤ r.server.lastClientActivityTimeMs
  known :
    ∀ client, r.server.activeClient = some client →
      (r.contact client).isSome ∨ r.server.net.newClient = some client

structure Sound (r : Observed) : Prop where
  locked : Locked r.server
  contacts : Contacts r
  watchdog : WatchdogKnows r.server

theorem start_sound (config : ServerConfig) : Sound { server := start config } where
  locked :=
    ⟨by simp [start, NetThread.locked], by simp [start, WatchdogThread.locked]⟩
  contacts :=
    { clock := BitVec.le_refl _
      pending := by simp [start, NetThread.pendingActivity]
      contact := by simp
      known := by simp [start] }
  watchdog := trivial

theorem timedOut_congr {s t : Server} (config : t.config = s.config) :
    t.timedOut = s.timedOut := by
  funext nowMs lastActivity
  rw [timedOut, timedOut, config]

theorem Silent.mono {s t : Server} (silent : Silent s)
    (activity : t.lastClientActivityTimeMs = s.lastClientActivityTimeMs)
    (clock : s.clock ≤ t.clock) (config : t.config = s.config) : Silent t := by
  unfold Silent at *
  rw [activity, config]
  exact Nat.lt_of_lt_of_le silent clock

theorem WatchdogKnows.mono {s t : Server} (knows : WatchdogKnows s)
    (activity : t.lastClientActivityTimeMs = s.lastClientActivityTimeMs)
    (clock : s.clock ≤ t.clock) (watchdog : t.watchdog = s.watchdog)
    (config : t.config = s.config) : WatchdogKnows t := by
  unfold WatchdogKnows at *
  rw [watchdog, activity, timedOut_congr config]
  cases thread : s.watchdog with
  | sleeping | checkState | readClock => trivial
  | loadActivity nowMs =>
      rw [thread] at knows
      exact ⟨knows.1, BitVec.le_trans knows.2 clock⟩
  | compare nowMs lastActivity =>
      rw [thread] at knows
      intro late
      obtain ⟨same, order, past⟩ := knows late
      exact ⟨same, order, BitVec.le_trans past clock⟩
  | lock =>
      rw [thread] at knows
      exact Silent.mono knows activity clock config
  | disconnect pc =>
      rw [thread] at knows
      exact fun present => (knows present).mono activity clock config

/-- Steps that leave the network thread and the activity time alone. -/
theorem Contacts.mono {r : Observed} {t : Server} (contacts : r.Contacts)
    (activity : t.lastClientActivityTimeMs = r.server.lastClientActivityTimeMs)
    (clock : r.server.clock ≤ t.clock) (net : t.net = r.server.net)
    (activeClient :
      t.activeClient = r.server.activeClient ∨ t.activeClient = none) :
    Contacts { server := t, contact := r.contact } where
  clock := by
    dsimp only
    rw [activity]
    exact BitVec.le_trans contacts.clock clock
  pending := by
    intro sender nowMs pending
    dsimp only at *
    rw [net] at pending
    rw [activity]
    obtain ⟨later, past⟩ := contacts.pending sender nowMs pending
    exact ⟨later, BitVec.le_trans past clock⟩
  contact := by
    dsimp only
    rw [activity]
    exact contacts.contact
  known := by
    intro client active
    dsimp only at *
    rw [net]
    rcases activeClient with same | none
    · exact contacts.known client (same ▸ active)
    · rw [none] at active
      nomatch active

/-- Steps that leave the watchdog and the mutex alone as well. -/
theorem Sound.mono {r : Observed} {t : Server} (sound : r.Sound)
    (activity : t.lastClientActivityTimeMs = r.server.lastClientActivityTimeMs)
    (clock : r.server.clock ≤ t.clock) (net : t.net = r.server.net)
    (activeClient :
      t.activeClient = r.server.activeClient ∨ t.activeClient = none)
    (watchdog : t.watchdog = r.server.watchdog)
    (config : t.config = r.server.config)
    (mutex : t.clientMutex = r.server.clientMutex) :
    Sound { server := t, contact := r.contact } where
  locked :=
    ⟨by rw [mutex, net]; exact sound.locked.net,
      by rw [mutex, watchdog]; exact sound.locked.watchdog⟩
  contacts := sound.contacts.mono activity clock net activeClient
  watchdog := sound.watchdog.mono activity clock watchdog config

/-! ## Steps of the network thread -/

theorem noteContact_isSome {contact : Address → Option Millis} {client : Address}
    (noted : (contact client).isSome) (activity : Option (Address × Millis)) :
    (noteContact contact activity client).isSome := by
  cases activity with
  | none => exact noted
  | some stored =>
      rw [noteContact, Function.update_apply]
      split
      · rfl
      · exact noted

section

variable {r : Observed} {t : Server}

theorem net_locked {s : Server} (effect : NetEffect s t) (locked : Locked s) :
    Locked t := by
  obtain ⟨net, watchdog⟩ := locked
  constructor
  · rcases effect.mutex with ⟨held, ⟨holds, same⟩ | ⟨leaves, free⟩⟩ |
      ⟨outside, ⟨stays, same⟩ | ⟨enters, free, taken⟩⟩
    · simp [holds, same, net, held]
    · simp [leaves, free]
    · simp [stays, same, net, outside]
    · simp [enters, taken]
  · rw [effect.watchdog, ← watchdog]
    rcases effect.mutex with ⟨held, ⟨holds, same⟩ | ⟨leaves, free⟩⟩ |
      ⟨outside, ⟨stays, same⟩ | ⟨enters, free, taken⟩⟩
    · rw [same]
    · simp [free, net.2 held]
    · rw [same]
    · simp [taken, free]

/-- A store in time leaves the watchdog right about what it knows. -/
theorem net_watchdogKnows {s : Server} (effect : NetEffect s t)
    (knows : WatchdogKnows s)
    (stores :
      s.net.pendingActivity.all (fun stored => inTime s stored.2) = true) :
    WatchdogKnows t := by
  have clock : s.clock ≤ t.clock := effect.clock ▸ BitVec.le_refl _
  rcases effect.activity with ⟨sender, nowMs, pending, stored, _⟩ | ⟨_, kept, _⟩
  · have early : inTime s nowMs = true := by simpa [pending] using stores
    unfold inTime at early
    unfold WatchdogKnows at *
    rw [effect.watchdog, timedOut_congr effect.config, effect.clock, stored]
    cases thread : s.watchdog with
    | sleeping | checkState | readClock => trivial
    | loadActivity readMs =>
        rw [thread] at early knows
        exact ⟨of_decide_eq_true early, knows.2⟩
    | compare readMs lastActivity =>
        rw [thread] at early
        intro late
        dsimp only at early
        rw [late] at early
        nomatch early
    | lock =>
        rw [thread] at early
        nomatch early
    | disconnect pc =>
        rw [thread] at early
        exact fun present => absurd (of_decide_eq_true early) present
  · exact knows.mono kept clock effect.watchdog effect.config

theorem net_contacts (contacts : r.Contacts) (effect : NetEffect r.server t) :
    Contacts
      { server := t
        contact := noteContact r.contact r.server.net.pendingActivity } where
  clock := by
    dsimp only
    rw [effect.clock]
    rcases effect.activity with ⟨sender, nowMs, pending, stored, _⟩ | ⟨_, kept, _⟩
    · rw [stored]
      exact (contacts.pending sender nowMs pending).2
    · rw [kept]
      exact contacts.clock
  pending := by
    intro sender nowMs pending
    dsimp only at *
    rcases effect.activity with ⟨_, _, _, _, none⟩ | ⟨_, kept, read⟩
    · rw [none] at pending
      nomatch pending
    · rw [kept, effect.clock, read sender nowMs pending]
      exact ⟨contacts.clock, BitVec.le_refl _⟩
  contact := by
    intro client time noted
    dsimp only at *
    rcases effect.activity with
      ⟨sender, nowMs, pending, stored, _⟩ | ⟨none, kept, _⟩
    · rw [pending, noteContact, Function.update_apply] at noted
      rw [stored]
      split at noted
      · obtain rfl := Option.some.inj noted
        exact BitVec.le_refl _
      · exact
          BitVec.le_trans (contacts.contact client time noted)
            (contacts.pending sender nowMs pending).1
    · rw [none] at noted
      rw [kept]
      exact contacts.contact client time noted
  known := by
    intro client active
    dsimp only at *
    rcases effect.activeClient client active with before | new
    · rcases contacts.known client before with noted | new
      · exact Or.inl (noteContact_isSome noted _)
      · rcases effect.newClient client new with new | ⟨nowMs, pending⟩
        · exact Or.inr new
        · rw [pending, noteContact, Function.update_self]
          exact Or.inl rfl
    · exact Or.inr new

/-! ## Steps of the watchdog -/

/-- The watchdog moves on without the mutex. -/
theorem move_sound {pc : WatchdogThread} (sound : r.Sound)
    (locked : pc.locked = r.server.watchdog.locked)
    (knows : WatchdogKnows { r.server with watchdog := pc }) :
    Sound { r with server := { r.server with watchdog := pc } } where
  locked := ⟨sound.locked.net, by rw [locked]; exact sound.locked.watchdog⟩
  contacts := sound.contacts.mono rfl (BitVec.le_refl _) rfl (Or.inl rfl)
  watchdog := knows

theorem timedOut_silent {s : Server} {nowMs : Millis}
    (order : s.lastClientActivityTimeMs ≤ nowMs) (past : nowMs ≤ s.clock)
    (late : s.timedOut nowMs s.lastClientActivityTimeMs = true) : Silent s := by
  unfold timedOut at late
  rw [Bool.and_eq_true, decide_eq_true_iff, decide_eq_true_iff,
    BitVec.toNat_sub_of_le order] at late
  have before : nowMs.toNat ≤ s.clock.toNat := past
  unfold Silent
  omega

theorem not_netLocked {s : Server} (locked : Locked s)
    (other : s.clientMutex ≠ some .net) : s.net.locked = false := by
  rwa [← Bool.not_eq_true, ← locked.net]

theorem watchdog_sound (sound : r.Sound)
    (stepped : r.server.watchdogStep = some t) :
    Sound { server := t, contact := r.contact } := by
  unfold watchdogStep at stepped
  have knows := sound.watchdog
  unfold WatchdogKnows at knows
  cases thread : r.server.watchdog with
  | sleeping =>
      rw [thread] at stepped
      obtain rfl := Option.some.inj stepped
      exact move_sound sound (by rw [thread]; rfl) trivial
  | checkState =>
      rw [thread] at stepped
      obtain rfl := Option.some.inj stepped
      split
      · exact move_sound sound (by rw [thread]; rfl) trivial
      · exact move_sound sound (by rw [thread]; rfl) trivial
  | readClock =>
      rw [thread] at stepped
      obtain rfl := Option.some.inj stepped
      exact
        move_sound sound (by rw [thread]; rfl)
          ⟨sound.contacts.clock, BitVec.le_refl _⟩
  | loadActivity nowMs =>
      rw [thread] at stepped knows
      obtain rfl := Option.some.inj stepped
      exact
        move_sound sound (by rw [thread]; rfl)
          fun _ => ⟨rfl, knows.1, knows.2⟩
  | compare nowMs lastActivity =>
      rw [thread] at stepped knows
      obtain rfl := Option.some.inj stepped
      split
      · next late =>
          obtain ⟨rfl, order, past⟩ := knows late
          exact
            move_sound sound (by rw [thread]; rfl) (timedOut_silent order past late)
      · exact move_sound sound (by rw [thread]; rfl) trivial
  | lock =>
      rw [thread] at stepped knows
      dsimp only at stepped
      split at stepped
      · next free =>
          obtain rfl := Option.some.inj stepped
          have outside := not_netLocked sound.locked (by simp [free])
          exact
            { locked := ⟨by simp [outside], by simp [WatchdogThread.locked]⟩
              contacts :=
                sound.contacts.mono rfl (BitVec.le_refl _) rfl (Or.inl rfl)
              watchdog := fun _ => knows }
      · nomatch stepped
  | disconnect pc =>
      rw [thread] at stepped knows
      have holds : r.server.clientMutex = some .watchdog :=
        sound.locked.watchdog.2 (by rw [thread]; rfl)
      have outside := not_netLocked sound.locked (by simp [holds])
      obtain ⟨_, _, _, _, equal, kept⟩ := r.server.disconnectStep_eq false pc
      dsimp only at stepped
      split at stepped <;> obtain rfl := Option.some.inj stepped
      · next following ended =>
          have silent : Silent r.server := by
            refine knows ?_
            rintro rfl
            nomatch ended
          rw [ended] at equal
          dsimp only at equal
          subst equal
          exact
            { locked := ⟨by simp [outside, holds], by simp [holds, WatchdogThread.locked]⟩
              contacts := sound.contacts.mono rfl (BitVec.le_refl _) rfl kept
              watchdog := fun _ => silent }
      · next ended =>
          rw [ended] at equal
          dsimp only at equal
          subst equal
          exact
            { locked := ⟨by simp [outside], by simp [WatchdogThread.locked]⟩
              contacts := sound.contacts.mono rfl (BitVec.le_refl _) rfl kept
              watchdog := trivial }

/-! ## Runs -/

theorem step_sound {action : Action} {u : Observed} (sound : r.Sound)
    (stores : r.StoresInTime action) (stepped : r.step action = some u) :
    u.Sound := by
  obtain ⟨t, served, rfl⟩ := Option.map_eq_some_iff.1 stepped
  have same : r.server.clock ≤ r.server.clock := BitVec.le_refl _
  cases action with
  | net o =>
      have effect := netStep_effect served
      exact
        { locked := net_locked effect sound.locked
          contacts := net_contacts sound.contacts effect
          watchdog := net_watchdogKnows effect sound.watchdog stores }
  | watchdog => exact watchdog_sound sound served
  | capture o =>
      obtain ⟨_, _, _, _, _, rfl⟩ := captureStep_eq served
      exact sound.mono rfl same rfl (Or.inl rfl) rfl rfl rfl
  | relay =>
      obtain ⟨_, _, _, _, _, rfl, kept⟩ := relayStep_eq served
      exact sound.mono rfl same rfl kept rfl rfl rfl
  | receive sender buffer =>
      rw [Server.step] at served
      split at served
      · next idle =>
          cases requested : requestOf buffer with
          | none =>
              rw [requested] at served
              obtain rfl := Option.some.inj served
              exact sound
          | some request =>
              rw [requested] at served
              obtain rfl := Option.some.inj served
              have effect := receive_effect idle sender request
              have unstored : r.server.net.pendingActivity = none := by
                rw [idle]
                rfl
              have contacts := net_contacts sound.contacts effect
              rw [unstored] at contacts
              exact
                { locked := net_locked effect sound.locked
                  contacts := contacts
                  watchdog :=
                    net_watchdogKnows effect sound.watchdog (by rw [unstored]; rfl) }
      · nomatch served
  | tick nowMs =>
      rw [Server.step] at served
      split at served
      · next later =>
          obtain rfl := Option.some.inj served
          exact sound.mono rfl later rfl (Or.inl rfl) rfl rfl rfl
      · nomatch served
  | captured data config | tunnelLost =>
      rw [Server.step] at served
      split at served
      · obtain rfl := Option.some.inj served
        exact sound.mono rfl same rfl (Or.inl rfl) rfl rfl rfl
      · nomatch served
  | captureEnds =>
      obtain rfl := Option.some.inj served
      exact sound.mono rfl same rfl (Or.inl rfl) rfl rfl rfl

end

/-- In every run whose handlers store activity times in time, the watchdog
disconnects a client only after a silence longer than `client_timeout_ms`. -/
theorem watchdog_disconnects_silent (config : ServerConfig) (actions : List Action)
    {r : Observed} {action : Action} {client : Address}
    (stores :
      EveryStep step StoresInTime { server := start config } actions)
    (reached : run step { server := start config } actions = some r)
    (disconnected : r.server.disconnectedByWatchdog action = some client) :
    ∃ time, r.contact client = some time ∧
      r.server.config.clientTimeoutMs < r.server.clock.toNat - time.toNat := by
  have sound : r.Sound :=
    run_invariant (fun _ _ _ sound stores stepped => step_sound sound stores stepped)
      actions (start_sound config) stores reached
  have clearing :
      r.server.watchdog = .disconnect .clearActive ∧
        r.server.activeClient = some client := by
    unfold disconnectedByWatchdog at disconnected
    split at disconnected
    · split at disconnected
      · exact ⟨by assumption, disconnected⟩
      · nomatch disconnected
    · nomatch disconnected
  obtain ⟨thread, active⟩ := clearing
  have holds : r.server.clientMutex = some .watchdog :=
    sound.locked.watchdog.2 (by rw [thread]; rfl)
  -- the handler that changes the client holds the mutex until the time is stored
  have settled : r.server.net.newClient ≠ some client := by
    have outside := not_netLocked sound.locked (by simp [holds])
    intro new
    unfold NetThread.newClient at new
    split at new <;> simp_all [NetThread.locked]
  rcases sound.contacts.known client active with noted | new
  · obtain ⟨time, noted⟩ := Option.isSome_iff_exists.1 noted
    have silent : Silent r.server := by
      have knows := sound.watchdog
      unfold WatchdogKnows at knows
      rw [thread] at knows
      exact knows nofun
    have latest : time.toNat ≤ r.server.lastClientActivityTimeMs.toNat :=
      sound.contacts.contact client time noted
    unfold Silent at silent
    exact ⟨time, noted, by omega⟩
  · exact absurd new settled

section Runs

def observe (actions : List Action) : Observed :=
  (run step { server := start {} } actions).getD { server := start {} }

/-- A phone connects at 1 ms and falls silent until the watchdog is about to
disconnect it. -/
def silence : List Action :=
  .tick 1 :: connecting ++ .tick 9000 :: List.replicate 8 .watchdog

theorem silence_disconnects :
    ∃ time, (observe silence).contact phone = some time ∧
      8000 < (observe silence).server.clock.toNat - time.toNat := by
  have disconnected :
      (observe silence).server.disconnectedByWatchdog .watchdog = some phone := by
    decide +kernel
  exact
    watchdog_disconnects_silent {} silence (by decide +kernel)
      (run_eq_some_getD (by decide +kernel)) disconnected

/-- A ping arrives after the watchdog has read the clock and before it loads the
activity time. -/
def pingBehindClock : List Action :=
  .tick 1 :: connecting ++
    [.tick 5000, .watchdog, .watchdog, .watchdog, .tick 5001,
      .receive phone (emptyRequest .heartbeatPing), .net {}, .net {}, .net {},
      .watchdog, .watchdog, .watchdog, .watchdog, .watchdog]

/-- The difference wraps, and a client that has just been heard is
disconnected. -/
theorem ping_disconnects :
    ¬ ∀ (config : ServerConfig) (actions : List Action) (r : Observed)
        (action : Action) (client : Address),
        run step { server := start config } actions = some r →
        r.server.disconnectedByWatchdog action = some client →
        ∃ time, r.contact client = some time ∧
          r.server.config.clientTimeoutMs < r.server.clock.toNat - time.toNat := by
  intro claim
  obtain ⟨time, noted, silent⟩ :=
    claim {} pingBehindClock (observe pingBehindClock) .watchdog phone
      (run_eq_some_getD (by decide +kernel)) (by decide +kernel)
  have recent : (observe pingBehindClock).contact phone = some 5001 := by
    decide +kernel
  have clock : (observe pingBehindClock).server.clock = 5001 := by decide +kernel
  obtain rfl := Option.some.inj (recent.symm.trans noted)
  rw [clock, Nat.sub_self] at silent
  exact Nat.not_lt_zero _ silent

end Runs

end Observed

end AudioRouter.Server
