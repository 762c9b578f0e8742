import AudioRouter.Lib.LockOrder
import AudioRouter.Server.Model
import Mathlib.Data.Fintype.Basic

/-!
# The mutexes of the server

Every function of `AudioRouterServer`, of its capture engine and of
`AudioEndpointControl` (Windows branch) that takes a mutex or calls one that does, as
code over the mutexes.  A call reads the members that decide which mutexes are taken,
and unfolds into what it locks and calls next.
-/

namespace AudioRouter.Server.Locks

open LockOrder Transition

inductive Mutex where
  /-- `client_mutex_` -/
  | client
  /-- `callback_mutex_` of the capture engine -/
  | callback
  /-- `chunk_mutex_` -/
  | chunk
  /-- `stats_mutex_` -/
  | stats
  /-- `AudioEndpointControl::mutex_` -/
  | endpoint
  deriving DecidableEq, Repr

/-- The order in which mutexes are nested. -/
def Mutex.rank : Mutex → Nat
  | .client => 0
  | .callback => 0
  | .chunk => 1
  | .stats => 2
  | .endpoint => 2

/-- `main` is the thread that calls the public functions. -/
inductive Thread where
  | main
  | network
  | watchdog
  | relay
  | capture
  deriving DecidableEq, Repr

instance : Fintype Thread :=
  ⟨{.main, .network, .watchdog, .relay, .capture}, fun t => by cases t <;> decide⟩

/-- The members that the handlers branch on, and the threads that are running. -/
structure Shared where
  autoMutePcSpeaker : Bool := true
  usbMode : Bool := false
  clientTimeoutMs : Nat := 8000
  framesPerPacket : Nat := 240
  isRunning : Bool := false
  state : ServerState := .stopped
  activeClient : Option Address := none
  lastClientActivityTimeMs : Millis := 0
  capturing : Bool := false
  hasCallback : Bool := false
  chunkBytes : Nat := 0
  hasEndpointVolume : Bool := false
  isSilencedByUs : Bool := false
  alive : Thread → Bool := fun _ => false

/-- The public functions. -/
inductive PublicCall where
  | start
  | stop
  | getStats
  | getActiveClient
  deriving DecidableEq, Repr

inductive RelayEvent where
  | idle
  | tunnelClosed
  | cannotListen
  deriving DecidableEq, Repr

/-- What a call gets from outside. -/
structure Input where
  publicCall : PublicCall := .getStats
  /-- `init`: whether `Activate` gave an endpoint, or `none` where an earlier call
  failed. -/
  activated : Option Bool := some true
  /-- Whether the socket could be opened and bound. -/
  socketOk : Bool := true
  /-- A datagram that passes the checks of `network_receive_thread`. -/
  request : Option (Address × Request) := none
  nowMs : Millis := 0
  /-- `capture_engine_->start`. -/
  captureOk : Bool := true
  relayEvent : RelayEvent := .idle
  /-- Bytes of a captured block, and of one of its frames. -/
  capturedBytes : Nat := 0
  bytesPerFrame : Nat := 4
  /-- Whether `send_to` returned a positive count. -/
  sendOk : Bool := true

/-- A call, or the rest of one behind a branch. -/
inductive Call where
  /-- The caller of the public functions. -/
  | caller
  | start
  | openSocket
  | setAudioCallback
  | startThreads
  | stop
  | captureStop
  | join (t : Thread)
  | setStopped
  /-- `AudioEndpointControl`, under its mutex. -/
  | init
  | shutdown
  | mutePcSpeaker
  | silence
  | unmutePcSpeaker
  /-- `network_receive_thread` and its handlers. -/
  | network
  | connectReq (sender : Address)
  | startCapture
  | setStreaming
  | disconnectReq (sender : Address)
  | disconnectClient
  | clearClient
  | heartbeatPing (sender : Address) (hasPayload : Bool)
  | controlCmd (sender : Address) (payload : Option ControlCmdPayload)
  /-- `watchdog_thread` -/
  | watchdog
  | watchdogTick
  /-- `usb_relay_thread` -/
  | relay
  /-- The capture thread, its callback and `on_audio_captured`. -/
  | capture
  | audioCallback (bytes bytesPerFrame : Nat)
  | appendChunk (bytes targetChunkBytes : Nat)
  | sendChunks (targetChunkBytes : Nat)
  deriving DecidableEq, Repr

abbrev Code := List (Op Mutex Call)

namespace Shared

def setAlive (s : Shared) (t : Thread) (alive : Bool) : Shared :=
  { s with alive := Function.update s.alive t alive }

/-- `AudioEndpointControl` calls of the server that depend on the configuration. -/
def ifAutoMute (s : Shared) (code : Code) : Code :=
  if s.autoMutePcSpeaker then code else []

/-- The busy test of `handle_connect_req`. -/
def isBusy (s : Shared) (sender : Address) (nowMs : Millis) : Bool :=
  s.state == .streaming && s.activeClient.isSome && s.activeClient != some sender &&
    decide ((nowMs - s.lastClientActivityTimeMs).toNat < s.clientTimeoutMs)

/-- The test of the watchdog. -/
def hasTimedOut (s : Shared) (nowMs : Millis) : Bool :=
  decide (s.lastClientActivityTimeMs.toNat > 0) &&
    decide ((nowMs - s.lastClientActivityTimeMs).toNat > s.clientTimeoutMs)

def chunkTarget (s : Shared) (bytesPerFrame : Nat) : Nat :=
  (if s.framesPerPacket > 0 then s.framesPerPacket else 240) * bytesPerFrame

end Shared

/-- The handler of a request. -/
def handlerCode (sender : Address) : Request → Code
  | .discovery => []
  | .connect => locked .client [.call (.connectReq sender)]
  | .disconnect => locked .client [.call (.disconnectReq sender)]
  | .heartbeat _ payload => [.call (.heartbeatPing sender payload.isSome)]
  | .control payload => [.call (.controlCmd sender payload)]

/-- What each call does to the members, and what it locks and calls next. -/
def exec (i : Input) (c : Call) (s : Shared) : Option (Shared × Code) :=
  match c with
  | .caller =>
      let code : Code :=
        match i.publicCall with
        | .start => [.call .start]
        | .stop => [.call .stop]
        | .getStats => locked .stats []
        | .getActiveClient => locked .client []
      some (s, code ++ [.call .caller])
  | .start =>
      if s.isRunning then some (s, [])
      else
        some (s, s.ifAutoMute (locked .endpoint [.call .init]) ++ [.call .openSocket])
  | .openSocket =>
      if i.socketOk then
        -- a capture engine of an earlier start is destroyed, which stops it
        some (s,
          .call .captureStop ::
            (locked .callback [.call .setAudioCallback] ++ [.call .startThreads]))
      else some (s, [])
  | .setAudioCallback => some ({ s with hasCallback := true }, [])
  | .startThreads =>
      let s := { s with isRunning := true, state := .listening }
      let s := (s.setAlive .network true).setAlive .watchdog true
      some (if s.usbMode then s.setAlive .relay true else s, [])
  | .stop =>
      some ({ s with isRunning := false },
        [.call .disconnectClient, .call .captureStop, .call (.join .network),
            .call (.join .watchdog), .call (.join .relay)] ++
          s.ifAutoMute
            (locked .endpoint [.call .unmutePcSpeaker] ++
              locked .endpoint [.call .shutdown]) ++
          [.call .setStopped])
  | .captureStop =>
      if s.capturing then
        some ({ s with capturing := false }, [.call (.join .capture)])
      else some (s, [])
  | .join t => if s.alive t then none else some (s, [])
  | .setStopped => some ({ s with state := .stopped }, [])
  | .init =>
      match i.activated with
      | none => some (s, [])
      | some ok => some ({ s with hasEndpointVolume := ok }, [])
  | .shutdown => some ({ s with isSilencedByUs := false, hasEndpointVolume := false }, [])
  | .mutePcSpeaker =>
      if s.hasEndpointVolume then some (s, [.call .silence])
      else
        -- `init` locks the mutex that `mute_pc_speaker` holds
        some (s, locked .endpoint [.call .init] ++ [.call .silence])
  | .silence => some (if s.hasEndpointVolume then { s with isSilencedByUs := true } else s, [])
  | .unmutePcSpeaker =>
      some (if s.hasEndpointVolume then { s with isSilencedByUs := false } else s, [])
  | .network =>
      if s.alive .network then
        if s.isRunning then
          match i.request with
          | none => some (s, [.call .network])
          | some (sender, request) =>
              some (s, handlerCode sender request ++ [.call .network])
        else some (s.setAlive .network false, [.call .network])
      else none
  | .connectReq sender =>
      if s.isBusy sender i.nowMs then some (s, [])
      else
        some
          ({ s with activeClient := some sender, lastClientActivityTimeMs := i.nowMs },
            [.call .startCapture])
  | .startCapture =>
      let code : Code :=
        s.ifAutoMute (locked .endpoint [.call .mutePcSpeaker]) ++ [.call .setStreaming]
      if s.capturing then some (s, code)
      else if i.captureOk then
        some ({ s with capturing := true }.setAlive .capture true, code)
      else some (s, [])
  | .setStreaming => some ({ s with state := .streaming }, [])
  | .disconnectReq sender =>
      some (s, if s.activeClient = some sender then [.call .disconnectClient] else [])
  | .disconnectClient =>
      if s.state = .streaming ∧ s.activeClient.isSome then
        some (s,
          s.ifAutoMute (locked .endpoint [.call .unmutePcSpeaker]) ++ [.call .clearClient])
      else some (s, [])
  | .clearClient => some ({ s with activeClient := none, state := .listening }, [])
  | .heartbeatPing sender hasPayload =>
      if s.activeClient = some sender then
        some ({ s with lastClientActivityTimeMs := i.nowMs },
          if hasPayload then locked .stats [] else [])
      else some (s, [])
  | .controlCmd sender payload =>
      if s.activeClient = some sender then
        match payload with
        | none => some (s, [])
        | some cmd =>
            -- `set_mute` and `set_volume`
            some (s,
              if cmd.cmdId = 1 ∨ cmd.cmdId = 2 ∨ cmd.cmdId = 3 then locked .endpoint []
              else [])
      else some (s, [])
  | .watchdog =>
      if s.alive .watchdog then
        if s.isRunning then some (s, [.call .watchdogTick, .call .watchdog])
        else some (s.setAlive .watchdog false, [.call .watchdog])
      else none
  | .watchdogTick =>
      some (s,
        if s.state = .streaming ∧ s.hasTimedOut i.nowMs then
          locked .client [.call .disconnectClient]
        else [])
  | .relay =>
      if s.alive .relay then
        if s.isRunning then
          match i.relayEvent with
          | .idle => some (s, [.call .relay])
          | .tunnelClosed => some (s, [.call .disconnectClient, .call .relay])
          | .cannotListen => some (s.setAlive .relay false, [.call .relay])
        else some (s.setAlive .relay false, [.call .relay])
      else none
  | .capture =>
      if s.alive .capture then
        if s.capturing then
          some (s,
            locked .callback [.call (.audioCallback i.capturedBytes i.bytesPerFrame)] ++
              [.call .capture])
        else some (s.setAlive .capture false, [.call .capture])
      else none
  | .audioCallback bytes bytesPerFrame =>
      if s.hasCallback ∧ s.state = .streaming ∧ s.activeClient.isSome then
        some (s, locked .chunk [.call (.appendChunk bytes (s.chunkTarget bytesPerFrame))])
      else some (s, [])
  | .appendChunk bytes targetChunkBytes =>
      some ({ s with chunkBytes := s.chunkBytes + bytes },
        [.call (.sendChunks targetChunkBytes)])
  | .sendChunks targetChunkBytes =>
      if s.chunkBytes ≥ targetChunkBytes then
        some ({ s with chunkBytes := s.chunkBytes - targetChunkBytes },
          (if i.sendOk then locked .stats [] else []) ++
            [.call (.sendChunks targetChunkBytes)])
      else some (s, [])

/-- A server before `start()`; a thread that is not alive waits to be started. -/
def idle (config : ServerConfig) (usbMode : Bool) :
    Machine Thread Mutex Call Shared :=
  { shared :=
      { autoMutePcSpeaker := config.autoMutePcSpeaker
        usbMode := usbMode
        clientTimeoutMs := config.clientTimeoutMs
        framesPerPacket := config.framesPerPacket }
    code := fun
      | .main => [.call .caller]
      | .network => [.call .network]
      | .watchdog => [.call .watchdog]
      | .relay => [.call .relay]
      | .capture => [.call .capture] }

/-! ## The discipline -/

/-- The mutexes under which a call is made. -/
def Expects (held : List Mutex) : Call → Prop
  | .init | .shutdown => held = [.endpoint]
  | .mutePcSpeaker | .silence => held = [.endpoint, .client]
  | .unmutePcSpeaker => held = [.endpoint] ∨ held = [.endpoint, .client]
  | .connectReq _ | .startCapture | .setStreaming | .disconnectReq _ => held = [.client]
  | .disconnectClient | .clearClient => held = [] ∨ held = [.client]
  | .setAudioCallback | .audioCallback _ _ => held = [.callback]
  | .appendChunk _ _ | .sendChunks _ => held = [.chunk, .callback]
  | _ => held = []

/-- `mute_pc_speaker` finds the endpoint initialised. -/
def EndpointReady (s : Shared) (c : Call) : Prop :=
  c = .mutePcSpeaker → s.hasEndpointVolume = true

instance (s : Shared) (c : Call) : Decidable (EndpointReady s c) :=
  inferInstanceAs (Decidable (_ → _))

theorem ordered_ifAutoMute {s : Shared} {held : List Mutex} {code : Code}
    (ordered : Ordered Mutex.rank Expects held code held) :
    Ordered Mutex.rank Expects held (s.ifAutoMute code) held := by
  rw [Shared.ifAutoMute]
  split
  · exact ordered
  · rfl

/-- One call under the mutex of the endpoint control. -/
theorem ordered_endpoint {held : List Mutex} {c : Call}
    (above : ∀ h ∈ held, h = .client) (expected : Expects (.endpoint :: held) c) :
    Ordered Mutex.rank Expects held (locked .endpoint [.call c]) held := by
  refine Ordered.locked (fun h holds => ?_) ⟨expected, rfl⟩
  rw [above h holds]
  decide

theorem ordered_handlerCode (sender : Address) (request : Request) :
    Ordered Mutex.rank Expects [] (handlerCode sender request) [] := by
  cases request with
  | discovery => rfl
  | connect | disconnect => exact Ordered.locked nofun ⟨rfl, rfl⟩
  | heartbeat | control => exact ⟨rfl, rfl⟩

/-- Every call takes mutexes in the order of their ranks, above those under which it
is made, and waits only where it holds none. -/
theorem exec_discipline : Discipline Mutex.rank Expects exec EndpointReady where
  ordered := by
    intro held c i s r expected ready executed
    rw [exec.eq_def] at executed
    cases c with
    | caller =>
      obtain rfl := Option.some.inj executed
      obtain rfl : held = [] := expected
      refine Ordered.follows ?_ ⟨rfl, rfl⟩
      split
      · exact ⟨rfl, rfl⟩
      · exact ⟨rfl, rfl⟩
      · exact Ordered.locked nofun rfl
      · exact Ordered.locked nofun rfl
    | start =>
      obtain rfl : held = [] := expected
      dsimp only at executed
      split at executed <;> obtain rfl := Option.some.inj executed
      · rfl
      · exact Ordered.follows (ordered_ifAutoMute (ordered_endpoint nofun rfl)) ⟨rfl, rfl⟩
    | openSocket =>
      obtain rfl : held = [] := expected
      dsimp only at executed
      split at executed <;> obtain rfl := Option.some.inj executed
      · exact ⟨rfl, Ordered.follows (Ordered.locked nofun ⟨rfl, rfl⟩) ⟨rfl, rfl⟩⟩
      · rfl
    | setAudioCallback | startThreads | setStopped | shutdown | silence | unmutePcSpeaker
      | setStreaming | clearClient =>
      obtain rfl := Option.some.inj executed
      rfl
    | stop =>
      obtain rfl := Option.some.inj executed
      obtain rfl : held = [] := expected
      refine Ordered.follows (Ordered.follows ?_ (ordered_ifAutoMute ?_)) ⟨rfl, rfl⟩
      · exact ⟨Or.inl rfl, rfl, rfl, rfl, rfl, rfl⟩
      · exact
          Ordered.follows (ordered_endpoint nofun (Or.inl rfl)) (ordered_endpoint nofun rfl)
    | captureStop =>
      obtain rfl : held = [] := expected
      dsimp only at executed
      split at executed <;> obtain rfl := Option.some.inj executed
      · exact ⟨rfl, rfl⟩
      · rfl
    | join t =>
      dsimp only at executed
      split at executed
      · exact nomatch executed
      · obtain rfl := Option.some.inj executed
        rfl
    | init =>
      dsimp only at executed
      split at executed <;> obtain rfl := Option.some.inj executed <;> rfl
    | mutePcSpeaker =>
      obtain rfl : held = [.endpoint, .client] := expected
      rw [ready rfl] at executed
      obtain rfl := Option.some.inj executed
      exact ⟨rfl, rfl⟩
    | network =>
      obtain rfl : held = [] := expected
      dsimp only at executed
      split at executed
      · split at executed
        · split at executed <;> obtain rfl := Option.some.inj executed
          · exact ⟨rfl, rfl⟩
          · exact Ordered.follows (ordered_handlerCode _ _) ⟨rfl, rfl⟩
        · obtain rfl := Option.some.inj executed
          exact ⟨rfl, rfl⟩
      · exact nomatch executed
    | connectReq sender =>
      obtain rfl : held = [.client] := expected
      dsimp only at executed
      split at executed <;> obtain rfl := Option.some.inj executed
      · rfl
      · exact ⟨rfl, rfl⟩
    | startCapture =>
      obtain rfl : held = [.client] := expected
      have muting :
          Ordered Mutex.rank Expects [.client]
            (s.ifAutoMute (locked .endpoint [.call .mutePcSpeaker]) ++ [.call .setStreaming])
            [.client] := by
        refine Ordered.follows (ordered_ifAutoMute (ordered_endpoint ?_ rfl)) ⟨rfl, rfl⟩
        exact fun h holds => List.mem_singleton.1 holds
      dsimp only at executed
      split at executed
      · obtain rfl := Option.some.inj executed
        exact muting
      · split at executed <;> obtain rfl := Option.some.inj executed
        · exact muting
        · rfl
    | disconnectReq sender =>
      obtain rfl : held = [.client] := expected
      obtain rfl := Option.some.inj executed
      dsimp only
      split
      · exact ⟨Or.inr rfl, rfl⟩
      · rfl
    | disconnectClient =>
      have unmuting :
          Ordered Mutex.rank Expects held
            (s.ifAutoMute (locked .endpoint [.call .unmutePcSpeaker]) ++ [.call .clearClient])
            held := by
        refine Ordered.follows (ordered_ifAutoMute ?_) ⟨expected, rfl⟩
        rcases expected with rfl | rfl
        · exact ordered_endpoint nofun (Or.inl rfl)
        · exact ordered_endpoint (fun h holds => List.mem_singleton.1 holds) (Or.inr rfl)
      dsimp only at executed
      split at executed <;> obtain rfl := Option.some.inj executed
      · exact unmuting
      · rfl
    | heartbeatPing sender hasPayload =>
      obtain rfl : held = [] := expected
      dsimp only at executed
      split at executed <;> obtain rfl := Option.some.inj executed
      · cases hasPayload with
        | true => exact Ordered.locked nofun rfl
        | false => rfl
      · rfl
    | controlCmd sender payload =>
      obtain rfl : held = [] := expected
      dsimp only at executed
      split at executed
      · split at executed <;> obtain rfl := Option.some.inj executed
        · rfl
        · dsimp only
          split
          · exact Ordered.locked nofun rfl
          · rfl
      · obtain rfl := Option.some.inj executed
        rfl
    | watchdog =>
      obtain rfl : held = [] := expected
      dsimp only at executed
      split at executed
      · split at executed <;> obtain rfl := Option.some.inj executed
        · exact ⟨rfl, rfl, rfl⟩
        · exact ⟨rfl, rfl⟩
      · exact nomatch executed
    | watchdogTick =>
      obtain rfl : held = [] := expected
      obtain rfl := Option.some.inj executed
      dsimp only
      split
      · exact Ordered.locked nofun ⟨Or.inr rfl, rfl⟩
      · rfl
    | relay =>
      obtain rfl : held = [] := expected
      dsimp only at executed
      split at executed
      · split at executed
        · split at executed <;> obtain rfl := Option.some.inj executed
          · exact ⟨rfl, rfl⟩
          · exact ⟨Or.inl rfl, rfl, rfl⟩
          · exact ⟨rfl, rfl⟩
        · obtain rfl := Option.some.inj executed
          exact ⟨rfl, rfl⟩
      · exact nomatch executed
    | capture =>
      obtain rfl : held = [] := expected
      dsimp only at executed
      split at executed
      · split at executed <;> obtain rfl := Option.some.inj executed
        · exact Ordered.follows (Ordered.locked nofun ⟨rfl, rfl⟩) ⟨rfl, rfl⟩
        · exact ⟨rfl, rfl⟩
      · exact nomatch executed
    | audioCallback bytes bytesPerFrame =>
      obtain rfl : held = [.callback] := expected
      dsimp only at executed
      split at executed <;> obtain rfl := Option.some.inj executed
      · refine Ordered.locked ?_ ⟨rfl, rfl⟩
        decide
      · rfl
    | appendChunk bytes targetChunkBytes =>
      obtain rfl := Option.some.inj executed
      exact ⟨expected, rfl⟩
    | sendChunks targetChunkBytes =>
      obtain rfl : held = [.chunk, .callback] := expected
      dsimp only at executed
      split at executed <;> obtain rfl := Option.some.inj executed
      · refine Ordered.follows ?_ ⟨rfl, rfl⟩
        split
        · refine Ordered.locked ?_ rfl
          decide
        · rfl
      · rfl
  ready := by
    intro held c i s expected holds
    rw [exec.eq_def]
    cases c with
    | join | network | watchdog | relay | capture => exact absurd expected holds
    | _ =>
      dsimp only
      repeat' split
      all_goals rfl

/-! ## Runs -/

abbrev threadStep (s : Machine Thread Mutex Call Shared) (a : Thread × Input) :
    Option (Machine Thread Mutex Call Shared) :=
  s.step exec a

theorem idle_orderly (config : ServerConfig) (usbMode : Bool) :
    Orderly Mutex.rank Expects (idle config usbMode) where
  ordered := fun t => by cases t <;> exact ⟨rfl, rfl⟩
  exclusive := fun holds _ => absurd holds List.not_mem_nil

/-- `mute_pc_speaker` without an endpoint waits for the mutex that it holds. -/
theorem mutePcSpeaker_waits {s s' : Machine Thread Mutex Call Shared} {t : Thread}
    {i : Input} (orderly : Orderly Mutex.rank Expects s)
    (bad : ¬ GoodCall EndpointReady s (t, i)) (stepped : threadStep s (t, i) = some s') :
    s'.Wants t .endpoint ∧ .endpoint ∈ s'.held t := by
  obtain ⟨c, next, notReady⟩ : ∃ c, s.nextCall t = some c ∧ ¬ EndpointReady s.shared c := by
    by_contra none
    refine bad fun c next => ?_
    by_contra notReady
    exact none ⟨c, next, notReady⟩
  obtain ⟨rfl, missing⟩ := Classical.not_imp.1 notReady
  have ordered := orderly.ordered t
  rw [Machine.nextCall] at next
  split at next
  next rest code =>
    obtain rfl := Option.some.inj next
    rw [code] at ordered
    have held : s.held t = [.endpoint, .client] := ordered.1
    rw [threadStep, Machine.step] at stepped
    simp only [code, exec, if_neg missing, Option.map_some, Option.some.injEq] at stepped
    subst stepped
    refine ⟨⟨_, Machine.goesOn_code_self ..⟩, ?_⟩
    rw [Machine.goesOn_held_self, held]
    exact List.mem_cons_self
  · cases next

/-- In some state of the run a thread acquires `m` while it holds `h`. -/
def NestsInRun (s : Machine Thread Mutex Call Shared) (actions : List (Thread × Input))
    (h m : Mutex) : Prop :=
  ∃ before u, before <+: actions ∧ run threadStep s before = some u ∧ u.Nests h m

/-- In every run of the server, no thread acquires a mutex that it holds, nesting has
no cycle and whenever a mutex is taken a holder can go on, if and only if
`mute_pc_speaker` is never called without an endpoint. -/
theorem mutexes_never_deadlock {config : ServerConfig} {usbMode : Bool}
    {actions : List (Thread × Input)} {s : Machine Thread Mutex Call Shared}
    (reached : run threadStep (idle config usbMode) actions = some s) :
    ((∀ before u, before <+: actions → run threadStep (idle config usbMode) before = some u →
        ∀ t m, u.Wants t m → m ∉ u.held t) ∧
      (∀ m, ¬ Relation.TransGen (NestsInRun (idle config usbMode) actions) m m) ∧
      ∀ before u, before <+: actions → run threadStep (idle config usbMode) before = some u →
        ∀ m, ¬ u.Free m → HolderMoves exec u) ↔
      EveryStep threadStep (GoodCall EndpointReady) (idle config usbMode) actions := by
  have start := idle_orderly config usbMode
  constructor
  · rintro ⟨never, _, _⟩
    refine
      (everyState_iff_of_breaks ?_ ?_ ?_ actions start reached).1 never
    · exact fun _ _ _ before fine stepped => before.step exec_discipline fine stepped
    · exact fun _ orderly t m wants => orderly.not_held wants
    · intro u a v orderly bad stepped fine
      obtain ⟨wants, holds⟩ := mutePcSpeaker_waits orderly bad stepped
      exact fine a.1 .endpoint wants holds
  · intro every
    have always :
        ∀ before u, before <+: actions →
          run threadStep (idle config usbMode) before = some u →
          Orderly Mutex.rank Expects u := fun before u upTo onward =>
      run_orderly exec_discipline start (every.of_prefix _ upTo) onward
    refine ⟨?_, ?_, ?_⟩
    · exact fun before u upTo onward t m wants => (always before u upTo onward).not_held wants
    · refine @acyclic_of_rank _ Mutex.rank _ fun h m nested => ?_
      obtain ⟨before, u, upTo, onward, nests⟩ := nested
      exact (always before u upTo onward).nests nests
    · intro before u upTo onward m taken
      have bounded : ∀ k, Mutex.rank k < 3 := fun k => by cases k <;> decide
      exact
        (always before u upTo onward).holderMoves exec_discipline bounded 3
          (Nat.sub_le 3 _) taken

/-- `start()` with what `Activate` gives. -/
def starting (activated : Option Bool) : List (Thread × Input) :=
  (.main, { publicCall := .start }) :: (.main, {}) :: (.main, {}) ::
    (.main, { activated := activated }) :: List.replicate 7 (.main, {})

/-- A phone connects, up to the end of `mute_pc_speaker`'s first branch. -/
def muting : List (Thread × Input) :=
  (.network, { request := some (phone, .connect) }) :: List.replicate 5 (.network, {})

def connecting (activated : Option Bool) : List (Thread × Input) :=
  starting activated ++ muting

def connected (activated : Option Bool) : Machine Thread Mutex Call Shared :=
  (run threadStep (idle {} false) (connecting activated)).getD (idle {} false)

theorem mutexes_never_deadlock_connect :
    (connected (some true)).shared.activeClient = some phone ∧
      ((∀ before u, before <+: connecting (some true) →
          run threadStep (idle {} false) before = some u →
          ∀ t m, u.Wants t m → m ∉ u.held t) ∧
        (∀ m, ¬ Relation.TransGen (NestsInRun (idle {} false) (connecting (some true))) m m) ∧
        ∀ before u, before <+: connecting (some true) →
          run threadStep (idle {} false) before = some u →
          ∀ m, ¬ u.Free m → HolderMoves exec u) :=
  ⟨by decide +kernel,
    (mutexes_never_deadlock (s := connected (some true))
      (run_eq_some_getD (by decide +kernel))).2 (by decide +kernel)⟩

/-- After a failed `init` the network thread waits for ever for a mutex that it
holds. -/
theorem connect_after_failed_init_waits :
    run threadStep (idle {} false) (connecting none) = some (connected none) ∧
      (connected none).Wants .network .endpoint ∧
      .endpoint ∈ (connected none).held .network ∧
      ∀ later s, run threadStep (connected none) later = some s →
        s.Wants .network .endpoint ∧ .endpoint ∈ s.held .network := by
  have wants : (connected none).Wants .network .endpoint := ⟨_, rfl⟩
  have holds : .endpoint ∈ (connected none).held .network := by decide +kernel
  refine ⟨run_eq_some_getD (by decide +kernel), wants, holds, fun later s onward => ?_⟩
  exact run_of_wants_held ⟨wants, holds⟩ onward

end AudioRouter.Server.Locks
