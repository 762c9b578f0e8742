import AudioRouter.UsbTunnel.Model

/-!
# Datagrams of the engine

The relay of the client takes the engine's datagrams out of `usb_relay_udp_` and writes
each as a frame to `usb_tcp_`.  While the tunnel is down they are meant to wait in the
kernel buffer of the socket, here a queue.  A run is any series of calls of the relay
with any results, any datagrams of the engine and any bytes from the server.

The ledger beside the relay keeps a record of each call of `write_frame`.  A datagram is
lost where such a call is over and the connection has not accepted the whole frame;
what becomes of accepted bytes is up to TCP.  A datagram of the engine begins with a
header, so none is empty.
-/

namespace AudioRouter

open UsbTunnel Protocol Transition

namespace EngineQueue

/-- A call of `write_frame`: the datagram, `usb_tcp_` when it was taken from the UDP
socket, the bytes of its frame that `send` has accepted, and what the call returned. -/
structure Write where
  datagram : Datagram
  tcp : Option Nat
  accepted : Nat := 0
  returned : Option Bool := none
  deriving DecidableEq, Repr

/-- The call is over, and the frame has not been accepted whole. -/
def Write.Lost (write : Write) : Prop :=
  write.returned.isSome ∧ write.accepted < (format.frame write.datagram).length

/-- The kernel buffer of `usb_relay_udp_`, all that the engine has sent to it, the calls
of `write_frame`, and whether `read_frame` has returned `Closed` or `Error` since the
last `select2`. -/
structure Ledger where
  queue : List Datagram := []
  sent : List Datagram := []
  finished : List Write := []
  current : Option Write := none
  readFailed : Bool := false
  deriving DecidableEq, Repr

namespace Ledger

def calls (ledger : Ledger) : List Write :=
  ledger.finished ++ ledger.current.toList

/-- A round of the current call. -/
def wrote (ledger : Ledger) (n : Nat) (returned : Option Bool) : Ledger :=
  match ledger.current with
  | none => ledger
  | some write =>
      let write := { write with accepted := write.accepted + n, returned := returned }
      if returned.isSome then
        { ledger with finished := ledger.finished ++ [write], current := none }
      else { ledger with current := some write }

end Ledger

/-- This round of `read_frame` returns `Closed` or `Error`. -/
def readFails (e : Endpoint) (recv : Recv) : Bool :=
  match e.relay.tcp with
  | none => false
  | some k =>
      match readFrame e.relay.rx (e.incoming k).unread recv with
      | none => false
      | some round =>
          decide (round.result = some .closed) || decide (round.result = some .error)

/-- What a call of the relay means for the ledger. -/
def Ledger.step (ledger : Ledger) (e : Endpoint) (input : Input) : Option Ledger :=
  match e.relay.pc, input with
  | .select, .select _ _ => some { ledger with readFailed := false }
  | .reading _, .recv recv =>
      some { ledger with readFailed := ledger.readFailed || readFails e recv }
  | .receiving, .receiveFrom (some (_, datagram)) =>
      match ledger.queue with
      | [] => none
      | first :: queue =>
          if first = datagram then
            some { ledger with
              queue := queue
              current := some { datagram := datagram, tcp := e.relay.tcp } }
          else none
  | .writing datagram sent, .send send =>
      match e.relay.tcp with
      | none => some (ledger.wrote 0 (some false))
      | some _ =>
          (writeFrame datagram sent send).map fun (bytes, returned) =>
            ledger.wrote bytes.length returned
  | _, _ => some ledger

end EngineQueue

open EngineQueue

/-- The relay of the client with the engine on one side and the server on the other. -/
structure EngineQueue where
  endpoint : Endpoint
  ledger : Ledger := {}

namespace EngineQueue

inductive Action where
  | relay (input : Input)
  /-- The engine sends a datagram, and the kernel queues it. -/
  | engine (datagram : Datagram)
  /-- Bytes of the server arrive on connection `k`. -/
  | arrive (k : Nat) (bytes : List UInt8)
  deriving DecidableEq, Repr

def step (s : EngineQueue) : Action → Option EngineQueue
  | .relay input =>
      (s.endpoint.clientStep input).bind fun endpoint =>
        (s.ledger.step s.endpoint input).map fun ledger =>
          { endpoint := endpoint, ledger := ledger }
  | .engine datagram =>
      if Endpoint.fits datagram then
        some { s with
          ledger :=
            { s.ledger with
              queue := s.ledger.queue ++ [datagram]
              sent := s.ledger.sent ++ [datagram] } }
      else none
  | .arrive k bytes =>
      some { s with
        endpoint :=
          { s.endpoint with
            incoming :=
              Function.update s.endpoint.incoming k
                { s.endpoint.incoming k with
                  unread := (s.endpoint.incoming k).unread ++ bytes } } }

/-- The relay begins without a connection. -/
def start : EngineQueue where
  endpoint :=
    { relay := {}
      incoming := fun _ => {}
      outgoing := fun _ => {} }

/-- The datagrams wait for the tunnel: each is taken only while the TCP socket is open,
is lost only through its own `write_frame` on a connection that was open, and is
otherwise still in the queue. -/
structure Waits (s : EngineQueue) : Prop where
  openWhenTaken : ∀ write ∈ s.ledger.calls, write.tcp.isSome
  lostByWrite :
    ∀ write ∈ s.ledger.calls, write.Lost → write.returned = some false ∧ write.tcp.isSome
  accounted : s.ledger.calls.map Write.datagram ++ s.ledger.queue = s.ledger.sent

/-- No datagram is taken in an iteration in which `read_frame` has failed: `select2` does
not report both sockets ready then, or `receive_from` returns nothing. -/
def Undisturbed (s : EngineQueue) : Action → Prop
  | .relay (.receiveFrom (some _)) => s.ledger.readFailed = false
  | _ => True

instance (s : EngineQueue) (action : Action) : Decidable (s.Undisturbed action) := by
  unfold Undisturbed
  split <;> infer_instance

/-! ## The calls of the relay -/

/-- The relay is back at the top of its loop. -/
def AtTop (relay : Relay) : Prop :=
  relay.pc = if relay.tcp.isSome then .select else .connect

theorem clientTop_atTop (relay : Relay) : AtTop (Endpoint.clientTop relay) := rfl

theorem clientRead_place (relay : Relay) (udp : Bool) :
    (Endpoint.clientRead relay udp).tcp = relay.tcp ∧
      ((Endpoint.clientRead relay udp).pc = .receiving ∨
        AtTop (Endpoint.clientRead relay udp)) := by
  cases udp with
  | false => exact ⟨rfl, Or.inr (clientTop_atTop relay)⟩
  | true => exact ⟨rfl, Or.inl rfl⟩

/-- `Closed` and `Error` close the connection, the other results keep it. -/
theorem clientResult_keeps {relay : Relay} {result : RecvResult} (closed : result ≠ .closed)
    (error : result ≠ .error) : (Endpoint.clientResult relay result).tcp = relay.tcp := by
  cases result with
  | frame out =>
      rw [Endpoint.clientResult]
      split <;> rfl
  | timeout => rfl
  | closed => exact absurd rfl closed
  | error => exact absurd rfl error

/-- What one call does to the place of the relay, to its connection and to the ledger. -/
inductive RelayCase (s t : EngineQueue) (input : Input) : Prop
  | connects (before : s.endpoint.relay.pc = .connect)
      (place : t.endpoint.relay.pc = .connect ∨
        t.endpoint.relay.pc = .select ∧ t.endpoint.relay.tcp.isSome)
      (ledger : t.ledger = s.ledger)
  | selects (before : s.endpoint.relay.pc = .select)
      (tcp : t.endpoint.relay.tcp = s.endpoint.relay.tcp)
      (place : (∃ udp, t.endpoint.relay.pc = .reading udp) ∨
        t.endpoint.relay.pc = .receiving ∨ AtTop t.endpoint.relay)
      (ledger : t.ledger = { s.ledger with readFailed := false })
  | reads (udp : Bool) (before : s.endpoint.relay.pc = .reading udp)
      (tcp : t.endpoint.relay.tcp = s.endpoint.relay.tcp)
      (place : t.endpoint.relay.pc = .reading udp ∨
        t.endpoint.relay.pc = .receiving ∨ AtTop t.endpoint.relay)
      (ledger : t.ledger = s.ledger)
  | fails (udp : Bool) (before : s.endpoint.relay.pc = .reading udp)
      (tcp : t.endpoint.relay.tcp = none)
      (place : t.endpoint.relay.pc = .receiving ∨ AtTop t.endpoint.relay)
      (ledger : t.ledger = { s.ledger with readFailed := true })
  | receivesNothing (before : s.endpoint.relay.pc = .receiving)
      (received : input = .receiveFrom none)
      (tcp : t.endpoint.relay.tcp = s.endpoint.relay.tcp)
      (place : AtTop t.endpoint.relay) (ledger : t.ledger = s.ledger)
  | takes (sender : Address) (datagram : Datagram) (queue : List Datagram)
      (before : s.endpoint.relay.pc = .receiving)
      (received : input = .receiveFrom (some (sender, datagram)))
      (waiting : s.ledger.queue = datagram :: queue)
      (tcp : t.endpoint.relay.tcp = s.endpoint.relay.tcp)
      (place : t.endpoint.relay.pc = .writing datagram 0)
      (ledger : t.ledger =
        { s.ledger with
          queue := queue
          current := some { datagram := datagram, tcp := s.endpoint.relay.tcp } })
  | writes (datagram : Datagram) (sent : Nat) (bytes : List UInt8)
      (before : s.endpoint.relay.pc = .writing datagram sent)
      (tcp : t.endpoint.relay.tcp = s.endpoint.relay.tcp)
      (place : t.endpoint.relay.pc = .writing datagram (sent + bytes.length))
      (ledger : t.ledger = s.ledger.wrote bytes.length none)
  | ends (datagram : Datagram) (sent n : Nat) (ok : Bool)
      (before : s.endpoint.relay.pc = .writing datagram sent)
      (place : AtTop t.endpoint.relay)
      (whole : ok = true → sent + n = (format.frame datagram).length)
      (ledger : t.ledger = s.ledger.wrote n (some ok))

/-- A round of `read_frame`. -/
theorem relayCase_of_read {s : EngineQueue} {udp : Bool} {k : Nat} {recv : Recv}
    {round : ReadRound} (before : s.endpoint.relay.pc = .reading udp)
    (conn : s.endpoint.relay.tcp = some k)
    (read :
      readFrame s.endpoint.relay.rx (s.endpoint.incoming k).unread recv = some round) :
    RelayCase s
      { endpoint :=
          s.endpoint.afterRead k round
            (match round.result with
            | none => s.endpoint.relay
            | some result =>
                Endpoint.clientRead (Endpoint.clientResult s.endpoint.relay result) udp)
        ledger :=
          { s.ledger with
            readFailed := s.ledger.readFailed || readFails s.endpoint recv } }
      (.recv recv) := by
  have failed :
      readFails s.endpoint recv =
        (decide (round.result = some .closed) || decide (round.result = some .error)) := by
    rw [readFails, conn]
    dsimp only
    rw [read]
  rw [failed]
  cases result : round.result with
  | none =>
      refine .reads udp before rfl (Or.inl before) ?_
      simp
  | some returned =>
      have next := clientRead_place (Endpoint.clientResult s.endpoint.relay returned) udp
      by_cases ended : returned = .closed ∨ returned = .error
      · refine .fails udp before ?_ next.2 ?_
        · rcases ended with rfl | rfl
          · exact next.1
          · exact next.1
        · rcases ended with rfl | rfl <;> simp
      · rw [not_or] at ended
        refine .reads udp before (next.1.trans (clientResult_keeps ended.1 ended.2))
          (Or.inr next.2) ?_
        simp [ended]

theorem relayCase_of_step {s t : EngineQueue} {input : Input}
    (stepped : s.step (.relay input) = some t) : RelayCase s t input := by
  rcases Option.bind_eq_some_iff.1 stepped with ⟨e, served, noted⟩
  rcases Option.map_eq_some_iff.1 noted with ⟨ledger, recorded, rfl⟩
  unfold Endpoint.clientStep at served
  unfold Ledger.step at recorded
  dsimp only at served
  split at served
  · next pc =>
      cases served
      simp only [pc] at recorded
      cases recorded
      exact .connects pc (Or.inr ⟨rfl, rfl⟩) rfl
  · next pc =>
      cases served
      simp only [pc] at recorded
      cases recorded
      exact .connects pc (Or.inl pc) rfl
  · next tcp udp pc =>
      simp only [pc] at recorded
      cases recorded
      have next := clientRead_place s.endpoint.relay udp
      split_ifs at served
      · cases served
        exact .selects pc rfl (Or.inl ⟨udp, rfl⟩) rfl
      · cases served
        exact .selects pc next.1 (Or.inr next.2) rfl
  · next udp recv pc =>
      simp only [pc] at recorded
      cases recorded
      cases conn : s.endpoint.relay.tcp with
      | none =>
          simp only [conn] at served
          cases served
      | some k =>
          simp only [conn] at served
          rcases Option.map_eq_some_iff.1 served with ⟨round, read, rfl⟩
          exact relayCase_of_read pc conn read
  · next pc =>
      cases served
      simp only [pc] at recorded
      cases recorded
      exact .receivesNothing pc rfl rfl (clientTop_atTop _) rfl
  · next sender datagram pc =>
      simp only [pc] at recorded
      split_ifs at served
      cases served
      cases waiting : s.ledger.queue with
      | nil =>
          simp only [waiting] at recorded
          cases recorded
      | cons first queue =>
          simp only [waiting] at recorded
          split_ifs at recorded with same
          cases recorded
          cases same
          exact .takes sender _ queue pc rfl waiting rfl rfl rfl
  · next datagram sent send pc =>
      simp only [pc] at recorded
      cases conn : s.endpoint.relay.tcp with
      | none =>
          simp only [conn] at served recorded
          cases served
          cases recorded
          refine .ends datagram sent 0 false pc (clientTop_atTop _) ?_ rfl
          intro failed
          cases failed
      | some k =>
          simp only [conn] at served recorded
          rcases Option.map_eq_some_iff.1 served with ⟨⟨bytes, returned⟩, write, rfl⟩
          rw [write, Option.map_some] at recorded
          cases recorded
          cases writeCase_of_writeFrame write with
          | sent n positive inside =>
              have length : (((format.frame datagram).drop sent).take n).length = n := by
                rw [List.length_take, List.length_drop]
                omega
              by_cases whole : sent + n = (format.frame datagram).length
              · simp only [if_pos whole]
                refine .ends datagram sent _ true pc (clientTop_atTop _) ?_ rfl
                rwa [length, imp_iff_right rfl]
              · simp only [if_neg whole]
                exact .writes datagram sent _ pc conn.symm rfl rfl
          | again => exact .writes datagram sent [] pc conn.symm rfl rfl
          | failed =>
              refine .ends datagram sent 0 false pc (clientTop_atTop _) ?_ rfl
              intro failed
              cases failed
  · cases served

/-! ## The invariant -/

/-- In the branches of an iteration the TCP socket is open unless `read_frame` has failed,
and a call of `write_frame` is recorded from where it began. -/
def InPlace (relay : Relay) (readFailed : Bool) (current : Option Write) : Prop :=
  match relay.pc with
  | .connect | .drain | .closing => current = none
  | .select => current = none ∧ relay.tcp.isSome
  | .reading _ => current = none ∧ relay.tcp.isSome ∧ readFailed = false
  | .receiving => current = none ∧ (relay.tcp.isSome ↔ readFailed = false)
  | .writing datagram sent =>
      ∃ tcp, current = some { datagram := datagram, tcp := tcp, accepted := sent }

/-- What the ledger says of the calls so far. -/
structure Recorded (ledger : Ledger) : Prop where
  openWhenTaken : ∀ write ∈ ledger.calls, write.tcp.isSome
  whole :
    ∀ write ∈ ledger.calls, write.returned = some true →
      write.accepted = (format.frame write.datagram).length
  accounted : ledger.calls.map Write.datagram ++ ledger.queue = ledger.sent

structure Sound (s : EngineQueue) : Prop where
  place : InPlace s.endpoint.relay s.ledger.readFailed s.ledger.current
  recorded : Recorded s.ledger

section

variable {relay : Relay} {ledger : Ledger} {readFailed : Bool} {current : Option Write}
  {write : Write} {n : Nat}

theorem inPlace_of_atTop (top : AtTop relay) (idle : current = none) :
    InPlace relay readFailed current := by
  unfold AtTop at top
  cases conn : relay.tcp with
  | none =>
      simp only [conn, Option.isSome_none, Bool.false_eq_true, if_false] at top
      simp [InPlace, top, idle]
  | some k =>
      simp only [conn, Option.isSome_some, if_true] at top
      simp [InPlace, top, idle, conn]

/-- Where the relay goes after a branch, the connection is as `read_frame` left it. -/
theorem inPlace_onward (idle : current = none)
    (asRead : relay.tcp.isSome ↔ readFailed = false)
    (onward : relay.pc = .receiving ∨ AtTop relay) : InPlace relay readFailed current := by
  rcases onward with receiving | top
  · simp only [InPlace, receiving]
    exact ⟨idle, asRead⟩
  · exact inPlace_of_atTop top idle

theorem wrote_none (busy : ledger.current = some write) :
    ledger.wrote n none =
      { ledger with
        current := some { write with accepted := write.accepted + n, returned := none } } := by
  simp [Ledger.wrote, busy]

theorem wrote_some (busy : ledger.current = some write) (ok : Bool) :
    ledger.wrote n (some ok) =
      { ledger with
        finished :=
          ledger.finished ++
            [{ write with accepted := write.accepted + n, returned := some ok }]
        current := none } := by
  simp [Ledger.wrote, busy]

/-- The record is of the calls, the queue and what was sent, not of `readFailed`. -/
theorem Recorded.congr {ledger' : Ledger} (recorded : Recorded ledger)
    (calls : ledger'.calls = ledger.calls) (queue : ledger'.queue = ledger.queue)
    (sent : ledger'.sent = ledger.sent) : Recorded ledger' where
  openWhenTaken := by
    rw [calls]
    exact recorded.openWhenTaken
  whole := by
    rw [calls]
    exact recorded.whole
  accounted := by
    rw [calls, queue, sent]
    exact recorded.accounted

/-- The call that is going on may be replaced by what becomes of it. -/
theorem Recorded.update {ledger' : Ledger} (recorded : Recorded ledger) (write' : Write)
    (busy : ledger.current = some write) (calls : ledger'.calls = ledger.finished ++ [write'])
    (tcp : write'.tcp = write.tcp) (datagram : write'.datagram = write.datagram)
    (whole : write'.returned = some true →
      write'.accepted = (format.frame write'.datagram).length)
    (queue : ledger'.queue = ledger.queue) (sent : ledger'.sent = ledger.sent) :
    Recorded ledger' := by
  have before : ledger.calls = ledger.finished ++ [write] := by
    rw [Ledger.calls, busy]
    rfl
  have earlier : ∀ other ∈ ledger.finished, other ∈ ledger.calls := by
    intro other member
    rw [before]
    exact List.mem_append_left _ member
  have last : write ∈ ledger.calls := by simp [before]
  constructor
  · intro other member
    rw [calls, List.mem_append, List.mem_singleton] at member
    rcases member with member | rfl
    · exact recorded.openWhenTaken other (earlier other member)
    · rw [tcp]
      exact recorded.openWhenTaken write last
  · intro other member returned
    rw [calls, List.mem_append, List.mem_singleton] at member
    rcases member with member | rfl
    · exact recorded.whole other (earlier other member) returned
    · exact whole returned
  · have accounted := recorded.accounted
    rw [before] at accounted
    rw [calls, queue, sent, ← accounted]
    simp [datagram]

theorem calls_take {datagram : Datagram} {queue : List Datagram} {tcp : Option Nat}
    (idle : ledger.current = none) :
    Ledger.calls
        { ledger with queue := queue, current := some { datagram := datagram, tcp := tcp } } =
      ledger.calls ++ [{ datagram := datagram, tcp := tcp }] := by
  simp [Ledger.calls, idle]

/-- A datagram that is taken while the TCP socket is open. -/
theorem Recorded.take {datagram : Datagram} {queue : List Datagram} {tcp : Option Nat}
    (recorded : Recorded ledger) (idle : ledger.current = none)
    (waiting : ledger.queue = datagram :: queue) (isOpen : tcp.isSome) :
    Recorded
      { ledger with queue := queue, current := some { datagram := datagram, tcp := tcp } } := by
  constructor
  · intro other member
    rw [calls_take idle, List.mem_append, List.mem_singleton] at member
    rcases member with member | rfl
    · exact recorded.openWhenTaken other member
    · exact isOpen
  · intro other member returned
    rw [calls_take idle, List.mem_append, List.mem_singleton] at member
    rcases member with member | rfl
    · exact recorded.whole other member returned
    · cases returned
  · have accounted := recorded.accounted
    rw [waiting] at accounted
    rw [calls_take idle, ← accounted]
    simp

end

theorem Sound.waits {s : EngineQueue} (sound : Sound s) : Waits s where
  openWhenTaken := sound.recorded.openWhenTaken
  lostByWrite := by
    intro write member lost
    refine ⟨?_, sound.recorded.openWhenTaken write member⟩
    rcases Option.isSome_iff_exists.1 lost.1 with ⟨ok, returned⟩
    cases ok with
    | false => exact returned
    | true =>
        have whole := sound.recorded.whole write member returned
        exact absurd lost.2 (by omega)
  accounted := sound.recorded.accounted

theorem sound_start : Sound start where
  place := rfl
  recorded :=
    { openWhenTaken := by
        intro write member
        cases member
      whole := by
        intro write member
        cases member
      accounted := rfl }

/-- A call of the relay keeps the invariant, unless it takes a datagram in an iteration
in which `read_frame` has failed. -/
theorem Sound.relay {s t : EngineQueue} {input : Input} (sound : Sound s)
    (undisturbed : s.Undisturbed (.relay input)) (next : RelayCase s t input) : Sound t := by
  have place := sound.place
  have recorded := sound.recorded
  unfold InPlace at place
  cases next with
  | connects before after ledger =>
      rw [before] at place
      rw [← ledger] at place recorded
      refine ⟨?_, recorded⟩
      rcases after with after | ⟨after, isOpen⟩
      · simp only [InPlace, after]
        exact place
      · simp only [InPlace, after]
        exact ⟨place, isOpen⟩
  | selects before tcp after ledger =>
      rw [before, ← tcp] at place
      rcases place with ⟨idle, isOpen⟩
      refine ⟨?_, ?_⟩
      · rw [ledger]
        rcases after with ⟨udp, after⟩ | onward
        · simp only [InPlace, after]
          exact ⟨idle, isOpen, trivial⟩
        · exact inPlace_onward idle (by simp [isOpen]) onward
      · rw [ledger]
        exact recorded.congr rfl rfl rfl
  | reads udp before tcp after ledger =>
      rw [before, ← tcp, ← ledger] at place
      rw [← ledger] at recorded
      rcases place with ⟨idle, isOpen, notFailed⟩
      refine ⟨?_, recorded⟩
      rcases after with after | onward
      · simp only [InPlace, after]
        exact ⟨idle, isOpen, notFailed⟩
      · exact inPlace_onward idle (by simp [isOpen, notFailed]) onward
  | fails udp before tcp onward ledger =>
      rw [before] at place
      refine ⟨?_, ?_⟩
      · rw [ledger]
        exact inPlace_onward place.1 (by simp [tcp]) onward
      · rw [ledger]
        exact recorded.congr rfl rfl rfl
  | receivesNothing before received tcp top ledger =>
      rw [before, ← ledger] at place
      rw [← ledger] at recorded
      exact ⟨inPlace_of_atTop top place.1, recorded⟩
  | takes sender datagram queue before received waiting tcp after ledger =>
      rw [before] at place
      rcases place with ⟨idle, asRead⟩
      cases received
      have isOpen := asRead.2 undisturbed
      refine ⟨?_, ?_⟩
      · rw [ledger]
        simp only [InPlace, after]
        exact ⟨_, rfl⟩
      · rw [ledger]
        exact recorded.take idle waiting isOpen
  | writes datagram sent bytes before tcp after ledger =>
      rw [before] at place
      rcases place with ⟨conn, busy⟩
      rw [wrote_none busy] at ledger
      refine ⟨?_, ?_⟩
      · rw [ledger]
        simp only [InPlace, after]
        exact ⟨conn, rfl⟩
      · rw [ledger]
        refine recorded.update _ busy rfl rfl rfl ?_ rfl rfl
        intro returned
        cases returned
  | ends datagram sent n ok before top whole ledger =>
      rw [before] at place
      rcases place with ⟨conn, busy⟩
      rw [wrote_some busy] at ledger
      refine ⟨?_, ?_⟩
      · rw [ledger]
        exact inPlace_of_atTop top rfl
      · rw [ledger]
        refine
          recorded.update
            { datagram := datagram
              tcp := conn
              accepted := sent + n
              returned := some ok } busy (by simp [Ledger.calls]) rfl rfl ?_ rfl rfl
        intro returned
        exact whole (Option.some.inj returned)

/-- Datagrams of the engine join the queue, and bytes from the server change no record. -/
theorem Sound.step {s t : EngineQueue} {action : Action} (sound : Sound s)
    (undisturbed : s.Undisturbed action) (stepped : s.step action = some t) : Sound t := by
  cases action with
  | relay input => exact sound.relay undisturbed (relayCase_of_step stepped)
  | engine datagram =>
      rw [EngineQueue.step] at stepped
      split_ifs at stepped
      cases stepped
      have recorded := sound.recorded
      refine ⟨sound.place, recorded.openWhenTaken, recorded.whole, ?_⟩
      dsimp only
      rw [← recorded.accounted, ← List.append_assoc]
      rfl
  | arrive k bytes =>
      cases stepped
      exact ⟨sound.place, sound.recorded⟩

theorem receiving_of_step {s t : EngineQueue} {received : Address × Datagram}
    (stepped : s.step (.relay (.receiveFrom (some received))) = some t) :
    s.endpoint.relay.pc = .receiving := by
  rcases Option.bind_eq_some_iff.1 stepped with ⟨e, served, -⟩
  cases pc : s.endpoint.relay.pc <;> simp [Endpoint.clientStep, pc] at served ⊢

/-- A datagram that is taken where `read_frame` has failed is taken without a connection. -/
theorem Sound.breaks {s t : EngineQueue} {action : Action} (sound : Sound s)
    (disturbed : ¬ s.Undisturbed action) (stepped : s.step action = some t) : ¬ Waits t := by
  unfold Undisturbed at disturbed
  split at disturbed
  · next received =>
      have place := sound.place
      unfold InPlace at place
      cases relayCase_of_step stepped with
      | takes sender datagram queue before received waiting tcp after ledger =>
          rw [before] at place
          have closed : s.endpoint.relay.tcp.isSome = false := by
            by_contra isOpen
            exact disturbed (place.2.1 (eq_true_of_ne_false isOpen))
          intro waits
          have last :
              ({ datagram := datagram, tcp := s.endpoint.relay.tcp } : Write) ∈
                t.ledger.calls := by
            rw [ledger, calls_take place.1]
            exact List.mem_append_right _ (List.mem_singleton_self _)
          exact Bool.false_ne_true (closed.symm.trans (waits.openWhenTaken _ last))
      | receivesNothing before received tcp after ledger => cases received
      | connects before | selects before | reads udp before | fails udp before
      | writes datagram sent bytes before | ends datagram sent n ok before =>
          rw [receiving_of_step stepped] at before
          cases before
  · exact absurd trivial disturbed

/-- In a run from the start the datagrams wait for the tunnel in every state on the way if
and only if none is taken in an iteration in which `read_frame` has failed. -/
theorem datagrams_wait_iff (actions : List Action) {t : EngineQueue}
    (reached : run EngineQueue.step start actions = some t) :
    (∀ before u, before <+: actions → run EngineQueue.step start before = some u → Waits u) ↔
      EveryStep EngineQueue.step Undisturbed start actions :=
  everyState_iff_of_breaks
    (fun _ _ _ sound undisturbed stepped => Sound.step sound undisturbed stepped)
    (fun _ sound => sound.waits)
    (fun _ _ _ sound disturbed stepped => sound.breaks disturbed stepped) actions sound_start
    reached

/-- The state after a run from the start. -/
def after (actions : List Action) : EngineQueue :=
  (run EngineQueue.step start actions).getD start

/-- The tunnel is up, and `select2` reports a datagram and what it reports of `tcp`. -/
def oneDatagram (tcp : Bool) : List Action :=
  [.relay (.connect true), .engine [1], .relay (.select tcp true)]

/-- The relay takes the datagram; what `send` returns then. -/
def takenThen (sends : List Send) : List Action :=
  .relay (.receiveFrom (some ({ ip := 0x7F000001, port := 50000 }, [1]))) ::
    sends.map fun send => .relay (.send send)

/-- On an open connection the frame of five bytes goes out whole. -/
theorem datagrams_wait_iff_sent :
    (∀ before u, before <+: oneDatagram false ++ takenThen [.sent 4, .sent 1] →
        run EngineQueue.step start before = some u → Waits u) ∧
      (after (oneDatagram false ++ takenThen [.sent 4, .sent 1])).ledger.finished =
        [{ datagram := [1], tcp := some 0, accepted := 5, returned := some true }] :=
  ⟨(datagrams_wait_iff (oneDatagram false ++ takenThen [.sent 4, .sent 1])
      (t := after (oneDatagram false ++ takenThen [.sent 4, .sent 1]))
      (run_eq_some_getD (by decide +kernel))).2 (by decide +kernel),
    by decide +kernel⟩

/-- Both sockets are ready, the server has closed, and the datagram that is then taken
goes to a closed socket. -/
theorem datagram_lost_after_close :
    ¬ ∀ (actions : List Action) (t : EngineQueue),
        run EngineQueue.step start actions = some t → Waits t := by
  intro always
  have waits :=
    always (oneDatagram true ++ .relay (.recv .closed) :: takenThen [.failed])
      (after (oneDatagram true ++ .relay (.recv .closed) :: takenThen [.failed]))
      (run_eq_some_getD (by decide +kernel))
  have lost :
      { datagram := [1], tcp := none, accepted := 0, returned := some false } ∈
        (after (oneDatagram true ++
          .relay (.recv .closed) :: takenThen [.failed])).ledger.calls := by
    decide +kernel
  exact Bool.false_ne_true (waits.openWhenTaken _ lost)

end EngineQueue

end AudioRouter
