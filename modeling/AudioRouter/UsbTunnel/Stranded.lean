import AudioRouter.UsbTunnel.Delivery

/-!
# Stranded frames

A relay takes one frame for each time `select2` reports its socket readable.  As
long as no `recv` empties the socket with two complete frames in the reassembly
buffer, the buffer holds no complete frame when the relay waits on an empty
socket; a `recv` that does leaves the second frame behind until more bytes
arrive.
-/

namespace AudioRouter

open UsbTunnel Protocol Transition

namespace UsbTunnel

/-- Whether a complete frame stands at the front of a buffer. -/
def holdsFrame (buffer : List UInt8) : Bool :=
  match format.extract buffer with
  | .frame _ _ => true
  | _ => false

/-- Whether two complete frames do. -/
def holdsTwo (buffer : List UInt8) : Bool :=
  match format.extract buffer with
  | .frame _ rest => holdsFrame rest
  | _ => false

theorem holdsFrame_of_incomplete {buffer : List UInt8}
    (incomplete : format.extract buffer = .incomplete) : holdsFrame buffer = false := by
  rw [holdsFrame, incomplete]

theorem holdsTwo_of_holdsFrame {buffer : List UInt8} (none : holdsFrame buffer = false) :
    holdsTwo buffer = false := by
  unfold holdsFrame at none
  unfold holdsTwo
  split
  · next extracted =>
      rw [extracted] at none
      nomatch none
  · rfl

theorem holdsFrame_rest {buffer out rest : List UInt8}
    (extracted : format.extract buffer = .frame out rest)
    (one : holdsTwo buffer = false) : holdsFrame rest = false := by
  rwa [holdsTwo, extracted] at one

def RelayPc.isReading : RelayPc → Bool
  | .reading _ => true
  | _ => false

/-- With nothing left to read, the reassembly buffer holds no complete frame, or
one that `read_frame` is about to return. -/
def Unstranded (relay : Relay) (incoming : Nat → Pipe) : Prop :=
  ∀ k, relay.tcp = some k → (incoming k).unread = [] →
    if relay.pc.isReading then holdsTwo relay.rx = false
    else holdsFrame relay.rx = false

/-- The `recv` of a step does not empty the socket with two complete frames in
the reassembly buffer. -/
def Endpoint.DrainsOne (e : Endpoint) (input : Input) : Prop :=
  match e.relay.pc, e.relay.tcp, input with
  | .reading _, some k, .recv (.data n) =>
      format.extract e.relay.rx = .incomplete → n = (e.incoming k).unread.length →
        holdsTwo (e.relay.rx ++ (e.incoming k).unread) = false
  | _, _, _ => True

instance (e : Endpoint) (input : Input) : Decidable (e.DrainsOne input) := by
  dsimp only [Endpoint.DrainsOne]
  split <;> infer_instance

section

variable {relay relay' : Relay} {incoming incoming' : Nat → Pipe}

theorem Unstranded.one (unstranded : Unstranded relay incoming) (k : Nat)
    (conn : relay.tcp = some k) (empty : (incoming k).unread = []) :
    holdsTwo relay.rx = false := by
  have held := unstranded k conn empty
  split at held
  · exact held
  · exact holdsTwo_of_holdsFrame held

/-- New bytes and steps that do not touch the buffer strand nothing. -/
theorem Unstranded.mono (unstranded : Unstranded relay incoming)
    (tcp : ∀ k, relay'.tcp = some k → relay.tcp = some k)
    (rx : relay'.rx = relay.rx)
    (pc : relay'.pc.isReading = relay.pc.isReading ∨ relay.pc.isReading = false)
    (unread : ∀ k, (incoming' k).unread = [] → (incoming k).unread = []) :
    Unstranded relay' incoming' := by
  intro k conn empty
  have one := unstranded.one k (tcp k conn) (unread k empty)
  have held := unstranded k (tcp k conn) (unread k empty)
  rw [rx]
  rcases pc with same | outside
  · rwa [same]
  · rw [outside] at held
    split
    · exact one
    · exact held

theorem unstranded_of_holdsFrame (none : holdsFrame relay.rx = false) :
    Unstranded relay incoming := by
  intro k conn empty
  split
  · exact holdsTwo_of_holdsFrame none
  · exact none

end

/-! ## Steps -/

/-- A round of `read_frame`; it returns with the relay outside of the branch that
reads. -/
theorem afterRead_unstranded {e : Endpoint} {udp : Bool} {k : Nat} {recv : Recv}
    {round : ReadRound} {relay : Relay} (reading : e.relay.pc = .reading udp)
    (conn : e.relay.tcp = some k) (drains : e.DrainsOne (.recv recv))
    (unstranded : Unstranded e.relay e.incoming)
    (read : readFrame e.relay.rx (e.incoming k).unread recv = some round)
    (tcp : ∀ j, relay.tcp = some j → e.relay.tcp = some j)
    (loops : round.result = none → relay = e.relay)
    (returns : round.result ≠ none → relay.pc.isReading = false) :
    Unstranded (e.afterRead k round relay).relay
      (e.afterRead k round relay).incoming := by
  cases readCase_of_readFrame read with
  | data n incomplete received positive inside =>
      obtain rfl := loops rfl
      intro j conn' empty
      obtain rfl := Option.some.inj (conn.symm.trans conn')
      have last : n = (e.incoming k).unread.length := by
        rw [Endpoint.afterRead] at empty
        dsimp only at empty
        rw [Function.update_self, List.drop_eq_nil_iff] at empty
        exact Nat.le_antisymm inside empty
      have one :
          holdsTwo (e.relay.rx ++ (e.incoming k).unread) = false := by
        unfold Endpoint.DrainsOne at drains
        rw [reading, conn, received] at drains
        exact drains incomplete last
      have still : e.relay.pc.isReading = true := by rw [reading]; rfl
      rw [Endpoint.afterRead]
      dsimp only
      rw [if_pos still, last, List.take_length]
      exact one
  | again incomplete =>
      obtain rfl := loops rfl
      refine unstranded.mono tcp rfl (Or.inl rfl) fun j empty => ?_
      rwa [Endpoint.afterRead, update_unread_self] at empty
  | frame out rest extracted =>
      have outside := returns (by simp)
      intro j conn' empty
      obtain rfl := Option.some.inj (conn.symm.trans (tcp j conn'))
      have before : (e.incoming k).unread = [] := by
        rwa [Endpoint.afterRead, update_unread_self] at empty
      have none := holdsFrame_rest extracted (unstranded.one k conn before)
      rw [Endpoint.afterRead]
      dsimp only
      rw [outside, if_neg Bool.false_ne_true]
      exact none
  | timeout incomplete =>
      exact unstranded_of_holdsFrame (holdsFrame_of_incomplete incomplete)
  | ended rx' incomplete result last =>
      exact unstranded_of_holdsFrame (holdsFrame_of_incomplete incomplete)

/-- A relay that moves on outside of the branch that reads. -/
structure Moves (relay relay' : Relay) : Prop where
  tcp : relay'.tcp = relay.tcp
  rx : relay'.rx = relay.rx
  outside : relay'.pc.isReading = false

theorem clientTop_moves (relay : Relay) : Moves relay (Endpoint.clientTop relay) where
  tcp := rfl
  rx := rfl
  outside := by unfold Endpoint.clientTop; split <;> rfl

theorem clientRead_moves (relay : Relay) (udp : Bool) :
    Moves relay (Endpoint.clientRead relay udp) := by
  cases udp with
  | true => exact ⟨rfl, rfl, rfl⟩
  | false => exact clientTop_moves relay

theorem serverTop_moves (relay : Relay) : Moves relay (Endpoint.serverTop relay) where
  tcp := rfl
  rx := rfl
  outside := by unfold Endpoint.serverTop; cases relay.tunnelClosed <;> rfl

theorem serverRead_moves (relay : Relay) (udp : Bool) :
    Moves relay (Endpoint.serverRead relay udp) := by
  cases udp with
  | true => exact ⟨rfl, rfl, rfl⟩
  | false => exact serverTop_moves relay

theorem Unstranded.moves {relay relay' : Relay} {incoming : Nat → Pipe}
    (unstranded : Unstranded relay incoming) (moves : Moves relay relay')
    (outside : relay.pc.isReading = false) : Unstranded relay' incoming :=
  unstranded.mono (fun _ conn => moves.tcp ▸ conn) moves.rx (Or.inr outside)
    fun _ => id

theorem clientResult_tcp {relay : Relay} {result : RecvResult} {k : Nat}
    (conn : (Endpoint.clientResult relay result).tcp = some k) :
    relay.tcp = some k := by
  cases result with
  | frame out =>
      rw [Endpoint.clientResult] at conn
      split at conn <;> exact conn
  | timeout => exact conn
  | closed | error => cases conn

theorem serverResult_tcp (relay : Relay) (result : RecvResult) :
    (Endpoint.serverResult relay result).tcp = relay.tcp := by
  cases result <;> rfl

theorem clientStep_unstranded {e e' : Endpoint} {input : Input}
    (stepped : e.clientStep input = some e') (drains : e.DrainsOne input)
    (unstranded : Unstranded e.relay e.incoming) :
    Unstranded e'.relay e'.incoming := by
  unfold Endpoint.clientStep at stepped
  dsimp only at stepped
  split at stepped
  · obtain rfl := Option.some.inj stepped
    exact unstranded_of_holdsFrame rfl
  · obtain rfl := Option.some.inj stepped
    exact unstranded.mono nofun rfl (Or.inl rfl) fun _ => id
  · next pc =>
      have outside : e.relay.pc.isReading = false := by rw [pc]; rfl
      split at stepped
      · nomatch stepped
      · split at stepped <;> obtain rfl := Option.some.inj stepped
        · exact unstranded.mono (fun _ => id) rfl (Or.inr outside) fun _ => id
        · exact unstranded.moves (clientRead_moves _ _) outside
  · next udp recv reading =>
      split at stepped
      · nomatch stepped
      · next k conn =>
          obtain ⟨round, read, rfl⟩ := Option.map_eq_some_iff.1 stepped
          refine afterRead_unstranded reading conn drains unstranded read ?_ ?_ ?_
          · intro j conn'
            cases result : round.result with
            | none => rwa [result] at conn'
            | some result' =>
                rw [result] at conn'
                exact clientResult_tcp ((clientRead_moves _ _).tcp ▸ conn')
          · intro loops
            rw [loops]
          · intro returns
            cases result : round.result with
            | none => exact absurd result returns
            | some result' => exact (clientRead_moves _ _).outside
  · next pc =>
      obtain rfl := Option.some.inj stepped
      exact unstranded.moves (clientTop_moves _) (by rw [pc]; rfl)
  · next pc =>
      split at stepped
      · obtain rfl := Option.some.inj stepped
        exact unstranded.mono (fun _ => id) rfl (Or.inr (by rw [pc]; rfl)) fun _ => id
      · nomatch stepped
  · next pc =>
      have outside : e.relay.pc.isReading = false := by rw [pc]; rfl
      split at stepped
      · obtain rfl := Option.some.inj stepped
        exact unstranded.moves (clientTop_moves _) outside
      · obtain ⟨⟨bytes, returned⟩, _, rfl⟩ := Option.map_eq_some_iff.1 stepped
        rcases returned with _ | _ | _
        · exact unstranded.mono (fun _ => id) rfl (Or.inr outside) fun _ => id
        · exact unstranded.mono nofun rfl (Or.inr outside) fun _ => id
        · exact unstranded.moves (clientTop_moves _) outside
  · nomatch stepped

theorem serverStep_unstranded {e e' : Endpoint} {opened : Nat} {input : Input}
    (stepped : e.serverStep opened input = some e') (drains : e.DrainsOne input)
    (unstranded : Unstranded e.relay e.incoming) :
    Unstranded e'.relay e'.incoming := by
  unfold Endpoint.serverStep at stepped
  dsimp only at stepped
  split at stepped
  · split at stepped
    · obtain rfl := Option.some.inj stepped
      exact unstranded_of_holdsFrame rfl
    · nomatch stepped
  · next pc =>
      obtain rfl := Option.some.inj stepped
      exact unstranded.moves (serverTop_moves _) (by rw [pc]; rfl)
  · obtain rfl := Option.some.inj stepped
    exact unstranded.mono (fun _ => id) rfl (Or.inl rfl) fun _ => id
  · next pc =>
      have outside : e.relay.pc.isReading = false := by rw [pc]; rfl
      split at stepped <;> obtain rfl := Option.some.inj stepped
      · exact unstranded.mono (fun _ => id) rfl (Or.inr outside) fun _ => id
      · exact unstranded.moves (serverRead_moves _ _) outside
  · next udp recv reading =>
      split at stepped
      · nomatch stepped
      · next k conn =>
          obtain ⟨round, read, rfl⟩ := Option.map_eq_some_iff.1 stepped
          refine afterRead_unstranded reading conn drains unstranded read ?_ ?_ ?_
          · intro j conn'
            cases result : round.result with
            | none => rwa [result] at conn'
            | some result' =>
                rw [result] at conn'
                dsimp only at conn'
                rwa [(serverRead_moves _ _).tcp, serverResult_tcp] at conn'
          · intro loops
            rw [loops]
          · intro returns
            cases result : round.result with
            | none => exact absurd result returns
            | some result' => exact (serverRead_moves _ _).outside
  · next pc =>
      obtain rfl := Option.some.inj stepped
      exact unstranded.moves (serverTop_moves _) (by rw [pc]; rfl)
  · next pc =>
      split at stepped
      · obtain rfl := Option.some.inj stepped
        exact unstranded.mono (fun _ => id) rfl (Or.inr (by rw [pc]; rfl)) fun _ => id
      · nomatch stepped
  · next pc =>
      have outside : e.relay.pc.isReading = false := by rw [pc]; rfl
      split at stepped
      · nomatch stepped
      · obtain ⟨⟨bytes, returned⟩, _, rfl⟩ := Option.map_eq_some_iff.1 stepped
        rcases returned with _ | _ | _
        · exact unstranded.mono (fun _ => id) rfl (Or.inr outside) fun _ => id
        · exact unstranded.mono (fun _ => id) rfl (Or.inr outside) fun _ => id
        · exact unstranded.moves (serverTop_moves _) outside
  · next pc =>
      obtain rfl := Option.some.inj stepped
      exact unstranded.mono nofun rfl (Or.inr (by rw [pc]; rfl)) fun _ => id
  · nomatch stepped

/-- What a relay sends is not yet in the other one's kernel. -/
theorem Effect.outgoing_unread {e e' : Endpoint} (effect : Effect e e') (j : Nat) :
    (e'.outgoing j).unread = (e.outgoing j).unread := by
  cases effect with
  | opened _ _ _ _ _ _ outgoing => rw [outgoing]
  | quiet _ _ _ outgoing => rw [outgoing]
  | received _ _ _ _ _ _ _ outgoing => rw [outgoing]
  | frame _ _ _ _ _ _ _ _ _ _ _ outgoing => rw [outgoing]
  | took _ _ _ _ _ _ outgoing => rw [outgoing]
  | skipped _ _ _ _ _ outgoing => rw [outgoing]
  | wrote k _ _ _ _ _ _ _ _ _ _ _ _ outgoing =>
      rw [outgoing]
      by_cases same : j = k
      · subst same
        rw [Function.update_self]
      · rw [Function.update_of_ne same]

theorem unread_of_arrive {pipes : Nat → Pipe} {k n j : Nat}
    (empty : (Function.update pipes k ((pipes k).arrive n) j).unread = []) :
    (pipes j).unread = [] := by
  by_cases same : j = k
  · subst same
    rw [Function.update_self] at empty
    exact (List.append_eq_nil_iff.1 empty).1
  · rwa [Function.update_of_ne same] at empty

end UsbTunnel

namespace Tunnel

/-! ## Runs -/

/-- Back at `select2` with an empty socket, the relay holds no complete frame. -/
def NothingStranded (relay : Relay) (incoming : Nat → Pipe) : Prop :=
  relay.pc = .select → ∀ k, relay.tcp = some k → (incoming k).unread = [] →
    holdsFrame relay.rx = false

/-- Both relays read one frame at most with each `recv` that empties a socket. -/
def DrainsOne (t : Tunnel) : Action → Prop
  | .client input => t.clientEnd.DrainsOne input
  | .server input => t.serverEnd.DrainsOne input
  | _ => True

instance (t : Tunnel) (action : Action) : Decidable (t.DrainsOne action) :=
  match action with
  | .client input => inferInstanceAs (Decidable (t.clientEnd.DrainsOne input))
  | .server input => inferInstanceAs (Decidable (t.serverEnd.DrainsOne input))
  | .arriveUp _ _ | .arriveDown _ _ => inferInstanceAs (Decidable True)

structure Flowing (t : Tunnel) : Prop where
  delivers : Delivers t
  client : Unstranded t.client t.down
  server : Unstranded t.server t.up

theorem step_flowing {t t' : Tunnel} {action : Action} (flowing : Flowing t)
    (drains : t.DrainsOne action) (stepped : t.step action = some t') :
    Flowing t' := by
  have delivers := step_delivers flowing.delivers stepped
  cases action with
  | client input =>
      obtain ⟨e, served, rfl⟩ := Option.map_eq_some_iff.1 stepped
      have effect := clientStep_effect served flowing.delivers.clientOpen
      exact
        { delivers := delivers
          client := clientStep_unstranded served drains flowing.client
          server :=
            flowing.server.mono (fun _ => id) rfl (Or.inl rfl)
              fun j empty => (effect.outgoing_unread j).symm.trans empty }
  | server input =>
      obtain ⟨e, served, rfl⟩ := Option.map_eq_some_iff.1 stepped
      have effect := (serverStep_effect served flowing.delivers.serverOpen).1
      exact
        { delivers := delivers
          client :=
            flowing.client.mono (fun _ => id) rfl (Or.inl rfl)
              fun j empty => (effect.outgoing_unread j).symm.trans empty
          server := serverStep_unstranded served drains flowing.server }
  | arriveUp k n =>
      obtain rfl := Option.some.inj stepped
      exact
        { delivers := delivers
          client := flowing.client
          server :=
            flowing.server.mono (fun _ => id) rfl (Or.inl rfl)
              fun _ => unread_of_arrive }
  | arriveDown k n =>
      obtain rfl := Option.some.inj stepped
      exact
        { delivers := delivers
          client :=
            flowing.client.mono (fun _ => id) rfl (Or.inl rfl)
              fun _ => unread_of_arrive
          server := flowing.server }

theorem nothingStranded_of_unstranded {relay : Relay} {incoming : Nat → Pipe}
    (unstranded : Unstranded relay incoming) : NothingStranded relay incoming := by
  intro pc k conn empty
  have held := unstranded k conn empty
  rwa [pc] at held

/-- In every run in which no `recv` empties a socket with two complete frames in
the reassembly buffer, no frame is left behind. -/
theorem no_frame_stranded (actions : List Action) {t : Tunnel}
    (drains : EveryStep step DrainsOne {} actions)
    (reached : run step {} actions = some t) :
    NothingStranded t.client t.down ∧ NothingStranded t.server t.up := by
  have start : Flowing {} :=
    { delivers := start_delivers
      client := unstranded_of_holdsFrame rfl
      server := unstranded_of_holdsFrame rfl }
  have flowing : Flowing t :=
    run_invariant (fun _ _ _ flowing drains stepped => step_flowing flowing drains stepped)
      actions start drains reached
  exact
    ⟨nothingStranded_of_unstranded flowing.client,
      nothingStranded_of_unstranded flowing.server⟩

/-- The tunnel comes up and the phone sends two datagrams of one byte each. -/
def sendingTwo : List Action :=
  [.client (.connect true), .server (.accept 0), .server (.receiveFrom none),
    .client (.select false true),
    .client (.receiveFrom (some ({ ip := 0x7F000001, port := 50000 }, [1]))),
    .client (.send (.sent 4)), .client (.send (.sent 1)),
    .client (.select false true),
    .client (.receiveFrom (some ({ ip := 0x7F000001, port := 50000 }, [2]))),
    .client (.send (.sent 4)), .client (.send (.sent 1))]

/-- The server's relay is woken once and reads `n` bytes. -/
def wokenOnce (n : Nat) : List Action :=
  [.arriveUp 0 n, .server (.select true false), .server (.recv (.data n)),
    .server (.recv (.wouldBlock true))]

def sendingTwoThen (actions : List Action) : Tunnel :=
  (run step {} (sendingTwo ++ actions)).getD {}

theorem single_frames_flow :
    (NothingStranded (sendingTwoThen (wokenOnce 5 ++ wokenOnce 5)).client
          (sendingTwoThen (wokenOnce 5 ++ wokenOnce 5)).down ∧
        NothingStranded (sendingTwoThen (wokenOnce 5 ++ wokenOnce 5)).server
          (sendingTwoThen (wokenOnce 5 ++ wokenOnce 5)).up) ∧
      (sendingTwoThen (wokenOnce 5 ++ wokenOnce 5)).server.handed = [[1], [2]] :=
  ⟨no_frame_stranded (sendingTwo ++ (wokenOnce 5 ++ wokenOnce 5)) (by decide +kernel)
      (run_eq_some_getD (by decide +kernel)),
    by decide +kernel⟩

/-- One `recv` brings both frames, and the second one stays behind. -/
theorem second_frame_stranded :
    ¬ ∀ (actions : List Action) (t : Tunnel), run step {} actions = some t →
        NothingStranded t.client t.down ∧ NothingStranded t.server t.up := by
  intro claim
  obtain ⟨_, server⟩ :=
    claim (sendingTwo ++ wokenOnce 10) (sendingTwoThen (wokenOnce 10))
      (run_eq_some_getD (by decide +kernel))
  have none := server (by decide +kernel) 0 (by decide +kernel) (by decide +kernel)
  have held : holdsFrame (sendingTwoThen (wokenOnce 10)).server.rx = true := by
    decide +kernel
  exact Bool.false_ne_true (none.symm.trans held)

end Tunnel

end AudioRouter
