import AudioRouter.UsbTunnel.Model
import AudioRouter.Lib.FramedChannel
import Mathlib.Logic.Relation

/-!
# What the tunnel delivers

Each direction of the tunnel is a framed channel: every step of a relay is a
step of the sender in one direction and of the receiver in the other, or none.
So what a relay hands to its UDP socket is a subsequence of what the other relay
took from its own, over any series of connections.
-/

namespace AudioRouter

open UsbTunnel Protocol Transition

namespace UsbTunnel

/-! ## Each direction as a channel -/

/-- The datagram that a relay is writing, and the bytes written of its frame. -/
def RelayPc.busy : RelayPc → Option (Datagram × Nat)
  | .writing datagram sent => some (datagram, sent)
  | _ => none

/-- The connection that a relay may still write to. -/
def Relay.sendConn (relay : Relay) : Option Nat :=
  match relay.pc with
  | .closing => none
  | _ => relay.tcp

def Relay.sender (relay : Relay) : FramedSender where
  next := relay.nextTcp
  conn := relay.sendConn
  busy := relay.pc.busy
  taken := relay.taken

/-- A relay does not read a tunnel that it knows to be closed. -/
def Relay.receiver (relay : Relay) : FramedReceiver where
  next := relay.nextTcp
  conn := if relay.tunnelClosed then none else relay.tcp
  buffer := relay.rx
  handed := relay.handed

/-- The bytes on the way on each connection. -/
def line (pipes : Nat → Pipe) (k : Nat) : List UInt8 :=
  (pipes k).unread ++ (pipes k).inFlight

def channel (sender receiver : Relay) (pipes : Nat → Pipe) : FramedChannel where
  line := line pipes
  sender := sender.sender
  receiver := receiver.receiver

/-- Steps of the channel, possibly none. -/
abbrev Reaches : FramedChannel → FramedChannel → Prop :=
  Relation.ReflTransGen (FramedChannel.Step format)

theorem reaches_sound {c c' : FramedChannel} (reaches : Reaches c c')
    (sound : FramedChannel.Sound format c) : FramedChannel.Sound format c' := by
  induction reaches with
  | refl => exact sound
  | tail _ step inductionHypothesis =>
      exact FramedChannel.step_sound (by decide) step inductionHypothesis

/-! ## The effect of a step -/

/-- As a sender, the relay goes on as before, or it is done with its
connection. -/
structure KeepsSending (relay relay' : Relay) : Prop where
  next : relay'.nextTcp = relay.nextTcp
  taken : relay'.taken = relay.taken
  conn :
    relay'.pc.busy = relay.pc.busy ∧ relay'.sendConn = relay.sendConn ∨
      relay'.pc.busy = none ∧ relay'.sendConn = none

/-- As a receiver, the relay goes on as before, or it is done with its
connection. -/
structure KeepsReceiving (relay relay' : Relay) : Prop where
  next : relay'.nextTcp = relay.nextTcp
  handed : relay'.handed = relay.handed
  conn :
    relay'.receiver.conn = relay.receiver.conn ∧ relay'.rx = relay.rx ∨
      relay'.receiver.conn = none

/-- What a step of either relay does. -/
inductive Effect (e e' : Endpoint) : Prop
  | opened (k : Nat) (fresh : e.relay.nextTcp ≤ k) (idle : e.relay.pc.busy = none)
      (sender :
        e'.relay.sender = { e.relay.sender with next := k + 1, conn := some k })
      (receiver :
        e'.relay.receiver =
          { e.relay.receiver with next := k + 1, conn := some k, buffer := [] })
      (incoming : e'.incoming = e.incoming) (outgoing : e'.outgoing = e.outgoing)
  | quiet (sends : KeepsSending e.relay e'.relay)
      (receives : KeepsReceiving e.relay e'.relay)
      (incoming : e'.incoming = e.incoming) (outgoing : e'.outgoing = e.outgoing)
  | received (k n : Nat) (conn : e.relay.receiver.conn = some k)
      (inside : n ≤ (e.incoming k).unread.length)
      (sends : KeepsSending e.relay e'.relay)
      (receiver :
        e'.relay.receiver =
          { e.relay.receiver with
            buffer := e.relay.rx ++ (e.incoming k).unread.take n })
      (incoming :
        e'.incoming =
          Function.update e.incoming k
            { e.incoming k with unread := (e.incoming k).unread.drop n })
      (outgoing : e'.outgoing = e.outgoing)
  | frame (k : Nat) (out rest : Datagram) (conn : e.relay.receiver.conn = some k)
      (extracted : format.extract e.relay.rx = .frame out rest)
      (sends : KeepsSending e.relay e'.relay)
      (next : e'.relay.nextTcp = e.relay.nextTcp)
      (receiveConn : e'.relay.receiver.conn = some k) (rx : e'.relay.rx = rest)
      (handed :
        e'.relay.handed = e.relay.handed ++ [out] ∨
          e'.relay.handed = e.relay.handed)
      (incoming : e'.incoming = e.incoming) (outgoing : e'.outgoing = e.outgoing)
  | took (datagram : Datagram) (accepted : format.Accepts datagram)
      (idle : e.relay.pc.busy = none)
      (sender :
        e'.relay.sender =
          { e.relay.sender with
            taken := e.relay.taken ++ [datagram]
            busy := some (datagram, 0) })
      (receives : KeepsReceiving e.relay e'.relay)
      (incoming : e'.incoming = e.incoming) (outgoing : e'.outgoing = e.outgoing)
  | skipped (datagram : Datagram) (idle : e.relay.pc.busy = none)
      (sender :
        e'.relay.sender =
          { e.relay.sender with taken := e.relay.taken ++ [datagram] })
      (receives : KeepsReceiving e.relay e'.relay)
      (incoming : e'.incoming = e.incoming) (outgoing : e'.outgoing = e.outgoing)
  | wrote (k : Nat) (datagram : Datagram) (sent n : Nat)
      (conn : e.relay.sendConn = some k)
      (busy : e.relay.pc.busy = some (datagram, sent))
      (inside : sent + n ≤ (format.frame datagram).length)
      (next : e'.relay.nextTcp = e.relay.nextTcp)
      (taken : e'.relay.taken = e.relay.taken)
      (busy' :
        e'.relay.pc.busy =
          if sent + n = (format.frame datagram).length then none
          else some (datagram, sent + n))
      (conn' :
        e'.relay.sendConn = some k ∨
          e'.relay.sendConn = none ∧ e'.relay.pc.busy = none)
      (receives : KeepsReceiving e.relay e'.relay)
      (incoming : e'.incoming = e.incoming)
      (outgoing :
        e'.outgoing =
          Function.update e.outgoing k
            { e.outgoing k with
              inFlight :=
                (e.outgoing k).inFlight ++
                  ((format.frame datagram).drop sent).take n })

theorem accepts_of_fits {datagram : Datagram}
    (fits : Endpoint.fits datagram = true) : format.Accepts datagram := by
  unfold Endpoint.fits at fits
  rw [Bool.and_eq_true, decide_eq_true_iff, decide_eq_true_iff] at fits
  exact fits.2

/-- A round of reading that does not bring bytes leaves the pipe alone. -/
theorem update_unread_self (pipes : Nat → Pipe) (k : Nat) :
    Function.update pipes k { pipes k with unread := (pipes k).unread } = pipes :=
  Function.update_eq_self k pipes

theorem update_inFlight_nil (pipes : Nat → Pipe) (k : Nat) :
    Function.update pipes k { pipes k with inFlight := (pipes k).inFlight ++ [] } =
      pipes := by
  rw [List.append_nil]
  exact Function.update_eq_self k pipes

theorem clientStep_effect {e e' : Endpoint} {input : Input}
    (stepped : e.clientStep input = some e') (alive : e.relay.tunnelClosed = false) :
    Effect e e' := by
  obtain ⟨⟨pc, tcp, nextTcp, rx, enginePeer, tunnelClosed, taken, handed⟩,
    incoming, outgoing⟩ := e
  dsimp only at alive
  subst alive
  unfold Endpoint.clientStep at stepped
  dsimp only at stepped
  split at stepped
  · -- connected
    obtain rfl := Option.some.inj stepped
    exact .opened nextTcp (Nat.le_refl _) rfl rfl rfl rfl rfl
  · -- not connected
    obtain rfl := Option.some.inj stepped
    exact .quiet ⟨rfl, rfl, Or.inr ⟨rfl, rfl⟩⟩ ⟨rfl, rfl, Or.inr rfl⟩ rfl rfl
  · -- `select2`
    next ready udp =>
      split at stepped
      · nomatch stepped
      · split at stepped
        · obtain rfl := Option.some.inj stepped
          exact
            .quiet ⟨rfl, rfl, Or.inl ⟨rfl, rfl⟩⟩ ⟨rfl, rfl, Or.inl ⟨rfl, rfl⟩⟩ rfl rfl
        · obtain rfl := Option.some.inj stepped
          cases udp <;> cases tcp <;>
            exact
              .quiet ⟨rfl, rfl, Or.inl ⟨rfl, rfl⟩⟩ ⟨rfl, rfl, Or.inl ⟨rfl, rfl⟩⟩
                rfl rfl
  · -- `read_frame`
    next udp recv =>
      cases tcp with
      | none => nomatch stepped
      | some k =>
          obtain ⟨round, read, rfl⟩ := Option.map_eq_some_iff.1 stepped
          have same := update_unread_self incoming k
          cases readCase_of_readFrame read with
          | data n incomplete received positive inside =>
              exact
                .received k n rfl inside ⟨rfl, rfl, Or.inl ⟨rfl, rfl⟩⟩ rfl rfl rfl
          | again incomplete =>
              exact
                .quiet ⟨rfl, rfl, Or.inl ⟨rfl, rfl⟩⟩ ⟨rfl, rfl, Or.inl ⟨rfl, rfl⟩⟩
                  same rfl
          | frame out rest extracted =>
              cases enginePeer with
              | none =>
                  cases udp <;>
                    exact
                      .frame k out rest rfl extracted
                        ⟨rfl, rfl, Or.inl ⟨rfl, rfl⟩⟩ rfl rfl rfl (Or.inr rfl)
                        same rfl
              | some peer =>
                  cases udp <;>
                    exact
                      .frame k out rest rfl extracted
                        ⟨rfl, rfl, Or.inl ⟨rfl, rfl⟩⟩ rfl rfl rfl (Or.inl rfl)
                        same rfl
          | timeout incomplete =>
              cases udp <;>
                exact
                  .quiet ⟨rfl, rfl, Or.inl ⟨rfl, rfl⟩⟩ ⟨rfl, rfl, Or.inl ⟨rfl, rfl⟩⟩
                    same rfl
          | ended rx' incomplete result last =>
              rcases last with rfl | rfl <;> cases udp <;>
                exact
                  .quiet ⟨rfl, rfl, Or.inr ⟨rfl, rfl⟩⟩ ⟨rfl, rfl, Or.inr rfl⟩ same rfl
  · -- no datagram
    obtain rfl := Option.some.inj stepped
    cases tcp <;>
      exact
        .quiet ⟨rfl, rfl, Or.inl ⟨rfl, rfl⟩⟩ ⟨rfl, rfl, Or.inl ⟨rfl, rfl⟩⟩ rfl rfl
  · -- a datagram
    next sender datagram =>
      split at stepped
      · next fits =>
          obtain rfl := Option.some.inj stepped
          exact
            .took datagram (accepts_of_fits fits) rfl rfl
              ⟨rfl, rfl, Or.inl ⟨rfl, rfl⟩⟩ rfl rfl
      · nomatch stepped
  · -- `write_frame`
    next datagram sent send =>
      cases tcp with
      | none =>
          -- the socket has been closed
          obtain rfl := Option.some.inj stepped
          exact .quiet ⟨rfl, rfl, Or.inr ⟨rfl, rfl⟩⟩ ⟨rfl, rfl, Or.inr rfl⟩ rfl rfl
      | some k =>
          obtain ⟨written, write, rfl⟩ := Option.map_eq_some_iff.1 stepped
          cases writeCase_of_writeFrame write with
          | sent n positive inside =>
              have bytes :
                  (((format.frame datagram).drop sent).take n).length = n := by
                rw [List.length_take, List.length_drop]
                omega
              by_cases whole : sent + n = (format.frame datagram).length
              · dsimp only
                rw [if_pos whole]
                exact
                  .wrote k datagram sent n rfl rfl inside rfl rfl (if_pos whole).symm
                    (Or.inl rfl) ⟨rfl, rfl, Or.inl ⟨rfl, rfl⟩⟩ rfl rfl
              · dsimp only
                rw [if_neg whole, bytes]
                exact
                  .wrote k datagram sent n rfl rfl inside rfl rfl (if_neg whole).symm
                    (Or.inl rfl) ⟨rfl, rfl, Or.inl ⟨rfl, rfl⟩⟩ rfl rfl
          | again =>
              exact
                .quiet ⟨rfl, rfl, Or.inl ⟨rfl, rfl⟩⟩ ⟨rfl, rfl, Or.inl ⟨rfl, rfl⟩⟩
                  rfl (update_inFlight_nil outgoing k)
          | failed =>
              exact
                .quiet ⟨rfl, rfl, Or.inr ⟨rfl, rfl⟩⟩ ⟨rfl, rfl, Or.inr rfl⟩ rfl
                  (update_inFlight_nil outgoing k)
  · nomatch stepped

theorem clientRead_tunnelClosed (relay : Relay) (udp : Bool) :
    (Endpoint.clientRead relay udp).tunnelClosed = relay.tunnelClosed := by
  cases udp <;> rfl

theorem clientResult_tunnelClosed (relay : Relay) (result : RecvResult) :
    (Endpoint.clientResult relay result).tunnelClosed = relay.tunnelClosed := by
  cases result with
  | frame out => rw [Endpoint.clientResult]; split <;> rfl
  | closed | timeout | error => rfl

/-- The flag is the server's. -/
theorem clientStep_tunnelClosed {e e' : Endpoint} {input : Input}
    (stepped : e.clientStep input = some e') :
    e'.relay.tunnelClosed = e.relay.tunnelClosed := by
  unfold Endpoint.clientStep at stepped
  dsimp only at stepped
  split at stepped
  · obtain rfl := Option.some.inj stepped
    rfl
  · obtain rfl := Option.some.inj stepped
    rfl
  · split at stepped
    · nomatch stepped
    · split at stepped <;> obtain rfl := Option.some.inj stepped
      · rfl
      · exact clientRead_tunnelClosed _ _
  · split at stepped
    · nomatch stepped
    · obtain ⟨round, _, rfl⟩ := Option.map_eq_some_iff.1 stepped
      cases result : round.result with
      | none => rfl
      | some result' =>
          exact
            (clientRead_tunnelClosed _ _).trans (clientResult_tunnelClosed _ result')
  · obtain rfl := Option.some.inj stepped
    rfl
  · split at stepped
    · obtain rfl := Option.some.inj stepped
      rfl
    · nomatch stepped
  · split at stepped
    · obtain rfl := Option.some.inj stepped
      rfl
    · obtain ⟨⟨bytes, returned⟩, _, rfl⟩ := Option.map_eq_some_iff.1 stepped
      rcases returned with _ | _ | _ <;> rfl
  · nomatch stepped

/-- The server's loop selects and reads only while the tunnel is open. -/
def ReadsOpen (relay : Relay) : Prop :=
  match relay.pc with
  | .select | .reading _ => relay.tunnelClosed = false
  | _ => True

theorem serverStep_effect {e e' : Endpoint} {opened : Nat} {input : Input}
    (stepped : e.serverStep opened input = some e') (alive : ReadsOpen e.relay) :
    Effect e e' ∧ ReadsOpen e'.relay := by
  obtain ⟨⟨pc, tcp, nextTcp, rx, enginePeer, tunnelClosed, taken, handed⟩,
    incoming, outgoing⟩ := e
  unfold Endpoint.serverStep at stepped
  dsimp only at stepped
  split at stepped
  · -- accepted
    next k =>
      split at stepped
      · next bounds =>
          obtain rfl := Option.some.inj stepped
          exact ⟨.opened k bounds.1 rfl rfl rfl rfl rfl, trivial⟩
      · nomatch stepped
  · -- drained
    obtain rfl := Option.some.inj stepped
    cases tunnelClosed with
    | false =>
        exact
          ⟨.quiet ⟨rfl, rfl, Or.inl ⟨rfl, rfl⟩⟩ ⟨rfl, rfl, Or.inl ⟨rfl, rfl⟩⟩ rfl rfl,
            rfl⟩
    | true =>
        exact
          ⟨.quiet ⟨rfl, rfl, Or.inr ⟨rfl, rfl⟩⟩ ⟨rfl, rfl, Or.inr rfl⟩ rfl rfl,
            trivial⟩
  · -- a stale datagram
    next sender datagram =>
      obtain rfl := Option.some.inj stepped
      exact
        ⟨.skipped datagram rfl rfl ⟨rfl, rfl, Or.inl ⟨rfl, rfl⟩⟩ rfl rfl, trivial⟩
  · -- `select2`
    next ready udp =>
      obtain rfl : tunnelClosed = false := alive
      split at stepped
      · obtain rfl := Option.some.inj stepped
        exact
          ⟨.quiet ⟨rfl, rfl, Or.inl ⟨rfl, rfl⟩⟩ ⟨rfl, rfl, Or.inl ⟨rfl, rfl⟩⟩ rfl rfl,
            rfl⟩
      · obtain rfl := Option.some.inj stepped
        cases udp <;>
          exact
            ⟨.quiet ⟨rfl, rfl, Or.inl ⟨rfl, rfl⟩⟩ ⟨rfl, rfl, Or.inl ⟨rfl, rfl⟩⟩
                rfl rfl,
              by first | rfl | trivial⟩
  · -- `read_frame`
    next udp recv =>
      obtain rfl : tunnelClosed = false := alive
      cases tcp with
      | none => nomatch stepped
      | some k =>
          obtain ⟨round, read, rfl⟩ := Option.map_eq_some_iff.1 stepped
          have same := update_unread_self incoming k
          cases readCase_of_readFrame read with
          | data n incomplete received positive inside =>
              exact
                ⟨.received k n rfl inside ⟨rfl, rfl, Or.inl ⟨rfl, rfl⟩⟩ rfl rfl rfl,
                  rfl⟩
          | again incomplete =>
              exact
                ⟨.quiet ⟨rfl, rfl, Or.inl ⟨rfl, rfl⟩⟩ ⟨rfl, rfl, Or.inl ⟨rfl, rfl⟩⟩
                    same rfl,
                  rfl⟩
          | frame out rest extracted =>
              cases udp <;>
                exact
                  ⟨.frame k out rest rfl extracted ⟨rfl, rfl, Or.inl ⟨rfl, rfl⟩⟩ rfl
                      rfl rfl (Or.inl rfl) same rfl,
                    by first | rfl | trivial⟩
          | timeout incomplete =>
              cases udp <;>
                exact
                  ⟨.quiet ⟨rfl, rfl, Or.inl ⟨rfl, rfl⟩⟩
                      ⟨rfl, rfl, Or.inl ⟨rfl, rfl⟩⟩ same rfl,
                    by first | rfl | trivial⟩
          | ended rx' incomplete result last =>
              cases udp with
              | true =>
                  rcases last with rfl | rfl <;>
                    exact
                      ⟨.quiet ⟨rfl, rfl, Or.inl ⟨rfl, rfl⟩⟩ ⟨rfl, rfl, Or.inr rfl⟩
                          same rfl,
                        trivial⟩
              | false =>
                  rcases last with rfl | rfl <;>
                    exact
                      ⟨.quiet ⟨rfl, rfl, Or.inr ⟨rfl, rfl⟩⟩ ⟨rfl, rfl, Or.inr rfl⟩
                          same rfl,
                        trivial⟩
  · -- no datagram
    obtain rfl := Option.some.inj stepped
    cases tunnelClosed with
    | false =>
        exact
          ⟨.quiet ⟨rfl, rfl, Or.inl ⟨rfl, rfl⟩⟩ ⟨rfl, rfl, Or.inl ⟨rfl, rfl⟩⟩ rfl rfl,
            rfl⟩
    | true =>
        exact
          ⟨.quiet ⟨rfl, rfl, Or.inr ⟨rfl, rfl⟩⟩ ⟨rfl, rfl, Or.inr rfl⟩ rfl rfl,
            trivial⟩
  · -- a datagram
    next sender datagram =>
      split at stepped
      · next fits =>
          obtain rfl := Option.some.inj stepped
          exact
            ⟨.took datagram (accepts_of_fits fits) rfl rfl
                ⟨rfl, rfl, Or.inl ⟨rfl, rfl⟩⟩ rfl rfl,
              trivial⟩
      · nomatch stepped
  · -- `write_frame`
    next datagram sent send =>
      cases tcp with
      | none => nomatch stepped
      | some k =>
          obtain ⟨written, write, rfl⟩ := Option.map_eq_some_iff.1 stepped
          have same := update_inFlight_nil outgoing k
          cases writeCase_of_writeFrame write with
          | sent n positive inside =>
              have bytes :
                  (((format.frame datagram).drop sent).take n).length = n := by
                rw [List.length_take, List.length_drop]
                omega
              by_cases whole : sent + n = (format.frame datagram).length
              · dsimp only
                rw [if_pos whole]
                cases tunnelClosed with
                | false =>
                    exact
                      ⟨.wrote k datagram sent n rfl rfl inside rfl rfl
                          (if_pos whole).symm (Or.inl rfl)
                          ⟨rfl, rfl, Or.inl ⟨rfl, rfl⟩⟩ rfl rfl,
                        rfl⟩
                | true =>
                    exact
                      ⟨.wrote k datagram sent n rfl rfl inside rfl rfl
                          (if_pos whole).symm (Or.inr ⟨rfl, rfl⟩)
                          ⟨rfl, rfl, Or.inr rfl⟩ rfl rfl,
                        trivial⟩
              · dsimp only
                rw [if_neg whole, bytes]
                exact
                  ⟨.wrote k datagram sent n rfl rfl inside rfl rfl
                      (if_neg whole).symm (Or.inl rfl)
                      ⟨rfl, rfl, Or.inl ⟨rfl, rfl⟩⟩ rfl rfl,
                    trivial⟩
          | again =>
              exact
                ⟨.quiet ⟨rfl, rfl, Or.inl ⟨rfl, rfl⟩⟩ ⟨rfl, rfl, Or.inl ⟨rfl, rfl⟩⟩
                    rfl same,
                  trivial⟩
          | failed =>
              exact
                ⟨.quiet ⟨rfl, rfl, Or.inr ⟨rfl, rfl⟩⟩ ⟨rfl, rfl, Or.inr rfl⟩ rfl same,
                  trivial⟩
  · -- `client.close()`
    obtain rfl := Option.some.inj stepped
    exact
      ⟨.quiet ⟨rfl, rfl, Or.inr ⟨rfl, rfl⟩⟩ ⟨rfl, rfl, Or.inr (ite_self _)⟩ rfl rfl,
        trivial⟩
  · nomatch stepped

/-! ## Simulation -/

section

variable {e e' : Endpoint} (peer : Relay)

theorem KeepsSending.reaches {relay relay' : Relay} {pipes : Nat → Pipe}
    (keeps : KeepsSending relay relay') :
    Reaches (channel relay peer pipes) (channel relay' peer pipes) := by
  rcases keeps.conn with ⟨busy, conn⟩ | ⟨idle, closed⟩
  · have equal : relay'.sender = relay.sender := by
      unfold Relay.sender
      rw [keeps.next, keeps.taken, busy, conn]
    rw [channel, channel, equal]
  · have equal :
        relay'.sender = { relay.sender with conn := none, busy := none } := by
      unfold Relay.sender
      rw [keeps.next, keeps.taken, idle, closed]
    rw [channel, channel, equal]
    exact .single (.closeSender _)

theorem KeepsReceiving.reaches {relay relay' : Relay} {pipes : Nat → Pipe}
    (keeps : KeepsReceiving relay relay') :
    Reaches (channel peer relay pipes) (channel peer relay' pipes) := by
  have equal :
      relay'.receiver =
        { relay.receiver with
          conn := relay'.receiver.conn
          buffer := relay'.rx } := by
    unfold Relay.receiver
    rw [keeps.next, keeps.handed]
  rcases keeps.conn with ⟨conn, rx⟩ | closed
  · rw [channel, channel, equal, conn, rx]
    exact .refl
  · rw [channel, channel, equal, closed]
    exact .single (.closeReceiver _ _)

theorem line_update (pipes : Nat → Pipe) (k : Nat) (pipe : Pipe) :
    line (Function.update pipes k pipe) =
      Function.update (line pipes) k (pipe.unread ++ pipe.inFlight) := by
  funext j
  unfold line
  by_cases same : j = k
  · subst same
    rw [Function.update_self, Function.update_self]
  · rw [Function.update_of_ne same, Function.update_of_ne same]

/-- A step of a relay is made of steps of the sender of its outgoing channel. -/
theorem Effect.sends (effect : Effect e e') :
    Reaches (channel e.relay peer e.outgoing) (channel e'.relay peer e'.outgoing) := by
  cases effect with
  | opened k fresh idle sender receiver incoming outgoing =>
      rw [channel, channel, outgoing, sender]
      exact .single (.openSender _ k fresh idle)
  | quiet sends receives incoming outgoing =>
      rw [outgoing]
      exact sends.reaches peer
  | received k n conn inside sends receiver incoming outgoing =>
      rw [outgoing]
      exact sends.reaches peer
  | frame k out rest conn extracted sends next receiveConn rx handed incoming
      outgoing =>
      rw [outgoing]
      exact sends.reaches peer
  | took datagram accepted idle sender receives incoming outgoing =>
      rw [channel, channel, outgoing, sender]
      exact .single (.take _ datagram accepted idle)
  | skipped datagram idle sender receives incoming outgoing =>
      rw [channel, channel, outgoing, sender]
      exact .single (.skip _ datagram idle)
  | wrote k datagram sent n conn busy inside next taken busy' conn' receives incoming
      outgoing =>
      refine .trans (.single (.send _ k datagram sent n conn busy inside)) ?_
      have lines :
          line e'.outgoing =
            Function.update (line e.outgoing) k
              (line e.outgoing k ++ ((format.frame datagram).drop sent).take n) := by
        rw [outgoing, line_update, line, List.append_assoc]
      rcases conn' with still | ⟨closed, idle⟩
      · have equal :
            e'.relay.sender =
              { e.relay.sender with busy := e'.relay.pc.busy } := by
          unfold Relay.sender
          rw [next, taken, still, conn]
        rw [channel, channel, lines, equal, busy']
      · have equal :
            e'.relay.sender = { e.relay.sender with conn := none, busy := none } := by
          unfold Relay.sender
          rw [next, taken, closed, idle]
        rw [channel, channel, lines, equal]
        exact .single (.closeSender _)

/-- A step of a relay is made of steps of the receiver of its incoming
channel. -/
theorem Effect.receives (effect : Effect e e') :
    Reaches (channel peer e.relay e.incoming) (channel peer e'.relay e'.incoming) := by
  cases effect with
  | opened k fresh idle sender receiver incoming outgoing =>
      rw [channel, channel, incoming, receiver]
      exact .single (.openReceiver _ k fresh)
  | quiet sends receives incoming outgoing =>
      rw [incoming]
      exact receives.reaches peer
  | received k n conn inside sends receiver incoming outgoing =>
      have lines :
          line e'.incoming =
            Function.update (line e.incoming) k ((line e.incoming k).drop n) := by
        rw [incoming, line_update, line, List.drop_append_of_le_length inside]
      have front : (line e.incoming k).take n = (e.incoming k).unread.take n := by
        rw [line, List.take_append_of_le_length inside]
      rw [channel, channel, lines, receiver, ← front]
      exact .single (.receive _ k n conn)
  | frame k out rest conn extracted sends next receiveConn rx handed incoming
      outgoing =>
      have equal :
          e'.relay.receiver =
            { e.relay.receiver with
              buffer := rest
              handed := e'.relay.handed } := by
        have fields :
            e'.relay.receiver =
              { next := e'.relay.nextTcp
                conn := e'.relay.receiver.conn
                buffer := e'.relay.rx
                handed := e'.relay.handed } :=
          rfl
        rw [fields, next, receiveConn, rx, ← conn]
        rfl
      rcases handed with handed | dropped
      · rw [channel, channel, incoming, equal, handed]
        exact .single (.hand _ k out rest conn extracted)
      · rw [channel, channel, incoming, equal, dropped]
        exact .single (.drop _ k out rest conn extracted)
  | took datagram accepted idle sender receives incoming outgoing =>
      rw [incoming]
      exact receives.reaches peer
  | skipped datagram idle sender receives incoming outgoing =>
      rw [incoming]
      exact receives.reaches peer
  | wrote k datagram sent n conn busy inside next taken busy' conn' receives incoming
      outgoing =>
      rw [incoming]
      exact receives.reaches peer

end

theorem line_arrive (pipes : Nat → Pipe) (k n : Nat) :
    line (Function.update pipes k ((pipes k).arrive n)) = line pipes := by
  rw [line_update, Pipe.arrive]
  dsimp only
  rw [List.append_assoc, List.take_append_drop]
  exact Function.update_eq_self k (line pipes)

end UsbTunnel

namespace Tunnel

/-! ## Runs -/

/-- Both directions can be accounted for. -/
structure Delivers (t : Tunnel) : Prop where
  clientOpen : t.client.tunnelClosed = false
  serverOpen : ReadsOpen t.server
  up : FramedChannel.Sound format (channel t.client t.server t.up)
  down : FramedChannel.Sound format (channel t.server t.client t.down)

theorem start_delivers : Delivers {} where
  clientOpen := rfl
  serverOpen := trivial
  up := ⟨_, _, FramedChannel.start_account⟩
  down := ⟨_, _, FramedChannel.start_account⟩

theorem step_delivers {t t' : Tunnel} {action : Action} (delivers : Delivers t)
    (stepped : t.step action = some t') : Delivers t' := by
  cases action with
  | client input =>
      obtain ⟨e, served, rfl⟩ := Option.map_eq_some_iff.1 stepped
      have effect := clientStep_effect served delivers.clientOpen
      exact
        { clientOpen := (clientStep_tunnelClosed served).trans delivers.clientOpen
          serverOpen := delivers.serverOpen
          up := reaches_sound (effect.sends t.server) delivers.up
          down := reaches_sound (effect.receives t.server) delivers.down }
  | server input =>
      obtain ⟨e, served, rfl⟩ := Option.map_eq_some_iff.1 stepped
      obtain ⟨effect, readsOpen⟩ := serverStep_effect served delivers.serverOpen
      exact
        { clientOpen := delivers.clientOpen
          serverOpen := readsOpen
          up := reaches_sound (effect.receives t.client) delivers.up
          down := reaches_sound (effect.sends t.client) delivers.down }
  | arriveUp k n =>
      obtain rfl := Option.some.inj stepped
      have up := delivers.up
      rw [channel, ← line_arrive t.up k n] at up
      exact { delivers with up := up }
  | arriveDown k n =>
      obtain rfl := Option.some.inj stepped
      have down := delivers.down
      rw [channel, ← line_arrive t.down k n] at down
      exact { delivers with down := down }

/-- Over any series of connections that break anywhere, what either relay hands
to its UDP socket is a subsequence of what the other one took from its own. -/
theorem relays_hand_subsequence (actions : List Action) {t : Tunnel}
    (reached : run step {} actions = some t) :
    t.server.handed.Sublist t.client.taken ∧
      t.client.handed.Sublist t.server.taken := by
  have delivers : Delivers t :=
    run_preserves (fun _ _ _ delivers stepped => step_delivers delivers stepped)
      actions start_delivers reached
  exact
    ⟨FramedChannel.handed_sublist_taken delivers.up,
      FramedChannel.handed_sublist_taken delivers.down⟩

/-- The first connection breaks inside the header of a frame; the second one
carries a datagram. -/
def reconnecting : List Action :=
  [.client (.connect true), .server (.accept 0), .server (.receiveFrom none),
    .client (.select false true),
    .client (.receiveFrom (some ({ ip := 0x7F000001, port := 50000 }, [1, 2]))),
    .client (.send (.sent 2)), .client (.send (.wouldBlock false)), .arriveUp 0 2,
    .server (.select true false), .server (.recv (.data 2)),
    .server (.recv .closed), .server .disconnect,
    .client (.connect true), .server (.accept 1), .server (.receiveFrom none),
    .client (.select false true),
    .client (.receiveFrom (some ({ ip := 0x7F000001, port := 50000 }, [3]))),
    .client (.send (.sent 4)), .client (.send (.sent 1)), .arriveUp 1 5,
    .server (.select true false), .server (.recv (.data 5)),
    .server (.recv (.wouldBlock true))]

def reconnected : Tunnel := (run step {} reconnecting).getD {}

theorem reconnected_hands_subsequence :
    (reconnected.server.handed.Sublist reconnected.client.taken ∧
        reconnected.client.handed.Sublist reconnected.server.taken) ∧
      reconnected.client.taken = [[1, 2], [3]] ∧
      reconnected.server.handed = [[3]] :=
  ⟨relays_hand_subsequence reconnecting (run_eq_some_getD (by decide +kernel)),
    by decide +kernel, by decide +kernel⟩

end Tunnel

end AudioRouter
