import AudioRouter.Protocol
import AudioRouter.Lib.Framing
import AudioRouter.Lib.Transition
import Mathlib.Logic.Function.Basic

/-!
# The USB tunnel

`read_frame` and `write_frame` (`common/usb_tunnel.hpp`), and the two relays that
use them: `usb_relay_thread_fn` (`client/client.cpp`), which connects, and
`usb_relay_thread` (`server/server.cpp`), which accepts.  Each relay carries
datagrams between its loopback UDP socket and the current TCP connection.  One
step of a relay is one call of a socket function; what the call returns is an
input of the step.
-/

namespace AudioRouter

namespace UsbTunnel

open Protocol

/-- `kFrameHeaderSize` and `kMaxFramePayload`. -/
def format : FrameFormat where
  headerSize := 4
  maxPayload := 65536
  fits := by decide

/-- One direction of a TCP connection: the bytes that `send` has accepted and
that have not arrived, and those in the receiver's kernel buffer. -/
structure Pipe where
  inFlight : List UInt8 := []
  unread : List UInt8 := []
  deriving DecidableEq, Repr

/-- TCP delivers up to `n` bytes, in order. -/
def Pipe.arrive (pipe : Pipe) (n : Nat) : Pipe :=
  { inFlight := pipe.inFlight.drop n
    unread := pipe.unread ++ pipe.inFlight.take n }

/-! ## Frames -/

/-- What `recv` returns; where it would block, what `wait_readable` returns. -/
inductive Recv where
  | data (n : Nat)
  | closed
  | wouldBlock (readable : Bool)
  | error
  deriving DecidableEq, Repr

inductive RecvResult where
  | frame (out : Datagram)
  | closed
  | timeout
  | error
  deriving DecidableEq, Repr

/-- One round of the loop of `read_frame`: the reassembly buffer, the kernel
buffer, and the result unless the loop goes on. -/
structure ReadRound where
  rx : List UInt8
  unread : List UInt8
  result : Option RecvResult
  deriving DecidableEq, Repr

/-- One round of `read_frame`.  A `recv` of more bytes than there are is not
possible. -/
def readFrame (rx unread : List UInt8) (recv : Recv) : Option ReadRound :=
  match format.extract rx with
  | .tooLong => some { rx := [], unread := unread, result := some .error }
  | .frame out rest => some { rx := rest, unread := unread, result := some (.frame out) }
  | .incomplete =>
      match recv with
      | .data n =>
          if 0 < n ∧ n ≤ 4096 ∧ n ≤ unread.length then
            some
              { rx := rx ++ unread.take n
                unread := unread.drop n
                result := none }
          else none
      | .closed => some { rx := rx, unread := unread, result := some .closed }
      | .wouldBlock true => some { rx := rx, unread := unread, result := none }
      | .wouldBlock false =>
          some { rx := rx, unread := unread, result := some .timeout }
      | .error => some { rx := rx, unread := unread, result := some .error }

/-- The rounds of `read_frame`. -/
inductive ReadCase (rx unread : List UInt8) (recv : Recv) : ReadRound → Prop
  | data (n : Nat) (incomplete : format.extract rx = .incomplete)
      (received : recv = .data n) (positive : 0 < n) (inside : n ≤ unread.length) :
      ReadCase rx unread recv
        { rx := rx ++ unread.take n, unread := unread.drop n, result := none }
  | again (incomplete : format.extract rx = .incomplete) :
      ReadCase rx unread recv { rx := rx, unread := unread, result := none }
  | frame (out rest : Datagram) (extracted : format.extract rx = .frame out rest) :
      ReadCase rx unread recv
        { rx := rest, unread := unread, result := some (.frame out) }
  | timeout (incomplete : format.extract rx = .incomplete) :
      ReadCase rx unread recv { rx := rx, unread := unread, result := some .timeout }
  | ended (rx' : List UInt8) (incomplete : format.extract rx' = .incomplete)
      (result : RecvResult) (last : result = .closed ∨ result = .error) :
      ReadCase rx unread recv { rx := rx', unread := unread, result := some result }

theorem readCase_of_readFrame {rx unread : List UInt8} {recv : Recv}
    {round : ReadRound} (read : readFrame rx unread recv = some round) :
    ReadCase rx unread recv round := by
  unfold readFrame at read
  split at read
  · obtain rfl := Option.some.inj read
    exact .ended [] rfl .error (Or.inr rfl)
  · next out rest extracted =>
      obtain rfl := Option.some.inj read
      exact .frame out rest extracted
  · next incomplete =>
      split at read
      · next n =>
          split at read
          · next bounds =>
              obtain rfl := Option.some.inj read
              exact .data n incomplete rfl bounds.1 bounds.2.2
          · nomatch read
      · obtain rfl := Option.some.inj read
        exact .ended rx incomplete .closed (Or.inl rfl)
      · obtain rfl := Option.some.inj read
        exact .again incomplete
      · obtain rfl := Option.some.inj read
        exact .timeout incomplete
      · obtain rfl := Option.some.inj read
        exact .ended rx incomplete .error (Or.inr rfl)

/-- What `send` returns; where it would block, what `wait_writable` returns. -/
inductive Send where
  | sent (n : Nat)
  | wouldBlock (writable : Bool)
  | failed
  deriving DecidableEq, Repr

/-- The end of the buffer that `send_fully` is writing: the header first, then
the payload. -/
def sendEnd (datagram : Datagram) (sent : Nat) : Nat :=
  if sent < format.headerSize then format.headerSize
  else (format.frame datagram).length

/-- One round of `write_frame` with `sent` bytes of the frame written: the bytes
that `send` accepts, and whether `write_frame` returns. -/
def writeFrame (datagram : Datagram) (sent : Nat) (send : Send) :
    Option (List UInt8 × Option Bool) :=
  match send with
  | .sent n =>
      if 0 < n ∧ sent + n ≤ sendEnd datagram sent then
        some
          (((format.frame datagram).drop sent).take n,
            if sent + n = (format.frame datagram).length then some true else none)
      else none
  | .wouldBlock true => some ([], none)
  | .wouldBlock false => some ([], some false)
  | .failed => some ([], some false)

/-- The rounds of `write_frame`. -/
inductive WriteCase (datagram : Datagram) (sent : Nat) :
    List UInt8 × Option Bool → Prop
  | sent (n : Nat) (positive : 0 < n)
      (inside : sent + n ≤ (format.frame datagram).length) :
      WriteCase datagram sent
        (((format.frame datagram).drop sent).take n,
          if sent + n = (format.frame datagram).length then some true else none)
  | again : WriteCase datagram sent ([], none)
  | failed : WriteCase datagram sent ([], some false)

theorem sendEnd_le (datagram : Datagram) (sent : Nat) :
    sendEnd datagram sent ≤ (format.frame datagram).length := by
  unfold sendEnd
  split
  · rw [FrameFormat.length_frame]
    exact Nat.le_add_right _ _
  · exact Nat.le_refl _

theorem writeCase_of_writeFrame {datagram : Datagram} {sent : Nat} {send : Send}
    {written : List UInt8 × Option Bool}
    (write : writeFrame datagram sent send = some written) :
    WriteCase datagram sent written := by
  unfold writeFrame at write
  split at write
  · next n =>
      split at write
      · next bounds =>
          obtain rfl := Option.some.inj write
          exact .sent n bounds.1 (Nat.le_trans bounds.2 (sendEnd_le _ _))
      · nomatch write
  · obtain rfl := Option.some.inj write
    exact .again
  · obtain rfl := Option.some.inj write
    exact .failed
  · obtain rfl := Option.some.inj write
    exact .failed

/-! ## Relays -/

/-- Where the loop of a relay stands. -/
inductive RelayPc where
  | connect
  | drain
  | select
  | reading (udp : Bool)
  | receiving
  | writing (datagram : Datagram) (sent : Nat)
  | closing
  deriving DecidableEq, Repr

/-- A relay: `usb_tcp_` or `client` as the number of an open connection, the
reassembly buffer, `usb_engine_peer_`, and the datagrams taken from and given to
the UDP socket. -/
structure Relay where
  pc : RelayPc := .connect
  tcp : Option Nat := none
  nextTcp : Nat := 0
  rx : List UInt8 := []
  enginePeer : Option Address := none
  tunnelClosed : Bool := false
  taken : List Datagram := []
  handed : List Datagram := []
  deriving DecidableEq, Repr

/-- What the socket calls of a step return. -/
inductive Input where
  | connect (ok : Bool)
  | accept (k : Nat)
  | select (tcp udp : Bool)
  | recv (result : Recv)
  | receiveFrom (received : Option (Address × Datagram))
  | send (result : Send)
  | disconnect
  deriving DecidableEq, Repr

/-- A relay with the pipes of its connections. -/
structure Endpoint where
  relay : Relay
  incoming : Nat → Pipe
  outgoing : Nat → Pipe

namespace Endpoint

/-- The relay after a round of `read_frame` on connection `k`. -/
def afterRead (e : Endpoint) (k : Nat) (round : ReadRound) (relay : Relay) :
    Endpoint :=
  { e with
    relay := { relay with rx := round.rx }
    incoming :=
      Function.update e.incoming k { e.incoming k with unread := round.unread } }

/-- The bytes that `send` has accepted on connection `k`. -/
def afterSend (e : Endpoint) (k : Nat) (bytes : List UInt8) (relay : Relay) :
    Endpoint :=
  { e with
    relay := relay
    outgoing :=
      Function.update e.outgoing k
        { e.outgoing k with inFlight := (e.outgoing k).inFlight ++ bytes } }

/-- A datagram that fits the buffer. -/
def fits (datagram : Datagram) : Bool :=
  decide (0 < datagram.length) && decide (datagram.length ≤ format.maxPayload)

/-! ## The client's relay -/

/-- The top of the loop of `usb_relay_thread_fn`. -/
def clientTop (relay : Relay) : Relay :=
  { relay with pc := if relay.tcp.isSome then .select else .connect }

/-- The end of the branch that reads the tunnel. -/
def clientRead (relay : Relay) (udp : Bool) : Relay :=
  if udp then { relay with pc := .receiving } else clientTop relay

/-- What `usb_relay_thread_fn` does with the result of `read_frame`. -/
def clientResult (relay : Relay) : RecvResult → Relay
  | .frame out =>
      if relay.enginePeer.isSome then { relay with handed := relay.handed ++ [out] }
      else relay
  | .timeout => relay
  | .closed | .error => { relay with tcp := none }

/-- One step of `usb_relay_thread_fn`. -/
def clientStep (e : Endpoint) (input : Input) : Option Endpoint :=
  let relay := e.relay
  match relay.pc, input with
  | .connect, .connect true =>
      some { e with
        relay :=
          { relay with
            pc := .select
            tcp := some relay.nextTcp
            nextTcp := relay.nextTcp + 1
            rx := [] } }
  | .connect, .connect false => some { e with relay := { relay with tcp := none } }
  | .select, .select tcp udp =>
      if tcp ∧ relay.tcp = none then none
      else if tcp then some { e with relay := { relay with pc := .reading udp } }
      else some { e with relay := clientRead relay udp }
  | .reading udp, .recv recv =>
      match relay.tcp with
      | none => none
      | some k =>
          (readFrame relay.rx (e.incoming k).unread recv).map fun round =>
            e.afterRead k round
              (match round.result with
              | none => relay
              | some result => clientRead (clientResult relay result) udp)
  | .receiving, .receiveFrom none => some { e with relay := clientTop relay }
  | .receiving, .receiveFrom (some (sender, datagram)) =>
      if fits datagram then
        some { e with
          relay :=
            { relay with
              pc := .writing datagram 0
              taken := relay.taken ++ [datagram]
              enginePeer := some sender } }
      else none
  | .writing datagram sent, .send send =>
      match relay.tcp with
      | none => some { e with relay := clientTop relay }
      | some k =>
          (writeFrame datagram sent send).map fun (bytes, returned) =>
            e.afterSend k bytes
              (match returned with
              | none => { relay with pc := .writing datagram (sent + bytes.length) }
              | some true => clientTop relay
              | some false => clientTop { relay with tcp := none })
  | _, _ => none

/-! ## The server's relay -/

/-- The condition of the inner loop of `usb_relay_thread`. -/
def serverTop (relay : Relay) : Relay :=
  { relay with pc := if relay.tunnelClosed then .closing else .select }

def serverRead (relay : Relay) (udp : Bool) : Relay :=
  if udp then { relay with pc := .receiving } else serverTop relay

/-- What `usb_relay_thread` does with the result of `read_frame`. -/
def serverResult (relay : Relay) : RecvResult → Relay
  | .frame out => { relay with handed := relay.handed ++ [out] }
  | .timeout => relay
  | .closed | .error => { relay with tunnelClosed := true }

/-- One step of `usb_relay_thread`; `opened` connections have been made. -/
def serverStep (e : Endpoint) (opened : Nat) (input : Input) : Option Endpoint :=
  let relay := e.relay
  match relay.pc, input with
  | .connect, .accept k =>
      if relay.nextTcp ≤ k ∧ k < opened then
        some { e with
          relay :=
            { relay with
              pc := .drain
              tcp := some k
              nextTcp := k + 1
              rx := []
              tunnelClosed := false } }
      else none
  | .drain, .receiveFrom none => some { e with relay := serverTop relay }
  | .drain, .receiveFrom (some (_, datagram)) =>
      -- left over from the previous tunnel
      some { e with relay := { relay with taken := relay.taken ++ [datagram] } }
  | .select, .select tcp udp =>
      if tcp then some { e with relay := { relay with pc := .reading udp } }
      else some { e with relay := serverRead relay udp }
  | .reading udp, .recv recv =>
      match relay.tcp with
      | none => none
      | some k =>
          (readFrame relay.rx (e.incoming k).unread recv).map fun round =>
            e.afterRead k round
              (match round.result with
              | none => relay
              | some result => serverRead (serverResult relay result) udp)
  | .receiving, .receiveFrom none => some { e with relay := serverTop relay }
  | .receiving, .receiveFrom (some (_, datagram)) =>
      if fits datagram then
        some { e with
          relay :=
            { relay with
              pc := .writing datagram 0
              taken := relay.taken ++ [datagram] } }
      else none
  | .writing datagram sent, .send send =>
      match relay.tcp with
      | none => none
      | some k =>
          (writeFrame datagram sent send).map fun (bytes, returned) =>
            e.afterSend k bytes
              (match returned with
              | none => { relay with pc := .writing datagram (sent + bytes.length) }
              | some true => serverTop relay
              | some false => serverTop { relay with tunnelClosed := true })
  | .closing, .disconnect =>
      -- `disconnect_client`, then `client.close()`
      some { e with relay := { relay with pc := .connect, tcp := none } }
  | _, _ => none

end Endpoint

end UsbTunnel

/-! ## The tunnel -/

open UsbTunnel

/-- Both relays, and the pipes of all connections: `up` from the client to the
server, `down` back. -/
structure Tunnel where
  client : Relay := {}
  server : Relay := {}
  up : Nat → Pipe := fun _ => {}
  down : Nat → Pipe := fun _ => {}

namespace Tunnel

inductive Action where
  | client (input : Input)
  | server (input : Input)
  /-- TCP delivers bytes of connection `k` to the receiver's kernel. -/
  | arriveUp (k n : Nat)
  | arriveDown (k n : Nat)
  deriving DecidableEq, Repr

def clientEnd (t : Tunnel) : Endpoint :=
  { relay := t.client, incoming := t.down, outgoing := t.up }

def serverEnd (t : Tunnel) : Endpoint :=
  { relay := t.server, incoming := t.up, outgoing := t.down }

def step (t : Tunnel) : Action → Option Tunnel
  | .client input =>
      (t.clientEnd.clientStep input).map fun e =>
        { t with client := e.relay, down := e.incoming, up := e.outgoing }
  | .server input =>
      (t.serverEnd.serverStep t.client.nextTcp input).map fun e =>
        { t with server := e.relay, up := e.incoming, down := e.outgoing }
  | .arriveUp k n => some { t with up := Function.update t.up k ((t.up k).arrive n) }
  | .arriveDown k n =>
      some { t with down := Function.update t.down k ((t.down k).arrive n) }

end Tunnel

end AudioRouter
