import AudioRouter.Client.Receive
import AudioRouter.Server.Chunks
import AudioRouter.Pipeline.Playout

/-!
# The server and the client of a session

The threads of the server, the datagram transport and the client's jitter buffer as one
system.  A packet that has been sent may arrive at any later time, any number of times and
in any order, or never; the playback thread reads from the jitter buffer whenever it likes.
-/

namespace AudioRouter

open Protocol Server Client

/-- A packet as `send_to` hands it to the transport. -/
def Server.Packet.datagram (p : Server.Packet) : Datagram :=
  p.header.toBytes ++ p.pcm

/-- Silence is a sample of the stream. -/
instance Pipeline.instZeroSample : Zero (Option UInt16) := ⟨some 0⟩

/-- The size of `recv_buf`. -/
def Client.recvBufSize : Nat := 65536

/-- The server with its record, the jitter buffer of the client, and what the playback
thread has read from it.  The samples are those of the datagrams, `none` for memory
behind one. -/
structure Pipeline where
  server : Recut
  client : JitterBuffer (Option UInt16)
  /-- The newest packet that the jitter buffer has been given. -/
  newest : Option Nat := none
  output : List (Option UInt16) := []

namespace Pipeline

inductive Event where
  | serves (action : Server.Action)
  /-- The packet that was built as number `k` arrives. -/
  | arrives (k : Nat) (nowMs : Clock)
  | plays (hasDest : Bool) (numFrames : Nat) (nowMs : Clock)

def step (S : Pipeline) : Event → Option Pipeline
  | .serves action => (S.server.step action).map fun r => { S with server := r }
  | .arrives k nowMs =>
      match S.server.packets[k]? with
      | none => none
      | some p =>
          if p.sent then
            -- `network_receive_thread`
            match audioCall (receiveFrom recvBufSize p.datagram) nowMs with
            | none => some S
            | some call =>
                some { S with
                  client := (S.client.call call).1
                  newest := some (newer k S.newest) }
          else none
  | .plays hasDest numFrames nowMs =>
      let r := S.client.popFrames hasDest numFrames nowMs
      some { S with client := r.1, output := S.output ++ r.2.dest }

/-- A session that begins between two blocks of the capture engine. -/
def begin (s : Server) (b : JitterBuffer (Option UInt16)) : Pipeline :=
  { server := { server := s }, client := b }

/-- The bytes that the server has taken from the capture engine. -/
def captured (s : Server) (S : Pipeline) : List UInt8 :=
  s.chunkBuffer ++ S.server.offered

/-- Sample `j` of a stream of bytes. -/
def sample (stream : List UInt8) (j : Nat) : UInt16 :=
  UInt16.ofNat (LittleEndian.field stream (2 * j) 2)

/-- A frame of a stream, or a frame of silence. -/
def frameAt (channels : Nat) (stream : List UInt8) : Option Nat → List (Option UInt16)
  | none => List.replicate channels 0
  | some f => (List.range channels).map fun c => some (sample stream (f * channels + c))

/-! ## The conditions on a run -/

/-- The server goes on streaming to the client, blocks come in one configuration, and the
client does not connect again. -/
def InSession (client : Address) (config : AudioConfig) (S : Pipeline) : Event → Prop
  | .serves action =>
      S.server.Streams client config action ∧ S.server.server.resetsSequence action = false
  | _ => True

/-- Every packet arrives in time. -/
def Timely (S : Pipeline) : Event → Prop
  | .arrives k _ => InTime k S.newest
  | _ => True

def Regular (client : Address) (config : AudioConfig) (S : Pipeline) (event : Event) : Prop :=
  S.InSession client config event ∧ S.Timely event

instance (client : Address) (config : AudioConfig) (S : Pipeline) :
    ∀ event, Decidable (S.InSession client config event)
  | .serves _ => inferInstanceAs (Decidable (_ ∧ _))
  | .arrives _ _ | .plays _ _ _ => inferInstanceAs (Decidable True)

instance (S : Pipeline) : ∀ event, Decidable (S.Timely event)
  | .arrives k _ => inferInstanceAs (Decidable (InTime k S.newest))
  | .serves _ | .plays _ _ _ => inferInstanceAs (Decidable True)

instance (client : Address) (config : AudioConfig) (S : Pipeline) (event : Event) :
    Decidable (S.Regular client config event) :=
  inferInstanceAs (Decidable (_ ∧ _))

end Pipeline

end AudioRouter
