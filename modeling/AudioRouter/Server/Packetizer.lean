import AudioRouter.Server.Sequence

/-!
# The bytes of a session

The packetizer keeps captured bytes in `chunk_buffer_` until a packet is full.  What it
builds in a session are the bytes captured in that session, in order, as long as the
buffer is empty when a session begins; no handler empties it.
-/

namespace AudioRouter.Server

open Transition

/-! ## The callback -/

section

variable {s t : Server} {o : Outcome}

/-- The bytes that a step appends to the chunk buffer. -/
def capturedBy (s : Server) : Action → List UInt8
  | .capture _ =>
      match s.capture with
      | .append data _ => data
      | _ => []
  | _ => []

/-- The PCM of the packet that a step builds. -/
def builtBy (s : Server) : Action → List UInt8
  | .capture _ =>
      match s.capture with
      | .send config _ => s.chunkBuffer.take (s.targetChunkBytes config)
      | _ => []
  | _ => []

theorem sendChunk_chunkBuffer (config : AudioConfig) (seqNum : UInt32) :
    (s.sendChunk o config seqNum).chunkBuffer =
      s.chunkBuffer.drop (s.targetChunkBytes config) := by
  unfold sendChunk
  dsimp only
  cases s.activeClient with
  | none => rfl
  | some client =>
    dsimp only
    split <;> rfl

/-- What is in the buffer and what is appended are built, or stay in the buffer. -/
theorem captureStep_chunkBuffer (stepped : s.captureStep o = some t) :
    s.chunkBuffer ++ s.capturedBy (.capture o) =
      s.builtBy (.capture o) ++ t.chunkBuffer := by
  unfold captureStep at stepped
  unfold capturedBy builtBy
  dsimp only
  cases thread : s.capture with
  | idle =>
    rw [thread] at stepped
    cases stepped
  | checkState data config | checkActive data config =>
    rw [thread] at stepped
    obtain rfl := Option.some.inj stepped
    exact List.append_nil _
  | append data config =>
    rw [thread] at stepped
    obtain rfl := Option.some.inj stepped
    rfl
  | stamp config =>
    rw [thread] at stepped
    dsimp only at stepped
    split at stepped
    · obtain rfl := Option.some.inj stepped
      exact List.append_nil _
    · obtain rfl := Option.some.inj stepped
      exact List.append_nil _
  | send config seqNum =>
    rw [thread] at stepped
    obtain rfl := Option.some.inj stepped
    dsimp only
    rw [sendChunk_chunkBuffer, List.append_nil, List.take_append_drop]

theorem captureStep_streamingTo (stepped : s.captureStep o = some t) :
    t.streamingTo = s.streamingTo := by
  obtain ⟨_, _, _, _, _, rfl⟩ := captureStep_eq stepped
  rfl

/-- Only the capture callback moves bytes. -/
theorem moved_of_not_capture {action : Action} (notCapture : ∀ o, action ≠ .capture o) :
    s.capturedBy action = [] ∧ s.builtBy action = [] := by
  unfold capturedBy builtBy
  split
  · next o => exact absurd rfl (notCapture o)
  · exact ⟨rfl, rfl⟩

/-- The account of one step. -/
theorem step_account {action : Action} (stepped : s.step action = some t) :
    s.chunkBuffer ++ s.capturedBy action = s.builtBy action ++ t.chunkBuffer := by
  by_cases captures : ∃ o, action = .capture o
  · obtain ⟨o, rfl⟩ := captures
    exact captureStep_chunkBuffer stepped
  · have notCapture := not_exists.1 captures
    obtain ⟨captured, built⟩ := moved_of_not_capture (s := s) notCapture
    rw [captured, built, (step_packetizer stepped notCapture).2]
    exact List.append_nil _

end

/-! ## Sessions -/

/-- The server, and the bytes captured and built since the current session began. -/
structure Packetized where
  server : Server
  captured : List UInt8 := []
  built : List UInt8 := []

namespace Packetized

def step (p : Packetized) (action : Action) : Option Packetized :=
  (p.server.step action).map fun t =>
    if t.streamingTo = p.server.streamingTo then
      { server := t
        captured := p.captured ++ p.server.capturedBy action
        built := p.built ++ p.server.builtBy action }
    else { server := t }

/-- A session begins with an empty chunk buffer. -/
def BeginsEmpty (p : Packetized) (action : Action) : Prop :=
  (p.server.step action).all
    (fun t =>
      t.streamingTo.isNone || decide (t.streamingTo = p.server.streamingTo) ||
        p.server.chunkBuffer.isEmpty) = true

instance (p : Packetized) (action : Action) : Decidable (p.BeginsEmpty action) :=
  inferInstanceAs (Decidable (_ = _))

/-- In a session everything captured is built or waits in the chunk buffer. -/
def Accounted (p : Packetized) : Prop :=
  p.server.streamingTo.isSome = true → p.captured = p.built ++ p.server.chunkBuffer

theorem step_accounted {p q : Packetized} {action : Action} (accounted : p.Accounted)
    (empty : p.BeginsEmpty action) (stepped : p.step action = some q) : q.Accounted := by
  obtain ⟨t, served, rfl⟩ := Option.map_eq_some_iff.1 stepped
  intro streaming
  split at streaming
  · next same =>
    dsimp only at streaming
    rw [if_pos same]
    dsimp only
    rw [same] at streaming
    rw [accounted streaming, List.append_assoc, List.append_assoc, step_account served]
  · next other =>
    dsimp only at streaming
    rw [if_neg other]
    rw [BeginsEmpty, served] at empty
    have notCapture : ∀ o, action ≠ .capture o := by
      rintro o rfl
      exact other (captureStep_streamingTo served)
    have none : p.server.chunkBuffer = [] := by
      simpa [other, Option.isNone_iff_eq_none, Option.isSome_iff_ne_none.1 streaming]
        using empty
    dsimp only
    rw [(step_packetizer served notCapture).2, none]
    rfl

section Sessions

def packetized (framesPerPacket : Nat) (actions : List Action) : Packetized :=
  (run step { server := start { framesPerPacket := framesPerPacket } } actions).getD
    { server := start {} }

/-- One stereo frame, and the callback up to its end. -/
def captureOf (frame : List UInt8) : List Action :=
  .captured frame {} :: List.replicate 6 (.capture {})

/-- The phone connects, and a packet of one frame is full at once. -/
def oneFrameSession : List Action :=
  connecting ++ captureOf [1, 2, 3, 4]

/-- The first phone leaves with half a packet captured, and the second one connects. -/
def twoSessions : List Action :=
  connecting ++ (captureOf [1, 2, 3, 4]).take 5 ++
    .receive phone (emptyRequest .disconnectReq) :: List.replicate 6 (.net {}) ++
      .receive otherPhone (emptyRequest .connectReq) :: List.replicate 10 (.net {}) ++
        captureOf [5, 6, 7, 8]

end Sessions

end Packetized

end AudioRouter.Server
