import AudioRouter.Server.Model
import Mathlib.Data.List.Chain

/-!
# The numbers of a session's packets

`on_audio_captured` stamps each packet with `sequence_number_.fetch_add(1)`, and
`handle_connect_req` sets the counter to zero.  In a stretch of a run in which
one client stays active, the stamps count up as long as no request resets the
counter behind a packet; a repeated `CONNECT_REQ` of the active client does.
-/

namespace AudioRouter.Server

open Transition

/-- The client that is being streamed to. -/
def streamingTo (s : Server) : Option Address :=
  if s.state = .streaming then s.activeClient else none

/-- The number that a step takes from the counter for a packet. -/
def stampOf (s : Server) : Action → Option UInt32
  | .capture _ =>
      match s.capture with
      | .stamp config =>
          if s.chunkBuffer.length ≥ s.targetChunkBytes config then
            some s.sequenceNumber
          else none
      | _ => none
  | _ => none

/-- Whether a step executes `sequence_number_ = 0`. -/
def resetsSequence (s : Server) : Action → Bool
  | .net _ =>
      match s.net with
      | .connect _ .resetSequence => true
      | _ => false
  | _ => false

/-! ## The counter in one step -/

/-- The members that the capture callback cuts packets with are the same. -/
structure SamePacketizer (s t : Server) : Prop where
  sequenceNumber : t.sequenceNumber = s.sequenceNumber
  chunkBuffer : t.chunkBuffer = s.chunkBuffer

section

variable {s t : Server} {o : Outcome}

theorem disconnectStep_packetizer (sendAck : Bool) (pc : DisconnectStep) :
    SamePacketizer s (s.disconnectStep sendAck pc).1 := by
  obtain ⟨_, _, _, _, equal, _⟩ := s.disconnectStep_eq sendAck pc
  rw [equal]
  exact ⟨rfl, rfl⟩

theorem connectStep_packetizer {sender : Address} {pc : ConnectStep}
    (stepped : s.connectStep o sender pc = some t) :
    (t.sequenceNumber = if pc = .resetSequence then 0 else s.sequenceNumber) ∧
      t.chunkBuffer = s.chunkBuffer := by
  cases pc with
  | resetSequence =>
      obtain rfl := Option.some.inj stepped
      exact ⟨rfl, rfl⟩
  | lock =>
      rw [connectStep] at stepped
      split at stepped
      · obtain rfl := Option.some.inj stepped
        exact ⟨rfl, rfl⟩
      · nomatch stepped
  | compareActivity | mutePcSpeaker =>
      rw [connectStep] at stepped
      split at stepped <;> obtain rfl := Option.some.inj stepped <;> exact ⟨rfl, rfl⟩
  | startCapture =>
      rw [connectStep] at stepped
      split at stepped
      · obtain rfl := Option.some.inj stepped
        exact ⟨rfl, rfl⟩
      · cases started : o.captureStart with
        | none =>
            rw [started] at stepped
            obtain rfl := Option.some.inj stepped
            exact ⟨rfl, rfl⟩
        | some actual =>
            rw [started] at stepped
            obtain rfl := Option.some.inj stepped
            exact ⟨rfl, rfl⟩
  | checkState | checkActive | readClock | setActive | readActivityClock
  | setActivity | setStreaming | sendAck =>
      obtain rfl := Option.some.inj stepped
      exact ⟨rfl, rfl⟩

theorem heartbeatStep_packetizer (sender : Address) (seqNum : UInt32)
    (payload : Option HeartbeatPayload) (pc : HeartbeatStep) :
    SamePacketizer s (s.heartbeatStep sender seqNum payload pc) := by
  cases pc with
  | checkActive =>
      rw [heartbeatStep]
      split <;> exact ⟨rfl, rfl⟩
  | readClock | setActivity | reply => exact ⟨rfl, rfl⟩

theorem handleControlCmd_packetizer (sender : Address)
    (payload : Option ControlCmdPayload) :
    SamePacketizer s (s.handleControlCmd sender payload) := by
  unfold handleControlCmd
  dsimp only
  split
  · exact ⟨rfl, rfl⟩
  · cases payload with
    | none => exact ⟨rfl, rfl⟩
    | some cmd =>
        dsimp only
        split_ifs <;> exact ⟨rfl, rfl⟩

theorem netStep_packetizer (stepped : s.netStep o = some t) :
    (t.sequenceNumber = if s.resetsSequence (.net o) then 0 else s.sequenceNumber) ∧
      t.chunkBuffer = s.chunkBuffer := by
  unfold netStep at stepped
  unfold resetsSequence
  dsimp only
  cases thread : s.net with
  | idle =>
      rw [thread] at stepped
      nomatch stepped
  | discovery sender =>
      rw [thread] at stepped
      obtain rfl := Option.some.inj stepped
      exact ⟨rfl, rfl⟩
  | connect sender pc =>
      rw [thread] at stepped
      obtain ⟨counted, kept⟩ := connectStep_packetizer stepped
      rw [counted]
      exact ⟨by cases pc <;> rfl, kept⟩
  | disconnectLock sender =>
      rw [thread] at stepped
      dsimp only at stepped
      split at stepped
      · obtain rfl := Option.some.inj stepped
        exact ⟨rfl, rfl⟩
      · nomatch stepped
  | disconnectCompare sender =>
      rw [thread] at stepped
      dsimp only at stepped
      split at stepped <;> obtain rfl := Option.some.inj stepped <;> exact ⟨rfl, rfl⟩
  | disconnect pc =>
      rw [thread] at stepped
      have kept : SamePacketizer s (s.disconnectStep true pc).1 :=
        disconnectStep_packetizer true pc
      dsimp only at stepped
      split at stepped <;> obtain rfl := Option.some.inj stepped <;>
        next equal => rw [equal] at kept; exact ⟨kept.sequenceNumber, kept.chunkBuffer⟩
  | heartbeat sender seqNum payload pc =>
      rw [thread] at stepped
      obtain rfl := Option.some.inj stepped
      have kept : SamePacketizer s (s.heartbeatStep sender seqNum payload pc) :=
        heartbeatStep_packetizer sender seqNum payload pc
      exact ⟨kept.sequenceNumber, kept.chunkBuffer⟩
  | control sender payload =>
      rw [thread] at stepped
      obtain rfl := Option.some.inj stepped
      have kept : SamePacketizer s (s.handleControlCmd sender payload) :=
        handleControlCmd_packetizer sender payload
      exact ⟨kept.sequenceNumber, kept.chunkBuffer⟩

theorem sendChunk_sequenceNumber (config : AudioConfig) (seqNum : UInt32) :
    (s.sendChunk o config seqNum).sequenceNumber = s.sequenceNumber := by
  unfold sendChunk
  dsimp only
  cases s.activeClient with
  | none => rfl
  | some client => dsimp only; split <;> rfl

/-- A step of the callback takes a number and counts up, or does neither. -/
theorem captureStep_sequenceNumber (stepped : s.captureStep o = some t) :
    s.stampOf (.capture o) = some s.sequenceNumber ∧
        t.sequenceNumber = s.sequenceNumber + 1 ∨
      s.stampOf (.capture o) = none ∧ t.sequenceNumber = s.sequenceNumber := by
  unfold captureStep at stepped
  unfold stampOf
  dsimp only
  cases thread : s.capture with
  | idle =>
      rw [thread] at stepped
      nomatch stepped
  | checkState data config | checkActive data config | append data config =>
      rw [thread] at stepped
      obtain rfl := Option.some.inj stepped
      exact Or.inr ⟨rfl, rfl⟩
  | stamp config =>
      rw [thread] at stepped
      dsimp only at stepped ⊢
      split at stepped
      · next enough =>
          obtain rfl := Option.some.inj stepped
          exact Or.inl ⟨if_pos enough, rfl⟩
      · next short =>
          obtain rfl := Option.some.inj stepped
          exact Or.inr ⟨if_neg short, rfl⟩
  | send config seqNum =>
      rw [thread] at stepped
      obtain rfl := Option.some.inj stepped
      exact Or.inr ⟨rfl, sendChunk_sequenceNumber config seqNum⟩

/-- The watchdog leaves the packetizer alone. -/
theorem watchdogStep_packetizer (stepped : s.watchdogStep = some t) :
    SamePacketizer s t := by
  unfold watchdogStep at stepped
  cases thread : s.watchdog with
  | sleeping | checkState | readClock | loadActivity | compare =>
      rw [thread] at stepped
      obtain rfl := Option.some.inj stepped
      exact ⟨rfl, rfl⟩
  | lock =>
      rw [thread] at stepped
      dsimp only at stepped
      split at stepped
      · obtain rfl := Option.some.inj stepped
        exact ⟨rfl, rfl⟩
      · nomatch stepped
  | disconnect pc =>
      rw [thread] at stepped
      have kept : SamePacketizer s (s.disconnectStep false pc).1 :=
        disconnectStep_packetizer false pc
      dsimp only at stepped
      split at stepped <;> obtain rfl := Option.some.inj stepped <;>
        next equal => rw [equal] at kept; exact ⟨kept.sequenceNumber, kept.chunkBuffer⟩

/-- So does the relay. -/
theorem relayStep_packetizer (stepped : s.relayStep = some t) : SamePacketizer s t := by
  obtain ⟨_, _, _, _, _, rfl, _⟩ := relayStep_eq stepped
  exact ⟨rfl, rfl⟩

/-- Only the capture callback touches the chunk buffer, and besides it only a reset the
counter. -/
theorem step_packetizer {action : Action} (stepped : s.step action = some t)
    (other : ∀ o, action ≠ .capture o) :
    (t.sequenceNumber = if s.resetsSequence action then 0 else s.sequenceNumber) ∧
      t.chunkBuffer = s.chunkBuffer := by
  cases action with
  | net o => exact netStep_packetizer stepped
  | capture o => exact absurd rfl (other o)
  | watchdog =>
      obtain ⟨counted, kept⟩ := watchdogStep_packetizer stepped
      exact ⟨counted, kept⟩
  | relay =>
      obtain ⟨counted, kept⟩ := relayStep_packetizer stepped
      exact ⟨counted, kept⟩
  | receive sender buffer =>
      rw [step] at stepped
      split at stepped
      · cases requested : requestOf buffer <;> rw [requested] at stepped <;>
          obtain rfl := Option.some.inj stepped <;> exact ⟨rfl, rfl⟩
      · nomatch stepped
  | tick nowMs | captured data config | tunnelLost =>
      rw [step] at stepped
      split at stepped
      · obtain rfl := Option.some.inj stepped
        exact ⟨rfl, rfl⟩
      · nomatch stepped
  | captureEnds =>
      obtain rfl := Option.some.inj stepped
      exact ⟨rfl, rfl⟩

/-- What one step does to the counter. -/
theorem step_sequenceNumber {action : Action} (stepped : s.step action = some t) :
    s.resetsSequence action = true ∧ s.stampOf action = none ∧
        t.sequenceNumber = 0 ∨
      s.stampOf action = some s.sequenceNumber ∧
        t.sequenceNumber = s.sequenceNumber + 1 ∨
      s.stampOf action = none ∧ t.sequenceNumber = s.sequenceNumber := by
  by_cases captures : ∃ o, action = .capture o
  · obtain ⟨o, rfl⟩ := captures
    exact Or.inr (captureStep_sequenceNumber stepped)
  · have other : ∀ o, action ≠ .capture o := fun o same => captures ⟨o, same⟩
    have unstamped : s.stampOf action = none := by
      cases action with
      | capture o => exact absurd rfl (other o)
      | _ => rfl
    have counted := (step_packetizer stepped other).1
    split at counted
    · next resets => exact Or.inl ⟨resets, unstamped, counted⟩
    · exact Or.inr (Or.inr ⟨unstamped, counted⟩)

end

/-! ## A stretch of one session -/

/-- The server at some point of a stretch, and the numbers stamped since the
stretch began. -/
structure Stretch where
  server : Server
  seqNums : List UInt32 := []
  deriving DecidableEq

namespace Stretch

def step (r : Stretch) (action : Action) : Option Stretch :=
  (r.server.step action).map fun server =>
    { server := server
      seqNums := r.seqNums ++ (r.server.stampOf action).toList }

/-- Each number is the one before it plus one, modulo `2 ^ 32`. -/
def Successive (seqNums : List UInt32) : Prop :=
  seqNums.IsChain fun before after => after = before + 1

/-- The same client stays the active client of a streaming server. -/
def SameClient (client : Address) (r : Stretch) (_ : Action) : Prop :=
  r.server.streamingTo = some client

instance (client : Address) (r : Stretch) (action : Action) :
    Decidable (r.SameClient client action) :=
  inferInstanceAs (Decidable (_ = _))

/-- The counter is reset only where that cannot be seen: no packet has been
stamped yet, or the counter is zero anyway. -/
def ResetsUnseen (r : Stretch) (action : Action) : Prop :=
  r.server.resetsSequence action = true →
    r.seqNums = [] ∨ r.server.sequenceNumber = 0

instance (r : Stretch) (action : Action) : Decidable (r.ResetsUnseen action) :=
  inferInstanceAs (Decidable (_ → _))

/-- The stamped numbers run up to the counter. -/
def Numbered (r : Stretch) : Prop :=
  Successive (r.seqNums ++ [r.server.sequenceNumber])

theorem step_numbered {r u : Stretch} {action : Action} (numbered : r.Numbered)
    (unseen : r.ResetsUnseen action) (stepped : r.step action = some u) :
    u.Numbered := by
  obtain ⟨t, served, rfl⟩ := Option.map_eq_some_iff.1 stepped
  unfold Numbered Successive at *
  rcases step_sequenceNumber served with
    ⟨resets, unstamped, zero⟩ | ⟨stamped, counted⟩ | ⟨unstamped, kept⟩
  · rw [unstamped, Option.toList_none, List.append_nil, zero]
    rcases unseen resets with none | already
    · rw [none]
      exact List.isChain_singleton _
    · rwa [already] at numbered
  · rw [stamped, Option.toList_some, counted]
    refine numbered.append (List.isChain_singleton _) ?_
    simp
  · rwa [unstamped, Option.toList_none, List.append_nil, kept]

/-- In a stretch of any run in which one client keeps being streamed to, the
packets are numbered successively as long as no handler of a `CONNECT_REQ` resets
the counter behind a packet of the stretch. -/
theorem stretch_seqNums_successive (client : Address) {s : Server} {r : Stretch}
    (actions : List Action)
    (undisturbed :
      EveryStep Stretch.step
        (fun r action => r.SameClient client action ∧ r.ResetsUnseen action)
        { server := s } actions)
    (reached : run Stretch.step { server := s } actions = some r) :
    Successive r.seqNums := by
  have start : Numbered { server := s } := List.isChain_singleton _
  have numbered : r.Numbered :=
    run_invariant
      (fun _ _ _ numbered good stepped => step_numbered numbered good.2 stepped)
      actions start undisturbed reached
  exact List.IsChain.left_of_append numbered

section Retransmission

/-- One stereo frame from the capture engine, and the callback up to its stamp. -/
def captureFrame : List Action :=
  .captured [0, 0, 0, 0] {} :: List.replicate 6 (.capture {})

/-- The handler of a repeated request, up to the reset. -/
def retransmission : List Action :=
  .receive phone (emptyRequest .connectReq) :: List.replicate 7 (.net {})

/-- A packet is sent, the phone repeats its request, and a second packet is sent
once the handler has reset the counter. -/
def retransmitting : List Action :=
  captureFrame ++ retransmission ++ captureFrame

def connected : Server :=
  (run Server.step (start { framesPerPacket := 1 }) connecting).getD (start {})

def stretchOf (actions : List Action) : Stretch :=
  (run step { server := connected } actions).getD { server := connected }

/-- The request is repeated before the first packet. -/
def retransmittingEarly : List Action :=
  retransmission ++ captureFrame ++ captureFrame

theorem early_retransmission_unseen :
    Successive (stretchOf retransmittingEarly).seqNums ∧
      (stretchOf retransmittingEarly).seqNums = [0, 1] := by
  have reached :
      run step { server := connected } retransmittingEarly =
        some (stretchOf retransmittingEarly) := by
    decide +kernel
  exact
    ⟨stretch_seqNums_successive phone retransmittingEarly (by decide +kernel) reached,
      by decide +kernel⟩

/-- A repeated request makes the server use a number twice. -/
theorem retransmission_repeats_seqNum :
    ¬ ∀ (config : ServerConfig) (before : List Action) (client : Address)
        (s : Server) (actions : List Action) (r : Stretch),
        run Server.step (start config) before = some s →
        EveryStep step (SameClient client) { server := s } actions →
        run step { server := s } actions = some r →
        Successive r.seqNums := by
  intro claim
  have successive :=
    claim { framesPerPacket := 1 } connecting phone connected retransmitting
      (stretchOf retransmitting) (by decide +kernel) (by decide +kernel) (by decide +kernel)
  have repeated : (stretchOf retransmitting).seqNums = [0, 0] := by decide +kernel
  rw [repeated] at successive
  exact absurd successive (by unfold Successive; decide)

end Retransmission

end Stretch

end AudioRouter.Server
