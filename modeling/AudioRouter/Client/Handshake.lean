import AudioRouter.Client.Receive

/-!
# The queue in front of the handshake

`perform_handshake` takes one datagram from the socket in each of its five rounds.  A
datagram that is no answer uses up its round as a timeout does, and an answer behind too
many of them is not found.
-/

namespace AudioRouter.Client

open Protocol

/-! ## The socket -/

/-- What `receive_from` returns in the rounds from `round` on, if `queue` waits when the
first of them begins.  `arriving round` are the datagrams that come between the return of
the receive before and that of this one, or its timeout; `arriving 0` are all that wait
when the handshake begins or come in its first round.  A datagram that
`network_receive_thread` takes from the same socket is not among them. -/
def receives (arriving : Nat → List Datagram) :
    (rounds round : Nat) → (queue : List Datagram) → List (Option Datagram)
  | 0, _, _ => []
  | rounds + 1, round, queue =>
      (queue ++ arriving round).head? ::
        receives arriving rounds (round + 1) (queue ++ arriving round).tail

/-- How many datagrams wait when a round begins, each round before it having taken one. -/
def waitingAt (arriving : Nat → List Datagram) : (round : Nat) → Nat
  | 0 => 0
  | round + 1 => waitingAt arriving round + (arriving round).length - 1

/-- `perform_handshake` over a socket. -/
def handshake (arriving : Nat → List Datagram) : Option AudioConfig :=
  performHandshake handshakeRetries (receives arriving handshakeRetries 0 [])

/-! ## What waits -/

/-- A well-formed `CONNECT_ACK`. -/
structure IsConnectAck (datagram : Datagram) : Prop where
  valid : isValidHeader (.ofBytes (receiveFrom 4096 datagram))
    (receiveFrom 4096 datagram).length = true
  msgType :
    (CommonHeader.ofBytes (receiveFrom 4096 datagram)).msgType = MsgType.connectAck.code
  long :
    sizeofCommonHeader + sizeofConnectAckPayload ≤ (receiveFrom 4096 datagram).length

/-- Neither a `CONNECT_ACK` nor a `CONNECT_NAK`: of another type, or malformed. -/
def IsForeign (datagram : Datagram) : Prop :=
  let bytes := receiveFrom 4096 datagram
  let header := CommonHeader.ofBytes bytes
  isValidHeader header bytes.length = true →
    header.msgType ≠ MsgType.connectAck.code ∧ header.msgType ≠ MsgType.connectNak.code

instance (datagram : Datagram) : Decidable (IsForeign datagram) :=
  inferInstanceAs (Decidable (_ → _))

theorem handshakeReply_ack {ack : Datagram} (isAck : IsConnectAck ack) :
    handshakeReply (receiveFrom 4096 ack) =
      .accepted (ackConfig (.ofBytes (receiveFrom 4096 ack))) := by
  rcases isAck with ⟨valid, msgType, long⟩
  have header : ¬ (receiveFrom 4096 ack).length < sizeofCommonHeader := by omega
  unfold handshakeReply
  simp [header, valid, msgType, long]

theorem handshakeReply_foreign {datagram : Datagram} (foreign : IsForeign datagram) :
    handshakeReply (receiveFrom 4096 datagram) = .ignored := by
  unfold IsForeign at foreign
  unfold handshakeReply
  by_cases valid : isValidHeader (.ofBytes (receiveFrom 4096 datagram))
      (receiveFrom 4096 datagram).length = true
  · have other := foreign valid
    simp [valid, other.1, other.2]
  · simp [valid]

/-! ## The rounds -/

section

variable {arriving : Nat → List Datagram} {queue before after : List Datagram}
  {ack : Datagram} {rounds round : Nat}

/-- A round that finds nothing or a foreign datagram is used up. -/
theorem performHandshake_foreign (foreign : ∀ datagram ∈ queue, IsForeign datagram)
    (rest : List (Option Datagram)) :
    performHandshake (rounds + 1) (queue.head? :: rest) = performHandshake rounds rest := by
  cases queue with
  | nil => rfl
  | cons datagram queue =>
    rw [List.head?_cons, performHandshake, handshakeReply_foreign (foreign _ List.mem_cons_self)]

/-- The `CONNECT_ACK` that waits behind foreign datagrams is taken in the round after
them, if there is one. -/
theorem performHandshake_waiting (isAck : IsConnectAck ack)
    (waits : queue ++ arriving round = before ++ ack :: after)
    (foreign : ∀ datagram ∈ before, IsForeign datagram) :
    performHandshake rounds (receives arriving rounds round queue) =
      if before.length < rounds then some (ackConfig (.ofBytes (receiveFrom 4096 ack)))
      else none := by
  induction rounds generalizing queue before after round with
  | zero => simp [performHandshake]
  | succ rounds inductionHypothesis =>
    rw [receives, waits]
    cases before with
    | nil =>
      rw [List.nil_append, List.head?_cons, performHandshake, handshakeReply_ack isAck]
      simp
    | cons datagram before =>
      have ignored := handshakeReply_foreign (foreign datagram List.mem_cons_self)
      have others : ∀ other ∈ before, IsForeign other :=
        fun other member => foreign other (List.mem_cons_of_mem datagram member)
      have next : before ++ ack :: after ++ arriving (round + 1) =
          before ++ ack :: (after ++ arriving (round + 1)) := by simp
      rw [List.cons_append, List.head?_cons, List.tail_cons, performHandshake, ignored]
      dsimp only
      rw [inductionHypothesis next others, List.length_cons]
      simp

/-- The rounds before the one in which the `CONNECT_ACK` arrives take foreign datagrams
or nothing. -/
theorem performHandshake_arriving (isAck : IsConnectAck ack) (later : Nat)
    (arrives : arriving (round + later) = before ++ ack :: after)
    (foreign : ∀ datagram ∈ before, IsForeign datagram)
    (earlier : ∀ k < round + later, ∀ datagram ∈ arriving k, IsForeign datagram)
    (waits : ∀ datagram ∈ queue, IsForeign datagram)
    (length : queue.length = waitingAt arriving round) :
    performHandshake rounds (receives arriving rounds round queue) =
        some (ackConfig (.ofBytes (receiveFrom 4096 ack))) ↔
      later + waitingAt arriving (round + later) + before.length < rounds := by
  induction later generalizing queue round rounds with
  | zero =>
    have present : queue ++ arriving round = (queue ++ before) ++ ack :: after := by
      rw [Nat.add_zero] at arrives
      rw [arrives, List.append_assoc]
    have ahead : ∀ datagram ∈ queue ++ before, IsForeign datagram := by
      intro datagram member
      exact (List.mem_append.1 member).elim (waits datagram) (foreign datagram)
    rw [performHandshake_waiting isAck present ahead, List.length_append, length]
    simp
  | succ later inductionHypothesis =>
    have sameRound : round + 1 + later = round + (later + 1) := by omega
    have all : ∀ datagram ∈ queue ++ arriving round, IsForeign datagram := by
      intro datagram member
      exact (List.mem_append.1 member).elim (waits datagram) (earlier round (by omega) datagram)
    have tailLength :
        (queue ++ arriving round).tail.length = waitingAt arriving (round + 1) := by
      rw [List.length_tail, List.length_append, length]
      rfl
    cases rounds with
    | zero => simp [performHandshake]
    | succ rounds =>
      rw [receives, performHandshake_foreign all,
        inductionHypothesis (by rwa [sameRound]) (by rwa [sameRound])
          (fun datagram member => all datagram (List.mem_of_mem_tail member)) tailLength,
        sameRound]
      omega

end

/-- `sizeof(DiscoveryRespPayload)`. -/
def sizeofDiscoveryRespPayload : Nat := 38

/-- A `DISCOVERY_RESP`. -/
def discoveryReply : Datagram :=
  [0x52, 0x44, 0x55, 0x41, 1, MsgType.discoveryResp.code, 0, 0, 0, 0, 0, 0] ++
    LittleEndian.encode 8 0 ++ LittleEndian.encode 4 sizeofDiscoveryRespPayload ++
      List.replicate sizeofDiscoveryRespPayload 0

/-- Replies to the probes wait, and the `CONNECT_ACK` comes in the first round. -/
def afterDiscovery (replies : Nat) : Nat → List Datagram
  | 0 => List.replicate replies discoveryReply ++ [stereoAck]
  | _ => []

theorem isConnectAck_stereoAck : IsConnectAck stereoAck := by
  constructor <;> decide +kernel

theorem isForeign_discoveryReply (replies : Nat) :
    ∀ datagram ∈ List.replicate replies discoveryReply, IsForeign datagram := by
  intro datagram member
  rw [List.eq_of_mem_replicate member]
  decide +kernel

end AudioRouter.Client
