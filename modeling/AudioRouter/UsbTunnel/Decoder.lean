import AudioRouter.UsbTunnel.Model

/-!
# Frames against a reference decoder

Repeated calls of `read_frame` on one connection return what a decoder of the whole
byte stream returns, wherever the stream is cut into `recv` results, and what
`write_frame` emits decodes to what was written, wherever `send` cuts it.
-/

namespace AudioRouter

namespace UsbTunnel

open Protocol LittleEndian Transition FrameFormat

/-! ## The reference decoder -/

/-- The payloads of a stream, and whether a length above the maximum ends it. -/
structure Decoded where
  frames : List Datagram
  error : Bool
  deriving DecidableEq, Repr

/-- Reads a stream as frames of a 4-byte little-endian length and a payload of at most
65536 bytes. -/
def decodeStream (bytes : List UInt8) : Decoded :=
  if bytes.length < 4 then { frames := [], error := false }
  else
    let len := decode (bytes.take 4)
    if 65536 < len then { frames := [], error := true }
    else if bytes.length < 4 + len then { frames := [], error := false }
    else
      let later := decodeStream (bytes.drop (4 + len))
      { later with frames := (bytes.drop 4).take len :: later.frames }
termination_by bytes.length
decreasing_by
  rw [List.length_drop]
  omega

/-- The decoder in terms of what stands at the front of the stream. -/
theorem decodeStream_eq (bytes : List UInt8) :
    decodeStream bytes =
      match format.extract bytes with
      | .incomplete => { frames := [], error := false }
      | .tooLong => { frames := [], error := true }
      | .frame out rest =>
          { decodeStream rest with frames := out :: (decodeStream rest).frames } := by
  rw [decodeStream]
  unfold extract field
  simp only [format, List.drop_zero, ← Nat.not_lt, ite_not]
  split_ifs <;> rfl

theorem decodeStream_append {payloads : List Datagram}
    (accepted : ∀ payload ∈ payloads, format.Accepts payload) (rest : List UInt8) :
    decodeStream (format.stream payloads ++ rest) =
      { decodeStream rest with frames := payloads ++ (decodeStream rest).frames } := by
  induction payloads with
  | nil => rfl
  | cons first later inductionHypothesis =>
    have firstAccepted := accepted first List.mem_cons_self
    have laterAccepted := inductionHypothesis fun payload member =>
      accepted payload (List.mem_cons_of_mem first member)
    rw [decodeStream_eq, stream_cons, List.append_assoc,
      extract_frame_append firstAccepted]
    dsimp only
    rw [laterAccepted]
    rfl

/-! ## Repeated calls of `read_frame` -/

/-- One connection at its receiver: the reassembly buffer, the bytes that `recv` has
not returned, the frames that the calls have returned, and whether one returned
`Error`. -/
structure Reader where
  rx : List UInt8 := []
  unread : List UInt8
  frames : List Datagram := []
  error : Bool := false
  deriving DecidableEq, Repr

namespace Reader

/-- A round of `read_frame`, or the first round of the next call.  No call follows an
`Error`. -/
def step (r : Reader) (recv : Recv) : Option Reader :=
  if r.error then none
  else
    (readFrame r.rx r.unread recv).map fun round =>
      { rx := round.rx
        unread := round.unread
        frames :=
          match round.result with
          | some (.frame out) => r.frames ++ [out]
          | _ => r.frames
        error := decide (round.result = some .error) }

/-- `recv` returns bytes, or would block. -/
def isChunk : Recv → Bool
  | .data _ | .wouldBlock _ => true
  | .closed | .error => false

/-- Everything has been received, and a call can only wait; or a call has failed. -/
def Finished (r : Reader) : Prop :=
  r.error = true ∨ r.unread = [] ∧ format.extract r.rx = .incomplete

/-- What a receiver knows of the stream. -/
structure Follows (bytes : List UInt8) (r : Reader) : Prop where
  accepted : ∀ payload ∈ r.frames, format.Accepts payload
  /-- The reassembly buffer holds what was received and not consumed. -/
  received :
    r.error = false → bytes = (format.stream r.frames ++ r.rx) ++ r.unread
  /-- An `Error` clears it, at a length above the maximum. -/
  failed :
    r.error = true →
      r.rx = [] ∧
        ∃ rest, bytes = format.stream r.frames ++ rest ∧ format.extract rest = .tooLong
  bounded : r.rx.length ≤ 4 + 65536 + 4095

variable {bytes : List UInt8} {r t : Reader} {recv : Recv}

/-- What one round preserves. -/
theorem Follows.step (follows : r.Follows bytes) (chunk : isChunk recv = true)
    (stepped : r.step recv = some t) : t.Follows bytes := by
  unfold Reader.step at stepped
  by_cases failed : r.error = true
  · rw [if_pos failed] at stepped
    cases stepped
  · rw [if_neg failed] at stepped
    have received := follows.received (eq_false_of_ne_true failed)
    obtain ⟨round, read, rfl⟩ := Option.map_eq_some_iff.1 stepped
    unfold readFrame at read
    cases front : format.extract r.rx with
    | tooLong =>
      rw [front] at read
      obtain rfl := Option.some.inj read
      refine ⟨follows.accepted, nofun, fun _ => ⟨rfl, r.rx ++ r.unread, ?_, ?_⟩, by simp⟩
      · rw [received, List.append_assoc]
      · exact extract_tooLong_append front r.unread
    | frame out rest =>
      rw [front] at read
      obtain rfl := Option.some.inj read
      obtain ⟨whole, accepted⟩ := eq_of_extract_eq_frame front
      refine ⟨?_, fun _ => ?_, nofun, ?_⟩
      · intro payload member
        rcases List.mem_append.1 member with earlier | last
        · exact follows.accepted payload earlier
        · rw [List.mem_singleton.1 last]
          exact accepted
      · rw [received, whole, stream_append_singleton]
        simp only [List.append_assoc]
      · have bounded := follows.bounded
        rw [whole, List.length_append] at bounded
        dsimp only
        omega
    | incomplete =>
      rw [front] at read
      have short : r.rx.length < 4 + 65536 := length_lt_of_incomplete front
      cases recv with
      | closed | error => cases chunk
      | data n =>
        dsimp only at read
        split at read
        · next bounds =>
          obtain rfl := Option.some.inj read
          refine ⟨follows.accepted, fun _ => ?_, nofun, ?_⟩
          · rw [received]
            simp only [List.append_assoc, List.take_append_drop]
          · rw [List.length_append, List.length_take]
            omega
        · cases read
      | wouldBlock readable =>
        cases readable with
        | true | false =>
          obtain rfl := Option.some.inj read
          exact ⟨follows.accepted, fun _ => received, nofun, follows.bounded⟩

theorem Follows.run {recvs : List Recv} (follows : r.Follows bytes)
    (chunks : ∀ recv ∈ recvs, isChunk recv = true)
    (reached : Transition.run Reader.step r recvs = some t) : t.Follows bytes := by
  have preserved (s : Reader) (recv : Recv) (u : Reader) (before : s.Follows bytes)
      (chunk : isChunk recv = true) (stepped : s.step recv = some u) : u.Follows bytes :=
    before.step chunk stepped
  have every : EveryStep Reader.step (fun _ recv => isChunk recv = true) r recvs :=
    everyStep_of_mem r recvs fun recv member _ => chunks recv member
  exact run_invariant preserved recvs follows every reached

/-- A finished receiver has what the decoder reads from the whole stream. -/
theorem Follows.decodes (follows : r.Follows bytes) (finished : r.Finished) :
    decodeStream bytes = { frames := r.frames, error := r.error } := by
  cases failed : r.error with
  | true =>
    obtain ⟨_, rest, received, tooLong⟩ := follows.failed failed
    rw [received, decodeStream_append follows.accepted, decodeStream_eq rest, tooLong,
      List.append_nil]
  | false =>
    rcases finished with isFailed | ⟨empty, incomplete⟩
    · rw [failed] at isFailed
      cases isFailed
    · rw [follows.received failed, empty, List.append_nil,
        decodeStream_append follows.accepted, decodeStream_eq r.rx, incomplete,
        List.append_nil]

/-- Further calls lead to a finished receiver. -/
def CanFinish (r : Reader) : Prop :=
  ∃ recvs t, (∀ recv ∈ recvs, isChunk recv = true) ∧
    Transition.run Reader.step r recvs = some t ∧ t.Finished

theorem CanFinish.of_step (chunk : isChunk recv = true) (stepped : r.step recv = some t)
    (rest : t.CanFinish) : r.CanFinish := by
  obtain ⟨recvs, u, chunks, reached, finished⟩ := rest
  refine ⟨recv :: recvs, u, ?_, run_cons_eq_some.2 ⟨t, stepped, reached⟩, finished⟩
  intro other member
  rcases List.mem_cons.1 member with rfl | later
  · exact chunk
  · exact chunks other later

theorem canFinish (r : Reader) : r.CanFinish := by
  by_cases failed : r.error = true
  · exact ⟨[], r, nofun, rfl, .inl failed⟩
  · cases front : format.extract r.rx with
    | tooLong =>
      let t : Reader := { r with rx := [], error := true }
      have stepped : r.step (.wouldBlock true) = some t := by
        rw [Reader.step, if_neg failed, readFrame, front]
        rfl
      exact .of_step rfl stepped ⟨[], t, nofun, rfl, .inl rfl⟩
    | frame out rest =>
      have less :
          2 * r.unread.length + rest.length < 2 * r.unread.length + r.rx.length := by
        rw [(eq_of_extract_eq_frame front).1, List.length_append, length_frame]
        simp only [format]
        omega
      have stepped :
          r.step (.wouldBlock true) =
            some { rx := rest, unread := r.unread, frames := r.frames ++ [out] } := by
        rw [Reader.step, if_neg failed, readFrame, front]
        rfl
      exact .of_step rfl stepped (canFinish _)
    | incomplete =>
      cases waiting : r.unread with
      | nil => exact ⟨[], r, nofun, rfl, .inr ⟨waiting, front⟩⟩
      | cons first later =>
        have stepped :
            r.step (.data 1) =
              some { rx := r.rx ++ [first], unread := later, frames := r.frames } := by
          rw [Reader.step, if_neg failed, readFrame, front, waiting]
          rfl
        have less :
            2 * later.length + (r.rx ++ [first]).length <
              2 * r.unread.length + r.rx.length := by
          simp only [waiting, List.length_append, List.length_cons, List.length_nil]
          omega
        exact .of_step rfl stepped (canFinish _)
termination_by 2 * r.unread.length + r.rx.length
decreasing_by all_goals exact less

end Reader

/-! ## Repeated calls of `write_frame` -/

/-- One connection at its sender: the payloads that are not written, the bytes of
the first one's frame that `send` has taken, and all that it has taken. -/
structure Writer where
  todo : List Datagram
  taken : Nat := 0
  emitted : List UInt8 := []
  deriving DecidableEq, Repr

namespace Writer

/-- A round of `write_frame`.  A call that returns `false` ends the writing. -/
def step (w : Writer) (send : Send) : Option Writer :=
  match w.todo with
  | [] => none
  | payload :: later =>
      if payload.length > format.maxPayload then none
      else
        match writeFrame payload w.taken send with
        | some (bytes, none) =>
            some { w with
              taken := w.taken + bytes.length
              emitted := w.emitted ++ bytes }
        | some (bytes, some true) =>
            some { todo := later, taken := 0, emitted := w.emitted ++ bytes }
        | _ => none

/-- What is emitted, and what is still to be emitted, are the frames. -/
structure Emits (payloads : List Datagram) (w : Writer) : Prop where
  inside : ∀ payload ∈ w.todo.head?, w.taken ≤ (format.frame payload).length
  emitted : format.stream payloads = w.emitted ++ (format.stream w.todo).drop w.taken

/-- What `send` takes is the front of what is left of the frame, and all of it when
`write_frame` returns `true`. -/
theorem writeFrame_eq {payload bytes : List UInt8} {taken : Nat} {send : Send}
    {returned : Option Bool} (inside : taken ≤ (format.frame payload).length)
    (written : writeFrame payload taken send = some (bytes, returned)) :
    (format.frame payload).drop taken =
        bytes ++ (format.frame payload).drop (taken + bytes.length) ∧
      taken + bytes.length ≤ (format.frame payload).length ∧
        (returned = some true → taken + bytes.length = (format.frame payload).length) := by
  cases writeCase_of_writeFrame written with
  | sent n positive fits =>
    have length : (((format.frame payload).drop taken).take n).length = n := by
      rw [List.length_take, List.length_drop]
      omega
    rw [length]
    refine ⟨?_, fits, fun whole => ?_⟩
    · rw [← List.drop_drop, List.take_append_drop]
    · split at whole
      · next all => exact all
      · cases whole
  | again => exact ⟨rfl, inside, nofun⟩
  | failed => exact ⟨rfl, inside, nofun⟩

theorem Emits.step {payloads : List Datagram} {w v : Writer} {send : Send}
    (emits : w.Emits payloads) (stepped : w.step send = some v) : v.Emits payloads := by
  unfold Writer.step at stepped
  cases todo : w.todo with
  | nil =>
    rw [todo] at stepped
    cases stepped
  | cons payload later =>
    rw [todo] at stepped
    dsimp only at stepped
    have inside : w.taken ≤ (format.frame payload).length :=
      emits.inside payload (by rw [todo]; rfl)
    have emitted := emits.emitted
    rw [todo, stream_cons, List.drop_append_of_le_length inside] at emitted
    split at stepped
    · cases stepped
    · split at stepped
      · next bytes written =>
        obtain rfl := Option.some.inj stepped
        obtain ⟨front, insideToo, _⟩ := writeFrame_eq inside written
        refine ⟨?_, ?_⟩
        · intro first isFirst
          obtain rfl := Option.some.inj isFirst
          exact insideToo
        · dsimp only
          rw [emitted, front, stream_cons, List.drop_append_of_le_length insideToo]
          simp only [List.append_assoc]
      · next bytes written =>
        obtain rfl := Option.some.inj stepped
        obtain ⟨front, _, whole⟩ := writeFrame_eq inside written
        refine ⟨fun _ _ => Nat.zero_le _, ?_⟩
        dsimp only
        rw [emitted, front, whole rfl, List.drop_length, List.append_nil, List.drop_zero,
          List.append_assoc]
      · cases stepped

theorem emits_start (payloads : List Datagram) : Emits payloads { todo := payloads } :=
  ⟨fun _ _ => Nat.zero_le _, rfl⟩

/-- When everything is written, the frames of the payloads are what `send` took. -/
theorem emitted_eq {payloads : List Datagram} {sends : List Send} {w : Writer}
    (reached : Transition.run Writer.step { todo := payloads } sends = some w)
    (done : w.todo = []) : w.emitted = format.stream payloads := by
  have emits : w.Emits payloads :=
    run_preserves (fun _ _ _ emits stepped => emits.step stepped) sends
      (emits_start payloads) reached
  have emitted := emits.emitted
  rw [done, stream_nil, List.drop_nil, List.append_nil] at emitted
  exact emitted.symm

end Writer

/-- Two frames, the second one empty, in three pieces. -/
def cutReads : List Recv :=
  [.data 3, .wouldBlock false, .data 5, .wouldBlock true, .data 2, .wouldBlock true]

def cutReader : Reader :=
  (run Reader.step { unread := [2, 0, 0, 0, 7, 8, 0, 0, 0, 0] } cutReads).getD
    { unread := [] }

def cutSends : List Send :=
  [.sent 3, .wouldBlock true, .sent 1, .sent 2, .sent 4]

def cutWriter : Writer :=
  (run Writer.step { todo := [[7, 8], []] } cutSends).getD { todo := [] }

end UsbTunnel

end AudioRouter
