import AudioRouter.Lib.LittleEndian

/-!
# Length-prefixed frames

A frame is the length of its payload, as a little-endian number of fixed size,
followed by the payload.  The receiver of a byte stream takes complete frames off
the front of a reassembly buffer; what it takes are the payloads that were
framed, however the stream was cut.
-/

namespace AudioRouter

open LittleEndian

/-- The size of the length, and the longest payload that is accepted. -/
structure FrameFormat where
  headerSize : Nat
  maxPayload : Nat
  fits : maxPayload < 256 ^ headerSize

namespace FrameFormat

variable (format : FrameFormat)

def frame (payload : List UInt8) : List UInt8 :=
  encode format.headerSize payload.length ++ payload

/-- The frames of several payloads, one behind the other. -/
def stream (payloads : List (List UInt8)) : List UInt8 :=
  payloads.flatMap format.frame

/-- What stands at the front of a reassembly buffer. -/
inductive Extracted where
  | incomplete
  | tooLong
  | frame (payload rest : List UInt8)
  deriving DecidableEq, Repr

def extract (buffer : List UInt8) : Extracted :=
  if format.headerSize ≤ buffer.length then
    let len := field buffer 0 format.headerSize
    if format.maxPayload < len then .tooLong
    else if format.headerSize + len ≤ buffer.length then
      .frame ((buffer.drop format.headerSize).take len)
        (buffer.drop (format.headerSize + len))
    else .incomplete
  else .incomplete

/-- A payload that the receiver accepts. -/
def Accepts (payload : List UInt8) : Prop :=
  payload.length ≤ format.maxPayload

/-- A proper prefix of a frame, or nothing. -/
def Cut (part : List UInt8) : Prop :=
  part = [] ∨
    ∃ payload, format.Accepts payload ∧ part <+: format.frame payload ∧
      part ≠ format.frame payload

variable {format}

@[simp]
theorem length_frame (payload : List UInt8) :
    (format.frame payload).length = format.headerSize + payload.length := by
  rw [frame, List.length_append, length_encode]

@[simp]
theorem stream_nil : format.stream [] = [] :=
  rfl

theorem stream_cons (payload : List UInt8) (payloads : List (List UInt8)) :
    format.stream (payload :: payloads) =
      format.frame payload ++ format.stream payloads :=
  List.flatMap_cons

theorem stream_append_singleton (payloads : List (List UInt8))
    (payload : List UInt8) :
    format.stream (payloads ++ [payload]) =
      format.stream payloads ++ format.frame payload := by
  rw [stream, List.flatMap_append, List.flatMap_singleton, stream]

/-- A whole frame at the front is taken off. -/
theorem extract_frame_append {payload : List UInt8} (accepted : format.Accepts payload)
    (rest : List UInt8) :
    format.extract (format.frame payload ++ rest) = .frame payload rest := by
  have size :
      field (format.frame payload ++ rest) 0 format.headerSize = payload.length := by
    have small : payload.length < 256 ^ format.headerSize :=
      Nat.lt_of_le_of_lt accepted format.fits
    rw [field, List.drop_zero, frame, List.append_assoc,
      List.take_left' (length_encode _ _), decode_encode small]
  unfold extract
  rw [if_pos (by simp; omega), size]
  dsimp only
  rw [if_neg (Nat.not_lt.2 accepted), if_pos (by simp)]
  congr 1
  · rw [frame, List.append_assoc, List.drop_left' (length_encode _ _),
      List.take_left' rfl]
  · exact List.drop_left' (length_frame payload)

/-- What is taken off is a whole frame. -/
theorem eq_of_extract_eq_frame {buffer payload rest : List UInt8}
    (extracted : format.extract buffer = .frame payload rest) :
    buffer = format.frame payload ++ rest ∧ format.Accepts payload := by
  unfold extract at extracted
  split at extracted
  · next header =>
      dsimp only at extracted
      split at extracted
      · nomatch extracted
      · next short =>
          split at extracted
          · next whole =>
              injection extracted with payloadEq restEq
              have size : payload.length = field buffer 0 format.headerSize := by
                rw [← payloadEq, List.length_take, List.length_drop]
                omega
              have header :
                  encode format.headerSize payload.length =
                    buffer.take format.headerSize := by
                rw [size, encode_field (by omega), List.drop_zero]
              refine ⟨?_, ?_⟩
              · rw [frame, header, ← payloadEq, ← restEq, List.append_assoc,
                  ← List.drop_drop, List.take_append_drop, List.take_append_drop]
              · rw [Accepts, size]
                omega
          · nomatch extracted
  · nomatch extracted

/-- A length that is too large stays so when more bytes arrive. -/
theorem extract_tooLong_append {buffer : List UInt8}
    (tooLong : format.extract buffer = .tooLong) (more : List UInt8) :
    format.extract (buffer ++ more) = .tooLong := by
  unfold extract at tooLong ⊢
  split at tooLong
  · next header =>
    have sameField :
        field (buffer ++ more) 0 format.headerSize = field buffer 0 format.headerSize := by
      rw [field, field, List.drop_zero, List.drop_zero, List.take_append_of_le_length header]
    have headerToo : format.headerSize ≤ (buffer ++ more).length := by
      rw [List.length_append]
      omega
    rw [if_pos headerToo, sameField]
    dsimp only at tooLong ⊢
    split at tooLong
    · next large => exact if_pos large
    · split at tooLong <;> cases tooLong
  · cases tooLong

/-- A buffer without a complete frame is shorter than the longest frame. -/
theorem length_lt_of_incomplete {buffer : List UInt8}
    (incomplete : format.extract buffer = .incomplete) :
    buffer.length < format.headerSize + format.maxPayload := by
  unfold extract at incomplete
  split at incomplete
  · dsimp only at incomplete
    split at incomplete
    · cases incomplete
    · split at incomplete
      · cases incomplete
      · omega
  · omega

/-- A cut frame holds no whole one. -/
theorem Cut.no_frame {part payload rest : List UInt8} (cut : format.Cut part)
    (accepted : format.Accepts payload) (nonempty : 0 < format.headerSize) :
    part ≠ format.frame payload ++ rest := by
  rintro rfl
  rcases cut with empty | ⟨whole, wholeAccepted, ⟨tail, joined⟩, proper⟩
  · have length := congrArg List.length empty
    rw [List.length_append, length_frame, List.length_nil] at length
    omega
  · have left := extract_frame_append accepted (rest ++ tail)
    have right := extract_frame_append wholeAccepted []
    rw [← List.append_assoc, joined, ← List.append_nil (format.frame whole), right]
      at left
    injection left with samePayload sameRest
    obtain ⟨rfl, rfl⟩ := List.append_eq_nil_iff.1 sameRest.symm
    exact proper (by rw [List.append_nil, samePayload])

/-- A whole frame at the front of a stream that ends in a cut frame is the first
of the stream. -/
theorem stream_eq_frame_append {payloads : List (List UInt8)}
    {part payload rest : List UInt8} (nonempty : 0 < format.headerSize)
    (all : ∀ framed ∈ payloads, format.Accepts framed) (cut : format.Cut part)
    (accepted : format.Accepts payload)
    (joined : format.stream payloads ++ part = format.frame payload ++ rest) :
    ∃ later, payloads = payload :: later ∧ rest = format.stream later ++ part := by
  cases payloads with
  | nil => exact absurd joined (cut.no_frame accepted nonempty)
  | cons first later =>
      have left := extract_frame_append (all first (List.mem_cons_self ..))
        (format.stream later ++ part)
      have right := extract_frame_append accepted rest
      rw [stream_cons, List.append_assoc] at joined
      rw [joined, right] at left
      injection left with samePayload sameRest
      exact ⟨later, by rw [samePayload], sameRest⟩

end FrameFormat

end AudioRouter
