import AudioRouter.Lib.Blocks

/-!
# Frames cut from a stream of bytes

A reader takes a stream in pieces of any length into a buffer, hands on the frames that
are complete, and carries the rest at the front of the buffer into the next read.  What
it hands on are frames of the stream as long as the bytes it carries and those it has
not read yet begin where a frame begins.
-/

namespace AudioRouter.FrameCutter

/-- A frame of `size` bytes. -/
abbrev Frame (β : Type) (size : Nat) := { bytes : List β // bytes.length = size }

/-- The bytes of frames. -/
def stream {β : Type} {size : Nat} (frames : List (Frame β size)) : List β :=
  frames.flatMap (·.val)

/-- The first `count` frames in memory. -/
def cut {β : Type} (size : Nat) : (count : Nat) → List β → List (List β)
  | 0, _ => []
  | count + 1, memory => memory.take size :: cut size count (memory.drop size)

/-- The buffer, what is left of the stream, and the frames handed on. -/
structure Cutter (β : Type) where
  buffer : List β
  rest : List β
  handed : List (List β) := []
  deriving DecidableEq

namespace Cutter

variable {β : Type}

/-- `read` puts `count` bytes behind the carried ones. -/
def read (c : Cutter β) (carried count : Nat) : Cutter β :=
  { c with
    buffer := c.buffer.take carried ++ c.rest.take count ++ c.buffer.drop (carried + count)
    rest := c.rest.drop count }

def hand (c : Cutter β) (size count : Nat) : Cutter β :=
  { c with handed := c.handed ++ cut size count c.buffer }

/-- `memmove` of `carried` bytes to the front. -/
def move (c : Cutter β) (offset carried : Nat) : Cutter β :=
  { c with buffer := (c.buffer.drop offset).take carried ++ c.buffer.drop carried }

/-- Bytes are thrown away unread. -/
def discard (c : Cutter β) (count : Nat) : Cutter β :=
  { c with rest := c.rest.drop count }

end Cutter

section

variable {β : Type} {size : Nat} {frames : List (Frame β size)} {c : Cutter β}

theorem length_stream (frames : List (Frame β size)) :
    (stream frames).length = frames.length * size := by
  induction frames with
  | nil => simp [stream]
  | cons frame frames inductionHypothesis =>
    have lengths : (stream (frame :: frames)).length = size + (stream frames).length := by
      simp [stream, frame.property]
    rw [lengths, inductionHypothesis, List.length_cons, Nat.add_mul, Nat.one_mul, Nat.add_comm]

theorem drop_stream (count : Nat) (frames : List (Frame β size)) :
    (stream frames).drop (count * size) = stream (frames.drop count) :=
  Blocks.drop_flatMap (fun frame : Frame β size => frame.property) count frames

theorem take_stream (count : Nat) (frames : List (Frame β size)) :
    (stream frames).take (count * size) = stream (frames.take count) :=
  Blocks.take_flatMap (fun frame : Frame β size => frame.property) count frames

/-- Frames are cut where they were joined. -/
theorem cut_stream (frames : List (Frame β size)) :
    cut size frames.length (stream frames) = frames.map (·.val) := by
  induction frames with
  | nil => rfl
  | cons frame frames inductionHypothesis =>
    have first : (stream (frame :: frames)).take size = frame.val := by
      simp [stream, frame.property]
    have others : (stream (frame :: frames)).drop size = stream frames := by
      simp [stream, frame.property]
    rw [List.length_cons, cut, first, others, inductionHypothesis, List.map_cons]

theorem cut_take (count : Nat) (memory : List β) :
    cut size count (memory.take (count * size)) = cut size count memory := by
  induction count generalizing memory with
  | zero => rfl
  | succ count inductionHypothesis =>
    have more : (count + 1) * size = size + count * size := by
      rw [Nat.add_mul, Nat.one_mul, Nat.add_comm]
    rw [cut, cut, more, List.take_take, Nat.min_eq_left (Nat.le_add_right _ _), List.drop_take,
      Nat.add_sub_cancel_left, inductionHypothesis]

/-! ## The invariant -/

/-- The frames handed on are among the first `before` ones, and the first `carried` bytes
of the buffer with what is left of the stream are the frames from `start` on. -/
structure Carries (frames : List (Frame β size)) (before start carried : Nat)
    (c : Cutter β) : Prop where
  handed : c.handed.Sublist ((frames.take before).map (·.val))
  fits : carried ≤ c.buffer.length
  joined : c.buffer.take carried ++ c.rest = stream (frames.drop start)

variable {done start carried count : Nat}

/-- Only frames of the stream were handed on, in its order. -/
theorem Carries.sublist (carries : Carries frames done start carried c) :
    c.handed.Sublist (frames.map (·.val)) :=
  carries.handed.trans ((List.take_sublist done frames).map _)

theorem Carries.mono {later : Nat} (carries : Carries frames done start carried c)
    (before : done ≤ later) : Carries frames later start carried c := by
  rcases carries with ⟨handed, fits, joined⟩
  refine ⟨handed.trans ?_, fits, joined⟩
  exact (List.take_sublist_take_left before).map _

@[simp]
theorem Cutter.length_read (fits : carried + count ≤ c.buffer.length)
    (enough : count ≤ c.rest.length) :
    (c.read carried count).buffer.length = c.buffer.length := by
  simp only [Cutter.read, List.length_append, List.length_take, List.length_drop]
  omega

theorem Cutter.length_move {offset : Nat} (fits : offset + carried ≤ c.buffer.length) :
    (c.move offset carried).buffer.length = c.buffer.length := by
  simp only [Cutter.move, List.length_append, List.length_take, List.length_drop]
  omega

/-- A read goes on with the stream, wherever it is cut. -/
theorem Carries.read (carries : Carries frames done start carried c)
    (fits : carried + count ≤ c.buffer.length) (enough : count ≤ c.rest.length) :
    Carries frames done start (carried + count) (c.read carried count) := by
  rcases carries with ⟨handed, _, joined⟩
  refine ⟨handed, by rwa [Cutter.length_read fits enough], ?_⟩
  have front : (c.buffer.take carried ++ c.rest.take count).length = carried + count := by
    simp only [List.length_append, List.length_take]
    omega
  rw [← joined]
  simp only [Cutter.read]
  rw [List.take_append_of_le_length (Nat.le_of_eq front.symm), List.take_of_length_le
    (Nat.le_of_eq front), List.append_assoc, List.take_append_drop]

/-- The complete frames in the buffer are handed on. -/
theorem Carries.hand (positive : 0 < size)
    (carries : Carries frames start start (count * size + carried) c) :
    Carries frames (start + count) start (count * size + carried) (c.hand size count) := by
  rcases carries with ⟨handed, fits, joined⟩
  refine ⟨?_, fits, joined⟩
  have front : c.buffer.take (count * size) = stream ((frames.drop start).take count) := by
    rw [← take_stream, ← joined, List.take_append_of_le_length (by simp; omega), List.take_take,
      Nat.min_eq_left (Nat.le_add_right _ _)]
  have present : count ≤ (frames.drop start).length := by
    have lengths := congrArg List.length front
    rw [length_stream, List.length_take, List.length_take,
      Nat.min_eq_left (Nat.le_trans (Nat.le_add_right _ _) fits)] at lengths
    have same := Nat.eq_of_mul_eq_mul_right positive lengths
    omega
  have counted : ((frames.drop start).take count).length = count := by
    rw [List.length_take, Nat.min_eq_left present]
  have cuts : cut size count c.buffer = ((frames.drop start).take count).map (·.val) := by
    have whole := cut_stream ((frames.drop start).take count)
    rwa [counted, ← front, cut_take] at whole
  rw [List.take_add, List.map_append, Cutter.hand, cuts]
  exact handed.append (List.Sublist.refl _)

/-- The bytes behind the frames handed on are moved to the front. -/
theorem Carries.move (carries : Carries frames done start (count * size + carried) c) :
    Carries frames done (start + count) carried (c.move (count * size) carried) := by
  rcases carries with ⟨handed, fits, joined⟩
  refine ⟨handed, by rw [Cutter.length_move fits]; omega, ?_⟩
  have dropped : (c.buffer.take (count * size + carried) ++ c.rest).drop (count * size) =
      (c.buffer.drop (count * size)).take carried ++ c.rest := by
    rw [List.drop_append_of_le_length (by simp; omega), List.drop_take, Nat.add_sub_cancel_left]
  have front : ((c.buffer.drop (count * size)).take carried).length = carried := by
    simp only [List.length_take, List.length_drop]
    omega
  rw [Cutter.move, List.take_append_of_le_length (Nat.le_of_eq front.symm),
    List.take_of_length_le (Nat.le_of_eq front), ← dropped, joined, drop_stream, List.drop_drop]

/-- Where nothing is carried, nothing has to be moved. -/
theorem Carries.leave (carries : Carries frames done start (count * size) c) :
    Carries frames done (start + count) 0 c := by
  rcases carries with ⟨handed, fits, joined⟩
  refine ⟨handed, Nat.zero_le _, ?_⟩
  have rest : c.rest = (c.buffer.take (count * size) ++ c.rest).drop (count * size) := by
    rw [List.drop_append_of_le_length (by simp; omega), List.drop_take, Nat.sub_self,
      List.take_zero, List.nil_append]
  rw [List.take_zero, List.nil_append, rest, joined, drop_stream, List.drop_drop]

/-- Whole frames are thrown away where nothing is carried. -/
theorem Carries.discard (carries : Carries frames done start 0 c) (count : Nat) :
    Carries frames done (start + count) 0 (c.discard (count * size)) := by
  rcases carries with ⟨handed, fits, joined⟩
  refine ⟨handed, fits, ?_⟩
  rw [List.take_zero, List.nil_append] at joined ⊢
  rw [Cutter.discard, joined, drop_stream, List.drop_drop]

end

end AudioRouter.FrameCutter
