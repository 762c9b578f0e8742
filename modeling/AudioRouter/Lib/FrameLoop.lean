import AudioRouter.Lib.FrameCutter

/-!
# Counted loops over bounded buffers

A buffer is a list, an access outside it is `none`, and a loop that makes one has no
result.  The loops of `fill` write one frame a turn; the frames they leave in the buffer
are the values that the turns computed.
-/

namespace AudioRouter.FrameLoop

open FrameCutter (Frame)

/-! ## Counted loops -/

section Loop

variable {S : Type} {body bodyToo : Nat → S → Option S} {count : Nat}

/-- `for (i = 0; i < count; ++i)`. -/
def loop (body : Nat → S → Option S) : (count : Nat) → S → Option S
  | 0, s => some s
  | count + 1, s => (loop body count s).bind (body count)

/-- Where every turn goes through and keeps the invariant, the loop does. -/
theorem loop_total (invariant : Nat → S → Prop)
    (turn :
      ∀ i < count, ∀ s, invariant i s → ∃ t, body i s = some t ∧ invariant (i + 1) t)
    {s : S} (start : invariant 0 s) :
    ∃ t, loop body count s = some t ∧ invariant count t := by
  induction count with
  | zero => exact ⟨s, rfl, start⟩
  | succ count inductionHypothesis =>
    have before := inductionHypothesis fun i within => turn i (Nat.lt_succ_of_lt within)
    rcases before with ⟨u, reached, known⟩
    rcases turn count (Nat.lt_succ_self count) u known with ⟨t, last, after⟩
    exact ⟨t, by rw [loop, reached, Option.bind_some, last], after⟩

/-- What every turn that goes through keeps, the loop keeps. -/
theorem loop_preserves (invariant : S → Prop)
    (kept : ∀ i s t, invariant s → body i s = some t → invariant t)
    {s t : S} (start : invariant s) (ended : loop body count s = some t) : invariant t := by
  induction count generalizing t with
  | zero =>
    rcases Option.some.inj ended with rfl
    exact start
  | succ count inductionHypothesis =>
    rcases Option.bind_eq_some_iff.1 ended with ⟨u, before, last⟩
    exact kept count u t (inductionHypothesis before) last

/-- A turn that never goes through stops the loop. -/
theorem loop_eq_none {i : Nat} (within : i < count) (stuck : ∀ s, body i s = none) (s : S) :
    loop body count s = none := by
  induction count with
  | zero => exact absurd within (Nat.not_lt_zero i)
  | succ count inductionHypothesis =>
    rw [loop]
    by_cases earlier : i < count
    · rw [inductionHypothesis earlier, Option.bind_none]
    · have last : i = count := by omega
      rw [← last, Option.bind_eq_none_iff]
      exact fun t _ => stuck t

theorem loop_congr (same : ∀ i < count, ∀ s, body i s = bodyToo i s) (s : S) :
    loop body count s = loop bodyToo count s := by
  induction count with
  | zero => rw [loop, loop]
  | succ count inductionHypothesis =>
    have before := inductionHypothesis fun i within => same i (Nat.lt_succ_of_lt within)
    rw [loop, loop, before]
    exact Option.bind_congr fun t _ => same count (Nat.lt_succ_self count) t

end Loop

/-! ## Frames of a buffer -/

section Frames

variable {β : Type} {width : Nat} {buffer front back : List β}

/-- Frame `i` of a buffer. -/
def frameAt (width i : Nat) (buffer : List β) : List β :=
  (buffer.drop (i * width)).take width

theorem getElem?_frameAt (i : Nat) {k : Nat} (within : k < width) (buffer : List β) :
    (frameAt width i buffer)[k]? = buffer[i * width + k]? := by
  rw [frameAt, List.getElem?_take_of_lt within, List.getElem?_drop]

theorem frameAt_append {i : Nat} (inside : i * width + width ≤ front.length) :
    frameAt width i (front ++ back) = frameAt width i front := by
  rw [frameAt, frameAt, List.drop_append_of_le_length (by omega),
    List.take_append_of_le_length (by rw [List.length_drop]; omega)]

theorem frameAt_map {γ : Type} (f : β → γ) (i : Nat) (buffer : List β) :
    frameAt width i (buffer.map f) = (frameAt width i buffer).map f := by
  rw [frameAt, frameAt, ← List.map_drop, ← List.map_take]

end Frames

/-! ## Writing frames -/

section Fill

variable {β : Type} {width count : Nat} {dst out : List β}

/-- A write, `none` outside the buffer. -/
def store (offset : Nat) (value : β) (dst : List β) : Option (List β) :=
  if offset < dst.length then some (dst.set offset value) else none

/-- Consecutive writes. -/
def stores (offset : Nat) : (values : List β) → List β → Option (List β)
  | [], dst => some dst
  | value :: values, dst => (store offset value dst).bind (stores (offset + 1) values)

/-- A loop whose turn `i` computes a frame and writes it as frame `i`. -/
def fill (value : Nat → Option (Frame β width)) (count : Nat) (dst : List β) :
    Option (List β) :=
  loop (fun i dst => (value i).bind fun frame => stores (i * width) frame.val dst) count dst

/-- `std::copy` of `count` elements. -/
def copy (src : List β) (count : Nat) (dst : List β) : Option (List β) :=
  if count ≤ src.length ∧ count ≤ dst.length then some (src.take count ++ dst.drop count)
  else none

/-- `std::vector::resize`. -/
def resize (buffer : List β) (size : Nat) (value : β) : List β :=
  buffer.take size ++ List.replicate (size - buffer.length) value

@[simp]
theorem length_resize (buffer : List β) (size : Nat) (value : β) :
    (resize buffer size value).length = size := by
  rw [resize, List.length_append, List.length_take, List.length_replicate]
  omega

theorem forall_mem_resize {holds : β → Prop} {buffer : List β} {value : β}
    (known : ∀ x ∈ buffer, holds x) (new : holds value) (size : Nat) :
    ∀ x ∈ resize buffer size value, holds x := by
  intro x present
  rcases List.mem_append.1 present with old | fresh
  · exact known x (List.mem_of_mem_take old)
  · rwa [List.eq_of_mem_replicate fresh]

theorem length_stores {offset : Nat} {values : List β}
    (written : stores offset values dst = some out) : out.length = dst.length := by
  induction values generalizing offset dst with
  | nil =>
    rw [Option.some.inj written]
  | cons value values inductionHypothesis =>
    rw [stores, store] at written
    split at written
    · have rest := inductionHypothesis written
      rwa [List.length_set] at rest
    · exact absurd written (by simp)

/-- Consecutive writes inside the buffer replace a part of it. -/
theorem stores_eq_some {offset : Nat} {values : List β}
    (room : offset + values.length ≤ dst.length) :
    stores offset values dst =
      some (dst.take offset ++ values ++ dst.drop (offset + values.length)) := by
  induction values generalizing offset dst with
  | nil => simp [stores]
  | cons value values inductionHypothesis =>
    rw [List.length_cons] at room
    have inside : offset < dst.length := by omega
    have roomLeft : offset + 1 + values.length ≤ (dst.set offset value).length := by
      rw [List.length_set]
      omega
    have front : (dst.set offset value).take (offset + 1) = dst.take offset ++ [value] := by
      rw [List.take_add_one, List.take_set_of_le (Nat.le_refl offset),
        List.getElem?_set_self inside, Option.toList_some]
    have back : (dst.set offset value).drop (offset + 1 + values.length) =
        dst.drop (offset + (value :: values).length) := by
      rw [List.drop_set_of_lt (by omega), List.length_cons, Nat.add_assoc, Nat.add_comm 1]
    rw [stores, store, if_pos inside, Option.bind_some, inductionHypothesis roomLeft, front, back,
      List.append_assoc, List.append_assoc, List.singleton_append, List.append_assoc,
      List.cons_append]

theorem length_fill {value : Nat → Option (Frame β width)}
    (filled : fill value count dst = some out) : out.length = dst.length := by
  refine loop_preserves (fun buffer => buffer.length = dst.length) ?_ rfl filled
  intro i s t same turn
  rcases Option.bind_eq_some_iff.1 turn with ⟨frame, _, written⟩
  rw [length_stores written, same]

/-- Where every turn has its value and the buffer has room, the values are the frames of
the buffer. -/
theorem fill_eq_some {value : Nat → Option (Frame β width)}
    (defined : ∀ i < count, (value i).isSome) (room : count * width ≤ dst.length) :
    ∃ out, fill value count dst = some out ∧ out.length = dst.length ∧
      ∀ i < count, (value i).map (·.val) = some (frameAt width i out) := by
  refine loop_total
    (fun turn buffer => buffer.length = dst.length ∧
      ∀ i < turn, (value i).map (·.val) = some (frameAt width i buffer)) ?_
    ⟨rfl, fun i none => absurd none (Nat.not_lt_zero i)⟩
  rintro i within buffer ⟨same, before⟩
  rcases Option.isSome_iff_exists.1 (defined i within) with ⟨frame, computed⟩
  have upTo : i * width + width ≤ count * width := by
    rw [← Nat.succ_mul]
    exact Nat.mul_le_mul_right width within
  have wide : frame.val.length = width := frame.property
  have inside : i * width + frame.val.length ≤ buffer.length := by omega
  have front : (buffer.take (i * width)).length = i * width := by
    rw [List.length_take]
    omega
  have written := stores_eq_some inside
  refine ⟨_, by rw [computed, Option.bind_some, written], ?_, ?_⟩
  · rw [length_stores written, same]
  intro j earlier
  rw [List.append_assoc]
  by_cases last : j = i
  · have here : frame.val = frameAt width i (buffer.take (i * width) ++
        (frame.val ++ buffer.drop (i * width + frame.val.length))) := by
      rw [frameAt, List.drop_append_of_le_length (Nat.le_of_eq front.symm),
        List.drop_of_length_le (Nat.le_of_eq front), List.nil_append,
        List.take_append_of_le_length (Nat.le_of_eq wide.symm),
        List.take_of_length_le (Nat.le_of_eq wide)]
    rw [last, computed, Option.map_some, ← here]
  · have below : j + 1 ≤ i := by omega
    have apart : j * width + width ≤ i * width := by
      rw [← Nat.succ_mul]
      exact Nat.mul_le_mul_right width below
    have whole : frameAt width j buffer = frameAt width j (buffer.take (i * width)) := by
      conv_lhs => rw [← List.take_append_drop (i * width) buffer]
      exact frameAt_append (by omega)
    rw [before j below, whole, frameAt_append (by omega)]

/-- A turn without a value stops the loop. -/
theorem fill_eq_none {value : Nat → Option (Frame β width)} {i : Nat} (within : i < count)
    (missing : value i = none) (dst : List β) : fill value count dst = none :=
  loop_eq_none within (fun s => by rw [missing, Option.bind_none]) dst

/-- A copy of as many elements as the buffer holds. -/
theorem copy_eq_some {src : List β} (enough : dst.length ≤ src.length) :
    copy src dst.length dst = some (src.take dst.length) := by
  rw [copy, if_pos ⟨enough, Nat.le_refl _⟩, List.drop_length, List.append_nil]

theorem length_copy {src : List β} (copied : copy src count dst = some out) :
    out.length = dst.length := by
  rw [copy] at copied
  split at copied
  · rcases Option.some.inj copied with rfl
    rw [List.length_append, List.length_take, List.length_drop]
    omega
  · exact absurd copied (by simp)

end Fill

end AudioRouter.FrameLoop
