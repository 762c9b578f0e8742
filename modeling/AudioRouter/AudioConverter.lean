import AudioRouter.Lib.FrameLoop

/-!
# Sample conversion

The functions of `AudioConverter` that the capture thread calls.  The arithmetic of
`float` is left open: its operations are those of a type with the class `FloatOps`, and
nothing is assumed of them.
-/

namespace AudioRouter

/-- What the converter uses of `float`. -/
class FloatOps (F : Type) extends Add F, Mul F, Div F, Neg F, OfScientific F where
  lt : F → F → Bool
  /-- `static_cast<float>` of a `size_t`. -/
  ofSize : Nat → F
  /-- `static_cast<int16_t>`. -/
  toInt16 : F → Int16

namespace AudioConverter

open FrameCutter (Frame)
open FrameLoop

variable {F : Type} [FloatOps F]

/-- `std::clamp`. -/
def clamp (v low high : F) : F :=
  if FloatOps.lt v low then low else if FloatOps.lt high v then high else v

/-- One sample of `float32_to_s16le`. -/
def sampleToS16 (v : F) : Int16 :=
  FloatOps.toInt16 (clamp v (-1.0) 1.0 * 32767.0)

/-- `float32_to_s16le` on pointers, which are not null where there are samples. -/
def float32ToS16le (src : List F) (dst : List Int16) (sampleCount : Nat) :
    Option (List Int16) :=
  if sampleCount = 0 then some dst
  else
    fill (fun i => (src[i]?).map fun v => (⟨[sampleToS16 v], rfl⟩ : Frame Int16 1))
      sampleCount dst

/-! ## Downmix -/

def monoFrame (sample : F) : Frame F 2 :=
  let v := clamp sample (-1.0) 1.0
  ⟨[v, v], rfl⟩

/-- The turn of the loop for six channels and more: `frame` points into the source. -/
def surroundFrame (frame : Nat → Option F) : Option (Frame F 2) := do
  let centerGain : F := 0.7071
  let surroundGain : F := 0.7071
  let fl := clamp (← frame 0) (-1.0) 1.0
  let fr := clamp (← frame 1) (-1.0) 1.0
  let fc := clamp (← frame 2) (-1.0) 1.0
  let bl := clamp (← frame 4) (-1.0) 1.0
  let br := clamp (← frame 5) (-1.0) 1.0
  let left := fl + centerGain * fc + surroundGain * bl
  let right := fr + centerGain * fc + surroundGain * br
  return ⟨[clamp (left * 0.7) (-1.0) 1.0, clamp (right * 0.7) (-1.0) 1.0], rfl⟩

/-- The sums and counters of the fallback. -/
structure Sums (F : Type) where
  sumL : F
  sumR : F
  cntL : Nat := 0
  cntR : Nat := 0

/-- The channel `ch` of a frame is added to the left sum or the right one. -/
def Sums.add (frame : Nat → Option F) (ch : Nat) (s : Sums F) : Option (Sums F) := do
  let v := clamp (← frame ch) (-1.0) 1.0
  if ch % 2 = 0 then return { s with sumL := s.sumL + v, cntL := s.cntL + 1 }
  else return { s with sumR := s.sumR + v, cntR := s.cntR + 1 }

def fallbackFrame (srcChannels : Nat) (frame : Nat → Option F) : Option (Frame F 2) := do
  let s ← loop (Sums.add frame) srcChannels { sumL := 0.0, sumR := 0.0 }
  let l := if s.cntL ≠ 0 then s.sumL / FloatOps.ofSize s.cntL else 0.0
  let r := if s.cntR ≠ 0 then s.sumR / FloatOps.ofSize s.cntR else 0.0
  return ⟨[clamp l (-1.0) 1.0, clamp r (-1.0) 1.0], rfl⟩

/-- `downmix_impl`. -/
def downmixImpl (src : List F) (srcChannels : Nat) (dst : List F) (frameCount : Nat) :
    Option (List F) :=
  if srcChannels = 2 then copy src (frameCount * 2) dst
  else if srcChannels = 1 then fill (fun i => (src[i]?).map monoFrame) frameCount dst
  else if srcChannels ≥ 6 then
    fill (fun i => surroundFrame fun k => src[i * srcChannels + k]?) frameCount dst
  else
    fill (fun i => fallbackFrame srcChannels fun k => src[i * srcChannels + k]?) frameCount dst

/-- `downmix_to_stereo_float` on pointers: with more than 32 channels it writes nothing. -/
def downmixToStereoFloat (src : List F) (srcChannels : Nat) (dst : List F)
    (frameCount : Nat) : Option (List F) :=
  if srcChannels = 0 ∨ frameCount = 0 then some dst
  else if srcChannels > 32 then some dst
  else downmixImpl src srcChannels dst frameCount

/-! ## What one frame becomes -/

/-- The stereo frame of one source frame, for a layout other than stereo. -/
def downmixFrame (srcChannels : Nat) (frame : Nat → Option F) : Option (Frame F 2) :=
  if srcChannels = 1 then (frame 0).map monoFrame
  else if srcChannels ≥ 6 then surroundFrame frame
  else fallbackFrame srcChannels frame

section Frames

variable {srcChannels frameCount sampleCount : Nat}

/-- The loops of `downmix_impl` are one loop over frames. -/
theorem downmixImpl_eq_fill (other : srcChannels ≠ 2) (src dst : List F) :
    downmixImpl src srcChannels dst frameCount =
      fill (fun i => downmixFrame srcChannels fun k => src[i * srcChannels + k]?)
        frameCount dst := by
  rw [downmixImpl, if_neg other]
  by_cases mono : srcChannels = 1
  · simp [mono, downmixFrame]
  · by_cases surround : srcChannels ≥ 6
    · simp only [downmixFrame, if_neg mono, if_pos surround]
    · simp only [downmixFrame, if_neg mono, if_neg surround]

/-- A frame is made of the samples below the number of channels. -/
theorem downmixFrame_congr (channels : 1 ≤ srcChannels) {frame frameToo : Nat → Option F}
    (same : ∀ k < srcChannels, frame k = frameToo k) :
    downmixFrame srcChannels frame = downmixFrame srcChannels frameToo := by
  unfold downmixFrame
  split
  · rw [same 0 channels]
  · split
    next surround =>
      rw [surroundFrame, surroundFrame, same 0 (by omega), same 1 (by omega),
        same 2 (by omega), same 4 (by omega), same 5 (by omega)]
    · have turns : ∀ k < srcChannels, ∀ s : Sums F, Sums.add frame k s = Sums.add frameToo k s := by
        intro k within s
        rw [Sums.add, Sums.add, same k within]
      rw [fallbackFrame, fallbackFrame, loop_congr turns]

theorem isSome_fallbackFrame {frame : Nat → Option F}
    (present : ∀ k < srcChannels, (frame k).isSome) :
    (fallbackFrame srcChannels frame).isSome := by
  have turns : ∀ k < srcChannels, ∀ s : Sums F, True →
      ∃ t, Sums.add frame k s = some t ∧ True := by
    intro k within s _
    rcases Option.isSome_iff_exists.1 (present k within) with ⟨v, read⟩
    simp only [Sums.add, read]
    split <;> simp
  have summed := loop_total (fun _ _ => True) turns
    (s := ({ sumL := 0.0, sumR := 0.0 } : Sums F)) trivial
  rcases summed with ⟨s, reached, _⟩
  simp [fallbackFrame, reached]

/-- A frame with a sample for every channel is converted. -/
theorem isSome_downmixFrame (channels : 1 ≤ srcChannels) {frame : Nat → Option F}
    (present : ∀ k < srcChannels, (frame k).isSome) :
    (downmixFrame srcChannels frame).isSome := by
  unfold downmixFrame
  split
  · rw [Option.isSome_map]
    exact present 0 channels
  · split
    next surround =>
      rcases Option.isSome_iff_exists.1 (present 0 (by omega)) with ⟨a, first⟩
      rcases Option.isSome_iff_exists.1 (present 1 (by omega)) with ⟨b, second⟩
      rcases Option.isSome_iff_exists.1 (present 2 (by omega)) with ⟨c, third⟩
      rcases Option.isSome_iff_exists.1 (present 4 (by omega)) with ⟨d, fifth⟩
      rcases Option.isSome_iff_exists.1 (present 5 (by omega)) with ⟨e, sixth⟩
      simp [surroundFrame, first, second, third, fifth, sixth]
    · exact isSome_fallbackFrame present

/-- The samples of a source are converted one by one. -/
theorem float32ToS16le_eq_some {src : List F} {dst : List Int16}
    (same : src.length = dst.length) :
    float32ToS16le src dst dst.length = some (src.map sampleToS16) := by
  by_cases empty : dst.length = 0
  · have noSource : src = [] := List.eq_nil_of_length_eq_zero (same.trans empty)
    rw [float32ToS16le, if_pos empty, noSource, List.eq_nil_of_length_eq_zero empty, List.map_nil]
  · have defined : ∀ i < dst.length, ((src[i]?).map fun v =>
        (⟨[sampleToS16 v], rfl⟩ : Frame Int16 1)).isSome := by
      intro i within
      simp [List.getElem?_eq_getElem (same.symm ▸ within : i < src.length)]
    rcases fill_eq_some defined (Nat.le_of_eq (Nat.mul_one _)) with ⟨out, filled, sized, frames⟩
    rw [float32ToS16le, if_neg empty, filled]
    apply congrArg some
    apply List.ext_getElem?
    intro i
    by_cases within : i < dst.length
    · have here := getElem?_frameAt i (Nat.zero_lt_one) out
      have read := frames i within
      rw [List.getElem?_eq_getElem (same.symm ▸ within : i < src.length)] at read
      rw [← Option.some.inj read, Nat.mul_one, Nat.add_zero] at here
      rw [← here, List.getElem?_map,
        List.getElem?_eq_getElem (same.symm ▸ within : i < src.length)]
      simp
    · rw [List.getElem?_eq_none (by omega), List.getElem?_eq_none (by rw [List.length_map]; omega)]

theorem length_float32ToS16le {src : List F} {dst out : List Int16}
    (converted : float32ToS16le src dst sampleCount = some out) : out.length = dst.length := by
  rw [float32ToS16le] at converted
  split at converted
  · rw [Option.some.inj converted]
  · exact length_fill converted

/-- With more than 32 channels the destination is left as it is. -/
theorem downmixToStereoFloat_of_many (many : srcChannels > 32) (src dst : List F) :
    downmixToStereoFloat src srcChannels dst frameCount = some dst := by
  rw [downmixToStereoFloat, if_pos many, ite_self]

/-- Every stereo frame of the downmix is that of the source frame in its place. -/
theorem downmixToStereoFloat_frames (channels : 1 ≤ srcChannels) (other : srcChannels ≠ 2)
    (few : srcChannels ≤ 32) {src dst : List F} (enough : src.length = frameCount * srcChannels)
    (room : dst.length = frameCount * 2) :
    ∃ out, downmixToStereoFloat src srcChannels dst frameCount = some out ∧
      out.length = frameCount * 2 ∧
      ∀ i < frameCount,
        (downmixFrame srcChannels fun k => (frameAt srcChannels i src)[k]?).map (·.val) =
          some (frameAt 2 i out) := by
  by_cases empty : frameCount = 0
  · refine ⟨dst, if_pos (Or.inr empty), room, ?_⟩
    intro i within
    omega
  have reads : ∀ i, downmixFrame srcChannels (fun k => src[i * srcChannels + k]?) =
      downmixFrame srcChannels fun k => (frameAt srcChannels i src)[k]? := fun i =>
    downmixFrame_congr channels fun k within => (getElem?_frameAt i within src).symm
  have defined : ∀ i < frameCount,
      (downmixFrame srcChannels fun k => src[i * srcChannels + k]?).isSome := by
    intro i within
    apply isSome_downmixFrame channels
    intro k channel
    have upTo : i * srcChannels + srcChannels ≤ frameCount * srcChannels := by
      rw [← Nat.succ_mul]
      exact Nat.mul_le_mul_right srcChannels within
    rw [List.getElem?_eq_getElem (by omega), Option.isSome_some]
  rcases fill_eq_some defined (Nat.le_of_eq room.symm) with ⟨out, filled, sized, frames⟩
  refine ⟨out, ?_, sized.trans room, ?_⟩
  · rw [downmixToStereoFloat, if_neg (by omega), if_neg (by omega), downmixImpl_eq_fill other,
      filled]
  · intro i within
    rw [← reads i]
    exact frames i within

end Frames

end AudioConverter

end AudioRouter
