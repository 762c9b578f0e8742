import Mathlib.Algebra.BigOperators.Intervals
import Mathlib.Algebra.BigOperators.Fin
import Mathlib.Algebra.Order.BigOperators.Group.Finset
import Mathlib.Tactic.Ring
import AudioRouter.JitterBuffer.Invariant

/-!
# Buffered levels as sums over the window

The two scans of the code, over the unbroken run at the playhead and over all
slots, as sums of `heldFrames`.  The first scan compares a 32-bit number with a
64-bit sum and therefore stops where the numbers wrap around: `CrossesWrap`
names the buffers on which that cuts the run short.
-/

namespace AudioRouter.JitterBuffer

open SequenceWindow

variable {σ : Type}

/-- Frames held for the number `i` steps ahead of the playhead. -/
def heldFrames (b : JitterBuffer σ) (i : Nat) : Nat :=
  match b.held i with
  | some packet => packet.numFrames
  | none => 0

theorem heldFrames_of_some {b : JitterBuffer σ} {i : Nat}
    {packet : HeldPacket σ} (present : b.held i = some packet) :
    b.heldFrames i = packet.numFrames := by
  simp [heldFrames, present]

theorem heldFrames_of_none {b : JitterBuffer σ} {i : Nat}
    (absent : b.held i = none) : b.heldFrames i = 0 := by
  simp [heldFrames, absent]

theorem WellFormed.heldFrames_pos {b : JitterBuffer σ} (wf : b.WellFormed)
    {i : Nat} (present : (b.held i).isSome) : 0 < b.heldFrames i := by
  obtain ⟨packet, found⟩ := Option.isSome_iff_exists.1 present
  rw [heldFrames_of_some found]
  exact wf.held_framesPos found

theorem heldFrames_congr {b c : JitterBuffer σ} (same : c.held = b.held) :
    c.heldFrames = b.heldFrames := by
  funext i
  simp only [heldFrames, same]

/-- The scan of the unbroken run sees the packet `i` steps ahead. -/
def Visible (b : JitterBuffer σ) (i : Nat) : Prop :=
  (b.held i).isSome ∧ b.nextPlaySeq.toNat + i < 2 ^ 32

/-- The number of packets the scan adds up. -/
structure ScanLength (b : JitterBuffer σ) (n : Nat) : Prop where
  seen : ∀ i < n, b.Visible i
  stops : ¬ b.Visible n

/-- The test of the scan, in terms of the window. -/
theorem WellFormed.scan_test {b : JitterBuffer σ} (wf : b.WellFormed)
    {i : Nat} (small : i < maxSlots) :
    ((b.slots (slotIndex (b.nextPlaySeq.toNat + i))).isValid ∧
        (b.slots (slotIndex (b.nextPlaySeq.toNat + i))).seqNum.toNat =
          b.nextPlaySeq.toNat + i) ↔
      b.Visible i := by
  rw [Visible, held_isSome_iff]
  constructor
  · rintro ⟨valid, number⟩
    refine ⟨⟨small, valid⟩, ?_⟩
    rw [← number]
    exact BitVec.isLt _
  · rintro ⟨⟨_, valid⟩, noWrap⟩
    refine ⟨valid, ?_⟩
    rw [wf.seqNum_slot small valid, BitVec.toNat_add, BitVec.toNat_ofNat,
      Nat.mod_eq_of_lt (by omega : i < 2 ^ 32), Nat.mod_eq_of_lt noWrap]

theorem eq_of_first_gap {sees : Nat → Prop} {m n : Nat} (mSeen : ∀ i < m, sees i)
    (mStops : ¬ sees m) (nSeen : ∀ i < n, sees i) (nStops : ¬ sees n) : m = n := by
  rcases Nat.lt_trichotomy m n with shorter | same | longer
  · exact absurd (nSeen m shorter) mStops
  · exact same
  · exact absurd (mSeen n longer) nStops

/-- A scan that adds up terms to the first place that it does not see is a sum. -/
theorem exists_sum_of_scan {size : Nat} {sees : Nat → Prop} {term : Nat → Nat}
    {scan : (i fuel : Nat) → Nat} (ends : ¬ sees size) (empty : ∀ i, scan i 0 = 0)
    (goesOn : ∀ i fuel, i < size → sees i → scan i (fuel + 1) = term i + scan (i + 1) fuel)
    (stops : ∀ i fuel, i < size → ¬ sees i → scan i (fuel + 1) = 0) :
    ∀ fuel i, i + fuel = size → (∀ j < i, sees j) →
      ∃ n, (∀ j < n, sees j) ∧ ¬ sees n ∧ i ≤ n ∧
        scan i fuel = ∑ j ∈ Finset.Ico i n, term j := by
  intro fuel
  induction fuel with
  | zero =>
    intro i filled before
    obtain rfl : i = size := filled
    refine ⟨i, before, ends, Nat.le_refl i, ?_⟩
    rw [empty, Finset.Ico_self, Finset.sum_empty]
  | succ fuel inductionHypothesis =>
    intro i filled before
    by_cases seen : sees i
    · have upTo : ∀ j < i + 1, sees j := by
        intro j below
        rcases Nat.lt_succ_iff_lt_or_eq.1 below with earlier | rfl
        · exact before j earlier
        · exact seen
      rcases inductionHypothesis (i + 1) (by omega) upTo with ⟨n, all, last, bound, total⟩
      refine ⟨n, all, last, by omega, ?_⟩
      rw [goesOn i fuel (by omega) seen, total,
        Finset.sum_eq_sum_Ico_succ_bot (by omega : i < n)]
    · refine ⟨i, before, seen, Nat.le_refl i, ?_⟩
      rw [stops i fuel (by omega) seen, Finset.Ico_self, Finset.sum_empty]

theorem not_visible_maxSlots (b : JitterBuffer σ) : ¬ b.Visible maxSlots := by
  rintro ⟨present, -⟩
  rw [held_eq_none_of_le b (Nat.le_refl maxSlots)] at present
  exact Bool.noConfusion present

/-- A turn of the scan adds the packet that it sees. -/
theorem WellFormed.contiguousFrom_succ {b : JitterBuffer σ} (wf : b.WellFormed) {i : Nat}
    (small : i < maxSlots) (visible : b.Visible i) (fuel : Nat) :
    b.contiguousFrom i (fuel + 1) = b.heldFrames i + b.contiguousFrom (i + 1) fuel := by
  have test := (wf.scan_test small).2 visible
  rw [contiguousFrom, if_pos test, heldFrames_of_some (held_of_valid b small test.1)]
  rfl

/-- The scan of the unbroken run is a sum over the packets it sees. -/
theorem WellFormed.contiguousFrames_spec {b : JitterBuffer σ}
    (wf : b.WellFormed) :
    ∃ n, b.ScanLength n ∧
      b.contiguousFrames = ∑ i ∈ Finset.range n, b.heldFrames i := by
  have scan := @exists_sum_of_scan maxSlots b.Visible b.heldFrames b.contiguousFrom
    b.not_visible_maxSlots (fun _ => rfl)
    (fun _ fuel small visible => wf.contiguousFrom_succ small visible fuel)
    (fun _ _ small hidden => if_neg fun found => hidden ((wf.scan_test small).1 found))
  rcases scan maxSlots 0 (Nat.zero_add _) nofun with ⟨n, seen, stops, -, total⟩
  refine ⟨n, ⟨seen, stops⟩, ?_⟩
  rw [contiguousFrames, total, Nat.Ico_zero_eq_range]

theorem ScanLength.unique {b : JitterBuffer σ} {m n : Nat}
    (first : b.ScanLength m) (second : b.ScanLength n) : m = n :=
  eq_of_first_gap first.seen first.stops second.seen second.stops

theorem WellFormed.contiguousFrames_eq {b : JitterBuffer σ}
    (wf : b.WellFormed) {n : Nat} (scan : b.ScanLength n) :
    b.contiguousFrames = ∑ i ∈ Finset.range n, b.heldFrames i := by
  obtain ⟨m, other, total⟩ := wf.contiguousFrames_spec
  rw [total, other.unique scan]

theorem WellFormed.availableFrames_eq {b : JitterBuffer σ}
    (wf : b.WellFormed) :
    b.availableFramesUnlocked = b.contiguousFrames - b.slotFrameOffset :=
  if_pos wf.offset_le_contiguousFrames

/-- The unbroken run at the playhead contains the numbers `2 ^ 32 - 1` and
`0`. -/
def CrossesWrap (b : JitterBuffer σ) : Prop :=
  ∃ i, 1 ≤ i ∧ b.nextPlaySeq.toNat + i = 2 ^ 32 ∧
    ∀ j ≤ i, (b.held j).isSome

/-- Away from the wrap the scan stops at the first hole. -/
theorem ScanLength.held_eq_none {b : JitterBuffer σ} {n : Nat}
    (scan : b.ScanLength n) (noCross : ¬ b.CrossesWrap) : b.held n = none := by
  by_contra present
  rw [← ne_eq, Option.ne_none_iff_isSome] at present
  have wrapped : 2 ^ 32 ≤ b.nextPlaySeq.toNat + n := by
    by_contra below
    exact scan.stops ⟨present, by omega⟩
  have base := b.nextPlaySeq.isLt
  have reached : b.nextPlaySeq.toNat + n = 2 ^ 32 := by
    have before := (scan.seen (n - 1) (by omega)).2
    omega
  refine noCross ⟨n, by omega, reached, fun j upTo => ?_⟩
  by_cases last : j = n
  · subst j
    exact present
  · exact (scan.seen j (by omega)).1

/-- On the wrap the scan stops before the run does. -/
theorem ScanLength.of_crossesWrap {b : JitterBuffer σ} {n : Nat}
    (scan : b.ScanLength n) (cross : b.CrossesWrap) :
    b.nextPlaySeq.toNat + n = 2 ^ 32 ∧ (b.held n).isSome := by
  obtain ⟨i, _, reached, run⟩ := cross
  have same : i = n := by
    refine ScanLength.unique ⟨fun j before => ?_, fun visible => ?_⟩ scan
    · exact ⟨run j (by omega), by omega⟩
    · exact absurd visible.2 (by omega)
  subst i
  exact ⟨reached, run n (Nat.le_refl n)⟩

theorem ScanLength.crossesWrap_of {b : JitterBuffer σ} {n : Nat}
    (scan : b.ScanLength n) (present : (b.held n).isSome) : b.CrossesWrap := by
  by_contra noCross
  simp [scan.held_eq_none noCross] at present

/-! ## All slots -/

/-- The sum over all slots is the sum over the window. -/
theorem totalValidFrames_eq (b : JitterBuffer σ) :
    b.totalValidFrames = ∑ i ∈ Finset.range maxSlots, b.heldFrames i := by
  let place : Fin maxSlots → Fin maxSlots := fun i =>
    slotIndex (b.nextPlaySeq.toNat + i.val)
  have injective : Function.Injective place := fun i j same =>
    Fin.ext (slotIndex_injective i.isLt j.isLt same)
  have bijective : Function.Bijective place :=
    Finite.injective_iff_bijective.1 injective
  rw [totalValidFrames, Finset.sum_range, ← bijective.sum_comp]
  refine Finset.sum_congr rfl fun i _ => ?_
  cases valid : (b.slots (place i)).isValid with
  | true => rw [heldFrames_of_some (held_of_valid b i.isLt valid)]; rfl
  | false => rw [heldFrames_of_none (held_of_not_valid b valid)]; rfl

/-- The slot of a number and the other slots. -/
theorem totalValidFrames_eq_add (b : JitterBuffer σ) (i : Fin maxSlots) :
    b.totalValidFrames =
      (if (b.slots i).isValid then (b.slots i).numFrames else 0) +
        ∑ j ∈ Finset.univ.erase i, if (b.slots j).isValid then (b.slots j).numFrames else 0 :=
  (Finset.add_sum_erase Finset.univ _ (Finset.mem_univ i)).symm

/-- A packet in a free slot adds its frames. -/
theorem totalValidFrames_storePacket {b : JitterBuffer σ} {seqNum : SeqNum}
    (free : (b.slots (slotIndex seqNum.toNat)).isValid = false) (timestampUs : Clock)
    (pcmData : Nat → σ) (numFrames : Nat) :
    (b.storePacket seqNum timestampUs pcmData numFrames).totalValidFrames =
      b.totalValidFrames + numFrames := by
  have here :
      ((b.storePacket seqNum timestampUs pcmData numFrames).slots
        (slotIndex seqNum.toNat)).isValid = true ∧
      ((b.storePacket seqNum timestampUs pcmData numFrames).slots
        (slotIndex seqNum.toNat)).numFrames = numFrames := by
    simp only [storePacket, Function.update_self, and_self]
  have others : ∀ j ∈ Finset.univ.erase (slotIndex seqNum.toNat),
      (b.storePacket seqNum timestampUs pcmData numFrames).slots j = b.slots j := by
    intro j other
    exact Function.update_of_ne (Finset.ne_of_mem_erase other) _ _
  rw [totalValidFrames_eq_add _ (slotIndex seqNum.toNat),
    totalValidFrames_eq_add b (slotIndex seqNum.toNat), if_pos here.1, here.2,
    if_neg (Bool.eq_false_iff.1 free), Nat.zero_add, Nat.add_comm]
  apply congrArg (· + numFrames)
  apply Finset.sum_congr rfl
  intro j other
  rw [others j other]

end AudioRouter.JitterBuffer
