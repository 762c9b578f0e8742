import Mathlib.Tactic.Ring
import Mathlib.Data.Nat.ModEq

/-!
# Sequence numbers in a sliding window

Numbers of width `w` wrap around.  Relative to a base `p`, a number `s` lies
`(s - p).toNat` steps ahead.  A window of at most `capacity` numbers ahead of
the base, with `capacity` a divisor of `2 ^ w`, can be kept in a ring of
`capacity` cells: the residue of a number tells where it goes, and two numbers
of the window never share a cell.
-/

namespace AudioRouter.SequenceWindow

variable {w : Nat}

/-- Steps from the base `p` forward to `s`. -/
def ahead (p s : BitVec w) : Nat := (s - p).toNat

@[simp]
theorem ahead_self (p : BitVec w) : ahead p p = 0 := by
  simp [ahead]

theorem ahead_lt (p s : BitVec w) : ahead p s < 2 ^ w :=
  (s - p).isLt

/-- Walking `ahead p s` steps from `p` reaches `s`. -/
theorem add_ahead (p s : BitVec w) : p + BitVec.ofNat w (ahead p s) = s := by
  rw [ahead, BitVec.ofNat_toNat, BitVec.setWidth_eq, BitVec.add_comm,
    BitVec.sub_add_cancel]

theorem ahead_add_ofNat (p : BitVec w) {i : Nat} (small : i < 2 ^ w) :
    ahead p (p + BitVec.ofNat w i) = i := by
  have cancel : p + BitVec.ofNat w i - p = BitVec.ofNat w i := by
    rw [BitVec.add_comm, BitVec.add_sub_cancel]
  rw [ahead, cancel, BitVec.toNat_ofNat, Nat.mod_eq_of_lt small]

/-- Adding one constant to both numbers keeps the distance. -/
@[simp]
theorem ahead_add_right (p s k : BitVec w) : ahead (p + k) (s + k) = ahead p s := by
  have cancel : s + k - (p + k) = s - p := by
    rw [BitVec.sub_eq_iff_eq_add, ← BitVec.add_assoc, BitVec.sub_add_cancel]
  rw [ahead, cancel, ahead]

theorem ahead_eq_zero_iff (p s : BitVec w) : ahead p s = 0 ↔ s = p := by
  constructor
  · intro zero
    have reached := add_ahead p s
    rw [zero] at reached
    simpa using reached.symm
  · rintro rfl
    exact ahead_self s

/-- When the base moves on by one, every other number comes one step closer. -/
theorem ahead_succ {p s : BitVec w} (different : s ≠ p) :
    ahead (p + 1) s + 1 = ahead p s := by
  have positive : 0 < ahead p s := by
    rw [Nat.pos_iff_ne_zero]
    exact fun zero => different ((ahead_eq_zero_iff p s).1 zero)
  have bound := ahead_lt p s
  have reached :
      s = p + 1 + BitVec.ofNat w (ahead p s - 1) := by
    have split : BitVec.ofNat w (ahead p s) =
        1 + BitVec.ofNat w (ahead p s - 1) := by
      rw [show ahead p s = 1 + (ahead p s - 1) by omega, BitVec.ofNat_add]
      simp
    rw [BitVec.add_assoc, ← split, add_ahead]
  have closer := ahead_add_ofNat (p + 1) (i := ahead p s - 1) (by omega)
  rw [← reached] at closer
  omega

section Ring

variable {capacity : Nat} (divides : capacity ∣ 2 ^ w)
include divides

/-- The residue of a number is the residue of its base plus its distance. -/
theorem residue_ahead (p s : BitVec w) :
    (p.toNat + ahead p s) % capacity = s.toNat % capacity := by
  have sum : (p.toNat + ahead p s) % 2 ^ w = s.toNat := by
    have reached := congrArg BitVec.toNat (add_ahead p s)
    simpa [ahead] using reached
  rw [← Nat.mod_mod_of_dvd (p.toNat + ahead p s) divides, sum]

theorem residue_add_ofNat (p : BitVec w) (i : Nat) :
    (p + BitVec.ofNat w i).toNat % capacity = (p.toNat + i) % capacity := by
  have dropMod : i % 2 ^ w % capacity = i % capacity :=
    Nat.mod_mod_of_dvd i divides
  rw [BitVec.toNat_add, BitVec.toNat_ofNat, Nat.mod_mod_of_dvd _ divides,
    Nat.add_mod, dropMod, ← Nat.add_mod]

omit divides in
/-- Two cells fewer than `capacity` steps ahead of one base are different. -/
theorem residue_injective {n i j : Nat}
    (iSmall : i < capacity) (jSmall : j < capacity)
    (same : (n + i) % capacity = (n + j) % capacity) : i = j := by
  have cancelled : i ≡ j [MOD capacity] := Nat.ModEq.add_left_cancel' n same
  exact cancelled.eq_of_lt_of_lt iSmall jSmall

end Ring

/-- The signed reading of a distance: nonnegative distances are the near half of
the circle. -/
theorem toInt_sub_nonneg_iff (p s : BitVec w) :
    0 ≤ (s - p).toInt ↔ 2 * ahead p s < 2 ^ w := by
  rw [BitVec.toInt_eq_toNat_cond, ahead]
  have bound := (s - p).isLt
  split <;> omega

theorem toInt_sub_eq_ahead {p s : BitVec w} (nonneg : 0 ≤ (s - p).toInt) :
    (s - p).toInt = ahead p s := by
  have near := (toInt_sub_nonneg_iff p s).1 nonneg
  rw [BitVec.toInt_eq_toNat_cond]
  exact if_pos near

/-- Two numbers that are counted on from one start lie as far apart as the counts do,
within half of the circle. -/
theorem toInt_sub_counts (p : BitVec w) {i j : Nat}
    (behind : -(2 ^ w : Nat) ≤ 2 * ((j : Int) - i))
    (ahead : 2 * ((j : Int) - i) < (2 ^ w : Nat)) :
    (p + BitVec.ofNat w j - (p + BitVec.ofNat w i)).toInt = (j : Int) - i := by
  have cancel : p + BitVec.ofNat w j - (p + BitVec.ofNat w i) =
      BitVec.ofNat w j - BitVec.ofNat w i := by
    rw [BitVec.sub_eq_iff_eq_add, BitVec.add_comm p (BitVec.ofNat w i), ← BitVec.add_assoc,
      BitVec.sub_add_cancel, BitVec.add_comm]
  rw [cancel, BitVec.toInt_sub, BitVec.toInt_ofNat', BitVec.toInt_ofNat', Int.sub_bmod_bmod,
    Int.bmod_sub_bmod, Int.bmod_eq_of_le_mul_two]
  all_goals omega

end AudioRouter.SequenceWindow
