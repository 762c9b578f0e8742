import Mathlib.Algebra.Group.Nat.Defs
import Mathlib.Algebra.Order.Floor.Div
import Mathlib.Order.Bounds.Basic

/-!
# Arithmetic of a fixed width

Unsigned arithmetic is read in two modes.  The wrapping mode is the machine's; the
checked mode gives up as soon as a value leaves its width.  A computation that gives
one result in both modes has met no overflow and lost nothing in a narrowing cast.

The second half is about rounding in such computations: aligning down to a multiple
and dividing with rounding up.
-/

namespace AudioRouter.FixedWidth

inductive Mode where
  | wrapping
  | checked
  deriving DecidableEq, Repr

namespace Mode

/-- The value in a register of `width` bits. -/
def fit (mode : Mode) (width value : Nat) : Option Nat :=
  match mode with
  | wrapping => some (value % 2 ^ width)
  | checked => if value < 2 ^ width then some value else none

/-- The difference of two values in registers of `width` bits. -/
def sub (mode : Mode) (width left right : Nat) : Option Nat :=
  match mode with
  | wrapping => some ((left + 2 ^ width - right) % 2 ^ width)
  | checked => if right ≤ left then some (left - right) else none

/-- A quotient, undefined for the divisor 0 in either mode. -/
def div (_mode : Mode) (left right : Nat) : Option Nat :=
  if right = 0 then none else some (left / right)

variable {mode : Mode} {width value left right bound : Nat}

/-- Below a bound that the width has room for, a value is kept. -/
theorem fit_of_le (small : value ≤ bound) (room : bound < 2 ^ width) :
    mode.fit width value = some value := by
  have fits : value < 2 ^ width := Nat.lt_of_le_of_lt small room
  cases mode with
  | wrapping => rw [fit, Nat.mod_eq_of_lt fits]
  | checked => rw [fit, if_pos fits]

theorem sub_of_le (ordered : right ≤ left) (small : left ≤ bound)
    (room : bound < 2 ^ width) : mode.sub width left right = some (left - right) := by
  cases mode with
  | wrapping =>
      have shifted : left + 2 ^ width - right = left - right + 2 ^ width := by omega
      have fits : left - right < 2 ^ width := by omega
      rw [sub, shifted, Nat.add_mod_right, Nat.mod_eq_of_lt fits]
  | checked => rw [sub, if_pos ordered]

theorem div_of_pos (positive : 0 < right) : mode.div left right = some (left / right) := by
  rw [div, if_neg (Nat.pos_iff_ne_zero.1 positive)]

end Mode

/-! ## Doubling -/

/-- Doubling never brings a factor of half the width close to the end of the range: up to
half of the width the product is small, and from there on it is a multiple of the factor's
whole range. -/
theorem mul_two_pow_mod_add_lt {half factor : Nat} (small : factor < 2 ^ half)
    (doublings : Nat) :
    factor * 2 ^ (doublings + 1) % 2 ^ (2 * half) + factor < 2 ^ (2 * half) := by
  have square : 2 ^ (2 * half) = 2 ^ half * 2 ^ half := by rw [Nat.two_mul, Nat.pow_add]
  rw [square]
  by_cases few : doublings + 1 < half
  · have bounded : 2 ^ (doublings + 1) * 2 ≤ 2 ^ half := by
      rw [← Nat.pow_succ]
      exact Nat.pow_le_pow_right Nat.two_pos few
    have product : factor * 2 ^ (doublings + 1) * 2 ≤ factor * 2 ^ half := by
      rw [Nat.mul_assoc]
      exact Nat.mul_le_mul_left factor bounded
    have bound : factor * 2 ^ half + 2 ^ half ≤ 2 ^ half * 2 ^ half := by
      rw [← Nat.succ_mul]
      exact Nat.mul_le_mul_right _ small
    have reduced := Nat.mod_le (factor * 2 ^ (doublings + 1)) (2 ^ half * 2 ^ half)
    have self : factor ≤ factor * 2 ^ half := Nat.le_mul_of_pos_right _ (Nat.two_pow_pos half)
    omega
  · have whole : 2 ^ (doublings + 1) = 2 ^ half * 2 ^ (doublings + 1 - half) := by
      rw [← Nat.pow_add]
      congr 1
      omega
    have multiple : factor * 2 ^ (doublings + 1) =
        2 ^ half * (factor * 2 ^ (doublings + 1 - half)) := by
      rw [whole, Nat.mul_left_comm]
    have below := Nat.mod_lt (factor * 2 ^ (doublings + 1 - half)) (Nat.two_pow_pos half)
    have bound := Nat.mul_le_mul_left (2 ^ half) (Nat.succ_le_of_lt below)
    rw [multiple, Nat.mul_mod_mul_left]
    rw [Nat.mul_succ] at bound
    omega

/-! ## Rounding -/

section Rounding

variable {unit value : Nat}

/-- Taking the remainder away rounds down to a multiple. -/
theorem isGreatest_align (positive : 0 < unit) :
    IsGreatest {multiple | unit ∣ multiple ∧ multiple ≤ value} (value - value % unit) := by
  have aligned : value - value % unit = unit * (value / unit) := by
    have whole := Nat.div_add_mod value unit
    omega
  constructor
  · exact ⟨aligned ▸ Nat.dvd_mul_right unit _, Nat.sub_le _ _⟩
  · rintro _ ⟨⟨count, rfl⟩, bounded⟩
    rw [aligned]
    apply Nat.mul_le_mul_left
    rw [Nat.le_div_iff_mul_le positive, Nat.mul_comm]
    exact bounded

/-- Aligning commutes with the maximum with an aligned number. -/
theorem align_max {base : Nat} (positive : 0 < unit) (aligned : unit ∣ base) :
    max value base - max value base % unit = max (value - value % unit) base := by
  by_cases below : value ≤ base
  · have still : value - value % unit ≤ base := Nat.le_trans (Nat.sub_le _ _) below
    rw [max_eq_right below, max_eq_right still, Nat.mod_eq_zero_of_dvd aligned, Nat.sub_zero]
  · have kept : base ≤ value - value % unit :=
      (isGreatest_align positive).2 ⟨aligned, Nat.le_of_not_le below⟩
    rw [max_eq_left (Nat.le_of_not_le below), max_eq_left kept]

/-- Adding the divisor less one before a division rounds up. -/
theorem isLeast_div_round_up (positive : 0 < unit) :
    IsLeast {count | value ≤ unit * count} ((value + unit - 1) / unit) := by
  have rounded : (value + unit - 1) / unit = value ⌈/⌉ unit :=
    (Nat.ceilDiv_eq_add_pred_div value unit).symm
  have least (count : Nat) : value ⌈/⌉ unit ≤ count ↔ value ≤ unit * count :=
    ceilDiv_le_iff_le_mul positive
  rw [rounded]
  constructor
  · exact (least _).1 (Nat.le_refl _)
  · intro count enough
    exact (least count).2 enough

end Rounding

end AudioRouter.FixedWidth
