import Mathlib.Algebra.Group.Nat.Defs
import Mathlib.Data.Nat.Basic
import Mathlib.Tactic.Basic

/-!
# Little-endian numbers

A number of `size` bytes, least significant byte first, and the field of such a
number at an offset of a byte buffer.
-/

namespace AudioRouter.LittleEndian

/-- The number that the bytes stand for. -/
def decode : List UInt8 → Nat
  | [] => 0
  | byte :: bytes => byte.toNat + 256 * decode bytes

/-- The lowest `size` bytes of a number. -/
def encode : (size : Nat) → Nat → List UInt8
  | 0, _ => []
  | size + 1, n => UInt8.ofNat n :: encode size (n / 256)

/-- The number of `size` bytes at an offset of a buffer. -/
def field (buffer : List UInt8) (offset size : Nat) : Nat :=
  decode ((buffer.drop offset).take size)

@[simp]
theorem length_encode (size n : Nat) : (encode size n).length = size := by
  induction size generalizing n with
  | zero => rfl
  | succ size inductionHypothesis =>
      rw [encode, List.length_cons, inductionHypothesis]

/-- Numbers that fit survive the round trip. -/
theorem decode_encode {size n : Nat} (fits : n < 256 ^ size) :
    decode (encode size n) = n := by
  induction size generalizing n with
  | zero =>
      rw [Nat.pow_zero] at fits
      rw [encode, decode]
      omega
  | succ size inductionHypothesis =>
      have rest : n / 256 < 256 ^ size := by
        rw [Nat.pow_succ] at fits
        omega
      rw [encode, decode, inductionHypothesis rest]
      have low : (UInt8.ofNat n).toNat = n % 256 := by simp
      omega

/-- Bytes are determined by their number. -/
theorem encode_decode (bytes : List UInt8) :
    encode bytes.length (decode bytes) = bytes := by
  induction bytes with
  | nil => rfl
  | cons byte bytes inductionHypothesis =>
      have small : byte.toNat < 256 := byte.toNat_lt
      have low : UInt8.ofNat (byte.toNat + 256 * decode bytes) = byte := by
        apply UInt8.toNat_inj.1
        rw [UInt8.toNat_ofNat']
        omega
      have high : (byte.toNat + 256 * decode bytes) / 256 = decode bytes := by omega
      rw [decode, List.length_cons, encode, low, high, inductionHypothesis]

/-- A number of `size` bytes is below `256 ^ size`. -/
theorem decode_lt (bytes : List UInt8) : decode bytes < 256 ^ bytes.length := by
  induction bytes with
  | nil => simp [decode]
  | cons byte bytes inductionHypothesis =>
      have small : byte.toNat < 256 := byte.toNat_lt
      rw [decode, List.length_cons, Nat.pow_succ]
      omega

theorem field_lt (buffer : List UInt8) (offset size : Nat) :
    field buffer offset size < 256 ^ size := by
  have short : ((buffer.drop offset).take size).length ≤ size := by
    rw [List.length_take]
    exact Nat.min_le_left _ _
  calc
    field buffer offset size < 256 ^ ((buffer.drop offset).take size).length :=
      decode_lt _
    _ ≤ 256 ^ size := Nat.pow_le_pow_right (by omega) short

theorem encode_field {buffer : List UInt8} {offset size : Nat}
    (inside : offset + size ≤ buffer.length) :
    encode size (field buffer offset size) = (buffer.drop offset).take size := by
  have length : ((buffer.drop offset).take size).length = size := by
    rw [List.length_take, List.length_drop]
    omega
  have bytes := encode_decode ((buffer.drop offset).take size)
  rwa [length] at bytes

/-- A field and the bytes behind it make up a longer piece of the buffer. -/
theorem encode_field_append {buffer : List UInt8} {offset size : Nat}
    (inside : offset + size ≤ buffer.length) (rest : Nat) :
    encode size (field buffer offset size) ++ (buffer.drop (offset + size)).take rest =
      (buffer.drop offset).take (size + rest) := by
  rw [encode_field inside, List.take_add, List.drop_drop]

/-- A field behind a prefix is a field of the rest. -/
theorem field_append_right {front rest : List UInt8} {offset size : Nat}
    (behind : front.length ≤ offset) :
    field (front ++ rest) offset size = field rest (offset - front.length) size := by
  rw [field, field, List.drop_append, List.drop_eq_nil_of_le behind, List.nil_append]

/-- The first field of a buffer that begins with it. -/
theorem field_encode_append {size n : Nat} (fits : n < 256 ^ size) (rest : List UInt8) :
    field (encode size n ++ rest) 0 size = n := by
  rw [field, List.drop_zero, List.take_left' (length_encode size n), decode_encode fits]

end AudioRouter.LittleEndian
