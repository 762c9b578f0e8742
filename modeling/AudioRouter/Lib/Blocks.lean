import Mathlib.Data.List.Basic
import Mathlib.Logic.Function.Basic

/-!
# Lists made of equal blocks

A list of frames is laid out in memory by writing each frame as a block of
`size` samples.  Offsets and lengths that are multiples of `size` cut the memory
at the boundaries of frames.
-/

namespace AudioRouter.Blocks

variable {α β : Type}

section Uniform

variable {block : α → List β} {size : Nat}
  (uniform : ∀ a, (block a).length = size)
include uniform

theorem drop_flatMap (k : Nat) (l : List α) :
    (l.flatMap block).drop (k * size) = (l.drop k).flatMap block := by
  induction l generalizing k with
  | nil => simp
  | cons a l inductionHypothesis =>
      cases k with
      | zero => simp
      | succ k =>
          have skip : (k + 1) * size = (block a).length + k * size := by
            rw [uniform, Nat.add_mul, Nat.one_mul, Nat.add_comm]
          rw [List.flatMap_cons, skip, List.drop_length_add_append,
            inductionHypothesis, List.drop_succ_cons]

theorem take_flatMap (k : Nat) (l : List α) :
    (l.flatMap block).take (k * size) = (l.take k).flatMap block := by
  induction l generalizing k with
  | nil => simp
  | cons a l inductionHypothesis =>
      cases k with
      | zero => simp
      | succ k =>
          have whole : (k + 1) * size = (block a).length + k * size := by
            rw [uniform, Nat.add_mul, Nat.one_mul, Nat.add_comm]
          rw [List.flatMap_cons, whole, List.take_length_add_append,
            inductionHypothesis, List.take_succ_cons, List.flatMap_cons]

end Uniform

/-- One block out of a memory that begins with equal ones. -/
theorem slice_flatMap {block : α → List β} {size : Nat} (rest : List β) :
    ∀ {l : List α} (k : Nat) {a : α}, (∀ b ∈ l, (block b).length = size) →
      l[k]? = some a → ((l.flatMap block ++ rest).drop (k * size)).take size = block a
  | [], k, a, _, here => by simp at here
  | b :: l, 0, a, uniform, here => by
      obtain rfl : b = a := by simpa using here
      have whole := uniform b List.mem_cons_self
      rw [Nat.zero_mul, List.drop_zero, List.flatMap_cons, List.append_assoc, ← whole,
        List.take_left]
  | b :: l, k + 1, a, uniform, here => by
      have skip : (k + 1) * size = (block b).length + k * size := by
        rw [uniform b List.mem_cons_self, Nat.add_mul, Nat.one_mul, Nat.add_comm]
      have later := slice_flatMap rest k (fun c member => uniform c (List.mem_cons_of_mem b member))
        (by simpa using here : l[k]? = some a)
      rw [List.flatMap_cons, List.append_assoc, skip, List.drop_length_add_append, later]

theorem replicate_flatMap {block : α → List β} {a : α} {b : β} {size : Nat}
    (constant : block a = List.replicate size b) (k : Nat) :
    (List.replicate k a).flatMap block = List.replicate (k * size) b := by
  rw [List.flatMap_replicate, constant, List.flatten_replicate_replicate]

/-- Reading `k` blocks of memory one after the other. -/
theorem map_range_mul (memory : Nat → β) (size k : Nat) :
    (List.range (k * size)).map memory =
      (List.range k).flatMap fun i =>
        (List.range size).map fun j => memory (i * size + j) := by
  induction k with
  | zero => simp
  | succ k inductionHypothesis =>
      rw [Nat.add_mul, Nat.one_mul, List.range_add, List.map_append,
        inductionHypothesis, List.range_succ, List.flatMap_append, List.map_map]
      simp [Function.comp_def]

/-- Filling an empty block adds its entries and nothing else. -/
theorem flatMap_update_perm {ι : Type} [DecidableEq ι] {block : ι → List β}
    {l : List ι} {k : ι} (once : l.Nodup) (present : k ∈ l)
    (empty : block k = []) (entries : List β) :
    (l.flatMap (Function.update block k entries)).Perm
      (l.flatMap block ++ entries) := by
  have front := List.perm_cons_erase present
  have others :
      (l.erase k).flatMap (Function.update block k entries) =
        (l.erase k).flatMap block := by
    refine List.flatMap_congr fun i member => ?_
    have different : i ≠ k := (once.mem_erase_iff.1 member).1
    rw [Function.update_of_ne different]
  have filled := front.flatMap_right (Function.update block k entries)
  have before := front.flatMap_right block
  rw [List.flatMap_cons, Function.update_self, others] at filled
  rw [List.flatMap_cons, empty, List.nil_append] at before
  exact filled.trans
    (List.perm_append_comm.trans (before.symm.append_right entries))

end AudioRouter.Blocks
