import Mathlib.Data.List.Basic

/-!
# Bounded queues

A queue of at most `capacity` items, with the operations of a stream of data: several
items go in or out at a time, and what does not fit is refused or pushes the oldest
items out.
-/

namespace AudioRouter

@[ext]
structure BoundedFifo (α : Type) where
  capacity : Nat
  items : List α
  fits : items.length ≤ capacity

namespace BoundedFifo

variable {α : Type}

def empty (capacity : Nat) : BoundedFifo α :=
  ⟨capacity, [], Nat.zero_le capacity⟩

/-- How many items there is room for. -/
def free (q : BoundedFifo α) : Nat :=
  q.capacity - q.items.length

theorem length_add_free (q : BoundedFifo α) : q.items.length + q.free = q.capacity :=
  Nat.add_sub_of_le q.fits

/-- The longest prefix that fits goes in. -/
def append (q : BoundedFifo α) (xs : List α) : BoundedFifo α :=
  ⟨q.capacity, q.items ++ xs.take q.free, by
    have room := q.length_add_free
    rw [List.length_append, List.length_take]
    omega⟩

/-- How many items `append` takes. -/
def accepted (q : BoundedFifo α) (xs : List α) : Nat :=
  (xs.take q.free).length

/-- The last `capacity` items of the queue followed by `xs` stay. -/
def appendOverwriting (q : BoundedFifo α) (xs : List α) : BoundedFifo α :=
  ⟨q.capacity, (q.items ++ xs).drop ((q.items ++ xs).length - q.capacity), by
    rw [List.length_drop]
    omega⟩

/-- All items go in, or none. -/
def appendAll (q : BoundedFifo α) (xs : List α) : Option (BoundedFifo α) :=
  if fits : q.items.length + xs.length ≤ q.capacity then
    some ⟨q.capacity, q.items ++ xs, by rwa [List.length_append]⟩
  else none

/-- The first `n` items, or all of them. -/
def front (q : BoundedFifo α) (n : Nat) : List α :=
  q.items.take n

/-- The first `n` items, or all of them, go out. -/
def dropFront (q : BoundedFifo α) (n : Nat) : BoundedFifo α :=
  ⟨q.capacity, q.items.drop n, by
    have fits := q.fits
    rw [List.length_drop]
    omega⟩

theorem accepted_eq_min (q : BoundedFifo α) (xs : List α) :
    q.accepted xs = min xs.length q.free := by
  rw [accepted, List.length_take, Nat.min_comm]

theorem append_eq (q : BoundedFifo α) (xs : List α) :
    (q.append xs).items = q.items ++ xs.take (q.accepted xs) := by
  have same : xs.take q.free = xs.take (q.accepted xs) := by
    rw [accepted_eq_min, List.take_eq_take_min, Nat.min_comm]
  exact congrArg (q.items ++ ·) same

/-- Nothing is appended where nothing is accepted. -/
theorem append_of_accepted_eq_zero {q : BoundedFifo α} {xs : List α}
    (nothing : q.accepted xs = 0) : q.append xs = q := by
  apply BoundedFifo.ext
  · rfl
  · rw [append_eq, nothing, List.take_zero, List.append_nil]

theorem appendAll_of_fits {q : BoundedFifo α} {xs : List α} (room : xs.length ≤ q.free) :
    q.appendAll xs = some (q.append xs) := by
  have whole := q.length_add_free
  rw [appendAll, dif_pos (by omega)]
  simp only [append, List.take_of_length_le room]

theorem appendAll_of_exceeds {q : BoundedFifo α} {xs : List α} (exceeds : q.free < xs.length) :
    q.appendAll xs = none := by
  have whole := q.length_add_free
  exact dif_neg (by omega)

/-- An input of the size of the queue leaves nothing of what was there. -/
theorem appendOverwriting_of_le {q : BoundedFifo α} {xs : List α}
    (large : q.capacity ≤ xs.length) :
    (q.appendOverwriting xs).items = xs.drop (xs.length - q.capacity) := by
  have past : q.items.length ≤ q.items.length + xs.length - q.capacity := by omega
  simp only [appendOverwriting]
  rw [List.length_append, List.drop_append, List.drop_of_length_le past, List.nil_append]
  congr 1
  omega

/-- A smaller input goes in behind what is left of the queue. -/
theorem appendOverwriting_of_ge {q : BoundedFifo α} {xs : List α}
    (small : xs.length ≤ q.capacity) :
    (q.appendOverwriting xs).items = q.items.drop (xs.length - q.free) ++ xs := by
  have whole := q.length_add_free
  have surplus :
      (q.items ++ xs).length - q.capacity = xs.length - q.free := by
    rw [List.length_append]
    omega
  simp only [appendOverwriting]
  rw [surplus, List.drop_append_of_le_length (by omega)]

@[simp]
theorem appendOverwriting_nil (q : BoundedFifo α) : q.appendOverwriting [] = q := by
  apply BoundedFifo.ext
  · rfl
  · rw [appendOverwriting_of_ge (Nat.zero_le _), List.length_nil, Nat.zero_sub,
      List.drop_zero, List.append_nil]

theorem front_min (q : BoundedFifo α) (n : Nat) :
    q.front (min n q.items.length) = q.front n := by
  rw [front, front, ← List.take_eq_take_min]

theorem dropFront_min (q : BoundedFifo α) (n : Nat) :
    q.dropFront (min n q.items.length) = q.dropFront n := by
  apply BoundedFifo.ext
  · rfl
  · change q.items.drop (min n q.items.length) = q.items.drop n
    rcases Nat.le_total n q.items.length with some | all
    · rw [Nat.min_eq_left some]
    · rw [Nat.min_eq_right all, List.drop_length, List.drop_of_length_le all]

@[simp]
theorem dropFront_zero (q : BoundedFifo α) : q.dropFront 0 = q := rfl

end BoundedFifo

end AudioRouter
