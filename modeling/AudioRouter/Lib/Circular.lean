import Mathlib.Data.List.Rotate

/-!
# Windows of a circular list

A list stands for a ring of cells.  A window of the ring may run over the end of the
list, where it is copied in two chunks.
-/

namespace AudioRouter.Circular

variable {α : Type}

/-- `n` cells of the ring, from `start` on. -/
def window (l : List α) (start n : Nat) : List α :=
  (l.rotate start).take n

/-- The cells from `start` on are overwritten; the end of the list is not crossed. -/
def patch (l : List α) (start : Nat) (xs : List α) : List α :=
  l.take start ++ xs ++ l.drop (start + xs.length)

/-- The cells of the ring from `start` on are overwritten, in two chunks. -/
def store (l : List α) (start : Nat) (xs : List α) : List α :=
  patch (patch l start (xs.take (l.length - start))) 0 (xs.drop (l.length - start))

/-! ## Single copies -/

@[simp]
theorem patch_nil (l : List α) (start : Nat) : patch l start [] = l := by
  simp [patch]

theorem length_patch {l xs : List α} {start : Nat} (inside : start + xs.length ≤ l.length) :
    (patch l start xs).length = l.length := by
  simp only [patch, List.length_append, List.length_take, List.length_drop]
  omega

theorem patch_zero (l xs : List α) : patch l 0 xs = xs ++ l.drop xs.length := by
  simp [patch]

theorem length_window {l : List α} {start n : Nat} (fits : n ≤ l.length) :
    (window l start n).length = n := by
  rw [window, List.length_take, List.length_rotate]
  exact Nat.min_eq_left fits

/-- A window that reaches the end of the list is read in two chunks. -/
theorem window_eq_chunks {l : List α} {start : Nat} (begins : start ≤ l.length) (n : Nat) :
    window l start n =
      (l.drop start).take (min n (l.length - start)) ++
        (l.take start).take (n - min n (l.length - start)) := by
  rw [window, List.rotate_eq_drop_append_take begins, List.take_append, List.length_drop]
  congr 1
  · rw [← List.length_drop, ← List.take_take, List.take_length]
  · congr 1
    omega

/-! ## Stores -/

theorem length_store {l xs : List α} {start : Nat} (begins : start ≤ l.length)
    (fits : xs.length ≤ l.length) : (store l start xs).length = l.length := by
  have first :
      (patch l start (xs.take (l.length - start))).length = l.length := by
    apply length_patch
    rw [List.length_take]
    omega
  rw [store, length_patch, first]
  rw [first, List.length_drop]
  omega

/-- A store that does not cross the end of the list is one copy. -/
theorem store_of_fits {l xs : List α} {start : Nat} (once : xs.length ≤ l.length - start) :
    store l start xs = patch l start xs := by
  rw [store, List.take_of_length_le once, List.drop_of_length_le once, patch_nil]

theorem store_of_wraps {l xs : List α} {start : Nat} (begins : start ≤ l.length)
    (wraps : l.length - start ≤ xs.length) (fits : xs.length ≤ l.length) :
    store l start xs =
      (xs.drop (l.length - start) ++
          (l.take start).drop (xs.length - (l.length - start))) ++
        xs.take (l.length - start) := by
  have first : (xs.take (l.length - start)).length = l.length - start :=
    List.length_take_of_le wraps
  have patched :
      patch l start (xs.take (l.length - start)) =
        l.take start ++ xs.take (l.length - start) := by
    rw [patch, first, List.drop_of_length_le (by omega), List.append_nil]
  have room : xs.length - (l.length - start) ≤ (l.take start).length := by
    rw [List.length_take_of_le begins]
    omega
  rw [store, patched, patch_zero, List.length_drop, List.drop_append_of_le_length room,
    List.append_assoc]

/-- Seen from where it began, a store replaces the first cells. -/
theorem rotate_store {l xs : List α} {start : Nat} (begins : start ≤ l.length)
    (fits : xs.length ≤ l.length) :
    (store l start xs).rotate start = xs ++ (l.rotate start).drop xs.length := by
  have whole : start ≤ (store l start xs).length := by
    rwa [length_store begins fits]
  have here : (l.take start).length = start := List.length_take_of_le begins
  rw [List.rotate_eq_drop_append_take whole, List.rotate_eq_drop_append_take begins]
  rcases Nat.le_total xs.length (l.length - start) with once | wraps
  · rw [store_of_fits once, patch, List.append_assoc, List.drop_left' here,
      List.take_left' here, List.append_assoc,
      List.drop_append_of_le_length (by rwa [List.length_drop]), List.drop_drop]
  · have there :
        (xs.drop (l.length - start) ++
          (l.take start).drop (xs.length - (l.length - start))).length = start := by
      rw [List.length_append, List.length_drop, List.length_drop, here]
      omega
    have past : (l.drop start).length ≤ xs.length := by
      rwa [List.length_drop]
    rw [store_of_wraps begins wraps fits, List.drop_left' there, List.take_left' there,
      ← List.append_assoc, List.take_append_drop, List.drop_append,
      List.drop_of_length_le past, List.nil_append, List.length_drop]

/-! ## Queues -/

/-- A store behind a window extends the window. -/
theorem window_store {l xs : List α} {tail count : Nat} (cells : 0 < l.length)
    (fits : count + xs.length ≤ l.length) :
    window (store l ((tail + count) % l.length) xs) tail (count + xs.length) =
      window l tail count ++ xs := by
  have begins : (tail + count) % l.length ≤ l.length := (Nat.mod_lt _ cells).le
  have length : (store l ((tail + count) % l.length) xs).length = l.length :=
    length_store begins (by omega)
  -- Both rings are cut open at `tail`, and the law of the store is read there.
  generalize old : l.rotate tail = before
  generalize new : (store l ((tail + count) % l.length) xs).rotate tail = after
  have oldLength : before.length = l.length := by rw [← old, List.length_rotate]
  have newLength : after.length = l.length := by rw [← new, List.length_rotate, length]
  have law : after.rotate count = xs ++ (before.rotate count).drop xs.length := by
    rw [← old, ← new, List.rotate_rotate, List.rotate_rotate, ← List.rotate_mod l,
      ← rotate_store begins (by omega), ← List.rotate_mod, length]
  rw [List.rotate_eq_drop_append_take (by omega), List.rotate_eq_drop_append_take (by omega),
    List.drop_append_of_le_length (by rw [List.length_drop]; omega), ← List.append_assoc]
    at law
  have cut := List.append_inj law (by simp; omega)
  rw [window, window, old, new, List.take_add, cut.1, cut.2, List.take_left]

/-- Without its first cells a window begins further on. -/
theorem window_drop {l : List α} {start n k : Nat} (taken : k ≤ n) (fits : n ≤ l.length) :
    window l ((start + k) % l.length) (n - k) = (window l start n).drop k := by
  have length : (l.rotate start).length = l.length := List.length_rotate l start
  rw [window, window, List.rotate_mod, ← List.rotate_rotate,
    List.rotate_eq_drop_append_take (by omega), List.drop_take,
    List.take_append_of_le_length (by rw [List.length_drop]; omega)]

theorem window_take {l : List α} {start n k : Nat} (taken : k ≤ n) :
    window l start k = (window l start n).take k := by
  rw [window, window, List.take_take, Nat.min_eq_left taken]

end AudioRouter.Circular
