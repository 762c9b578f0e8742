import AudioRouter.Lib.BoundedFifo
import AudioRouter.RingBuffer.Model

/-!
# The ring buffer is a bounded queue

The contents of the buffer are the window of `count_` cells from `tail_` on.  Every
call does to the contents what the call of a bounded queue does, returns the same, and
copies inside the buffer only.
-/

namespace AudioRouter.RingBuffer

open Circular

variable {α : Type}

/-- The items from the oldest to the newest. -/
def contents (r : RingBuffer α) : List α :=
  window r.buffer r.tail r.count

structure WellFormed (r : RingBuffer α) : Prop where
  cells : r.buffer.length = r.capacity
  positive : 0 < r.capacity
  tail : r.tail < r.capacity
  count : r.count ≤ r.capacity
  head : r.head = (r.tail + r.count) % r.capacity

/-- The ring buffer stands for a bounded queue. -/
structure Represents (r : RingBuffer α) (q : BoundedFifo α) : Prop
    extends WellFormed r where
  capacity : r.capacity = q.capacity
  contents : r.contents = q.items

theorem WellFormed.head_lt {r : RingBuffer α} (wellFormed : r.WellFormed) :
    r.head < r.capacity := by
  rw [wellFormed.head]
  exact Nat.mod_lt _ wellFormed.positive

theorem WellFormed.length_contents {r : RingBuffer α} (wellFormed : r.WellFormed) :
    r.contents.length = r.count := by
  apply length_window
  rw [wellFormed.cells]
  exact wellFormed.count

section

variable {r : RingBuffer α} {q : BoundedFifo α}

theorem Represents.length_items (same : r.Represents q) : q.items.length = r.count := by
  rw [← same.contents]
  exact same.length_contents

theorem Represents.freeSlots_eq (same : r.Represents q) : r.freeSlots = q.free := by
  have count := same.count
  unfold freeSlots BoundedFifo.free
  rw [same.length_items, ← same.capacity]
  split <;> omega

/-! ## Copies -/

theorem copyToBuffer_eq {offset n : Nat} {src : List α}
    (inside : offset + n ≤ r.buffer.length) (few : n ≤ r.capacity) (enough : n ≤ src.length) :
    r.copyToBuffer offset src n =
      some { r with buffer := patch r.buffer offset (src.take n) } := by
  unfold copyToBuffer
  split
  · next nothing =>
    rw [nothing, List.take_zero, patch_nil]
  · rw [if_neg (by omega), if_pos ⟨inside, enough⟩]

theorem copyFromBuffer_eq {offset n : Nat} (inside : offset + n ≤ r.buffer.length) :
    r.copyFromBuffer offset n = some ((r.buffer.drop offset).take n) := by
  unfold copyFromBuffer
  split
  · next nothing =>
    rw [nothing, List.take_zero]
  · rfl

/-- The two chunks are a store at `head_`. -/
theorem WellFormed.copyIn_eq (wellFormed : r.WellFormed) {data : List α} {n : Nat}
    (enough : n ≤ data.length) (room : r.count + n ≤ r.capacity) :
    r.copyIn data n =
      some { r with
        buffer := store r.buffer r.head (data.take n)
        head := (r.head + n) % r.capacity
        count := r.count + n } := by
  have begins := wellFormed.head_lt
  have cells := wellFormed.cells
  have taken : (data.take n).length = n := List.length_take_of_le enough
  unfold copyIn
  dsimp only
  rcases Nat.lt_or_ge (r.capacity - r.head) n with wraps | fits
  · have once : min n (r.capacity - r.head) = r.capacity - r.head := by omega
    have first :
        (data.take n).take (r.buffer.length - r.head) =
          data.take (r.capacity - r.head) := by
      rw [List.take_take, cells, Nat.min_eq_left wraps.le]
    have rest :
        (data.take n).drop (r.buffer.length - r.head) =
          (data.drop (r.capacity - r.head)).take (n - (r.capacity - r.head)) := by
      rw [List.drop_take, cells]
    have length :
        (patch r.buffer r.head (data.take (r.capacity - r.head))).length = r.capacity := by
      rw [length_patch (by rw [List.length_take]; omega), cells]
    have wrapped : (r.head + n) % r.capacity = n - (r.capacity - r.head) := by
      rw [Nat.mod_eq_sub_mod (by omega), Nat.mod_eq_of_lt (by omega)]
      omega
    rw [once, copyToBuffer_eq (by omega) (by omega) (by omega), Option.bind_some,
      if_pos (by omega), copyToBuffer_eq _ _ _, store, first, rest, wrapped]
    · rfl
    · simp only [length]
      omega
    · simp only
      omega
    · rw [List.length_drop]
      omega
  · have stored : store r.buffer r.head (data.take n) = patch r.buffer r.head (data.take n) :=
      store_of_fits (by omega)
    rw [Nat.min_eq_left fits, Nat.sub_self, copyToBuffer_eq (by omega) (by omega) enough,
      Option.bind_some, if_neg (Nat.lt_irrefl 0), stored]

/-- The two chunks are a prefix of the contents. -/
theorem WellFormed.copyOut_eq (wellFormed : r.WellFormed) {n : Nat} (stored : n ≤ r.count) :
    r.copyOut n = some (r.contents.take n) := by
  have begins := wellFormed.tail
  have cells := wellFormed.cells
  have count := wellFormed.count
  have chunks :
      r.contents.take n =
        (r.buffer.drop r.tail).take (min n (r.capacity - r.tail)) ++
          (r.buffer.take r.tail).take (n - min n (r.capacity - r.tail)) := by
    rw [contents, ← window_take stored, window_eq_chunks (by omega), cells]
  unfold copyOut
  dsimp only
  rw [copyFromBuffer_eq (by omega), Option.bind_some, chunks]
  split
  · have short :
        min (n - min n (r.capacity - r.tail)) r.tail = n - min n (r.capacity - r.tail) := by
      omega
    rw [copyFromBuffer_eq (by omega), Option.map_some, List.drop_zero, List.take_take, short]
  · next fits =>
    rw [Nat.eq_zero_of_not_pos fits, List.take_zero, List.append_nil]

/-! ## Moving the ends -/

/-- Items that are copied behind the contents are appended to the queue. -/
theorem Represents.copyIn (same : r.Represents q) {data : List α} {n : Nat}
    (enough : n ≤ data.length) (room : r.count + n ≤ r.capacity) (p : BoundedFifo α)
    (capacity : p.capacity = q.capacity) (items : p.items = q.items ++ data.take n) :
    ∃ s, r.copyIn data n = some s ∧ s.Represents p := by
  refine ⟨_, same.copyIn_eq enough room, ?_⟩
  have cells := same.cells
  have taken : (data.take n).length = n := List.length_take_of_le enough
  have length : (store r.buffer r.head (data.take n)).length = r.buffer.length :=
    length_store (by rw [cells]; exact same.head_lt.le) (by omega)
  constructor
  · constructor
    · exact length.trans cells
    · exact same.positive
    · exact same.tail
    · exact room
    · simp only [same.head, Nat.mod_add_mod, Nat.add_assoc]
  · exact same.capacity.trans capacity.symm
  · have extended :
        window (store r.buffer ((r.tail + r.count) % r.buffer.length) (data.take n)) r.tail
            (r.count + (data.take n).length) =
          window r.buffer r.tail r.count ++ data.take n :=
      window_store (by rw [cells]; exact same.positive) (by omega)
    rw [cells, ← same.head, taken] at extended
    rw [items, ← same.contents]
    exact extended

/-- Where `tail_` moves on, the oldest items leave the queue. -/
theorem Represents.dropFront (same : r.Represents q) {k : Nat} (stored : k ≤ r.count) :
    { r with tail := (r.tail + k) % r.capacity, count := r.count - k }.Represents
      (q.dropFront k) := by
  have cells := same.cells
  have count := same.count
  constructor
  · constructor
    · exact cells
    · exact same.positive
    · exact Nat.mod_lt _ same.positive
    · exact (Nat.sub_le r.count k).trans count
    · simp only [same.head, Nat.mod_add_mod]
      congr 1
      omega
  · exact same.capacity
  · have shorter :
        window r.buffer ((r.tail + k) % r.buffer.length) (r.count - k) =
          (window r.buffer r.tail r.count).drop k :=
      window_drop stored (by omega)
    rw [cells] at shorter
    exact shorter.trans (congrArg (List.drop k) same.contents)

/-! ## The calls -/

theorem Represents.write (same : r.Represents q) (data : Option (List α)) :
    ∃ s, r.write data = some (s, q.accepted (data.getD [])) ∧
      s.Represents (q.append (data.getD [])) := by
  have nothing (xs : List α) (none : q.accepted xs = 0) :
      some (r, 0) = some (r, q.accepted xs) ∧ r.Represents (q.append xs) := by
    rw [BoundedFifo.append_of_accepted_eq_zero none, none]
    exact ⟨rfl, same⟩
  have positive := same.positive
  have free := q.length_add_free
  cases data with
  | none => exact ⟨r, nothing [] (by simp [BoundedFifo.accepted])⟩
  | some data =>
    have accepted : min data.length r.freeSlots = q.accepted data := by
      rw [same.freeSlots_eq, BoundedFifo.accepted_eq_min]
    have least := BoundedFifo.accepted_eq_min q data
    simp only [RingBuffer.write, Option.getD_some, accepted]
    split
    · exact ⟨r, nothing data (by omega)⟩
    · rw [if_neg (by omega)]
      split
      · next zero => exact ⟨r, nothing data zero⟩
      · have room : r.count + q.accepted data ≤ r.capacity := by
          rw [← same.length_items, same.capacity]
          omega
        obtain ⟨s, copied, represents⟩ :=
          same.copyIn (by omega) room (q.append data) rfl (BoundedFifo.append_eq q data)
        exact ⟨s, by rw [copied, Option.map_some], represents⟩

theorem Represents.tryWrite (same : r.Represents q) (src : List α) :
    ∃ s,
      r.tryWrite src =
          some (s,
            if (q.appendAll src).isSome then .ok src.length
            else .error "RingBuffer full — not enough free space") ∧
        s.Represents ((q.appendAll src).getD q) := by
  have free := q.length_add_free
  simp only [RingBuffer.tryWrite, same.freeSlots_eq]
  split
  · next empty =>
    have unchanged : q.append src = q := by
      apply BoundedFifo.append_of_accepted_eq_zero
      rw [BoundedFifo.accepted_eq_min, empty, Nat.zero_min]
    rw [BoundedFifo.appendAll_of_fits (by omega), unchanged]
    exact ⟨r, by simp [empty], same⟩
  · split
    · next exceeds =>
      rw [BoundedFifo.appendAll_of_exceeds exceeds]
      exact ⟨r, rfl, same⟩
    · next fits =>
      have all : q.accepted src = src.length := by
        rw [BoundedFifo.accepted_eq_min]
        omega
      have room : r.count + src.length ≤ r.capacity := by
        rw [← same.length_items, same.capacity]
        omega
      have appended : (q.append src).items = q.items ++ src.take src.length := by
        rw [BoundedFifo.append_eq, all]
      obtain ⟨s, copied, represents⟩ :=
        same.copyIn le_rfl room (q.append src) rfl appended
      rw [BoundedFifo.appendAll_of_fits (by omega), copied]
      exact ⟨s, rfl, represents⟩

/-- An input that fills the buffer is copied to its begin. -/
theorem Represents.overwriteAll (same : r.Represents q) {data : List α}
    (large : r.capacity ≤ data.length) :
    ∃ s,
      r.copyToBuffer 0 (data.drop (data.length - r.capacity)) r.capacity = some s ∧
        s.capacity = r.capacity ∧
          { s with head := 0, tail := 0, count := s.capacity }.Represents
            (q.appendOverwriting data) := by
  have cells := same.cells
  have last : (data.drop (data.length - r.capacity)).length = r.capacity := by
    rw [List.length_drop]
    omega
  have patched :
      patch r.buffer 0 ((data.drop (data.length - r.capacity)).take r.capacity) =
        data.drop (data.length - r.capacity) := by
    have past : r.buffer.length ≤ (data.drop (data.length - r.capacity)).length := by omega
    rw [patch_zero, List.take_of_length_le last.le, List.drop_of_length_le past,
      List.append_nil]
  refine ⟨_, copyToBuffer_eq (by omega) le_rfl last.ge, rfl, ?_⟩
  rw [patched]
  constructor
  · constructor
    · exact last
    · exact same.positive
    · exact same.positive
    · exact le_rfl
    · simp
  · exact same.capacity
  · rw [BoundedFifo.appendOverwriting_of_le (by rwa [← same.capacity]), ← same.capacity]
    unfold RingBuffer.contents window
    rw [List.rotate_zero]
    exact List.take_of_length_le last.le

theorem Represents.writeOverwrite (same : r.Represents q) (data : Option (List α)) :
    ∃ s,
      r.writeOverwrite data = some (s, min (data.getD []).length q.capacity) ∧
        s.Represents (q.appendOverwriting (data.getD [])) := by
  have nothing : r.Represents (q.appendOverwriting []) := by
    rwa [BoundedFifo.appendOverwriting_nil]
  have positive := same.positive
  have free := q.length_add_free
  have capacity := same.capacity
  cases data with
  | none => exact ⟨r, by simp [RingBuffer.writeOverwrite], nothing⟩
  | some data =>
    simp only [RingBuffer.writeOverwrite, Option.getD_some, same.freeSlots_eq]
    split
    · next empty =>
      rw [List.eq_nil_of_length_eq_zero empty]
      exact ⟨r, by simp, nothing⟩
    · rw [if_neg (by omega)]
      split
      · next large =>
        obtain ⟨s, copied, kept, represents⟩ := same.overwriteAll large
        rw [copied, Nat.min_eq_right (by omega), ← capacity, ← kept]
        exact ⟨_, rfl, represents⟩
      · next small =>
        -- The oldest items make room, and then the input fits.
        have dropped :
            (if data.length > q.free then
                { r with
                  tail := (r.tail + (data.length - q.free)) % r.capacity
                  count := r.count - (data.length - q.free) }
              else r).Represents (q.dropFront (data.length - q.free)) := by
          split
          · apply same.dropFront
            rw [← same.length_items]
            omega
          · rw [Nat.sub_eq_zero_of_le (by omega), BoundedFifo.dropFront_zero]
            exact same
        generalize (if data.length > q.free then _ else r) = moved at dropped ⊢
        have fits : moved.count + data.length ≤ moved.capacity := by
          have whole : moved.capacity = q.capacity := dropped.capacity
          have left : q.items.length - (data.length - q.free) = moved.count := by
            rw [← dropped.length_items, ← List.length_drop]
            rfl
          omega
        have appended :
            (q.appendOverwriting data).items =
              (q.dropFront (data.length - q.free)).items ++ data.take data.length := by
          rw [BoundedFifo.appendOverwriting_of_ge (by omega), List.take_length]
          rfl
        obtain ⟨s, copied, represents⟩ :=
          dropped.copyIn le_rfl fits (q.appendOverwriting data) rfl appended
        rw [copied, Nat.min_eq_left (by omega)]
        exact ⟨s, rfl, represents⟩

/-- How many items a call asks for. -/
def wanted (hasDest : Bool) (count : Nat) : Nat :=
  if hasDest then count else 0

theorem wanted_eq_zero {hasDest : Bool} {count : Nat} (idle : !hasDest ∨ count = 0) :
    wanted hasDest count = 0 := by
  unfold wanted
  cases hasDest with
  | false => rfl
  | true => simpa using idle

theorem wanted_eq {hasDest : Bool} {count : Nat} (busy : ¬ (!hasDest ∨ count = 0)) :
    wanted hasDest count = count := by
  unfold wanted
  cases hasDest with
  | false => simp at busy
  | true => rfl

/-- The prefix that `read` and `peek` copy. -/
theorem Represents.copyOut (same : r.Represents q) (count : Nat) :
    r.copyOut (min count r.count) = some (q.front count) := by
  rw [same.copyOut_eq (Nat.min_le_right _ _), same.contents, ← same.length_items]
  exact congrArg some (q.front_min count)

/-- `tail_` behind the two chunks of `read`. -/
theorem WellFormed.tail_after (wellFormed : r.WellFormed) {n : Nat} (stored : n ≤ r.count) :
    (if n - min n (r.capacity - r.tail) > 0 then n - min n (r.capacity - r.tail)
      else (r.tail + min n (r.capacity - r.tail)) % r.capacity) =
      (r.tail + n) % r.capacity := by
  have begins := wellFormed.tail
  have count := wellFormed.count
  split
  · rw [Nat.mod_eq_sub_mod (by omega), Nat.mod_eq_of_lt (by omega)]
    omega
  · congr 2
    omega

theorem Represents.read (same : r.Represents q) (hasDest : Bool) (count : Nat) :
    ∃ s, r.read hasDest count = some (s, q.front (wanted hasDest count)) ∧
      s.Represents (q.dropFront (wanted hasDest count)) := by
  unfold RingBuffer.read
  split
  · next idle =>
    rw [wanted_eq_zero idle]
    exact ⟨r, rfl, same⟩
  · next busy =>
    rw [wanted_eq busy, ← q.dropFront_min, same.length_items]
    split
    · next empty =>
      have none : q.items = [] := List.eq_nil_of_length_eq_zero (same.length_items.trans empty)
      rw [empty, Nat.min_zero, BoundedFifo.front, none, List.take_nil]
      exact ⟨r, rfl, same⟩
    · have stored : min count r.count ≤ r.count := Nat.min_le_right _ _
      dsimp only
      rw [same.copyOut, Option.map_some, same.tail_after stored]
      exact ⟨_, rfl, same.dropFront stored⟩

theorem Represents.readPadSilence (same : r.Represents q) (hasDest : Bool) (count : Nat)
    (silence : α) :
    ∃ s,
      r.readPadSilence hasDest count silence =
          some (s, (q.front (wanted hasDest count)).length,
            q.front (wanted hasDest count) ++
              List.replicate
                (wanted hasDest count - (q.front (wanted hasDest count)).length) silence) ∧
        s.Represents (q.dropFront (wanted hasDest count)) := by
  unfold RingBuffer.readPadSilence
  split
  · next idle =>
    rw [wanted_eq_zero idle]
    exact ⟨r, rfl, same⟩
  · next busy =>
    obtain ⟨s, copied, represents⟩ := same.read hasDest count
    refine ⟨s, ?_, represents⟩
    rw [copied, Option.map_some, wanted_eq busy]
    dsimp only
    split
    · rfl
    · next whole =>
      rw [Nat.sub_eq_zero_of_le (by omega), List.replicate_zero, List.append_nil]

theorem Represents.peek (same : r.Represents q) (hasDest : Bool) (count : Nat) :
    r.peek hasDest count = some (q.front (wanted hasDest count)) := by
  unfold RingBuffer.peek
  split
  · next idle =>
    rw [wanted_eq_zero idle]
    rfl
  · next busy =>
    rw [wanted_eq busy]
    split
    · next empty =>
      have none : q.items = [] := List.eq_nil_of_length_eq_zero (same.length_items.trans empty)
      rw [BoundedFifo.front, none, List.take_nil]
    · exact same.copyOut count

theorem Represents.skip (same : r.Represents q) (count : Nat) :
    (r.skip count).2 = (q.front count).length ∧
      (r.skip count).1.Represents (q.dropFront count) := by
  have positive := same.positive
  constructor
  · rw [BoundedFifo.front, List.length_take, same.length_items]
    rfl
  · rw [← q.dropFront_min, same.length_items]
    unfold RingBuffer.skip
    rw [if_pos (by omega)]
    exact same.dropFront (Nat.min_le_right _ _)

theorem represents_empty {r : RingBuffer α} (cells : r.buffer.length = r.capacity)
    (positive : 0 < r.capacity) :
    { r with head := 0, tail := 0, count := 0 }.Represents (BoundedFifo.empty r.capacity) := by
  constructor
  · constructor
    · exact cells
    · exact positive
    · exact positive
    · exact Nat.zero_le _
    · simp
  · rfl
  · rw [RingBuffer.contents, window, List.take_zero]
    rfl

theorem Represents.clear (same : r.Represents q) :
    r.clear.Represents (BoundedFifo.empty q.capacity) := by
  rw [← same.capacity]
  exact represents_empty same.cells same.positive

end

/-! ## The queue behind the calls -/

/-- What a call does to a bounded queue.  A null pointer stands for no items. -/
def fifoCall (q : BoundedFifo α) : Call α → BoundedFifo α × Reply α
  | .write data => (q.append (data.getD []), .written (q.accepted (data.getD [])))
  | .writeOverwrite data =>
      (q.appendOverwriting (data.getD []), .written (min (data.getD []).length q.capacity))
  | .tryWrite src =>
      ((q.appendAll src).getD q,
        .tried
          (if (q.appendAll src).isSome then .ok src.length
          else .error "RingBuffer full — not enough free space"))
  | .read hasDest count =>
      let items := q.front (wanted hasDest count)
      (q.dropFront (wanted hasDest count), .read items.length items)
  | .readPadSilence hasDest count silence =>
      let items := q.front (wanted hasDest count)
      (q.dropFront (wanted hasDest count),
        .read items.length
          (items ++ List.replicate (wanted hasDest count - items.length) silence))
  | .peek hasDest count =>
      let items := q.front (wanted hasDest count)
      (q, .read items.length items)
  | .skip count => (q.dropFront count, .skipped (q.front count).length)
  | .clear => (BoundedFifo.empty q.capacity, .cleared)
  | .resize newCapacity _ =>
      if newCapacity = 0 then
        (q, .resized (.error (.invalidArgument "resize capacity must be >0")))
      else (BoundedFifo.empty newCapacity, .resized (.ok ()))

def fifoRun : (q : BoundedFifo α) → List (Call α) → BoundedFifo α × List (Reply α)
  | q, [] => (q, [])
  | q, c :: calls =>
      let next := fifoCall q c
      let rest := fifoRun next.1 calls
      (rest.1, next.2 :: rest.2)

/-- `buffer_.assign` of a `resize` does not throw. -/
def Call.Allocates : Call α → Prop
  | .resize newCapacity assign => newCapacity = 0 ∨ assign = .done
  | _ => True

theorem Represents.resize [Inhabited α] {r : RingBuffer α} {q : BoundedFifo α}
    (same : r.Represents q) {newCapacity : Nat} {assign : Assign α}
    (allocates : newCapacity = 0 ∨ assign = .done) :
    Reply.resized (r.resize newCapacity assign).2 =
        (fifoCall q (.resize newCapacity assign)).2 ∧
      (r.resize newCapacity assign).1.Represents
        (fifoCall q (.resize newCapacity assign)).1 := by
  unfold RingBuffer.resize
  simp only [fifoCall]
  split
  · exact ⟨rfl, same⟩
  · next positive =>
    obtain rfl := allocates.resolve_left positive
    refine ⟨rfl, ?_⟩
    exact
      represents_empty
        (r := { r with
          capacity := newCapacity
          buffer := List.replicate newCapacity default })
        List.length_replicate (by simp only; omega)

/-- A call of the ring buffer is a call of the queue. -/
theorem Represents.call [Inhabited α] {r : RingBuffer α} {q : BoundedFifo α}
    (same : r.Represents q) {c : Call α} (allocates : c.Allocates) :
    ∃ s, r.call c = some (s, (fifoCall q c).2) ∧ s.Represents (fifoCall q c).1 := by
  cases c with
  | write data =>
    obtain ⟨s, done, represents⟩ := same.write data
    exact ⟨s, by rw [RingBuffer.call, done]; rfl, represents⟩
  | writeOverwrite data =>
    obtain ⟨s, done, represents⟩ := same.writeOverwrite data
    exact ⟨s, by rw [RingBuffer.call, done]; rfl, represents⟩
  | tryWrite src =>
    obtain ⟨s, done, represents⟩ := same.tryWrite src
    exact ⟨s, by rw [RingBuffer.call, done]; rfl, represents⟩
  | read hasDest count =>
    obtain ⟨s, done, represents⟩ := same.read hasDest count
    exact ⟨s, by rw [RingBuffer.call, done]; rfl, represents⟩
  | readPadSilence hasDest count silence =>
    obtain ⟨s, done, represents⟩ := same.readPadSilence hasDest count silence
    exact ⟨s, by rw [RingBuffer.call, done]; rfl, represents⟩
  | peek hasDest count =>
    exact ⟨r, by rw [RingBuffer.call, same.peek]; rfl, same⟩
  | skip count =>
    obtain ⟨skipped, represents⟩ := same.skip count
    exact ⟨_, by rw [RingBuffer.call, fifoCall, skipped], represents⟩
  | clear => exact ⟨_, rfl, same.clear⟩
  | resize newCapacity assign =>
    obtain ⟨resized, represents⟩ := same.resize allocates
    exact ⟨_, by rw [RingBuffer.call, ← resized], represents⟩

theorem new_represents [Inhabited α] {triviallyCopyable : Bool} {capacityItems : Nat}
    {r : RingBuffer α} (made : new triviallyCopyable capacityItems = .ok r) :
    r.Represents (BoundedFifo.empty capacityItems) := by
  unfold new at made
  split_ifs at made with zero large
  obtain rfl := Except.ok.inj made
  exact
    represents_empty
      (r := { triviallyCopyable := triviallyCopyable
              capacity := capacityItems
              buffer := List.replicate capacityItems default })
      List.length_replicate (Nat.pos_of_ne_zero zero)

theorem Represents.run [Inhabited α] {r : RingBuffer α} {q : BoundedFifo α}
    (same : r.Represents q) {calls : List (Call α)}
    (allocates : ∀ c ∈ calls, c.Allocates) :
    ∃ s, r.run calls = some (s, (fifoRun q calls).2) ∧ s.Represents (fifoRun q calls).1 := by
  induction calls generalizing r q with
  | nil => exact ⟨r, rfl, same⟩
  | cons c calls inductionHypothesis =>
    obtain ⟨s, called, represents⟩ := same.call (allocates c List.mem_cons_self)
    obtain ⟨t, reached, still⟩ :=
      inductionHypothesis represents fun d later => allocates d (List.mem_cons_of_mem c later)
    refine ⟨t, ?_, still⟩
    rw [RingBuffer.run, called, Option.bind_some]
    dsimp only
    rw [reached]
    rfl

/-- After a list of calls the ring buffer holds the items of a bounded queue after the
same calls, in the cells from `tail_` to `head_`.  It has returned what the queue
returns, and copied inside the buffer only. -/
def RefinesFifo [Inhabited α] (r : RingBuffer α) (q : BoundedFifo α) (calls : List (Call α)) :
    Prop :=
  let fifo := fifoRun q calls
  ∃ s, r.run calls = some (s, fifo.2) ∧ s.contents = fifo.1.items ∧
    s.contents.length = s.count ∧ s.count ≤ s.capacity ∧ s.capacity = fifo.1.capacity ∧
      s.head = (s.tail + s.count) % s.capacity ∧ s.head < s.capacity ∧ s.tail < s.capacity

/-- From the constructor on, the ring buffer refines a bounded queue over every list of
calls whose `resize` calls get their memory. -/
theorem run_refines_fifo [Inhabited α] (triviallyCopyable : Bool) (capacityItems : Nat)
    (r : RingBuffer α) (made : new triviallyCopyable capacityItems = .ok r)
    (calls : List (Call α)) (allocates : ∀ c ∈ calls, c.Allocates) :
    r.RefinesFifo (BoundedFifo.empty capacityItems) calls := by
  obtain ⟨s, reached, same⟩ := (new_represents made).run allocates
  exact
    ⟨s, reached, same.contents, same.length_contents, same.count, same.capacity, same.head,
      same.head_lt, same.tail⟩

/-- A buffer of `n` samples. -/
def samples (n : Nat) : RingBuffer UInt16 :=
  { capacity := n, buffer := List.replicate n default }

/-- Three samples run through a buffer of two. -/
theorem samples_refine_fifo :
    (samples 2).RefinesFifo (BoundedFifo.empty 2)
      [.write (some [1, 2, 3]), .read true 1, .writeOverwrite (some [4, 5]), .resize 3 .done] :=
  run_refines_fifo true 2 (samples 2) rfl _ (by simp [Call.Allocates])

/-- A `resize` to the largest `size_t`, which leaves the vector as it was, and a
`write`. -/
def hugeResize : List (Call UInt16) :=
  [.resize 18446744073709551615 (.threw [default]), .write (some [1, 2])]

/-- `resize` has changed `capacity_` when the vector throws: the next `write` leaves the
buffer. -/
theorem failed_resize_leaves_buffer :
    ¬ ∀ (triviallyCopyable : Bool) (capacityItems : Nat) (r : RingBuffer UInt16)
        (calls : List (Call UInt16)),
        new triviallyCopyable capacityItems = .ok r →
          r.RefinesFifo (BoundedFifo.empty capacityItems) calls := by
  intro claim
  obtain ⟨s, reached, _⟩ := claim true 1 (samples 1) hugeResize rfl
  have outside : ((samples 1).run hugeResize).isSome = false := by
    decide +kernel
  rw [reached] at outside
  cases outside

end AudioRouter.RingBuffer
