import AudioRouter.Lib.Circular

/-!
# The ring buffer

`RingBuffer<T>` (`common/ring_buffer.hpp`).  Every public function holds `mutex_`, so
the calls of several threads are a list of calls.  A function returns `none` where one
of its copies touches an index outside the buffer, or outside what the caller gave.
-/

namespace AudioRouter

/-- The members of `RingBuffer<T>`, and whether `T` is trivially copyable. -/
structure RingBuffer (α : Type) where
  triviallyCopyable : Bool := true
  capacity : Nat
  buffer : List α
  head : Nat := 0
  tail : Nat := 0
  count : Nat := 0
  deriving DecidableEq, Repr

namespace RingBuffer

open Circular

variable {α : Type}

/-- What the constructor and `resize` throw. -/
inductive Thrown where
  | invalidArgument (what : String)
  /-- By `std::vector`. -/
  | vectorError
  deriving DecidableEq, Repr

/-- The constructor. -/
def new [Inhabited α] (triviallyCopyable : Bool) (capacityItems : Nat) :
    Except Thrown (RingBuffer α) :=
  if capacityItems = 0 then .error (.invalidArgument "RingBuffer capacity must be >0")
  else if capacityItems > 1 <<< 28 then
    .error (.invalidArgument "RingBuffer capacity unreasonably large")
  else
    .ok
      { triviallyCopyable := triviallyCopyable
        capacity := capacityItems
        buffer := List.replicate capacityItems default }

/-- How `buffer_.assign` ends.  It throws above the `max_size()` of the vector, or where
there is no memory, and the standard does not say which items it then leaves. -/
inductive Assign (α : Type) where
  | done
  | threw (left : List α)
  deriving DecidableEq, Repr

def resize [Inhabited α] (r : RingBuffer α) (newCapacity : Nat) (assign : Assign α) :
    RingBuffer α × Except Thrown Unit :=
  if newCapacity = 0 then (r, .error (.invalidArgument "resize capacity must be >0"))
  else
    let r := { r with capacity := newCapacity }
    match assign with
    | .threw left => ({ r with buffer := left }, .error .vectorError)
    | .done =>
        ({ r with
          buffer := List.replicate newCapacity default
          head := 0
          tail := 0
          count := 0 }, .ok ())

def clear (r : RingBuffer α) : RingBuffer α :=
  { r with head := 0, tail := 0, count := 0 }

/-! ## Copies -/

/-- `copy_to_buffer`, where `src` is what the caller gave from the pointer on. -/
def copyToBuffer (r : RingBuffer α) (offset : Nat) (src : List α) (n : Nat) :
    Option (RingBuffer α) :=
  if n = 0 then some r
  else if r.triviallyCopyable ∧ n > r.capacity then some r
  else if offset + n ≤ r.buffer.length ∧ n ≤ src.length then
    some { r with buffer := patch r.buffer offset (src.take n) }
  else none

/-- `copy_from_buffer`. -/
def copyFromBuffer (r : RingBuffer α) (offset n : Nat) : Option (List α) :=
  if n = 0 then some []
  else if offset + n ≤ r.buffer.length then some ((r.buffer.drop offset).take n)
  else none

/-- The common end of `write`, `write_overwrite` and `try_write`: `n` items are copied
in two chunks. -/
def copyIn (r : RingBuffer α) (data : List α) (n : Nat) : Option (RingBuffer α) :=
  let firstChunk := min n (r.capacity - r.head)
  let secondChunk := n - firstChunk
  (r.copyToBuffer r.head data firstChunk).bind fun r =>
    if secondChunk > 0 then
      (r.copyToBuffer 0 (data.drop firstChunk) secondChunk).map fun r =>
        { r with head := secondChunk, count := r.count + n }
    else
      some { r with head := (r.head + firstChunk) % r.capacity, count := r.count + n }

/-- The copies of `read` and `peek`. -/
def copyOut (r : RingBuffer α) (n : Nat) : Option (List α) :=
  let firstChunk := min n (r.capacity - r.tail)
  let secondChunk := n - firstChunk
  (r.copyFromBuffer r.tail firstChunk).bind fun first =>
    if secondChunk > 0 then
      (r.copyFromBuffer 0 secondChunk).map fun second => first ++ second
    else some first

/-! ## Writing -/

def freeSlots (r : RingBuffer α) : Nat :=
  if r.count < r.capacity then r.capacity - r.count else 0

/-- `write` of the items behind `data`, or of a null pointer. -/
def write (r : RingBuffer α) : (data : Option (List α)) → Option (RingBuffer α × Nat)
  | none => some (r, 0)
  | some data =>
      if data.length = 0 then some (r, 0)
      else if r.capacity = 0 then some (r, 0)
      else
        let toWrite := min data.length r.freeSlots
        if toWrite = 0 then some (r, 0)
        else (r.copyIn data toWrite).map fun r => (r, toWrite)

def writeOverwrite (r : RingBuffer α) :
    (data : Option (List α)) → Option (RingBuffer α × Nat)
  | none => some (r, 0)
  | some data =>
      if data.length = 0 then some (r, 0)
      else if r.capacity = 0 then some (r, 0)
      else if data.length ≥ r.capacity then
        (r.copyToBuffer 0 (data.drop (data.length - r.capacity)) r.capacity).map fun r =>
          ({ r with head := 0, tail := 0, count := r.capacity }, r.capacity)
      else
        let freeSlots := r.freeSlots
        let r :=
          if data.length > freeSlots then
            let drop := data.length - freeSlots
            { r with tail := (r.tail + drop) % r.capacity, count := r.count - drop }
          else r
        (r.copyIn data data.length).map fun r => (r, data.length)

def tryWrite (r : RingBuffer α) (src : List α) :
    Option (RingBuffer α × Except String Nat) :=
  if src.length = 0 then some (r, .ok 0)
  else if src.length > r.freeSlots then
    some (r, .error "RingBuffer full — not enough free space")
  else (r.copyIn src src.length).map fun r => (r, .ok src.length)

/-! ## Reading -/

/-- `read`: the items copied to `dest`, whose number is returned; `hasDest` is false
for a null pointer. -/
def read (r : RingBuffer α) (hasDest : Bool) (count : Nat) :
    Option (RingBuffer α × List α) :=
  if !hasDest ∨ count = 0 then some (r, [])
  else if r.count = 0 then some (r, [])
  else
    let toRead := min count r.count
    (r.copyOut toRead).map fun dest =>
      let firstChunk := min toRead (r.capacity - r.tail)
      let secondChunk := toRead - firstChunk
      let tail := if secondChunk > 0 then secondChunk else (r.tail + firstChunk) % r.capacity
      ({ r with tail := tail, count := r.count - toRead }, dest)

/-- `read_pad_silence`: the number returned, and what `dest` holds. -/
def readPadSilence (r : RingBuffer α) (hasDest : Bool) (count : Nat) (silence : α) :
    Option (RingBuffer α × Nat × List α) :=
  if !hasDest ∨ count = 0 then some (r, 0, [])
  else
    (r.read hasDest count).map fun (r, dest) =>
      let n := dest.length
      (r, n, if n < count then dest ++ List.replicate (count - n) silence else dest)

def peek (r : RingBuffer α) (hasDest : Bool) (count : Nat) : Option (List α) :=
  if !hasDest ∨ count = 0 then some []
  else if r.count = 0 then some []
  else r.copyOut (min count r.count)

def skip (r : RingBuffer α) (count : Nat) : RingBuffer α × Nat :=
  let toSkip := min count r.count
  ({ r with
    tail := (r.tail + toSkip) % (if r.capacity ≠ 0 then r.capacity else 1)
    count := r.count - toSkip }, toSkip)

/-! ## Runs -/

inductive Call (α : Type) where
  | write (data : Option (List α))
  | writeOverwrite (data : Option (List α))
  | tryWrite (src : List α)
  | read (hasDest : Bool) (count : Nat)
  | readPadSilence (hasDest : Bool) (count : Nat) (silence : α)
  | peek (hasDest : Bool) (count : Nat)
  | skip (count : Nat)
  | clear
  | resize (newCapacity : Nat) (assign : Assign α)
  deriving DecidableEq, Repr

/-- What a call returns, with what it leaves in `dest`. -/
inductive Reply (α : Type) where
  | written (count : Nat)
  | tried (result : Except String Nat)
  | read (count : Nat) (dest : List α)
  | skipped (count : Nat)
  | cleared
  | resized (result : Except Thrown Unit)

def call [Inhabited α] (r : RingBuffer α) : Call α → Option (RingBuffer α × Reply α)
  | .write data => (r.write data).map fun (r, n) => (r, .written n)
  | .writeOverwrite data => (r.writeOverwrite data).map fun (r, n) => (r, .written n)
  | .tryWrite src => (r.tryWrite src).map fun (r, result) => (r, .tried result)
  | .read hasDest count =>
      (r.read hasDest count).map fun (r, dest) => (r, .read dest.length dest)
  | .readPadSilence hasDest count silence =>
      (r.readPadSilence hasDest count silence).map fun (r, n, dest) => (r, .read n dest)
  | .peek hasDest count =>
      (r.peek hasDest count).map fun dest => (r, .read dest.length dest)
  | .skip count => some ((r.skip count).1, .skipped (r.skip count).2)
  | .clear => some (r.clear, .cleared)
  | .resize newCapacity assign =>
      let result := r.resize newCapacity assign
      some (result.1, .resized result.2)

/-- The calls one after the other, with their replies. -/
def run [Inhabited α] : (r : RingBuffer α) → List (Call α) →
    Option (RingBuffer α × List (Reply α))
  | r, [] => some (r, [])
  | r, c :: calls =>
      (r.call c).bind fun (r, reply) =>
        (run r calls).map fun (r, replies) => (r, reply :: replies)

end RingBuffer

end AudioRouter
