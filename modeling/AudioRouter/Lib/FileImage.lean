import Mathlib.Data.List.Basic

/-!
# The bytes of a file

A file that is open for writing: its bytes and the offset of the next write.  A file that
is written from its beginning to its end holds a header, what has been recorded, and the
zeros that `ftruncate` has put behind it.
-/

namespace AudioRouter

structure FileImage where
  contents : List UInt8 := []
  offset : Nat := 0
  deriving DecidableEq, Repr

namespace FileImage

/-- `write`; a gap before the offset reads as zeros. -/
def write (f : FileImage) (data : List UInt8) : FileImage :=
  { contents :=
      f.contents.take f.offset ++ List.replicate (f.offset - f.contents.length) 0 ++ data ++
        f.contents.drop (f.offset + data.length)
    offset := f.offset + data.length }

/-- `ftruncate`, which also lengthens a file. -/
def resize (f : FileImage) (length : Nat) : FileImage :=
  { f with
    contents := f.contents.take length ++ List.replicate (length - f.contents.length) 0 }

/-- Behind a header the file holds what was recorded and, up to a window, zeros. -/
structure Records (header : List UInt8) (window : Nat) (recorded : List UInt8)
    (f : FileImage) : Prop where
  contents :
    f.contents = header ++ recorded ++ List.replicate (window - recorded.length) 0
  offset : f.offset = header.length + recorded.length

variable {header recorded : List UInt8} {window : Nat} {f : FileImage}

/-- A new file gets its header and its full length. -/
theorem records_new (header : List UInt8) (window : Nat) :
    Records header window []
      ((FileImage.write {} header).resize (header.length + window)) := by
  constructor
  · simp [write, resize, List.take_of_length_le]
  · simp [write, resize]

/-- A write goes on with the recording, also beyond the window. -/
theorem Records.write (records : Records header window recorded f) (data : List UInt8) :
    Records header window (recorded ++ data) (f.write data) := by
  rcases records with ⟨contents, offset⟩
  have front : f.contents.take f.offset = header ++ recorded := by
    rw [contents, offset, ← List.length_append, List.take_left']
    rfl
  have inside : f.offset - f.contents.length = 0 := by
    rw [contents, offset]
    simp only [List.length_append]
    omega
  have behind : f.contents.drop (f.offset + data.length) =
      List.replicate (window - (recorded ++ data).length) 0 := by
    rw [contents, offset, ← List.length_append, List.drop_length_add_append,
      List.drop_replicate, List.length_append, Nat.sub_add_eq]
  constructor
  · rw [FileImage.write, front, inside, behind]
    simp
  · simp only [FileImage.write, offset, List.length_append, Nat.add_assoc]

/-- The bytes behind the header, as far as they were recorded. -/
theorem Records.drop_take (records : Records header window recorded f) :
    (f.contents.take f.offset).drop header.length = recorded := by
  rcases records with ⟨contents, offset⟩
  rw [contents, offset, ← List.length_append, List.take_left' rfl, List.drop_left' rfl]

/-- A window that was recorded in full is the file behind the header. -/
theorem Records.drop (records : Records header window recorded f)
    (full : recorded.length = window) : f.contents.drop header.length = recorded := by
  rw [records.contents, full, Nat.sub_self, List.replicate_zero, List.append_nil,
    List.drop_left' rfl]

end FileImage

end AudioRouter
