import Mathlib.Data.List.DropRight

/-!
# Cutting strings

A string is a list of characters.  Trimming and the search for the last occurrence of
a character are characterised by the way in which they cut their argument.
-/

namespace AudioRouter.Text

variable {α : Type} {p : α → Bool} {s front back rest : List α}

/-! ## Trimming -/

/-- What is left without the characters of a kind at both ends. -/
def trim (p : α → Bool) (s : List α) : List α :=
  (s.dropWhile p).rdropWhile p

/-- A string is its trimmed part between two pieces of the trimmed kind. -/
structure IsTrim (p : α → Bool) (s kept : List α) : Prop where
  cut :
    ∃ front back, s = front ++ kept ++ back ∧ (∀ c ∈ front, p c) ∧ ∀ c ∈ back, p c
  first : ∀ c ∈ kept.head?, ¬ p c
  last : ∀ c ∈ kept.getLast?, ¬ p c

theorem rdropWhile_append_of_pos (trimmed : ∀ c ∈ back, p c) :
    (s ++ back).rdropWhile p = s.rdropWhile p := by
  induction back using List.reverseRecOn with
  | nil => rw [List.append_nil]
  | append_singleton back c inductionHypothesis =>
      have here : p c := trimmed c (List.mem_append_right back (List.mem_singleton_self c))
      rw [← List.append_assoc, List.rdropWhile_concat_pos _ _ _ here]
      apply inductionHypothesis
      intro d member
      exact trimmed d (List.mem_append_left _ member)

theorem isTrim_trim (p : α → Bool) (s : List α) : IsTrim p s (trim p s) where
  cut := by
    refine ⟨s.takeWhile p, (s.dropWhile p).rtakeWhile p, ?_, ?_, ?_⟩
    · rw [trim, List.append_assoc, List.rdropWhile_append_rtakeWhile,
        List.takeWhile_append_dropWhile]
    · intro c member
      exact List.mem_takeWhile_imp member
    · intro c member
      exact List.mem_rtakeWhile_imp member
  first := by
    intro c starts
    -- a trimmed string that is not empty begins where the front was cut
    have initial : (s.dropWhile p).head? = some c := by
      rcases List.rdropWhile_prefix p (s.dropWhile p) with ⟨cut, whole⟩
      have starts : ((s.dropWhile p).rdropWhile p).head? = some c := starts
      rw [← whole, List.head?_append, starts]
      rfl
    have stopped := List.head?_dropWhile_not p s
    rw [initial] at stopped
    simpa using stopped
  last := by
    intro c ends
    have nonempty : trim p s ≠ [] := by
      rintro empty
      rw [empty] at ends
      cases ends
    have final : (trim p s).getLast nonempty = c := by
      rw [List.getLast?_eq_some_getLast nonempty] at ends
      exact Option.some.inj ends
    rw [← final]
    exact List.rdropWhile_last_not p (s.dropWhile p) nonempty

/-- The trimmed part is the only one of its kind. -/
theorem isTrim_iff {kept : List α} : IsTrim p s kept ↔ kept = trim p s := by
  constructor
  · rintro ⟨⟨front, back, rfl, inFront, inBack⟩, first, last⟩
    have uncovered : (kept ++ back).dropWhile p = if kept = [] then [] else kept ++ back := by
      cases kept with
      | nil =>
          rw [List.nil_append, if_pos rfl]
          exact List.dropWhile_eq_nil_iff.2 inBack
      | cons c kept =>
          have here : ¬ p c := first c rfl
          rw [if_neg (List.cons_ne_nil c kept), List.cons_append, List.dropWhile_cons_of_neg here]
    have stays : kept.rdropWhile p = kept := by
      rw [List.rdropWhile_eq_self_iff]
      intro nonempty
      exact last _ (List.getLast?_eq_some_getLast nonempty)
    rw [trim, List.append_assoc, List.dropWhile_append_of_pos inFront, uncovered]
    split_ifs with empty
    · rw [empty, List.rdropWhile_nil]
    · rw [rdropWhile_append_of_pos inBack, stays]
  · rintro rfl
    exact isTrim_trim p s

/-! ## The last occurrence of a character -/

section LastOccurrence

variable [DecidableEq α] {a : α}

/-- `rfind`: the position of the last occurrence, if there is one. -/
def rfind (a : α) : List α → Option Nat
  | [] => none
  | b :: s =>
      match rfind a s with
      | some position => some (position + 1)
      | none => if b = a then some 0 else none

theorem rfind_eq_none_iff : rfind a s = none ↔ a ∉ s := by
  induction s with
  | nil => simp [rfind]
  | cons b s inductionHypothesis =>
      cases found : rfind a s with
      | some position =>
          have inside : a ∈ s := by
            by_contra absent
            rw [inductionHypothesis.2 absent] at found
            cases found
          simp [rfind, found, inside]
      | none =>
          have absent := inductionHypothesis.1 found
          simp [rfind, found, absent, eq_comm]

/-- The last occurrence of a character is the one with none behind it. -/
theorem rfind_append_cons (absent : a ∉ rest) :
    rfind a (front ++ a :: rest) = some front.length := by
  induction front with
  | nil => simp [rfind, rfind_eq_none_iff.2 absent]
  | cons b front inductionHypothesis =>
      rw [List.cons_append, rfind, inductionHypothesis]
      rfl

/-- A string with a character in it is cut at the last occurrence. -/
theorem exists_last_cut (inside : a ∈ s) :
    ∃ front rest, s = front ++ a :: rest ∧ a ∉ rest := by
  induction s with
  | nil => cases inside
  | cons b s inductionHypothesis =>
      by_cases later : a ∈ s
      · rcases inductionHypothesis later with ⟨front, rest, rfl, absent⟩
        exact ⟨b :: front, rest, rfl, absent⟩
      · rcases List.mem_cons.1 inside with rfl | member
        · exact ⟨[], s, rfl, later⟩
        · exact absurd member later

theorem rfind_eq_some_iff {position : Nat} :
    rfind a s = some position ↔
      ∃ front rest, s = front ++ a :: rest ∧ a ∉ rest ∧ front.length = position := by
  constructor
  · intro found
    have inside : a ∈ s := by
      by_contra absent
      rw [rfind_eq_none_iff.2 absent] at found
      cases found
    rcases exists_last_cut inside with ⟨front, rest, rfl, absent⟩
    rw [rfind_append_cons absent] at found
    exact ⟨front, rest, rfl, absent, Option.some.inj found⟩
  · rintro ⟨front, rest, rfl, absent, rfl⟩
    exact rfind_append_cons absent

/-- There is one way to cut a string at the last occurrence. -/
theorem last_cut_unique {otherFront otherRest : List α}
    (same : front ++ a :: rest = otherFront ++ a :: otherRest) (absent : a ∉ rest)
    (otherAbsent : a ∉ otherRest) : front = otherFront ∧ rest = otherRest := by
  have positions : some front.length = some otherFront.length := by
    rw [← rfind_append_cons absent, same, rfind_append_cons otherAbsent]
  rcases List.append_inj same (Option.some.inj positions) with ⟨fronts, rests⟩
  exact ⟨fronts, (List.cons.inj rests).2⟩

end LastOccurrence

end AudioRouter.Text
