import Mathlib.Tactic.Basic

/-!
# While loops

`Exits` relates a state to the one in which the loop `while (cond) body` ends.  A loop
with fuel is a program that always ends; a variant says how much fuel is enough for it
to be the loop without fuel.
-/

namespace AudioRouter.While

variable {S : Type} {cond : S → Prop} {body : S → S}

/-- The loop, started in the first state, ends in the second. -/
inductive Exits (cond : S → Prop) (body : S → S) : S → S → Prop where
  | done {s : S} (stop : ¬ cond s) : Exits cond body s s
  | turn {s t : S} (more : cond s) (rest : Exits cond body (body s) t) : Exits cond body s t

/-- At most so many turns of the loop. -/
def fuelled (cond : S → Prop) [DecidablePred cond] (body : S → S) : Nat → S → S
  | 0, s => s
  | n + 1, s => if cond s then fuelled cond body n (body s) else s

/-- What every turn preserves holds after the loop with fuel. -/
theorem fuelled_preserves [DecidablePred cond] {invariant : S → Prop}
    (kept : ∀ s, invariant s → cond s → invariant (body s)) :
    ∀ (n : Nat) {s : S}, invariant s → invariant (fuelled cond body n s) := by
  intro n
  induction n with
  | zero => exact fun start => start
  | succ n inductionHypothesis =>
    intro s start
    rw [fuelled]
    split
    next more => exact inductionHypothesis (kept s start more)
    · exact start

/-- A loop that carries notes along runs as the loop without them. -/
theorem fuelled_map {T : Type} {condToo : T → Prop} {bodyToo : T → T} [DecidablePred cond]
    [DecidablePred condToo] (view : S → T) (sameCond : ∀ s, condToo (view s) ↔ cond s)
    (sameBody : ∀ s, view (body s) = bodyToo (view s)) :
    ∀ (n : Nat) (s : S), view (fuelled cond body n s) = fuelled condToo bodyToo n (view s) := by
  intro n
  induction n with
  | zero => exact fun _ => rfl
  | succ n inductionHypothesis =>
    intro s
    rw [fuelled, fuelled]
    by_cases more : cond s
    · rw [if_pos more, if_pos ((sameCond s).2 more), inductionHypothesis, sameBody]
    · rw [if_neg more, if_neg (mt (sameCond s).1 more)]

/-- A loop ends in one state at most. -/
theorem Exits.unique {s t u : S} (first : Exits cond body s t)
    (second : Exits cond body s u) : t = u := by
  induction first with
  | done stop =>
    cases second with
    | done _ => rfl
    | turn more _ => exact absurd more stop
  | turn more _ inductionHypothesis =>
    cases second with
    | done stop => exact absurd more stop
    | turn _ rest => exact inductionHypothesis rest

/-- What every turn preserves holds at the end, where the condition does not. -/
theorem Exits.preserves {invariant : S → Prop}
    (kept : ∀ s, invariant s → cond s → invariant (body s)) {s t : S}
    (exits : Exits cond body s t) (start : invariant s) : invariant t ∧ ¬ cond t := by
  induction exits with
  | done stop => exact ⟨start, stop⟩
  | turn more _ inductionHypothesis => exact inductionHypothesis (kept _ start more)

/-- A loop with a variant ends after at most that many turns. -/
theorem exits_of_variant [DecidablePred cond] (invariant : S → Prop) (variant : S → Nat)
    (kept : ∀ s, invariant s → cond s → invariant (body s))
    (decreases : ∀ s, invariant s → cond s → variant (body s) < variant s) :
    ∀ (n : Nat) {s : S}, invariant s → variant s ≤ n →
      Exits cond body s (fuelled cond body n s) := by
  intro n
  induction n with
  | zero =>
    intro s start enough
    apply Exits.done
    intro more
    have less := decreases s start more
    omega
  | succ n inductionHypothesis =>
    intro s start enough
    rw [fuelled]
    split
    next more =>
      have less := decreases s start more
      apply Exits.turn more
      exact inductionHypothesis (kept s start more) (by omega)
    next stop => exact Exits.done stop

end AudioRouter.While
