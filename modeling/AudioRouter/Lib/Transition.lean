import Mathlib.Data.Option.Basic

/-!
# Runs of labelled transitions

A system is a step function that returns `none` where an action is not enabled.
A run is a list of actions; the threads of a program are interleaved by the order
of the list.  `EveryStep` restricts a run to steps that meet a condition on the
action and the state before it, and the induction rules turn what one step
preserves into what a run preserves.
-/

namespace AudioRouter.Transition

variable {S A : Type} {step : S → A → Option S}

/-- The state after a list of actions. -/
def run (step : S → A → Option S) : S → List A → Option S
  | s, [] => some s
  | s, a :: actions => (step s a).bind fun t => run step t actions

/-- Every step of a run meets a condition. -/
def EveryStep (step : S → A → Option S) (good : S → A → Prop) : S → List A → Prop
  | _, [] => True
  | s, a :: actions =>
      good s a ∧
        match step s a with
        | none => True
        | some t => EveryStep step good t actions

instance decidableEveryStep {good : S → A → Prop} [∀ s a, Decidable (good s a)] :
    ∀ (s : S) (actions : List A), Decidable (EveryStep step good s actions)
  | _, [] => inferInstanceAs (Decidable True)
  | s, a :: actions =>
      @instDecidableAnd _ _ inferInstance
        (match step s a with
        | none => inferInstanceAs (Decidable True)
        | some t => decidableEveryStep t actions)

theorem run_cons_eq_some {s t : S} {a : A} {actions : List A} :
    run step s (a :: actions) = some t ↔
      ∃ u, step s a = some u ∧ run step u actions = some t :=
  Option.bind_eq_some_iff

/-- A run is made of its parts. -/
theorem run_append (s : S) (before after : List A) :
    run step s (before ++ after) = (run step s before).bind fun t => run step t after := by
  induction before generalizing s with
  | nil => rfl
  | cons a before inductionHypothesis =>
    rw [List.cons_append, run, run, Option.bind_assoc]
    exact Option.bind_congr fun t _ => inductionHypothesis t

theorem run_append_eq_some {s t : S} {before after : List A} :
    run step s (before ++ after) = some t ↔
      ∃ u, run step s before = some u ∧ run step u after = some t := by
  rw [run_append]
  exact Option.bind_eq_some_iff

theorem run_eq_some_getD {s default : S} {actions : List A}
    (enabled : (run step s actions).isSome) :
    run step s actions = some ((run step s actions).getD default) := by
  obtain ⟨t, reached⟩ := Option.isSome_iff_exists.1 enabled
  rw [reached, Option.getD_some]

theorem EveryStep.tail {good : S → A → Prop} {s t : S} {a : A} {actions : List A}
    (every : EveryStep step good s (a :: actions)) (first : step s a = some t) :
    EveryStep step good t actions := by
  simpa only [first] using every.2

/-- The steps of a run behind its first steps. -/
theorem EveryStep.rest {good : S → A → Prop} :
    ∀ {s t : S} {before after : List A}, EveryStep step good s (before ++ after) →
      run step s before = some t → EveryStep step good t after
  | _, _, [], _, every, reached => by
      obtain rfl := Option.some.inj reached
      exact every
  | _, _, _ :: _, _, every, reached => by
      rcases run_cons_eq_some.1 reached with ⟨u, first, onward⟩
      exact EveryStep.rest (every.tail first) onward

/-- The first steps of a run of good steps are good. -/
theorem EveryStep.of_prefix {good : S → A → Prop} :
    ∀ (s : S) {before actions : List A}, before <+: actions →
      EveryStep step good s actions → EveryStep step good s before
  | _, [], _, _, _ => trivial
  | s, a :: before, actions, upTo, every => by
      cases actions with
      | nil => exact absurd upTo (by simp)
      | cons b actions =>
        obtain ⟨rfl, rest⟩ := List.cons_prefix_cons.1 upTo
        refine ⟨every.1, ?_⟩
        cases first : step s a with
        | none => trivial
        | some t => exact EveryStep.of_prefix t rest (every.tail first)

/-- A condition may be replaced by one that is equivalent wherever the run gets. -/
theorem everyStep_congr_of_invariant {good fine : S → A → Prop} {invariant : S → Prop}
    (preserved : ∀ s a t, invariant s → step s a = some t → invariant t)
    (same : ∀ s a, invariant s → (good s a ↔ fine s a)) :
    ∀ (actions : List A) {s : S}, invariant s →
      (EveryStep step good s actions ↔ EveryStep step fine s actions) := by
  intro actions
  induction actions with
  | nil => exact fun _ => Iff.rfl
  | cons a actions inductionHypothesis =>
    intro s start
    apply and_congr (same s a start)
    cases first : step s a with
    | none => exact Iff.rfl
    | some t => exact inductionHypothesis (preserved s a t start first)

theorem everyStep_congr {good fine : S → A → Prop} (same : ∀ s a, good s a ↔ fine s a)
    (s : S) (actions : List A) :
    EveryStep step good s actions ↔ EveryStep step fine s actions :=
  everyStep_congr_of_invariant (fun _ _ _ _ _ => trivial) (fun s a (_ : True) => same s a)
    actions trivial

/-- What every good step preserves holds after a run of good steps. -/
theorem run_invariant {good : S → A → Prop} {invariant : S → Prop}
    (preserved :
      ∀ s a t, invariant s → good s a → step s a = some t → invariant t) :
    ∀ (actions : List A) {s t : S}, invariant s →
      EveryStep step good s actions → run step s actions = some t → invariant t := by
  intro actions
  induction actions with
  | nil =>
    intro s t start _ reached
    obtain rfl := Option.some.inj reached
    exact start
  | cons a actions inductionHypothesis =>
    intro s t start every reached
    rcases run_cons_eq_some.1 reached with ⟨u, first, rest⟩
    have next := preserved s a u start every.1 first
    exact inductionHypothesis next (every.tail first) rest

/-- A condition that the actions meet in every state. -/
theorem everyStep_of_mem {good : S → A → Prop} :
    ∀ (s : S) (actions : List A), (∀ a ∈ actions, ∀ s, good s a) →
      EveryStep step good s actions
  | _, [], _ => trivial
  | s, a :: actions, always => by
      refine ⟨always a List.mem_cons_self s, ?_⟩
      cases first : step s a with
      | none => trivial
      | some t =>
        exact
          everyStep_of_mem t actions fun b later => always b (List.mem_cons_of_mem a later)

/-- What every step preserves holds after every run. -/
theorem run_preserves {invariant : S → Prop}
    (preserved : ∀ s a t, invariant s → step s a = some t → invariant t)
    (actions : List A) {s t : S} (start : invariant s)
    (reached : run step s actions = some t) : invariant t :=
  run_invariant (fun s a t holds (_ : True) stepped => preserved s a t holds stepped)
    actions start (everyStep_of_mem s actions fun _ _ _ => trivial) reached

/-- A run has no more helpful actions than the rank of the state that it starts from, where
each of them lowers the rank and no other action raises it. -/
theorem run_countP_le {invariant : S → Prop} {rank : S → Nat} {helpful : A → Bool}
    (moves :
      ∀ s a t, invariant s → step s a = some t →
        invariant t ∧ rank t + (if helpful a then 1 else 0) ≤ rank s) :
    ∀ (actions : List A) {s t : S}, invariant s → run step s actions = some t →
      rank t + actions.countP helpful ≤ rank s := by
  intro actions
  induction actions with
  | nil =>
    intro s t _ reached
    obtain rfl := Option.some.inj reached
    exact Nat.le_refl _
  | cons a actions inductionHypothesis =>
    intro s t start reached
    rcases run_cons_eq_some.1 reached with ⟨u, first, rest⟩
    rcases moves s a u start first with ⟨next, lower⟩
    have later := inductionHypothesis next rest
    rw [List.countP_cons]
    omega

/-- How many steps of a run are helpful. -/
def countSteps (step : S → A → Option S) (helpful : S → A → Bool) : S → List A → Nat
  | _, [] => 0
  | s, a :: actions =>
      (match step s a with
        | none => 0
        | some t => countSteps step helpful t actions) + if helpful s a then 1 else 0

/-- Helpful steps lead past a goal: each one lowers the rank as long as the goal has not been
reached, and no other step raises it. -/
theorem run_visits_by_steps {good : S → A → Prop} {invariant goal : S → Prop} {rank : S → Nat}
    {helpful : S → A → Bool}
    (moves :
      ∀ s a t, invariant s → good s a → step s a = some t →
        goal t ∨ invariant t ∧ rank t + (if helpful s a then 1 else 0) ≤ rank s) :
    ∀ (actions : List A) {s t : S}, invariant s → EveryStep step good s actions →
      run step s actions = some t → rank s < countSteps step helpful s actions →
        ∃ before u, before <+: actions ∧ run step s before = some u ∧ goal u := by
  intro actions
  induction actions with
  | nil => exact fun _ _ _ enough => absurd enough (Nat.not_lt_zero _)
  | cons a actions inductionHypothesis =>
    intro s t start every reached enough
    rcases run_cons_eq_some.1 reached with ⟨u, first, rest⟩
    rcases moves s a u start every.1 first with there | ⟨next, lower⟩
    · exact ⟨[a], u, ⟨actions, rfl⟩, run_cons_eq_some.2 ⟨u, first, rfl⟩, there⟩
    · rw [countSteps, first] at enough
      dsimp only at enough
      rcases inductionHypothesis next (every.tail first) rest (by omega) with
        ⟨before, v, upTo, onward, there⟩
      refine ⟨a :: before, v, (List.prefix_cons_inj a).2 upTo, ?_, there⟩
      exact run_cons_eq_some.2 ⟨u, first, onward⟩

/-- The same for a goal that the steps behind it do not leave. -/
theorem run_reaches_by_steps {good : S → A → Prop} {invariant goal : S → Prop}
    {rank : S → Nat} {helpful : S → A → Bool}
    (stays : ∀ s a t, goal s → good s a → step s a = some t → goal t)
    (moves :
      ∀ s a t, invariant s → good s a → step s a = some t →
        goal t ∨ invariant t ∧ rank t + (if helpful s a then 1 else 0) ≤ rank s)
    (actions : List A) {s t : S} (start : invariant s) (every : EveryStep step good s actions)
    (reached : run step s actions = some t) (enough : rank s < countSteps step helpful s actions) :
    goal t := by
  rcases run_visits_by_steps moves actions start every reached enough with
    ⟨before, u, ⟨after, rfl⟩, visited, there⟩
  rcases run_append_eq_some.1 reached with ⟨v, again, rest⟩
  obtain rfl := Option.some.inj (visited.symm.trans again)
  exact run_invariant stays after there (every.rest visited) rest

theorem countSteps_of_run {helpful : A → Bool} :
    ∀ (actions : List A) {s t : S}, run step s actions = some t →
      countSteps step (fun _ a => helpful a) s actions = actions.countP helpful := by
  intro actions
  induction actions with
  | nil => exact fun _ => rfl
  | cons a actions inductionHypothesis =>
    intro s t reached
    rcases run_cons_eq_some.1 reached with ⟨u, first, rest⟩
    rw [countSteps, first, List.countP_cons, ← inductionHypothesis rest]

theorem run_visits {good : S → A → Prop} {invariant goal : S → Prop} {rank : S → Nat}
    {helpful : A → Bool}
    (moves :
      ∀ s a t, invariant s → good s a → step s a = some t →
        goal t ∨ invariant t ∧ rank t + (if helpful a then 1 else 0) ≤ rank s)
    (actions : List A) {s t : S} (start : invariant s) (every : EveryStep step good s actions)
    (reached : run step s actions = some t) (enough : rank s < actions.countP helpful) :
    ∃ before u, before <+: actions ∧ run step s before = some u ∧ goal u := by
  rw [← countSteps_of_run actions reached] at enough
  exact run_visits_by_steps moves actions start every reached enough

/-- The same for actions that are helpful in every state. -/
theorem run_reaches {good : S → A → Prop} {invariant goal : S → Prop} {rank : S → Nat}
    {helpful : A → Bool}
    (stays : ∀ s a t, goal s → good s a → step s a = some t → goal t)
    (moves :
      ∀ s a t, invariant s → good s a → step s a = some t →
        goal t ∨ invariant t ∧ rank t + (if helpful a then 1 else 0) ≤ rank s)
    (actions : List A) {s t : S} (start : invariant s) (every : EveryStep step good s actions)
    (reached : run step s actions = some t) (enough : rank s < actions.countP helpful) :
    goal t := by
  rw [← countSteps_of_run actions reached] at enough
  exact run_reaches_by_steps stays moves actions start every reached enough

/-- A run and the same run without some of its actions: a relation that the kept
actions keep on both sides, and the dropped ones on the first, holds at the end. -/
theorem run_filter {T : Type} {stepToo : T → A → Option T} {good : S → A → Prop}
    {related : S → T → Prop} {keep : A → Bool}
    (kept :
      ∀ s u a t, related s u → good s a → keep a = true → step s a = some t →
        ∃ v, stepToo u a = some v ∧ related t v)
    (dropped :
      ∀ s u a t, related s u → good s a → keep a = false → step s a = some t →
        related t u) :
    ∀ (actions : List A) {s t : S} {u : T}, related s u →
      EveryStep step good s actions → run step s actions = some t →
        ∃ v, run stepToo u (actions.filter keep) = some v ∧ related t v := by
  intro actions
  induction actions with
  | nil =>
    intro s t u start _ reached
    obtain rfl := Option.some.inj reached
    exact ⟨u, rfl, start⟩
  | cons a actions inductionHypothesis =>
    intro s t u start every reached
    rcases run_cons_eq_some.1 reached with ⟨w, first, rest⟩
    cases keeps : keep a with
    | true =>
      rcases kept s u a w start every.1 keeps first with ⟨v, firstToo, next⟩
      rcases inductionHypothesis next (every.tail first) rest with ⟨x, restToo, ends⟩
      rw [List.filter_cons_of_pos keeps]
      exact ⟨x, run_cons_eq_some.2 ⟨v, firstToo, restToo⟩, ends⟩
    | false =>
      have next := dropped s u a w start every.1 keeps first
      have skips : ¬ keep a = true := by simp [keeps]
      rw [List.filter_cons_of_neg skips]
      exact inductionHypothesis next (every.tail first) rest

/-- Where good steps keep an invariant that shows a property, and every other step
from a state with the invariant leads out of the property, every state on the way of a
run has the property if and only if every step of the run is good. -/
theorem everyState_iff_of_breaks {good : S → A → Prop} {invariant holds : S → Prop}
    (kept : ∀ s a t, invariant s → good s a → step s a = some t → invariant t)
    (shows : ∀ s, invariant s → holds s)
    (breaks : ∀ s a t, invariant s → ¬ good s a → step s a = some t → ¬ holds t) :
    ∀ (actions : List A) {s t : S}, invariant s → run step s actions = some t →
      ((∀ before u, before <+: actions → run step s before = some u → holds u) ↔
        EveryStep step good s actions) := by
  intro actions
  induction actions with
  | nil =>
    intro s t start _
    refine ⟨fun _ => trivial, fun _ before u upTo reached => ?_⟩
    obtain rfl := List.prefix_nil.1 upTo
    obtain rfl := Option.some.inj reached
    exact shows s start
  | cons a actions inductionHypothesis =>
    intro s t start reached
    rcases run_cons_eq_some.1 reached with ⟨u, first, rest⟩
    constructor
    · intro always
      have holdsNext : holds u := by
        refine always [a] u ⟨actions, rfl⟩ ?_
        exact run_cons_eq_some.2 ⟨u, first, rfl⟩
      have fine : good s a := by
        by_contra bad
        exact breaks s a u start bad first holdsNext
      refine ⟨fine, ?_⟩
      rw [first]
      have next := kept s a u start fine first
      refine (inductionHypothesis next rest).1 ?_
      intro before v upTo onward
      refine always (a :: before) v ((List.prefix_cons_inj a).2 upTo) ?_
      exact run_cons_eq_some.2 ⟨u, first, onward⟩
    · intro every before v upTo onward
      have upToEvery := every.of_prefix s upTo
      exact shows v (run_invariant kept before start upToEvery onward)

/-- Where a property of a state is passed on by exactly the good steps, every state
on the way of a run has it if and only if every step of the run is good. -/
theorem everyState_iff {good : S → A → Prop} {invariant holds : S → Prop}
    (preserved : ∀ s a t, invariant s → step s a = some t → invariant t)
    (passedOn :
      ∀ s a t, invariant s → holds s → step s a = some t → (holds t ↔ good s a))
    (actions : List A) {s t : S} (known : invariant s) (start : holds s)
    (reached : run step s actions = some t) :
    (∀ before u, before <+: actions → run step s before = some u → holds u) ↔
      EveryStep step good s actions := by
  have kept : ∀ s a t, invariant s ∧ holds s → good s a → step s a = some t →
      invariant t ∧ holds t := by
    intro s a t both fine stepped
    exact ⟨preserved s a t both.1 stepped, (passedOn s a t both.1 both.2 stepped).2 fine⟩
  have breaks : ∀ s a t, invariant s ∧ holds s → ¬ good s a → step s a = some t →
      ¬ holds t := by
    intro s a t both bad stepped
    exact (passedOn s a t both.1 both.2 stepped).not.2 bad
  exact everyState_iff_of_breaks kept (fun _ both => both.2) breaks actions ⟨known, start⟩ reached

end AudioRouter.Transition
