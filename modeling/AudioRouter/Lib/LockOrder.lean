import AudioRouter.Lib.Transition
import Mathlib.Data.Fintype.Defs
import Mathlib.Logic.Function.Basic
import Mathlib.Logic.Relation

/-!
# Threads that nest mutexes

Threads run code that acquires and releases non-recursive mutexes and makes calls;
a call reads and writes the shared state and unfolds into further code.  Where every
call, made under the mutexes that it expects, takes mutexes in the order of a rank and
gives them back, no thread waits for a mutex of its own, nesting has no cycle, and a
thread that waits for a mutex always leaves a holder that can go on.
-/

namespace AudioRouter.LockOrder

open Transition

/-- What a thread does next. -/
inductive Op (M C : Type) where
  | acquire (m : M)
  | release (m : M)
  | call (c : C)
  deriving DecidableEq, Repr

variable {T M C I S : Type}

/-- A scope that holds a mutex. -/
def locked (m : M) (body : List (Op M C)) : List (Op M C) :=
  .acquire m :: (body ++ [.release m])

/-- The shared state and, for each thread, the code that is left and the mutexes that
it holds, the last one first. -/
structure Machine (T M C S : Type) where
  shared : S
  code : T → List (Op M C)
  held : T → List M := fun _ => []

/-- What a call does: `none` where it has to wait. -/
abbrev Exec (M C I S : Type) := I → C → S → Option (S × List (Op M C))

namespace Machine

/-- The thread is about to acquire the mutex. -/
def Wants (s : Machine T M C S) (t : T) (m : M) : Prop :=
  ∃ rest, s.code t = .acquire m :: rest

/-- The call that the thread is about to make. -/
def nextCall (s : Machine T M C S) (t : T) : Option C :=
  match s.code t with
  | .call c :: _ => some c
  | _ => none

theorem nextCall_of_code {s : Machine T M C S} {t : T} {c : C} {rest : List (Op M C)}
    (code : s.code t = .call c :: rest) : s.nextCall t = some c := by
  rw [nextCall, code]

/-- Some thread acquires `m` while it holds `h`. -/
def Nests (s : Machine T M C S) (h m : M) : Prop :=
  ∃ t, s.Wants t m ∧ h ∈ s.held t

def Free (s : Machine T M C S) (m : M) : Prop := ∀ t, m ∉ s.held t

variable [DecidableEq T] [DecidableEq M]

instance [Fintype T] (s : Machine T M C S) (m : M) : Decidable (s.Free m) :=
  inferInstanceAs (Decidable (∀ t, m ∉ s.held t))

/-- Thread `t` goes on with `code`, holding `held`. -/
def goesOn (s : Machine T M C S) (t : T) (code : List (Op M C)) (held : List M) :
    Machine T M C S :=
  { s with
    code := Function.update s.code t code
    held := Function.update s.held t held }

omit [DecidableEq M] in
@[simp]
theorem goesOn_code_self (s : Machine T M C S) (t : T) (code : List (Op M C))
    (held : List M) : (s.goesOn t code held).code t = code := by
  simp only [goesOn, Function.update_self]

omit [DecidableEq M] in
@[simp]
theorem goesOn_held_self (s : Machine T M C S) (t : T) (code : List (Op M C))
    (held : List M) : (s.goesOn t code held).held t = held := by
  simp only [goesOn, Function.update_self]

omit [DecidableEq M] in
theorem goesOn_of_ne {t u : T} (other : u ≠ t) (s : Machine T M C S)
    (code : List (Op M C)) (held : List M) :
    (s.goesOn t code held).code u = s.code u ∧ (s.goesOn t code held).held u = s.held u := by
  simp only [goesOn, Function.update_of_ne other, and_self]

/-- One step of a thread on an input from outside. -/
def step [Fintype T] (exec : Exec M C I S) (s : Machine T M C S) (a : T × I) :
    Option (Machine T M C S) :=
  match s.code a.1 with
  | [] => none
  | .acquire m :: rest =>
      if s.Free m then some (s.goesOn a.1 rest (m :: s.held a.1)) else none
  | .release m :: rest => some (s.goesOn a.1 rest ((s.held a.1).erase m))
  | .call c :: rest =>
      (exec a.2 c s.shared).map fun r =>
        { s with shared := r.1 }.goesOn a.1 (r.2 ++ rest) (s.held a.1)

end Machine

/-! ## Disciplined code -/

section

variable (rank : M → Nat) (expects : List M → C → Prop)

/-- Code that starts with the mutexes `held`, takes further ones in the order of the
rank, gives them back last in first out, makes each call under mutexes that it
expects, and ends with `after`. -/
def Ordered : List M → List (Op M C) → List M → Prop
  | held, [], after => held = after
  | held, .acquire m :: rest, after =>
      (∀ h ∈ held, rank h < rank m) ∧ Ordered (m :: held) rest after
  | held, .release m :: rest, after =>
      ∃ below, held = m :: below ∧ Ordered below rest after
  | held, .call c :: rest, after => expects held c ∧ Ordered held rest after

/-- Every call keeps to the order where the shared state is `good` for it, and waits
only where nothing is held. -/
structure Discipline (exec : Exec M C I S) (good : S → C → Prop) : Prop where
  ordered :
    ∀ {held c i shared r}, expects held c → good shared c →
      exec i c shared = some r → Ordered rank expects held r.2 held
  ready :
    ∀ {held c i shared}, expects held c → held ≠ [] → (exec i c shared).isSome = true

/-- The code of every thread is ordered, and no two threads hold one mutex. -/
structure Orderly (s : Machine T M C S) : Prop where
  ordered : ∀ t, Ordered rank expects (s.held t) (s.code t) []
  exclusive : ∀ {t u m}, m ∈ s.held t → m ∈ s.held u → t = u

end

variable {rank : M → Nat} {expects : List M → C → Prop}

theorem Ordered.append {held middle after : List M} {first second : List (Op M C)}
    (leads : Ordered rank expects held first middle)
    (rest : Ordered rank expects middle second after) :
    Ordered rank expects held (first ++ second) after := by
  induction first generalizing held with
  | nil =>
    obtain rfl : held = middle := leads
    exact rest
  | cons op first ih =>
    cases op with
    | acquire m => exact ⟨leads.1, ih leads.2⟩
    | release m =>
      obtain ⟨below, rfl, leads⟩ := leads
      exact ⟨below, rfl, ih leads⟩
    | call c => exact ⟨leads.1, ih leads.2⟩

/-- Code that gives back what it takes, followed by more of it. -/
theorem Ordered.follows {held : List M} {first second : List (Op M C)}
    (leads : Ordered rank expects held first held)
    (rest : Ordered rank expects held second held) :
    Ordered rank expects held (first ++ second) held :=
  leads.append rest

/-- A scope around ordered code is ordered, above the mutexes that are held. -/
theorem Ordered.locked {held : List M} {m : M} {body : List (Op M C)}
    (above : ∀ h ∈ held, rank h < rank m)
    (inside : Ordered rank expects (m :: held) body (m :: held)) :
    Ordered rank expects held (locked m body) held :=
  ⟨above, inside.append ⟨held, rfl, rfl⟩⟩

theorem Orderly.nests {s : Machine T M C S} (orderly : Orderly rank expects s) {h m : M}
    (nested : s.Nests h m) : rank h < rank m := by
  obtain ⟨t, ⟨rest, wants⟩, holds⟩ := nested
  have ordered := orderly.ordered t
  rw [wants] at ordered
  exact ordered.1 h holds

/-- No thread waits for a mutex of its own. -/
theorem Orderly.not_held {s : Machine T M C S} (orderly : Orderly rank expects s) {t : T}
    {m : M} (wants : s.Wants t m) : m ∉ s.held t := by
  intro holds
  exact Nat.lt_irrefl _ (orderly.nests ⟨t, wants, holds⟩)

/-- A relation that a rank orders has no cycle. -/
theorem acyclic_of_rank {related : M → M → Prop}
    (ranked : ∀ h m, related h m → rank h < rank m) (m : M) :
    ¬ Relation.TransGen related m m := by
  have increases : ∀ {h k}, Relation.TransGen related h k → rank h < rank k := by
    intro h k path
    induction path with
    | single edge => exact ranked _ _ edge
    | tail _ edge ih => exact ih.trans (ranked _ _ edge)
  exact fun cycle => Nat.lt_irrefl _ (increases cycle)

variable [DecidableEq T] [DecidableEq M] [Fintype T]

/-! ## Steps -/

section

variable {exec : Exec M C I S} {good : S → C → Prop} {s s' : Machine T M C S} {t : T}
  {i : I}

/-- The step does not make a call on which the shared state is not good. -/
def GoodCall (good : S → C → Prop) (s : Machine T M C S) (a : T × I) : Prop :=
  ∀ c ∈ s.nextCall a.1, good s.shared c

instance [∀ shared c, Decidable (good shared c)] (s : Machine T M C S) (a : T × I) :
    Decidable (GoodCall good s a) :=
  inferInstanceAs (Decidable (∀ c ∈ s.nextCall a.1, good s.shared c))

omit [DecidableEq M] [Fintype T] in
/-- A thread goes on with ordered code, with mutexes that no other thread holds. -/
theorem Orderly.goesOn (orderly : Orderly rank expects s) {code : List (Op M C)}
    {held : List M} (ordered : Ordered rank expects held code [])
    (own : ∀ m ∈ held, m ∈ s.held t ∨ s.Free m) :
    Orderly rank expects (s.goesOn t code held) where
  ordered := by
    intro u
    by_cases same : u = t
    · subst same
      rwa [Machine.goesOn_code_self, Machine.goesOn_held_self]
    · obtain ⟨sameCode, sameHeld⟩ := Machine.goesOn_of_ne same s code held
      rw [sameCode, sameHeld]
      exact orderly.ordered u
  exclusive := by
    have other :
        ∀ {u m}, u ≠ t → m ∈ held → m ∈ s.held u → False := by
      intro u m apart inside holds
      rcases own m inside with before | free
      · exact apart (orderly.exclusive holds before)
      · exact free u holds
    intro u v m first second
    by_cases uSame : u = t <;> by_cases vSame : v = t
    · rw [uSame, vSame]
    · subst uSame
      rw [Machine.goesOn_held_self] at first
      rw [(Machine.goesOn_of_ne vSame s code held).2] at second
      exact (other vSame first second).elim
    · subst vSame
      rw [(Machine.goesOn_of_ne uSame s code held).2] at first
      rw [Machine.goesOn_held_self] at second
      exact (other uSame second first).elim
    · rw [(Machine.goesOn_of_ne uSame s code held).2] at first
      rw [(Machine.goesOn_of_ne vSame s code held).2] at second
      exact orderly.exclusive first second

/-- What one good step preserves. -/
theorem Orderly.step (discipline : Discipline rank expects exec good)
    (orderly : Orderly rank expects s) (fine : GoodCall good s (t, i))
    (stepped : s.step exec (t, i) = some s') : Orderly rank expects s' := by
  have ordered := orderly.ordered t
  rw [Machine.step] at stepped
  dsimp only at stepped
  split at stepped
  · exact nomatch stepped
  next m rest code =>
    rw [code] at ordered
    split at stepped
    next free =>
      obtain rfl := Option.some.inj stepped
      refine orderly.goesOn ordered.2 fun k holds => ?_
      rcases List.mem_cons.1 holds with rfl | before
      · exact Or.inr free
      · exact Or.inl before
    · exact nomatch stepped
  next m rest code =>
    rw [code] at ordered
    obtain ⟨below, held, ordered⟩ := ordered
    obtain rfl := Option.some.inj stepped
    rw [held, List.erase_cons_head]
    refine orderly.goesOn ordered fun k holds => Or.inl ?_
    rw [held]
    exact List.mem_cons_of_mem m holds
  next c rest code =>
    rw [code] at ordered
    obtain ⟨r, executed, rfl⟩ := Option.map_eq_some_iff.1 stepped
    have body := discipline.ordered ordered.1 (fine c (Machine.nextCall_of_code code)) executed
    have same : Orderly rank expects { s with shared := r.1 } :=
      ⟨orderly.ordered, orderly.exclusive⟩
    exact same.goesOn (body.append ordered.2) fun k holds => Or.inl holds

theorem run_orderly {actions : List (T × I)} (discipline : Discipline rank expects exec good)
    (orderly : Orderly rank expects s)
    (every : EveryStep (Machine.step exec) (GoodCall good) s actions)
    (reached : run (Machine.step exec) s actions = some s') : Orderly rank expects s' :=
  run_invariant (fun _ _ _ before fine stepped => before.step discipline fine stepped)
    actions orderly every reached

/-! ## Nothing waits for ever -/

/-- Some thread that holds a mutex can take a step. -/
def HolderMoves (exec : Exec M C I S) (s : Machine T M C S) : Prop :=
  ∃ t, s.held t ≠ [] ∧ ∀ i, (s.step exec (t, i)).isSome = true

/-- A holder is about to release, to make a call, or to take a mutex of higher rank. -/
theorem Orderly.holderMoves_or_wants (discipline : Discipline rank expects exec good)
    (orderly : Orderly rank expects s) {m : M} (holds : m ∈ s.held t) :
    HolderMoves exec s ∨ ∃ k, s.Wants t k ∧ rank m < rank k := by
  have ordered := orderly.ordered t
  have holder : s.held t ≠ [] := List.ne_nil_of_mem holds
  cases code : s.code t with
  | nil =>
    rw [code] at ordered
    exact absurd ordered holder
  | cons op rest =>
    rw [code] at ordered
    cases op with
    | acquire k => exact Or.inr ⟨k, ⟨rest, code⟩, ordered.1 m holds⟩
    | release k =>
      refine Or.inl ⟨t, holder, fun i => ?_⟩
      simp only [Machine.step, code, Option.isSome_some]
    | call c =>
      refine Or.inl ⟨t, holder, fun i => ?_⟩
      simpa only [Machine.step, code, Option.isSome_map] using
        discipline.ready ordered.1 holder

/-- By induction on how far the mutex is from the highest rank: its holder moves, or
waits for a mutex of higher rank. -/
theorem Orderly.holderMoves (discipline : Discipline rank expects exec good)
    (orderly : Orderly rank expects s) {bound : Nat} (bounded : ∀ m, rank m < bound) :
    ∀ (left : Nat) {m : M}, bound - rank m ≤ left → ¬ s.Free m → HolderMoves exec s := by
  intro left
  induction left with
  | zero =>
    intro m near _
    exact absurd (bounded m) (by omega)
  | succ left inductionHypothesis =>
    intro m near taken
    obtain ⟨t, holds⟩ : ∃ t, m ∈ s.held t := by
      by_contra free
      exact taken fun t holds => free ⟨t, holds⟩
    rcases orderly.holderMoves_or_wants discipline holds with moves | ⟨k, wants, higher⟩
    · exact moves
    · by_cases free : s.Free k
      · refine ⟨t, List.ne_nil_of_mem holds, fun i => ?_⟩
        rcases wants with ⟨rest, code⟩
        simp only [Machine.step, code, if_pos free, Option.isSome_some]
      · have below := bounded k
        exact inductionHypothesis (by omega) free

/-! ## A thread that waits for itself -/

/-- A thread that waits for a mutex of its own has taken its last step. -/
theorem step_of_wants_held {m : M} (wants : s.Wants t m) (holds : m ∈ s.held t) :
    s.step exec (t, i) = none := by
  obtain ⟨rest, code⟩ := wants
  have taken : ¬ s.Free m := fun free => free t holds
  simp only [Machine.step, code, if_neg taken]

theorem step_others {u : T} (other : u ≠ t) (stepped : s.step exec (t, i) = some s') :
    s'.code u = s.code u ∧ s'.held u = s.held u := by
  rw [Machine.step] at stepped
  dsimp only at stepped
  split at stepped
  · exact nomatch stepped
  · split at stepped
    · obtain rfl := Option.some.inj stepped
      exact Machine.goesOn_of_ne other s _ _
    · exact nomatch stepped
  · obtain rfl := Option.some.inj stepped
    exact Machine.goesOn_of_ne other s _ _
  · obtain ⟨r, _, rfl⟩ := Option.map_eq_some_iff.1 stepped
    exact Machine.goesOn_of_ne other { s with shared := r.1 } _ _

/-- It waits for ever. -/
theorem run_of_wants_held {actions : List (T × I)} {m : M}
    (stuck : s.Wants t m ∧ m ∈ s.held t)
    (reached : run (Machine.step exec) s actions = some s') :
    s'.Wants t m ∧ m ∈ s'.held t := by
  refine
    @run_preserves _ _ _ (fun s : Machine T M C S => s.Wants t m ∧ m ∈ s.held t) ?_ actions s s' stuck
      reached
  rintro s ⟨u, i⟩ s' ⟨wants, holds⟩ stepped
  have other : t ≠ u := by
    rintro rfl
    rw [step_of_wants_held wants holds] at stepped
    exact nomatch stepped
  obtain ⟨code, held⟩ := step_others other stepped
  rw [Machine.Wants, code, held]
  exact ⟨wants, holds⟩

end

end AudioRouter.LockOrder
