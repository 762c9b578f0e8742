import Mathlib.Data.List.Basic
import Mathlib.Order.MinMax
import AudioRouter.Lib.Transition

/-!
# The playhead of a stream of numbered packets

A playhead goes through the numbers one by one.  A number is played or shed, in one or
several parts, or it is lost, and silence is put in its place.  When nothing is there
the playhead runs dry, and it waits until enough is there again.

The place of a playhead says which of these events can come next.  Where all silence for
a lost number is of one length, the silence between two packets tells how many numbers
lie between them.
-/

namespace AudioRouter.Playhead

open Transition

variable {σ : Type}

/-- What happens at the playhead, with the samples that are put out. -/
inductive Event (σ : Type) where
  /-- A part of a packet is put out; it may be the last one. -/
  | played (number : Nat) (samples : List σ) (last : Bool)
  /-- Frames of silence for a missing number, when so many were wanted. -/
  | lost (number wanted frames : Nat) (samples : List σ)
  | dry (frames : Nat) (samples : List σ)
  | waiting (frames : Nat) (samples : List σ)
  /-- A part of a packet is dropped. -/
  | shed (number : Nat) (last : Bool)
  /-- A missing number is passed over without any silence. -/
  | skipped (number : Nat)
  | restarted (number : Nat)
  /-- Enough is there, and the wait is over. -/
  | filled
  deriving DecidableEq, Repr

namespace Event

def samples : Event σ → List σ
  | .played _ samples _ => samples
  | .lost _ _ _ samples => samples
  | .dry _ samples => samples
  | .waiting _ samples => samples
  | _ => []

/-- Frames of silence that are put out. -/
def silence : Event σ → Nat
  | .lost _ _ frames _ => frames
  | .dry frames _ => frames
  | .waiting frames _ => frames
  | _ => 0

def isLost : Event σ → Bool
  | .lost _ _ _ _ => true
  | _ => false

/-- Frames of silence in a stretch of events. -/
def totalSilence : List (Event σ) → Nat
  | [] => 0
  | event :: events => event.silence + totalSilence events

end Event

/-- The number at the playhead; whether a part of its packet is through already; and
whether the playhead waits. -/
structure Place where
  number : Nat
  inside : Bool
  buffering : Bool
  deriving DecidableEq, Repr

namespace Place

/-- A part of the packet at the playhead is through. -/
def pass (p : Place) (last : Bool) : Place :=
  if last then { p with number := p.number + 1, inside := false }
  else { p with inside := true }

/-- The playhead moves on; `none` where an event cannot come next. -/
def step (p : Place) : Event σ → Option Place
  | .played number _ last =>
      if p.buffering = false ∧ p.number = number then some (p.pass last) else none
  | .lost number _ _ _ =>
      if p.buffering = false ∧ p.number = number ∧ p.inside = false then
        some { p with number := p.number + 1 }
      else none
  | .dry _ _ =>
      if p.buffering = false ∧ p.inside = false then some { p with buffering := true }
      else none
  | .waiting _ _ => if p.buffering = true then some p else none
  | .shed number last =>
      if p.buffering = false ∧ p.number = number then some (p.pass last) else none
  | .skipped _ => none
  | .restarted number => some { number := number, inside := false, buffering := true }
  | .filled => if p.buffering = true then some { p with buffering := false } else none

end Place

/-! ## Between two packets -/

/-- The event belongs to a stretch from number `a` to number `b` in which every number
between the two is missing: nothing is put out but silence, the playhead does not run dry
or start anew, and only parts of the two packets themselves are dropped. -/
def Event.OnlyMissing (a b : Nat) : Event σ → Prop
  | .played _ _ _ => False
  | .dry _ _ => False
  | .restarted _ => False
  | .shed number _ => number ≤ a ∨ b ≤ number
  | _ => True

/-- The silence for a lost number is so many frames of zeros. -/
def Event.Conceals [Zero σ] (frames channels : Nat) : Event σ → Prop
  | .lost _ _ silence samples =>
      silence = frames ∧ samples = List.replicate (frames * channels) 0
  | _ => True

/-- A place on the way from number `a` to number `b`, with `gone` numbers between the two
passed, or one that is too far for `b` to come. -/
def Between (a b : Nat) (p : Place) (gone : Nat) : Prop :=
  p.buffering = false ∧
    (p.number = a ∧ p.inside = true ∧ gone = 0 ∨
      a < p.number ∧ p.number ≤ b ∧ (p.inside = true → p.number = b) ∧
        a + 1 + gone = p.number ∨
      b < p.number)

theorem Between.start {a b : Nat} (before : a < b) {p q : Place} {samples : List σ}
    {last : Bool} (played : p.step (.played a samples last) = some q) : Between a b q 0 := by
  simp only [Place.step, Option.ite_none_right_eq_some, Option.some.injEq] at played
  rcases played with ⟨⟨playing, rfl⟩, rfl⟩
  cases last with
  | true =>
    refine ⟨playing, Or.inr (Or.inl ?_)⟩
    simp only [Place.pass, if_true]
    exact ⟨Nat.lt_succ_self _, before, Bool.noConfusion, trivial⟩
  | false =>
    refine ⟨playing, Or.inl ?_⟩
    simp [Place.pass]

/-- Each event of such a stretch passes one number with its silence, or none without. -/
theorem Between.step [Zero σ] {a b frames channels gone : Nat} (before : a < b)
    {p q : Place} {event : Event σ} (between : Between a b p gone)
    (missing : event.OnlyMissing a b) (conceals : event.Conceals frames channels)
    (next : p.step event = some q) :
    ∃ n, Between a b q (gone + n) ∧ event.silence = n * frames ∧
      event.samples = List.replicate (n * (frames * channels)) 0 := by
  rcases between with ⟨playing, placed⟩
  cases event with
  | played number samples last => exact missing.elim
  | lost number wanted silence samples =>
    simp only [Place.step, Option.ite_none_right_eq_some, Option.some.injEq] at next
    rcases next with ⟨⟨-, -, outside⟩, rfl⟩
    rcases conceals with ⟨rfl, rfl⟩
    refine ⟨1, ⟨playing, ?_⟩, (Nat.one_mul _).symm, by rw [Nat.one_mul]; rfl⟩
    dsimp only
    rw [outside] at placed ⊢
    simp only [Bool.false_eq_true, false_and, and_false, false_or, false_implies,
      true_and] at placed ⊢
    omega
  | dry silence samples => exact missing.elim
  | waiting silence samples =>
    simp [Place.step, playing] at next
  | shed number last =>
    simp only [Place.step, Option.ite_none_right_eq_some, Option.some.injEq] at next
    rcases next with ⟨⟨-, rfl⟩, rfl⟩
    refine ⟨0, ?_, (Nat.zero_mul _).symm, by rw [Nat.zero_mul]; rfl⟩
    change p.number ≤ a ∨ b ≤ p.number at missing
    cases last with
    | true =>
      refine ⟨playing, ?_⟩
      simp only [Place.pass, if_true, Bool.false_eq_true, false_and, and_false, false_or,
        false_implies, true_and]
      omega
    | false =>
      refine ⟨playing, ?_⟩
      simp only [Place.pass, Bool.false_eq_true, if_false, true_and, true_implies]
      omega
  | skipped number => simp [Place.step] at next
  | restarted number => exact missing.elim
  | filled => simp [Place.step, playing] at next

theorem Between.run [Zero σ] {a b frames channels : Nat} (before : a < b) :
    ∀ (events : List (Event σ)) {p q : Place} {gone : Nat}, Between a b p gone →
      (∀ event ∈ events, event.OnlyMissing a b) →
      (∀ event ∈ events, event.Conceals frames channels) →
      Transition.run Place.step p events = some q →
        ∃ n, Between a b q (gone + n) ∧ Event.totalSilence events = n * frames ∧
          events.flatMap Event.samples = List.replicate (n * (frames * channels)) 0 := by
  intro events
  induction events with
  | nil =>
    intro p q gone between _ _ reached
    obtain rfl := Option.some.inj reached
    exact ⟨0, between, (Nat.zero_mul _).symm, by simp⟩
  | cons event events inductionHypothesis =>
    intro p q gone between missing conceals reached
    rcases run_cons_eq_some.1 reached with ⟨r, first, rest⟩
    rw [List.forall_mem_cons] at missing conceals
    rcases between.step before missing.1 conceals.1 first with ⟨m, next, frames, samples⟩
    rcases inductionHypothesis next missing.2 conceals.2 rest with ⟨n, ends, total, all⟩
    refine ⟨m + n, ?_, ?_, ?_⟩
    · rwa [← Nat.add_assoc]
    · rw [Event.totalSilence, frames, total, Nat.add_mul]
    · rw [List.flatMap_cons, samples, all, Nat.add_mul, List.replicate_add]

/-- The events keep time: the silence for each lost number has the length of a packet, and
so between two packets with missing ones only in between there is silence for each of
these and no other. -/
structure KeepsTime [Zero σ] (frames channels : Nat) (events : List (Event σ)) : Prop where
  conceals : ∀ event ∈ events, event.Conceals frames channels
  between :
    ∀ (earlier between later : List (Event σ)) (a b : Nat) (s t : List σ) (last final : Bool),
      events = earlier ++ .played a s last :: (between ++ .played b t final :: later) →
        a < b → (∀ event ∈ between, event.OnlyMissing a b) →
          Event.totalSilence between = (b - a - 1) * frames ∧
            between.flatMap Event.samples =
              List.replicate ((b - a - 1) * (frames * channels)) 0

/-- On the way of a playhead the length of each single silence is all that matters. -/
theorem keepsTime_iff [Zero σ] {frames channels : Nat} {events : List (Event σ)}
    {start finish : Place} (reached : Transition.run Place.step start events = some finish) :
    KeepsTime frames channels events ↔ ∀ event ∈ events, event.Conceals frames channels := by
  constructor
  · exact KeepsTime.conceals
  · intro conceals
    refine ⟨conceals, ?_⟩
    rintro earlier between later a b s t last final rfl before missing
    rcases run_append_eq_some.1 reached with ⟨p, -, fromFirst⟩
    rcases run_cons_eq_some.1 fromFirst with ⟨q, first, fromBetween⟩
    rcases run_append_eq_some.1 fromBetween with ⟨r, passed, fromSecond⟩
    rcases run_cons_eq_some.1 fromSecond with ⟨_, second, -⟩
    have concealsBetween : ∀ event ∈ between, event.Conceals frames channels := by
      intro event inside
      apply conceals
      simp [inside]
    rcases (Between.start before first).run before between missing concealsBetween passed with
      ⟨n, ⟨-, there⟩, silence, samples⟩
    have arrived : r.number = b := by
      simp only [Place.step, Option.ite_none_right_eq_some] at second
      exact second.1.2
    obtain rfl : n = b - a - 1 := by omega
    exact ⟨silence, samples⟩

/-! ## Silence that is cut off -/

/-- The silence for a lost number is as long as a packet or as what was wanted. -/
def Event.Shortened [Zero σ] (frames channels : Nat) : Event σ → Prop
  | .lost _ wanted silence samples =>
      silence = min wanted frames ∧ samples = List.replicate (silence * channels) 0
  | _ => True

/-- At a lost number the frames of a packet are wanted. -/
def Event.Wants (frames : Nat) : Event σ → Prop
  | .lost _ wanted _ _ => frames ≤ wanted
  | _ => True

instance (frames : Nat) : ∀ event : Event σ, Decidable (event.Wants frames)
  | .lost _ wanted _ _ => inferInstanceAs (Decidable (frames ≤ wanted))
  | .played _ _ _ => isTrue trivial
  | .dry _ _ => isTrue trivial
  | .waiting _ _ => isTrue trivial
  | .shed _ _ => isTrue trivial
  | .skipped _ => isTrue trivial
  | .restarted _ => isTrue trivial
  | .filled => isTrue trivial

theorem Event.Shortened.conceals_iff [Zero σ] {frames channels : Nat} {event : Event σ}
    (shortened : event.Shortened frames channels) :
    event.Conceals frames channels ↔ event.Wants frames := by
  cases event with
  | lost number wanted silence samples =>
    rcases shortened with ⟨rfl, rfl⟩
    constructor
    · rintro ⟨whole, -⟩
      exact min_eq_right_iff.1 whole
    · intro enough
      have whole : min wanted frames = frames := Nat.min_eq_right enough
      exact ⟨whole, by rw [whole]⟩
  | played _ _ _ => exact Iff.rfl
  | dry _ _ => exact Iff.rfl
  | waiting _ _ => exact Iff.rfl
  | shed _ _ => exact Iff.rfl
  | skipped _ => exact Iff.rfl
  | restarted _ => exact Iff.rfl
  | filled => exact Iff.rfl

/-- Where silence is cut off by what is wanted only, the events keep time if and only if
nothing is cut off. -/
theorem keepsTime_iff_wants [Zero σ] {frames channels : Nat} {events : List (Event σ)}
    {start finish : Place} (reached : Transition.run Place.step start events = some finish)
    (shortened : ∀ event ∈ events, event.Shortened frames channels) :
    KeepsTime frames channels events ↔ ∀ event ∈ events, event.Wants frames := by
  rw [keepsTime_iff reached]
  apply forall₂_congr
  intro event inside
  exact (shortened event inside).conceals_iff

end AudioRouter.Playhead
