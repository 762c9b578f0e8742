import AudioRouter.TermuxPlayer.Threads

/-!
# The handoff of a segment

The recorder changes `pending_` under `handoff_mutex_` and notifies behind it, so no handoff
is lost on the issuer: a segment that has been handed over is taken, or a later one in its
place, unless the recorder flushes or the player is closed.
-/

namespace AudioRouter

namespace TermuxApiPlayer

open Transition ConditionVariable

/-! ## What the recorder leaves to the issuer -/

/-- A step that the issuer does not see. -/
structure Beside (s t : TermuxApiPlayer) : Prop where
  issuer : t.issuer = s.issuer
  stopIssuer : t.stopIssuer = s.stopIssuer
  pending : t.pending = s.pending
  segIndex : s.segIndex ≤ t.segIndex

section

variable {s t : TermuxApiPlayer}

theorem openNextSegment_beside (s : TermuxApiPlayer) (openOk : Bool) (frames : Option Nat) :
    Beside s (s.openNextSegment openOk frames) := by
  cases openOk <;> exact ⟨rfl, rfl, rfl, Nat.le_succ _⟩

theorem sizeSegment_beside (s : TermuxApiPlayer) (sizeOk : Bool) (nowMs : Millis)
    (frames : Option Nat) : Beside s (s.sizeSegment sizeOk nowMs frames) := by
  cases sizeOk <;> exact ⟨rfl, rfl, rfl, Nat.le_refl _⟩

theorem discardRecorded_beside (s : TermuxApiPlayer) (nowMs : Millis) :
    Beside s (s.discardRecorded nowMs) := by
  unfold discardRecorded
  split <;> exact ⟨rfl, rfl, rfl, Nat.le_refl _⟩

theorem writeFrames_beside (s : TermuxApiPlayer) (numFrames : Nat) (openOk : Bool) :
    Beside s (s.writeFrames numFrames openOk) := by
  unfold writeFrames
  split_ifs
  · exact ⟨rfl, rfl, rfl, Nat.le_refl _⟩
  · exact ⟨rfl, rfl, rfl, Nat.le_refl _⟩
  · exact ⟨rfl, rfl, rfl, Nat.le_refl _⟩
  · exact openNextSegment_beside s openOk _
  · exact ⟨rfl, rfl, rfl, Nat.le_refl _⟩

theorem finalizeSegment_cases (s : TermuxApiPlayer) :
    s.finalizeSegment.segIssued = true ∧
        (∃ path, s.finalizeSegment =
          { s with segIssued := true, pending := some ⟨path, s.segFrames, s.segIndex⟩ }) ∨
      s.finalizeSegment = s := by
  unfold finalizeSegment
  split
  · exact Or.inl ⟨rfl, _, rfl⟩
  · exact Or.inr rfl

/-- A step of the recorder hands the segment over, takes back what is pending, or is not
seen. -/
theorem recordStep_cases {os : Os} (stepped : s.recordStep os = some t) :
    (s.hands os.nowMs = true ∧ t.issuer = s.issuer ∧ t.stopIssuer = s.stopIssuer ∧
        t.segIndex = s.segIndex ∧ ∃ job, t.pending = some job ∧ job.segIndex = s.segIndex) ∨
      (s.recorder = .flushing ∧ t = { s with pending := none, recorder := .idle }) ∨
        s.hands os.nowMs = false ∧ s.recorder ≠ .flushing ∧ Beside s t := by
  unfold recordStep at stepped
  split at stepped
  · cases stepped
  next frames sizing =>
    cases stepped
    exact Or.inr (Or.inr ⟨by simp [hands, sizing], by simp [sizing], sizeSegment_beside s _ _ _⟩)
  next numFrames writing =>
    cases stepped
    refine Or.inr (Or.inr ⟨by simp [hands, writing], by simp [writing], ?_⟩)
    split <;> exact ⟨rfl, rfl, rfl, Nat.le_refl _⟩
  next deciding =>
    cases stepped
    by_cases ready : (!s.segIssued && s.segmentReady os.nowMs) = true
    · rw [if_pos ready]
      have unissued : s.segIssued = false := by simpa using (Bool.and_eq_true_iff.1 ready).1
      rcases s.finalizeSegment_cases with ⟨issued, path, handed⟩ | same
      · refine Or.inl ⟨?_, ?_⟩
        · rw [hands, deciding, ready, issued]
          rfl
        · rw [handed]
          exact ⟨rfl, rfl, rfl, _, rfl, rfl⟩
      · rw [same]
        refine Or.inr (Or.inr ⟨?_, by simp [deciding], ⟨rfl, rfl, rfl, Nat.le_refl _⟩⟩)
        rw [hands, same, unissued, Bool.and_false, Bool.and_false]
    · rw [if_neg ready]
      refine Or.inr (Or.inr ⟨?_, by simp [deciding], ⟨rfl, rfl, rfl, Nat.le_refl _⟩⟩)
      rw [hands, Bool.eq_false_iff.2 ready, Bool.false_and, Bool.and_false]
  next rotating =>
    cases stepped
    refine Or.inr (Or.inr ⟨by simp [hands, rotating], by simp [rotating], ?_⟩)
    split
    · exact openNextSegment_beside s os.ok none
    · exact ⟨rfl, rfl, rfl, Nat.le_refl _⟩
  next flushing =>
    cases stepped
    exact Or.inr (Or.inl ⟨flushing, rfl⟩)

/-- A recorder that is inside of a call can go on. -/
theorem recordStep_isSome (os : Os) (busy : s.recorder ≠ .idle) : (s.recordStep os).isSome := by
  unfold recordStep
  cases place : s.recorder with
  | idle => exact absurd place busy
  | sizing frames | writing numFrames => rfl
  | deciding | rotating | flushing => rfl

/-! ## What the issuer does -/

/-- How many steps of its own the issuer is away from its next wait. -/
def IssuerPc.left : IssuerPc → Nat
  | .commanding _ => 2
  | .truncating _ | .failed => 1
  | .waiting | .returned => 0

/-- A step of the issuer at its work. -/
theorem issueStep_works {outcome : Outcome} {nowMs : Millis} (works : s.issuer ≠ .waiting)
    (stepped : s.issueStep outcome nowMs = some t) :
    t.stopIssuer = s.stopIssuer ∧ t.pending = s.pending ∧ s.segIndex ≤ t.segIndex ∧
      t.issuer.left + 1 ≤ s.issuer.left ∧ t.issuer ≠ .returned := by
  unfold issueStep at stepped
  split at stepped
  · contradiction
  next job place =>
    cases stepped
    rw [place]
    cases outcome <;> exact ⟨rfl, rfl, Nat.le_refl _, by simp [IssuerPc.left], by simp⟩
  next job place =>
    cases stepped
    rw [confirmPlay_eq, place]
    exact ⟨rfl, rfl, Nat.le_refl _, by simp [IssuerPc.left], by simp⟩
  next place =>
    split at stepped <;> cases stepped
    have beside := discardRecorded_beside s nowMs
    rw [place]
    exact ⟨beside.stopIssuer, beside.pending, beside.segIndex, by simp [IssuerPc.left], by simp⟩
  · cases stepped

end

namespace Threads

section

variable {s t : Threads} {a : Action}

theorem act_eq {action : TermuxApiPlayer.Action} (acted : s.act action = some t) :
    ∃ player, s.player.step action = some player ∧ t = { s with player := player } := by
  obtain ⟨player, stepped, rfl⟩ := Option.map_eq_some_iff.1 acted
  exact ⟨player, stepped, rfl⟩

/-- What a step of the issuer does. -/
inductive Issues (s t : Threads) : Prop where
  | waits (wait : Wait) (place : s.player.issuer = .waiting)
      (moves : s.wait.step s.ready = some wait) (result : t = { s with wait := wait })
  | returns (place : s.player.issuer = .waiting) (passed : s.wait = .passed)
      (stop : s.player.stopIssuer = true)
      (result : t = { s with player := { s.player with issuer := .returned }, wait := .locking })
  | takes (job : PendingSegment) (place : s.player.issuer = .waiting) (passed : s.wait = .passed)
      (stop : s.player.stopIssuer = false) (pending : s.player.pending = some job)
      (result :
        t =
          { s with
            player := { s.player with pending := none, issuer := .commanding job }
            wait := .locking })
  | works (player : TermuxApiPlayer) (place : s.player.issuer ≠ .waiting)
      (stopIssuer : player.stopIssuer = s.player.stopIssuer)
      (pending : player.pending = s.player.pending)
      (segIndex : s.player.segIndex ≤ player.segIndex)
      (left : player.issuer.left + 1 ≤ s.player.issuer.left)
      (stays : player.issuer ≠ .returned) (result : t = { s with player := player })

theorem issueStep_cases {outcome : Outcome} {nowMs : Millis}
    (stepped : s.issueStep outcome nowMs = some t) : Issues s t := by
  unfold issueStep at stepped
  split at stepped
  next place passed =>
    obtain ⟨u, acted, rfl⟩ := Option.map_eq_some_iff.1 stepped
    obtain ⟨player, moved, rfl⟩ := act_eq acted
    simp only [TermuxApiPlayer.step, TermuxApiPlayer.issueStep, place] at moved
    split at moved
    next stop =>
      cases moved
      exact .returns place passed stop rfl
    next running =>
      split at moved
      · cases moved
      next job pending =>
        cases moved
        exact .takes job place passed (by simpa using running) pending rfl
  next place _ =>
    obtain ⟨wait, moves, rfl⟩ := Option.map_eq_some_iff.1 stepped
    exact .waits wait place moves rfl
  next works _ =>
    obtain ⟨player, moved, rfl⟩ := act_eq stepped
    rcases issueStep_works works moved with ⟨stopIssuer, pending, segIndex, left, stays⟩
    exact .works player works stopIssuer pending segIndex left stays rfl

/-! ## One step of the threads -/

/-- What the issuer does not see of a step. -/
structure Aside (s t : Threads) : Prop where
  player : Beside s.player t.player
  wait : t.wait = s.wait
  notifying : t.notifying = s.notifying
  stopWatchdog : t.stopWatchdog = s.stopWatchdog
  closing : t.closing = s.closing

theorem act_aside {action : TermuxApiPlayer.Action} (acted : s.act action = some t)
    (beside : ∀ player, s.player.step action = some player → Beside s.player player) :
    Aside s t ∧ t.watchdog = s.watchdog := by
  obtain ⟨player, stepped, rfl⟩ := act_eq acted
  exact ⟨⟨beside player stepped, rfl, rfl, rfl, rfl⟩, rfl⟩

theorem watchStep_aside {news : News} {nowMs : Millis}
    (stepped : s.watchStep news nowMs = some t) : Aside s t := by
  have same : Beside s.player s.player := ⟨rfl, rfl, rfl, Nat.le_refl _⟩
  unfold watchStep at stepped
  cases place : s.watchdog with
  | recovering =>
    simp only [place] at stepped
    obtain ⟨u, acted, rfl⟩ := Option.map_eq_some_iff.1 stepped
    obtain ⟨player, moved, rfl⟩ := act_eq acted
    simp only [TermuxApiPlayer.step] at moved
    split at moved <;> cases moved
    exact ⟨discardRecorded_beside s.player nowMs, rfl, rfl, rfl, rfl⟩
  | ended => simp [place] at stepped
  | testing | sleeping | awake | asking | resuming =>
    simp only [place] at stepped
    cases stepped
    exact ⟨same, rfl, rfl, rfl, rfl⟩

/-- What a step of `close()` does. -/
inductive Closes (s t : Threads) : Prop where
  | storesStopWatchdog (place : s.closing = .storeStopWatchdog)
      (result : t = { s with stopWatchdog := true, closing := .joinWatchdog })
  | joinsWatchdog (place : s.closing = .joinWatchdog) (ended : s.watchdog = .ended)
      (result : t = { s with closing := .storeStopIssuer })
  | storesStopIssuer (place : s.closing = .storeStopIssuer)
      (result :
        t = { s with player := { s.player with stopIssuer := true }, closing := .notifyAll })
  | notifies (place : s.closing = .notifyAll)
      (result : t = { s with wait := s.wait.wake, closing := .joinIssuer })
  | joinsIssuer (place : s.closing = .joinIssuer) (returned : s.player.issuer = .returned)
      (result : t = { s with closing := .cleanUp })
  | cleansUp (player : TermuxApiPlayer) (place : s.closing = .cleanUp)
      (returned : s.player.issuer = .returned) (issuer : player.issuer = .returned)
      (stopIssuer : player.stopIssuer = s.player.stopIssuer) (pending : player.pending = none)
      (result : t = { s with player := player, closing := .returned })

theorem closeStep_cases (stepped : s.closeStep = some t) : Closes s t := by
  unfold closeStep at stepped
  split at stepped
  next place =>
    cases stepped
    exact .storesStopWatchdog place rfl
  next place =>
    split at stepped <;> cases stepped
    next ended => exact .joinsWatchdog place ended rfl
  next place =>
    cases stepped
    exact .storesStopIssuer place rfl
  next place =>
    cases stepped
    exact .notifies place rfl
  next place =>
    split at stepped <;> cases stepped
    next returned => exact .joinsIssuer place returned rfl
  next place =>
    obtain ⟨u, acted, rfl⟩ := Option.map_eq_some_iff.1 stepped
    obtain ⟨player, moved, rfl⟩ := act_eq acted
    simp only [TermuxApiPlayer.step] at moved
    split at moved <;> cases moved
    next free =>
      refine .cleansUp _ place free.2 ?_ ?_ ?_ rfl
      · exact free.2
      · rfl
      · rfl
  · cases stepped

/-- A step of the issuer. -/
def Action.isIssue : Action → Bool
  | .issue _ _ => true
  | _ => false

/-- What a step does. -/
inductive Does (s t : Threads) : Action → Prop where
  | aside {a : Action} (aside : Aside s t) (own : a.isIssue = false) (closes : a ≠ .close)
      (watchdog : t.watchdog = s.watchdog ∨ ∃ news nowMs, a = .watch news nowMs) : Does s t a
  | hands {os : Os} (player : TermuxApiPlayer) (job : PendingSegment)
      (quiet : s.notifying = false) (free : s.wait.holds = false)
      (issuer : player.issuer = s.player.issuer)
      (stopIssuer : player.stopIssuer = s.player.stopIssuer)
      (segIndex : player.segIndex = s.player.segIndex) (pending : player.pending = some job)
      (index : job.segIndex = s.player.segIndex)
      (result : t = { s with player := player, notifying := true }) : Does s t (.record os)
  | takesBack {os : Os} (flushing : s.player.recorder = .flushing) (free : s.wait.holds = false)
      (quiet : s.notifying = false)
      (result : t = { s with player := { s.player with pending := none, recorder := .idle } }) :
      Does s t (.record os)
  | notifies (owed : s.notifying = true)
      (result : t = { s with wait := s.wait.wake, notifying := false }) : Does s t .notify
  | issues {outcome : Outcome} {nowMs : Millis} (issues : Issues s t) :
      Does s t (.issue outcome nowMs)
  | closes (closes : Closes s t) : Does s t .close
  | wakes (asleep : s.wait = .asleep) (result : t = { s with wait := .locking }) :
      Does s t .spurious

theorem recordStep_does {os : Os} (stepped : s.recordStep os = some t) :
    Does s t (.record os) := by
  unfold recordStep at stepped
  split at stepped
  · cases stepped
  next allowed =>
    rw [not_or, Bool.not_eq_true, not_and, Bool.not_eq_true] at allowed
    obtain ⟨u, acted, rfl⟩ := Option.map_eq_some_iff.1 stepped
    obtain ⟨player, moved, rfl⟩ := act_eq acted
    have free (locks : s.player.locksHandoff os.nowMs = true) : s.wait.holds = false :=
      allowed.2 locks
    rcases recordStep_cases moved with ⟨hands, issuer, stopIssuer, segIndex, job, pending, index⟩ |
      ⟨flushing, rfl⟩ | ⟨keeps, -, beside⟩
    · refine .hands player job allowed.1 (free ?_) issuer stopIssuer segIndex pending index ?_
      · rw [locksHandoff, hands, Bool.true_or]
      · rw [hands]
    · refine .takesBack flushing (free ?_) allowed.1 ?_
      · rw [locksHandoff, flushing]
        simp
      · have keeps : s.player.hands os.nowMs = false := by simp [TermuxApiPlayer.hands, flushing]
        rw [keeps, ← allowed.1]
    · refine .aside ⟨beside, rfl, ?_, rfl, rfl⟩ rfl (by simp) (Or.inl rfl)
      exact keeps.trans allowed.1.symm

theorem step_does (stepped : s.step a = some t) : Does s t a := by
  cases a with
  | writeFrames numFrames openOk =>
    rcases act_aside stepped (by
      intro player moved
      simp only [TermuxApiPlayer.step] at moved
      split at moved <;> cases moved
      exact writeFrames_beside s.player numFrames openOk) with ⟨aside, watchdog⟩
    exact .aside aside rfl (by simp) (Or.inl watchdog)
  | flush nowMs =>
    rcases act_aside stepped (by
      intro player moved
      simp only [TermuxApiPlayer.step] at moved
      split at moved <;> cases moved
      have beside := discardRecorded_beside s.player nowMs
      split
      · exact ⟨beside.issuer, beside.stopIssuer, beside.pending, beside.segIndex⟩
      · exact ⟨rfl, rfl, rfl, Nat.le_refl _⟩) with ⟨aside, watchdog⟩
    exact .aside aside rfl (by simp) (Or.inl watchdog)
  | record os => exact recordStep_does stepped
  | notify =>
    obtain ⟨owed, equal⟩ := Option.ite_none_right_eq_some.1 stepped
    exact .notifies owed (Option.some.inj equal).symm
  | issue outcome nowMs => exact .issues (issueStep_cases stepped)
  | watch news nowMs =>
    exact .aside (watchStep_aside stepped) rfl (by simp) (Or.inr ⟨news, nowMs, rfl⟩)
  | close => exact .closes (closeStep_cases stepped)
  | spurious =>
    obtain ⟨asleep, equal⟩ := Option.ite_none_right_eq_some.1 stepped
    exact .wakes asleep (Option.some.inj equal).symm

/-! ## What holds in every state -/

/-- The issuer waits with the mutex in its hands and with what it has seen under it, and
`close()` has done what lies behind it. -/
structure Orderly (s : Threads) : Prop where
  outside : s.player.issuer ≠ .waiting → s.wait = .locking
  leaving : s.wait = .leaving → s.player.pending = none
  passed : s.wait = .passed → s.ready = true
  requested : s.player.stopIssuer = true ↔ 3 ≤ s.closing.phase
  stopWatchdog : s.stopWatchdog = true ↔ 1 ≤ s.closing.phase
  watchdog : 2 ≤ s.closing.phase → s.watchdog = .ended
  stopped : s.player.issuer = .returned → s.player.stopIssuer = true
  joined : 5 ≤ s.closing.phase → s.player.issuer = .returned

theorem opened_orderly (config : AudioConfig) (requested : Option Int) (resultChannel : Bool) :
    (opened config requested resultChannel).Orderly where
  outside := fun _ => rfl
  leaving := nofun
  passed := nofun
  requested := by simp [opened, openedPlayer, CloseStep.phase]
  stopWatchdog := by simp [opened, CloseStep.phase]
  watchdog := by simp [opened, CloseStep.phase]
  stopped := nofun
  joined := by simp [opened, CloseStep.phase]

theorem Aside.ready (aside : Aside s t) : t.ready = s.ready := by
  rw [Threads.ready, Threads.ready, aside.player.stopIssuer, aside.player.pending]

/-- A thread that holds the mutex is waiting. -/
theorem Orderly.waiting (orderly : s.Orderly) (inside : s.wait ≠ .locking) :
    s.player.issuer = .waiting :=
  by_contra fun works => inside (orderly.outside works)

theorem Orderly.issues (orderly : s.Orderly) (issues : Issues s t) : t.Orderly := by
  cases issues with
  | waits wait place moves result =>
    subst result
    refine ⟨fun works => absurd place works, ?_, ?_, orderly.requested, orderly.stopWatchdog,
      orderly.watchdog, orderly.stopped, orderly.joined⟩
    · intro leaving
      cases from_ : s.wait with
      | testing =>
        rw [from_] at moves
        cases ready : s.ready with
        | true => simp_all [Wait.step]
        | false =>
          rw [Threads.ready, Bool.or_eq_false_iff] at ready
          simpa using ready.2
      | _ => simp_all [Wait.step]
    · intro passed
      cases from_ : s.wait with
      | testing =>
        rw [from_] at moves
        cases ready : s.ready with
        | true => exact ready
        | false => simp_all [Wait.step]
      | _ => simp_all [Wait.step]
  | returns place passed stop result =>
    subst result
    exact ⟨fun _ => rfl, nofun, nofun, orderly.requested, orderly.stopWatchdog, orderly.watchdog,
      fun _ => stop, fun _ => rfl⟩
  | takes job place passed stop pending result =>
    subst result
    refine ⟨fun _ => rfl, nofun, nofun, orderly.requested, orderly.stopWatchdog, orderly.watchdog,
      nofun, fun late => ?_⟩
    rw [orderly.joined late] at place
    cases place
  | works player place stopIssuer pending segIndex left stays result =>
    subst result
    have outside := orderly.outside place
    refine ⟨fun _ => outside, ?_, ?_, ?_, orderly.stopWatchdog, orderly.watchdog,
      fun returned => absurd returned stays, fun late => ?_⟩
    · intro leaving
      rw [outside] at leaving
      cases leaving
    · intro passed
      rw [outside] at passed
      cases passed
    · rw [stopIssuer]
      exact orderly.requested
    · rw [orderly.joined late] at left
      simp [IssuerPc.left] at left

theorem Orderly.closes (orderly : s.Orderly) (closes : Closes s t) : t.Orderly := by
  have requested := orderly.requested
  have stopWatchdog := orderly.stopWatchdog
  cases closes with
  | storesStopWatchdog place result =>
    subst result
    rw [place] at requested
    exact ⟨orderly.outside, orderly.leaving, orderly.passed, by simpa [CloseStep.phase] using requested,
      by simp [CloseStep.phase], by simp [CloseStep.phase], orderly.stopped,
      by simp [CloseStep.phase]⟩
  | joinsWatchdog place ended result =>
    subst result
    rw [place] at requested stopWatchdog
    exact ⟨orderly.outside, orderly.leaving, orderly.passed, by simpa [CloseStep.phase] using requested,
      by simpa [CloseStep.phase] using stopWatchdog, fun _ => ended, orderly.stopped,
      by simp [CloseStep.phase]⟩
  | storesStopIssuer place result =>
    subst result
    rw [place] at stopWatchdog
    exact ⟨orderly.outside, orderly.leaving, fun _ => rfl, by simp [CloseStep.phase],
      by simpa [CloseStep.phase] using stopWatchdog,
      fun _ => orderly.watchdog (by simp [place, CloseStep.phase]), fun _ => rfl,
      by simp [CloseStep.phase]⟩
  | notifies place result =>
    subst result
    rw [place] at requested stopWatchdog
    refine ⟨fun works => ?_, fun leaving => ?_, fun passed => ?_,
      by simpa [CloseStep.phase] using requested,
      by simpa [CloseStep.phase] using stopWatchdog,
      fun _ => orderly.watchdog (by simp [place, CloseStep.phase]), orderly.stopped,
      by simp [CloseStep.phase]⟩
    · rw [orderly.outside works]
      rfl
    · exact orderly.leaving (Wait.of_wake_eq rfl leaving)
    · exact orderly.passed (Wait.of_wake_eq rfl passed)
  | joinsIssuer place returned result =>
    subst result
    rw [place] at requested stopWatchdog
    exact ⟨orderly.outside, orderly.leaving, orderly.passed, by simpa [CloseStep.phase] using requested,
      by simpa [CloseStep.phase] using stopWatchdog,
      fun _ => orderly.watchdog (by simp [place, CloseStep.phase]), orderly.stopped,
      fun _ => returned⟩
  | cleansUp player place returned issuer stopIssuer pending result =>
    subst result
    have outside := orderly.outside (by simp [returned])
    rw [place] at requested stopWatchdog
    refine ⟨fun _ => outside, fun _ => pending, fun passed => ?_, ?_,
      by simpa [CloseStep.phase] using stopWatchdog,
      fun _ => orderly.watchdog (by simp [place, CloseStep.phase]), fun _ => ?_, fun _ => issuer⟩
    · rw [outside] at passed
      cases passed
    · rw [stopIssuer]
      simpa [CloseStep.phase] using requested
    · rw [stopIssuer]
      exact orderly.stopped returned

theorem Orderly.step (orderly : s.Orderly) (stepped : s.step a = some t) : t.Orderly := by
  cases step_does stepped with
  | aside aside own closes watchdog =>
    have player := aside.player
    refine ⟨?_, ?_, ?_, ?_, ?_, fun late => ?_, ?_, ?_⟩
    · rw [player.issuer, aside.wait]
      exact orderly.outside
    · rw [player.pending, aside.wait]
      exact orderly.leaving
    · rw [aside.ready, aside.wait]
      exact orderly.passed
    · rw [player.stopIssuer, aside.closing]
      exact orderly.requested
    · rw [aside.stopWatchdog, aside.closing]
      exact orderly.stopWatchdog
    · rw [aside.closing] at late
      have ended := orderly.watchdog late
      rcases watchdog with same | ⟨news, nowMs, rfl⟩
      · rw [same, ended]
      · simp [Threads.step, watchStep, ended] at stepped
    · rw [player.issuer, player.stopIssuer]
      exact orderly.stopped
    · rw [player.issuer, aside.closing]
      exact orderly.joined
  | hands player job quiet free issuer stopIssuer segIndex pending index result =>
    subst result
    refine ⟨?_, fun leaving => ?_, fun passed => ?_, ?_, orderly.stopWatchdog, orderly.watchdog, ?_,
      ?_⟩
    · rw [issuer]
      exact orderly.outside
    · rw [leaving] at free
      cases free
    · rw [passed] at free
      cases free
    · rw [stopIssuer]
      exact orderly.requested
    · rw [issuer, stopIssuer]
      exact orderly.stopped
    · rw [issuer]
      exact orderly.joined
  | takesBack flushing free quiet result =>
    subst result
    refine ⟨orderly.outside, fun _ => rfl, fun passed => ?_, orderly.requested,
      orderly.stopWatchdog, orderly.watchdog, orderly.stopped, orderly.joined⟩
    rw [passed] at free
    cases free
  | notifies owed result =>
    subst result
    refine ⟨fun works => ?_, fun leaving => ?_, fun passed => ?_, orderly.requested,
      orderly.stopWatchdog, orderly.watchdog, orderly.stopped, orderly.joined⟩
    · rw [orderly.outside works]
      rfl
    · exact orderly.leaving (Wait.of_wake_eq rfl leaving)
    · exact orderly.passed (Wait.of_wake_eq rfl passed)
  | issues issues => exact orderly.issues issues
  | closes closes => exact orderly.closes closes
  | wakes asleep result =>
    subst result
    exact ⟨fun _ => rfl, nofun, nofun, orderly.requested, orderly.stopWatchdog, orderly.watchdog,
      orderly.stopped, orderly.joined⟩

theorem run_orderly {config : AudioConfig} {requested : Option Int} {resultChannel : Bool}
    {actions : List Action}
    (reached : run step (opened config requested resultChannel) actions = some s) : s.Orderly :=
  run_preserves (fun _ _ _ orderly stepped => orderly.step stepped) actions
    (opened_orderly config requested resultChannel) reached

/-! ## The player behind the threads -/

theorem player_of_act {action : TermuxApiPlayer.Action} {turn : Threads → Threads}
    (stepped : (s.act action).map turn = some t) (same : ∀ u, (turn u).player = u.player) :
    s.player.step action = some t.player := by
  obtain ⟨u, acted, rfl⟩ := Option.map_eq_some_iff.1 stepped
  obtain ⟨player, moved, rfl⟩ := act_eq acted
  rw [same, moved]

/-- A step of the threads is one of the player, or the player does not see it. -/
theorem step_player (stepped : s.step a = some t) :
    t.player = s.player ∨ ∃ action, s.player.step action = some t.player := by
  have plain {action : TermuxApiPlayer.Action} (acted : s.act action = some t) :
      ∃ action, s.player.step action = some t.player := by
    obtain ⟨player, moved, rfl⟩ := act_eq acted
    exact ⟨action, moved⟩
  cases a with
  | writeFrames numFrames openOk => exact Or.inr (plain stepped)
  | flush nowMs => exact Or.inr (plain stepped)
  | record os =>
    simp only [step, recordStep] at stepped
    split at stepped
    · cases stepped
    · exact Or.inr ⟨_, player_of_act stepped fun _ => rfl⟩
  | issue outcome nowMs =>
    simp only [step, issueStep] at stepped
    split at stepped
    · exact Or.inr ⟨_, player_of_act stepped fun _ => rfl⟩
    · obtain ⟨wait, -, rfl⟩ := Option.map_eq_some_iff.1 stepped
      exact Or.inl rfl
    · exact Or.inr (plain stepped)
  | watch news nowMs =>
    simp only [step, watchStep] at stepped
    cases place : s.watchdog with
    | recovering =>
      simp only [place] at stepped
      exact Or.inr ⟨_, player_of_act stepped fun _ => rfl⟩
    | ended => simp [place] at stepped
    | testing | sleeping | awake | asking | resuming =>
      simp only [place] at stepped
      cases stepped
      exact Or.inl rfl
  | close =>
    simp only [step, closeStep] at stepped
    cases place : s.closing with
    | storeStopIssuer | cleanUp =>
      simp only [place] at stepped
      exact Or.inr ⟨_, player_of_act stepped fun _ => rfl⟩
    | storeStopWatchdog | notifyAll =>
      simp only [place] at stepped
      cases stepped
      exact Or.inl rfl
    | joinWatchdog | joinIssuer =>
      simp only [place] at stepped
      split at stepped <;> cases stepped
      exact Or.inl rfl
    | returned => simp [place] at stepped
  | notify | spurious =>
    simp only [step] at stepped
    split at stepped <;> cases stepped
    exact Or.inl rfl

theorem run_ordered {config : AudioConfig} {requested : Option Int} {resultChannel : Bool}
    {actions : List Action}
    (reached : run step (opened config requested resultChannel) actions = some s) :
    Ordered s.player := by
  have kept : ∀ (u : Threads) (a : Action) (v : Threads), Ordered u.player → u.step a = some v →
      Ordered v.player := by
    intro u a v ordered stepped
    rcases step_player stepped with same | ⟨action, moved⟩
    · exact same ▸ ordered
    · exact ordered.step moved
  exact run_preserves kept actions (openedPlayer_spared config requested).ordered reached

/-! ## The wait of the issuer -/

theorem falls_asleep (stepped : s.step a = some t) (asleep : t.wait = .asleep) :
    s.wait = .asleep ∨ s.wait = .leaving ∧ a.isIssue = true := by
  cases step_does stepped with
  | aside aside => exact Or.inl (aside.wait.symm.trans asleep)
  | hands _ _ _ _ _ _ _ _ _ result | takesBack _ _ _ result =>
    subst result
    exact Or.inl asleep
  | notifies _ result =>
    subst result
    exact absurd asleep (Wait.wake_ne_asleep _)
  | issues issues =>
    cases issues with
    | waits wait _ moves result =>
      subst result
      obtain rfl : wait = .asleep := asleep
      exact Or.inr ⟨Wait.step_eq_asleep moves, rfl⟩
    | returns _ _ _ result | takes _ _ _ _ _ result =>
      subst result
      cases asleep
    | works _ _ _ _ _ _ _ result =>
      subst result
      exact Or.inl asleep
  | closes closes =>
    cases closes with
    | notifies _ result =>
      subst result
      exact absurd asleep (Wait.wake_ne_asleep _)
    | storesStopWatchdog _ result | joinsWatchdog _ _ result | storesStopIssuer _ result
    | joinsIssuer _ _ result | cleansUp _ _ _ _ _ _ result =>
      subst result
      exact Or.inl asleep
  | wakes _ result =>
    subst result
    cases asleep

/-- Where the predicate has failed, the issuer goes to sleep next. -/
theorem leaving_step (orderly : s.Orderly) (stepped : s.step a = some t)
    (leaving : s.wait = .leaving) (own : a.isIssue = true) : t = { s with wait := .asleep } := by
  cases a with
  | issue outcome nowMs =>
    have place := orderly.waiting (by simp [leaving])
    simp only [step, issueStep, place, leaving, Wait.step, Option.map_some] at stepped
    exact (Option.some.inj stepped).symm
  | _ => cases own

/-- The issuer waits for a segment, and the recorder notifies it. -/
def segments : Waiting Threads Action where
  step := step
  wait := wait
  own := Action.isIssue
  reason := fun s => s.player.pending.isSome
  owed := notifying

theorem segments_lawful : segments.Lawful Orderly where
  preserved := fun orderly stepped => orderly.step stepped
  falls := fun _ stepped asleep => falls_asleep stepped asleep
  sleeps := by
    intro s a t orderly stepped leaving own
    obtain rfl := leaving_step orderly stepped leaving own
    exact ⟨rfl, rfl, rfl⟩
  announced := by
    intro s a t orderly stepped pending
    simp only [segments] at pending ⊢
    cases step_does stepped with
    | aside aside =>
      rw [aside.player.pending] at pending
      exact Or.inl pending
    | hands _ _ _ _ _ _ _ _ _ result =>
      subst result
      exact Or.inr rfl
    | takesBack _ _ _ result =>
      subst result
      cases pending
    | notifies _ result | wakes _ result =>
      subst result
      exact Or.inl pending
    | issues issues =>
      cases issues with
      | waits _ _ _ result | returns _ _ _ result =>
        subst result
        exact Or.inl pending
      | takes _ _ _ _ _ result =>
        subst result
        cases pending
      | works _ _ _ same _ _ _ result =>
        subst result
        rw [same] at pending
        exact Or.inl pending
    | closes closes =>
      cases closes with
      | cleansUp _ _ _ _ _ none result =>
        subst result
        rw [none] at pending
        cases pending
      | storesStopWatchdog _ result | joinsWatchdog _ _ result | storesStopIssuer _ result
      | notifies _ result | joinsIssuer _ _ result =>
        subst result
        exact Or.inl pending
  notified := by
    intro s a t orderly stepped notifying
    simp only [segments] at notifying ⊢
    cases step_does stepped with
    | aside aside => exact Or.inl (aside.notifying.trans notifying)
    | hands _ _ quiet | takesBack _ _ quiet =>
      rw [quiet] at notifying
      cases notifying
    | notifies _ result =>
      subst result
      exact Or.inr (Wait.wake_ne_asleep _)
    | issues issues =>
      cases issues with
      | waits _ _ _ result | returns _ _ _ result | takes _ _ _ _ _ result
      | works _ _ _ _ _ _ _ result =>
        subst result
        exact Or.inl notifying
    | closes closes =>
      cases closes with
      | storesStopWatchdog _ result | joinsWatchdog _ _ result | storesStopIssuer _ result
      | notifies _ result | joinsIssuer _ _ result | cleansUp _ _ _ _ _ _ result =>
        subst result
        exact Or.inl notifying
    | wakes _ result =>
      subst result
      exact Or.inl notifying

/-! ## Who can go on -/

/-- What the threads can do without anybody's help. -/
def unaided : List Action :=
  [.close, .watch .nothing 0, .issue .undelivered 0, .record {}, .notify]

/-- With the mutex the issuer goes on. -/
theorem holder_goes_on (orderly : s.Orderly) (holds : s.wait.holds = true) :
    (s.step (.issue .undelivered 0)).isSome := by
  have place := orderly.waiting (by rintro locking; simp [locking, Wait.holds] at holds)
  cases wait : s.wait with
  | locking | asleep => simp [wait, Wait.holds] at holds
  | testing | leaving => simp [step, issueStep, place, wait, Wait.step]
  | passed =>
    have ready := orderly.passed wait
    rw [Threads.ready, Bool.or_eq_true] at ready
    simp only [step, issueStep, place, wait, act, TermuxApiPlayer.step, TermuxApiPlayer.issueStep]
    cases stop : s.player.stopIssuer with
    | true => simp
    | false =>
      obtain ⟨job, pending⟩ := Option.isSome_iff_exists.1 (ready.resolve_left (by simp [stop]))
      simp [pending]

/-- Inside of a call the recorder goes on, or the one that it waits for. -/
theorem recorder_goes_on (orderly : s.Orderly) (busy : s.player.recorder ≠ .idle) :
    ∃ a ∈ unaided, (s.step a).isSome := by
  cases notifying : s.notifying with
  | true => exact ⟨.notify, by simp [unaided], by simp [step, notifying]⟩
  | false =>
    cases holds : s.wait.holds with
    | false =>
      refine ⟨.record {}, by simp [unaided], ?_⟩
      have moves := recordStep_isSome {} busy
      simpa [step, recordStep, notifying, holds, act, TermuxApiPlayer.step] using moves
    | true => exact ⟨.issue .undelivered 0, by simp [unaided], holder_goes_on orderly holds⟩

/-- An issuer that is awake goes on, or the one that it waits for. -/
theorem issuer_goes_on (orderly : s.Orderly) (awake : s.wait ≠ .asleep)
    (runs : s.player.issuer ≠ .returned) : ∃ a ∈ unaided, (s.step a).isSome := by
  by_cases busy : s.player.recorder = .idle
  · refine ⟨.issue .undelivered 0, by simp [unaided], ?_⟩
    cases place : s.player.issuer with
    | waiting =>
      cases wait : s.wait with
      | locking => simp [step, issueStep, place, wait, Wait.step]
      | asleep => exact absurd wait awake
      | testing | leaving | passed => exact holder_goes_on orderly (by rw [wait]; rfl)
    | commanding job | truncating job =>
      simp [step, issueStep, place, act, TermuxApiPlayer.step, TermuxApiPlayer.issueStep]
    | failed =>
      simp [step, issueStep, place, act, TermuxApiPlayer.step, TermuxApiPlayer.issueStep, busy]
    | returned => exact absurd place runs
  · exact recorder_goes_on orderly busy

/-! ## A segment that has been handed over -/

/-- The step takes the pending segment back, or tells the issuer to stop. -/
def drops (s : Threads) : Action → Bool
  | .record _ => decide (s.player.recorder = .flushing)
  | .close => decide (s.closing = .storeStopIssuer)
  | _ => false

/-- How many steps of its own the issuer is away from the segment at most. -/
def distance (s : Threads) : Nat :=
  match s.player.issuer, s.wait with
  | .waiting, .passed => 0
  | .waiting, .testing => 1
  | .waiting, _ => 2
  | issuer, _ => issuer.left + 2

/-- The segment, or a later one in its place, is waiting for the issuer. -/
structure Waits (s : Threads) (index : Nat) : Prop where
  orderly : s.Orderly
  running : s.player.stopIssuer = false
  pending : ∃ job, s.player.pending = some job ∧ index ≤ job.segIndex
  segIndex : index ≤ s.player.segIndex

/-- The issuer has just taken the segment, or a later one. -/
def Taken (s : Threads) (index : Nat) : Prop :=
  ∃ job, s.player.issuer = .commanding job ∧ index ≤ job.segIndex

theorem Waits.issues {index : Nat} (waits : s.Waits index) (orderly : t.Orderly)
    (issues : Issues s t) :
    t.Taken index ∨ t.Waits index ∧ t.distance + 1 ≤ s.distance := by
  obtain ⟨job, pending, later⟩ := waits.pending
  cases issues with
  | waits wait place moves result =>
    subst result
    refine Or.inr ⟨⟨orderly, waits.running, waits.pending, waits.segIndex⟩, ?_⟩
    have ready : s.ready = true := by simp [Threads.ready, pending]
    cases from_ : s.wait with
    | locking | testing =>
      rw [from_, Wait.step] at moves
      simp only [ready, if_true, Option.some.injEq] at moves
      subst moves
      simp [distance, place, from_]
    | leaving =>
      rw [waits.orderly.leaving from_] at pending
      cases pending
    | asleep | passed =>
      rw [from_] at moves
      cases moves
  | returns place passed stop result =>
    rw [waits.running] at stop
    cases stop
  | takes taken place passed stop isPending result =>
    subst result
    obtain rfl := Option.some.inj (pending.symm.trans isPending)
    exact Or.inl ⟨job, rfl, later⟩
  | works player place stopIssuer same segIndex left stays result =>
    subst result
    refine Or.inr ⟨⟨orderly, stopIssuer.trans waits.running, ?_, ?_⟩, ?_⟩
    · exact ⟨job, same.trans pending, later⟩
    · exact Nat.le_trans waits.segIndex segIndex
    · have outside := waits.orderly.outside place
      have before : s.distance = s.player.issuer.left + 2 := by
        unfold distance
        rw [outside]
        cases issuer : s.player.issuer with
        | waiting => exact absurd issuer place
        | _ => rfl
      have after : distance { s with player := player } ≤ player.issuer.left + 2 := by
        unfold distance
        dsimp only
        rw [outside]
        cases player.issuer <;> simp [IssuerPc.left]
      omega

theorem Waits.step {index : Nat} (waits : s.Waits index) (keeps : s.drops a = false)
    (stepped : s.step a = some t) :
    t.Taken index ∨
      t.Waits index ∧ t.distance + (if a.isIssue then 1 else 0) ≤ s.distance := by
  have orderly := waits.orderly.step stepped
  obtain ⟨job, pending, later⟩ := waits.pending
  cases step_does stepped with
  | aside aside own closes watchdog =>
    have player := aside.player
    refine Or.inr ⟨⟨orderly, player.stopIssuer.trans waits.running, ?_, ?_⟩, ?_⟩
    · exact ⟨job, player.pending.trans pending, later⟩
    · exact Nat.le_trans waits.segIndex player.segIndex
    · rw [own, distance, distance, player.issuer, aside.wait]
      exact Nat.le_refl _
  | hands player job quiet free issuer stopIssuer segIndex pending index result =>
    subst result
    refine Or.inr ⟨⟨orderly, stopIssuer.trans waits.running, ?_, ?_⟩, ?_⟩
    · exact ⟨job, pending, index ▸ waits.segIndex⟩
    · exact segIndex ▸ waits.segIndex
    · rw [distance, distance, issuer]
      exact Nat.le_refl _
  | takesBack flushing free quiet result =>
    simp [drops, flushing] at keeps
  | notifies owed result =>
    subst result
    refine Or.inr ⟨⟨orderly, waits.running, waits.pending, waits.segIndex⟩, ?_⟩
    unfold distance
    cases wait : s.wait <;> cases s.player.issuer <;>
      simp [Wait.wake, Action.isIssue, IssuerPc.left]
  | issues issues => exact waits.issues orderly issues
  | closes closes =>
    have running := waits.running
    have requested := waits.orderly.requested
    rw [running] at requested
    cases closes with
    | storesStopWatchdog place result | joinsWatchdog place _ result =>
      subst result
      exact Or.inr ⟨⟨orderly, running, waits.pending, waits.segIndex⟩, Nat.le_refl _⟩
    | storesStopIssuer place result => simp [drops, place] at keeps
    | notifies place | joinsIssuer place | cleansUp _ place =>
      simp [place, CloseStep.phase] at requested
  | wakes asleep result =>
    subst result
    refine Or.inr ⟨⟨orderly, waits.running, waits.pending, waits.segIndex⟩, ?_⟩
    unfold distance
    rw [asleep]
    cases s.player.issuer <;> simp [Action.isIssue, IssuerPc.left]

theorem distance_le (s : Threads) : s.distance ≤ 4 := by
  unfold distance
  split
  · decide
  · decide
  · decide
  · cases s.player.issuer <;> simp [IssuerPc.left]

end

/-- The issuer falls asleep, and the recorder hands over what it has of the prefill. -/
def handsOver : List Action :=
  List.replicate 3 (.issue .confirmed 0) ++
    [.writeFrames 28800 true, .record {}, .record {}, .record { nowMs := 600 }]

/-- The issuer wakes and plays the segment, while the recorder goes on. -/
def playsSegment : List Action :=
  [.notify] ++ List.replicate 5 (.issue .confirmed 700) ++ [.record {}]

def handedOver : Threads := (run step (opened {} none true) handsOver).getD (opened {} none true)

end Threads

end TermuxApiPlayer

end AudioRouter
