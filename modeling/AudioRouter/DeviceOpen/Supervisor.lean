import AudioRouter.DeviceOpen.Slot

/-!
# The open supervisor

Whether somebody still looks for a backend when the slot holds none that plays.
The supervisor keeps its attempt budgets; what it does not keep is an eye on the
slot once it has returned.
-/

namespace AudioRouter.DeviceOpen

open Transition

/-! ## Attempt budgets -/

/-- Every strategy of the chain has used up its attempts. -/
def Supervisor.BudgetUsed (v : Supervisor) : Prop :=
  v.strategies.map maxAttempts <+: v.spent ++ [v.attemptsInStrategy]

instance (v : Supervisor) : Decidable v.BudgetUsed :=
  inferInstanceAs (Decidable (_ <+: _))

/-- The budgets of the strategies that have been left are used up, and that of the
current one is not exceeded. -/
structure Budgeted (s : DeviceOpen) : Prop where
  spent :
    s.supervisor.spent =
      (s.supervisor.strategies.take s.supervisor.strategyIndex).map maxAttempts
  counting :
    s.supervisor.pc.counting = true → ∃ strategy,
      s.supervisor.current = some strategy ∧
        s.supervisor.attemptsInStrategy ≤ maxAttempts strategy
  look :
    s.supervisor.pc = .look → ∃ strategy,
      s.supervisor.current = some strategy ∧
        s.supervisor.attemptsInStrategy < maxAttempts strategy
  leave :
    s.supervisor.pc = .leave → s.shutdown = false → ∃ strategy,
      s.supervisor.current = some strategy ∧
        s.supervisor.attemptsInStrategy = maxAttempts strategy
  stopped : s.shutdown = true → s.isRunning = false

theorem start_budgeted (deviceName : String) (pulseWorthTrying : Bool)
    (initial : Option Initial) :
    Budgeted (start deviceName pulseWorthTrying initial) where
  spent := rfl
  counting := nofun
  look := nofun
  leave := nofun
  stopped := nofun

section

variable {s s' : DeviceOpen}

/-- A step that leaves the supervisor alone. -/
theorem Budgeted.of_same (budgeted : Budgeted s)
    (supervisor : s'.supervisor = s.supervisor)
    (shutdown : s'.shutdown = false → s.shutdown = false)
    (stopped : s'.shutdown = true → s'.isRunning = false) : Budgeted s' where
  spent := by
    rw [supervisor]
    exact budgeted.spent
  counting := by
    rw [supervisor]
    exact budgeted.counting
  look := by
    rw [supervisor]
    exact budgeted.look
  leave := by
    rw [supervisor]
    exact fun leave running => budgeted.leave leave (shutdown running)
  stopped := stopped

theorem SupervisorEffect.budgeted (effect : SupervisorEffect s s')
    (budgeted : Budgeted s) : Budgeted s' := by
  obtain ⟨spent, counting, look, leave, stopped⟩ := budgeted
  cases effect with
  | beginsStrategy outer left =>
    refine ⟨spent, fun _ => ?_, nofun, nofun, stopped⟩
    exact ⟨_, List.getElem?_eq_getElem left, Nat.zero_le _⟩
  | endsLoop | alreadyPlaying | succeeds | quits =>
    exact ⟨spent, nofun, nofun, nofun, stopped⟩
  | looks inner current left =>
    exact ⟨spent, nofun, fun _ => ⟨_, current, left⟩, nofun, stopped⟩
  | @leaves strategy inner current ended =>
    refine ⟨spent, nofun, nofun, fun _ running => ?_, stopped⟩
    obtain ⟨strategyToo, currentToo, bounded⟩ := counting (by rw [inner]; rfl)
    obtain rfl := Option.some.inj (current.symm.trans currentToo)
    exact ⟨strategy, current, Nat.le_antisymm bounded (ended running)⟩
  | counts looking =>
    refine ⟨spent, fun _ => ?_, nofun, nofun, stopped⟩
    obtain ⟨strategy, current, left⟩ := look looking
    exact ⟨strategy, current, left⟩
  | spawns spawning =>
    exact ⟨spent, fun _ => counting (by rw [spawning]; rfl), nofun, nofun, stopped⟩
  | stays _ => exact ⟨spent, counting, look, leave, stopped⟩
  | moves before after =>
    refine ⟨spent, fun _ => counting before, ?_, ?_, stopped⟩
    · rintro rfl
      exact nomatch after
    · rintro rfl
      exact nomatch after
  | breaks _ isStopped =>
    refine ⟨spent, nofun, nofun, fun _ running => ?_, stopped⟩
    exact nomatch running.symm.trans isStopped
  | nextStrategy leaving running =>
    refine ⟨?_, nofun, nofun, nofun, stopped⟩
    obtain ⟨strategy, current, all⟩ := leave leaving running
    have current : s.supervisor.strategies[s.supervisor.strategyIndex]? = some strategy :=
      current
    simp only [spent, all, List.take_add_one, current, Option.toList_some, List.map_append,
      List.map_cons, List.map_nil]

/-- An attempt has nothing to do with the supervisor or the flags. -/
theorem AttemptEffect.frame {i : Nat} (effect : AttemptEffect s i s') :
    s'.supervisor = s.supervisor ∧ s'.shutdown = s.shutdown ∧
      s'.isRunning = s.isRunning := by
  cases effect <;> exact ⟨rfl, rfl, rfl⟩

theorem step_budgeted {action : Action} (budgeted : Budgeted s)
    (stepped : step s action = some s') : Budgeted s' := by
  cases action with
  | attempt i openFn =>
    obtain ⟨supervisor, shutdown, isRunning⟩ := (attemptStep_effect stepped).frame
    refine budgeted.of_same supervisor ?_ ?_
    · rw [shutdown]
      exact id
    · rw [shutdown, isRunning]
      exact budgeted.stopped
  | supervisor timeout => exact (supervisorStep_effect stepped).budgeted budgeted
  | call | selfClose =>
    obtain rfl := Option.some.inj stepped
    exact budgeted.of_same rfl id budgeted.stopped
  | stop =>
    obtain rfl := Option.some.inj stepped
    exact budgeted.of_same rfl id fun _ => rfl
  | setShutdown =>
    obtain ⟨notRunning, rfl⟩ := step_setShutdown stepped
    exact budgeted.of_same rfl nofun fun _ => notRunning
  | closePlayer =>
    obtain ⟨_, rfl | ⟨p, _, rfl⟩⟩ := step_closePlayer stepped
    · exact budgeted
    · exact budgeted.of_same rfl id budgeted.stopped

/-! ## Somebody looks for a backend -/

/-- While the client runs, a slot without a backend that plays has the supervisor
at work, or the budgets of all strategies used up. -/
def Supervised (s : DeviceOpen) : Prop :=
  s.isRunning = true → s.isPlaying = false →
    s.supervisor.pc.returned = false ∨ s.supervisor.BudgetUsed

theorem start_supervised (deviceName : String) (pulseWorthTrying : Bool)
    (initial : Option Initial) :
    Supervised (start deviceName pulseWorthTrying initial) :=
  fun _ _ => Or.inl rfl

/-- The backend that plays marks itself closed when the supervisor has returned, or
the supervisor returns success by a `result` that is older than the death of the
slot's backend. -/
def diesUnattended (s : DeviceOpen) : Action → Bool
  | .selfClose p =>
      s.supervisor.pc.returned && s.isPlaying && s.player == some p
  | .supervisor _ =>
      match s.supervisor.pc with
      | .checkFinished i true => s.attempts i == .finished && !s.isPlaying
      | _ => false
  | _ => false

/-- The step does not leave a running client with budget left to a dead slot. -/
def Attended (s : DeviceOpen) (action : Action) : Prop :=
  s.isRunning = true → ¬ s.supervisor.BudgetUsed → s.diesUnattended action = false

instance (s : DeviceOpen) (action : Action) : Decidable (s.Attended action) :=
  inferInstanceAs (Decidable (_ → _))

theorem diesUnattended_supervisor {timeout : Bool}
    (kept : ∀ i, s.supervisor.pc = .checkFinished i true → s.attempts i ≠ .finished) :
    s.diesUnattended (.supervisor timeout) = false := by
  simp only [diesUnattended]
  split
  next i checks => simp [kept i checks]
  · rfl

/-- The supervisor gives up with every budget used. -/
theorem Budgeted.budgetUsed (budgeted : Budgeted s)
    (ended : s.supervisor.strategies.length ≤ s.supervisor.strategyIndex) :
    s.supervisor.BudgetUsed := by
  rw [Supervisor.BudgetUsed, budgeted.spent, List.take_of_length_le ended]
  exact List.prefix_append _ _

theorem SupervisorEffect.supervised_iff {timeout : Bool} (effect : SupervisorEffect s s')
    (budgeted : Budgeted s) (supervised : Supervised s) :
    Supervised s' ↔ s.Attended (.supervisor timeout) := by
  have attended
      (kept : ∀ i, s.supervisor.pc = .checkFinished i true →
        s.attempts i ≠ .finished) : s.Attended (.supervisor timeout) :=
    fun _ _ => diesUnattended_supervisor kept
  cases effect with
  | beginsStrategy pc | looks pc | leaves pc | counts pc | spawns pc | breaks pc
  | nextStrategy pc | quits pc =>
    have kept : s.Attended (.supervisor timeout) := attended (by rw [pc]; exact nofun)
    exact ⟨fun _ => kept, fun _ _ _ => Or.inl rfl⟩
  | stays kept => exact ⟨fun _ => attended kept, fun _ => supervised⟩
  | @moves pc _ after kept _ =>
    refine ⟨fun _ => attended kept, fun _ _ _ => Or.inl ?_⟩
    cases pc <;> first | rfl | exact nomatch after
  | endsLoop outer ended =>
    refine ⟨fun _ => attended (by rw [outer]; exact nofun), fun _ running _ => Or.inr ?_⟩
    have running : s.isRunning = true := running
    have notStopped : s.shutdown = false := by
      by_contra stopped
      have notRunning := budgeted.stopped (eq_true_of_ne_false stopped)
      exact nomatch running.symm.trans notRunning
    exact budgeted.budgetUsed (ended notStopped)
  | alreadyPlaying look playing =>
    refine ⟨fun _ => attended (by rw [look]; exact nofun), fun _ _ silent => ?_⟩
    exact nomatch playing.symm.trans silent
  | succeeds checks finished =>
    have dies : s.diesUnattended (.supervisor timeout) = !s.isPlaying := by
      simp only [diesUnattended, checks, finished, beq_self_eq_true, Bool.true_and]
    constructor
    · intro after running left
      rw [dies]
      by_contra playing
      have silent : s.isPlaying = false := by
        cases isPlaying : s.isPlaying with
        | false => rfl
        | true => exact absurd (by rw [isPlaying]; rfl) playing
      rcases after running silent with going | used
      · exact nomatch going
      · exact left used
    · intro kept running silent
      have silent : s.isPlaying = false := silent
      refine Or.inr (by_contra fun left => ?_)
      have playing := kept running left
      rw [dies, silent] at playing
      exact nomatch playing

theorem markClosed_supervised_iff {p : Player} (supervised : Supervised s) :
    Supervised (s.markClosed p) ↔ s.Attended (.selfClose p) := by
  by_cases slot : s.player = some p
  · have silent : (s.markClosed p).isPlaying = false := by
      simp [isPlaying, markClosed, slot]
    cases playing : s.isPlaying with
    | false =>
      refine ⟨fun _ _ _ => ?_, fun _ running _ => supervised running playing⟩
      simp only [diesUnattended, playing, Bool.and_false, Bool.false_and]
    | true =>
      have dies : s.diesUnattended (.selfClose p) = s.supervisor.pc.returned := by
        simp only [diesUnattended, playing, slot, beq_self_eq_true, Bool.and_true]
      constructor
      · intro after running left
        rw [dies]
        exact (after running silent).resolve_right left
      · intro kept running _
        by_cases used : s.supervisor.BudgetUsed
        · exact Or.inr used
        · exact Or.inl (dies.symm.trans (kept running used))
  · have same : (s.markClosed p).isPlaying = s.isPlaying := by
      refine isPlaying_congr rfl rfl fun q slotToo => ?_
      have other : q ≠ p := by
        rintro rfl
        exact slot slotToo
      simp only [markClosed, Function.update_of_ne other]
    refine ⟨fun _ _ _ => ?_, fun _ running silent => supervised running (same ▸ silent)⟩
    simp only [diesUnattended, beq_false_of_ne slot, Bool.and_false]

/-- What one step passes on, and exactly when. -/
theorem step_supervised_iff {action : Action} (accounted : Accounted s)
    (budgeted : Budgeted s) (supervised : Supervised s)
    (stepped : step s action = some s') : Supervised s' ↔ s.Attended action := by
  cases action with
  | attempt i openFn =>
    have effect := attemptStep_effect stepped
    obtain ⟨supervisor, _, isRunning⟩ := effect.frame
    refine ⟨fun _ _ _ => rfl, fun _ running silent => ?_⟩
    rw [supervisor]
    refine supervised (isRunning ▸ running) ?_
    by_contra playing
    have still := (effect.playing accounted (eq_true_of_ne_false playing)).2
    exact nomatch still.symm.trans silent
  | supervisor timeout =>
    exact (supervisorStep_effect stepped).supervised_iff budgeted supervised
  | call =>
    obtain rfl := Option.some.inj stepped
    exact ⟨fun _ _ _ => rfl, fun _ => supervised⟩
  | selfClose p =>
    obtain rfl := Option.some.inj stepped
    exact markClosed_supervised_iff supervised
  | stop =>
    obtain rfl := Option.some.inj stepped
    exact ⟨fun _ _ _ => rfl, fun _ => nofun⟩
  | setShutdown =>
    obtain ⟨notRunning, rfl⟩ := step_setShutdown stepped
    refine ⟨fun _ _ _ => rfl, fun _ running => ?_⟩
    exact nomatch notRunning.symm.trans running
  | closePlayer =>
    obtain ⟨stopped, rfl | ⟨p, _, rfl⟩⟩ := step_closePlayer stepped
    · exact ⟨fun _ _ _ => rfl, fun _ => supervised⟩
    · refine ⟨fun _ _ _ => rfl, fun _ running => ?_⟩
      exact nomatch (budgeted.stopped stopped).symm.trans running

end

/-- The slots of a running client that play nothing are supervised in every state on
the way of a run if and only if no step of the run leaves a dead slot unattended. -/
theorem supervised_iff_attended {deviceName : String} {pulseWorthTrying : Bool}
    {initial : Option Initial} {actions : List Action} {s : DeviceOpen}
    (reached : run step (start deviceName pulseWorthTrying initial) actions = some s) :
    (∀ before t, before <+: actions →
      run step (start deviceName pulseWorthTrying initial) before = some t →
        Supervised t) ↔
      EveryStep step Attended (start deviceName pulseWorthTrying initial) actions :=
  everyState_iff
    (fun _ _ _ known stepped =>
      And.intro (step_accounted known.1 stepped) (step_budgeted known.2 stepped))
    (fun _ _ _ known supervised stepped =>
      step_supervised_iff known.1 known.2 supervised stepped)
    actions
    ⟨start_accounted deviceName pulseWorthTrying initial,
      start_budgeted deviceName pulseWorthTrying initial⟩
    (start_supervised deviceName pulseWorthTrying initial) reached

/-! ## Without a backend that dies -/

/-- While no backend marks itself closed: what an attempt holds is open, and a
`result` of true stands for a backend that plays. -/
structure Lively (s : DeviceOpen) : Prop where
  held : ∀ i, (s.attempts i).holding = true → s.isOpen (.device i) = true
  result : s.shutdown = false → s.result = true → s.isPlaying = true
  okRead :
    ∀ i, s.supervisor.pc = .checkFinished i true → s.shutdown = false →
      s.isPlaying = true

theorem start_lively (deviceName : String) (pulseWorthTrying : Bool)
    (initial : Option Initial) : Lively (start deviceName pulseWorthTrying initial) where
  held := nofun
  result := nofun
  okRead := nofun

section

variable {s s' : DeviceOpen} {i : Nat}

theorem Moves.held {before after : AttemptPc} (moved : Moves before after)
    (holding : after.holding = true) : before.holding = true := by
  cases moved <;> first | rfl | exact nomatch holding

/-- Closing a player that no attempt holds. -/
theorem Lively.held_close {p : Player} (lively : Lively s) {j : Nat}
    (holding : (s.attempts j).holding = true)
    (other : ∀ k, p = .device k → (s.attempts k).holding = false) :
    (s.close p).isOpen (.device j) = true := by
  have different : Player.device j ≠ p := by
    rintro rfl
    exact nomatch holding.symm.trans (other j rfl)
  simpa only [DeviceOpen.close, markClosed, Function.update_of_ne different] using
    lively.held j holding

theorem AttemptPc.settled_not_holding {pc : AttemptPc} (settled : pc.settled = true) :
    pc.holding = false := by
  cases pc <;> first | rfl | exact nomatch settled

theorem AttemptEffect.held (effect : AttemptEffect s i s') (accounted : Accounted s)
    (lively : Lively s) (j : Nat) (holding : (s'.attempts j).holding = true) :
    s'.isOpen (.device j) = true := by
  by_cases same : j = i
  · subst same
    cases effect with
    | moves moved =>
      rw [setAttempt_self] at holding
      exact lively.held j (moved.held holding)
    | opens _ => simp [DeviceOpen.setAttempt, openReturned]
    | _ =>
      rw [setAttempt_self] at holding
      cases holding
  · rw [effect.others same] at holding
    cases effect with
    | moves _ | installs _ _ | fails _ => exact lively.held j holding
    | opens opening =>
      have device : Player.device j ≠ .device i := fun eq => same (Player.device.inj eq)
      simpa only [DeviceOpen.setAttempt, openReturned, Function.update_of_ne device] using
        lively.held j holding
    | cannotOpen opening =>
      rw [accounted.openReturned_false (by rw [opening]; rfl)]
      exact lively.held j holding
    | discards _ =>
      have device : Player.device j ≠ .device i := fun eq => same (Player.device.inj eq)
      simpa only [DeviceOpen.setAttempt, DeviceOpen.close, markClosed,
        Function.update_of_ne device] using lively.held j holding
    | @displaces p taking =>
      refine lively.held_close holding fun k device => ?_
      exact AttemptPc.settled_not_holding ((accounted.displaced i p taking).2 k device).1

theorem AttemptEffect.lively (effect : AttemptEffect s i s') (accounted : Accounted s)
    (lively : Lively s) : Lively s' := by
  obtain ⟨supervisor, shutdown, _⟩ := effect.frame
  have plays (playing : s.isPlaying = true) : s'.isPlaying = true :=
    (effect.playing accounted playing).2
  refine ⟨effect.held accounted lively, ?_, ?_⟩
  · rw [shutdown]
    intro running succeeded
    cases effect with
    | installs locking _ =>
      have isOpen := lively.held i (by rw [locking]; rfl)
      simp [isPlaying, DeviceOpen.setAttempt, install, isPlaceholder, isOpen]
    | fails _ => cases succeeded
    | _ => exact plays (lively.result running succeeded)
  · rw [supervisor, shutdown]
    exact fun j checks running => plays (lively.okRead j checks running)

theorem SupervisorEffect.lively (effect : SupervisorEffect s s') (accounted : Accounted s)
    (lively : Lively s) : Lively s' := by
  obtain ⟨held, result, okRead⟩ := lively
  cases effect with
  | spawns _ =>
    refine ⟨fun j holding => ?_, result, nofun⟩
    rcases callAttempt_attempts accounted j with kept | ⟨_, called⟩
    · exact held j (kept ▸ holding)
    · have holding : (s.callAttempt.attempts j).holding = true := holding
      rw [called] at holding
      exact nomatch holding
  | stays _ => exact ⟨held, result, okRead⟩
  | moves _ _ _ reads =>
    exact ⟨held, result, fun j checks running => result running (reads j checks)⟩
  | _ => exact ⟨held, result, nofun⟩

theorem step_lively {action : Action} (alive : ∀ p, action ≠ .selfClose p)
    (accounted : Accounted s) (lively : Lively s) (stepped : step s action = some s') :
    Lively s' := by
  cases action with
  | attempt i openFn => exact (attemptStep_effect stepped).lively accounted lively
  | supervisor timeout => exact (supervisorStep_effect stepped).lively accounted lively
  | call =>
    obtain rfl := Option.some.inj stepped
    refine ⟨fun j holding => ?_, lively.result, lively.okRead⟩
    rcases callAttempt_attempts accounted j with kept | ⟨_, called⟩
    · exact lively.held j (kept ▸ holding)
    · rw [called] at holding
      exact nomatch holding
  | selfClose p => exact absurd rfl (alive p)
  | stop =>
    obtain rfl := Option.some.inj stepped
    exact ⟨lively.held, lively.result, lively.okRead⟩
  | setShutdown =>
    obtain ⟨_, rfl⟩ := step_setShutdown stepped
    exact ⟨lively.held, nofun, nofun⟩
  | closePlayer =>
    obtain ⟨stopped, rfl | ⟨p, slot, rfl⟩⟩ := step_closePlayer stepped
    · exact lively
    · refine ⟨fun j holding => ?_, fun running => ?_, fun _ _ running => ?_⟩
      · refine lively.held_close holding fun k device => ?_
        subst device
        exact AttemptPc.settled_not_holding (accounted.inSlot k slot)
      · exact nomatch stopped.symm.trans running
      · exact nomatch stopped.symm.trans running

theorem Lively.attended {action : Action} (lively : Lively s) (budgeted : Budgeted s)
    (alive : ∀ p, action ≠ .selfClose p) : s.Attended action := by
  intro running _
  cases action with
  | selfClose p => exact absurd rfl (alive p)
  | supervisor timeout =>
    have notStopped : s.shutdown = false := by
      by_contra stopped
      have notRunning := budgeted.stopped (eq_true_of_ne_false stopped)
      exact nomatch running.symm.trans notRunning
    simp only [diesUnattended]
    split
    next i checks => simp [lively.okRead i checks notStopped]
    · rfl
  | _ => rfl

end

/-- As long as no backend marks itself closed, the client is supervised: the two
steps that lose it need a backend that dies. -/
theorem supervised_of_backends_live {deviceName : String} {pulseWorthTrying : Bool}
    {initial : Option Initial} {actions : List Action} {s : DeviceOpen}
    (alive : ∀ p, Action.selfClose p ∉ actions)
    (reached : run step (start deviceName pulseWorthTrying initial) actions = some s) :
    Supervised s := by
  have noneDies :
      EveryStep step (fun _ action => ∀ p, action ≠ .selfClose p)
        (start deviceName pulseWorthTrying initial) actions := by
    refine everyStep_of_mem _ actions fun action taken _ p => ?_
    rintro rfl
    exact alive p taken
  have preserved (t : DeviceOpen) (action : Action) (u : DeviceOpen)
      (known : (Accounted t ∧ Budgeted t) ∧ Lively t ∧ Supervised t)
      (alive : ∀ p, action ≠ .selfClose p) (stepped : step t action = some u) :
      (Accounted u ∧ Budgeted u) ∧ Lively u ∧ Supervised u := by
    obtain ⟨⟨accounted, budgeted⟩, lively, supervised⟩ := known
    refine
      ⟨⟨step_accounted accounted stepped, step_budgeted budgeted stepped⟩,
        step_lively alive accounted lively stepped, ?_⟩
    exact
      (step_supervised_iff accounted budgeted supervised stepped).2
        (lively.attended budgeted alive)
  have begins :=
    And.intro
      (And.intro (start_accounted deviceName pulseWorthTrying initial)
        (start_budgeted deviceName pulseWorthTrying initial))
      (And.intro (start_lively deviceName pulseWorthTrying initial)
        (start_supervised deviceName pulseWorthTrying initial))
  exact (run_invariant preserved actions begins noneDies reached).2.2

/-- The first attempt of `aaudio` opens its device, and the supervisor returns. -/
def openingAaudio : List Action :=
  [.supervisor false, .supervisor false, .supervisor false, .supervisor false,
    .attempt 0 true, .attempt 0 true, .attempt 0 true, .attempt 0 true,
    .attempt 0 true, .attempt 0 true,
    .supervisor false, .supervisor false, .supervisor false, .supervisor false]

def playingAaudio : DeviceOpen :=
  (run step (start "aaudio" false none) openingAaudio).getD (start "aaudio" false none)

theorem opened_aaudio_supervised :
    ((∀ before t, before <+: openingAaudio →
      run step (start "aaudio" false none) before = some t → Supervised t) ↔
        EveryStep step Attended (start "aaudio" false none) openingAaudio) ∧
      EveryStep step Attended (start "aaudio" false none) openingAaudio ∧
      playingAaudio.isPlaying = true ∧
      playingAaudio.supervisor.pc = .exited .success := by
  have reached : run step (start "aaudio" false none) openingAaudio = some playingAaudio :=
    run_eq_some_getD (by decide +kernel)
  exact
    ⟨supervised_iff_attended reached, by decide +kernel, by decide +kernel,
      by decide +kernel⟩

def dyingAaudio : List Action :=
  openingAaudio ++ [.selfClose (.device 0)]

def deadAaudio : DeviceOpen :=
  (run step (start "aaudio" false none) dyingAaudio).getD (start "aaudio" false none)

/-- The AAudio watchdog marks the playing stream dead: the slot is silent, with
four of the five backends untried and nobody to try them. -/
theorem dead_aaudio_unsupervised :
    ¬ ∀ (deviceName : String) (pulseWorthTrying : Bool) (actions : List Action)
      (s : DeviceOpen),
      run step (start deviceName pulseWorthTrying none) actions = some s →
        Supervised s := by
  intro claim
  have supervised : Supervised deadAaudio :=
    claim "aaudio" false dyingAaudio deadAaudio (run_eq_some_getD (by decide +kernel))
  rcases supervised (by decide +kernel) (by decide +kernel) with going | used
  · exact absurd going (by decide +kernel)
  · exact absurd used (by decide +kernel)

end AudioRouter.DeviceOpen
