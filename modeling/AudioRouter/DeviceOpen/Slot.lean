import AudioRouter.DeviceOpen.Steps

/-!
# The player slot

What any number of attempts, finishing in any order, do to the slot: a player
that is playing stays in it, a device that was opened ends in the slot or closed,
and in the end at most one of the opened devices is open.
-/

namespace AudioRouter.DeviceOpen

open Transition

/-! ## The devices -/

/-- Where every opened device is. -/
structure Accounted (s : DeviceOpen) : Prop where
  fresh : ∀ i, s.called ≤ i → s.attempts i = .notCalled
  early :
    ∀ i, (s.attempts i).early = true →
      s.opened i = false ∧ s.closed (.device i) = false
  openedOpen : ∀ i, s.isOpen (.device i) = true → s.opened i = true
  closedDead : ∀ p, s.closed p = true → s.isOpen p = false
  inSlot : ∀ i, s.player = some (.device i) → (s.attempts i).settled = true
  displaced :
    ∀ j p, s.attempts j = .takeOver (some p) → s.player ≠ some p ∧
      ∀ i, p = .device i → (s.attempts i).settled = true ∧ s.isOpen p = false
  devices :
    ∀ i, s.opened i = true →
      (s.attempts i).holding = true ∨ s.player = some (.device i) ∨
        s.closed (.device i) = true ∨
          ∃ j, s.attempts j = .takeOver (some (.device i))

theorem start_accounted (deviceName : String) (pulseWorthTrying : Bool)
    (initial : Option Initial) :
    Accounted (start deviceName pulseWorthTrying initial) where
  fresh := fun _ _ => rfl
  early := fun _ _ => ⟨rfl, rfl⟩
  openedOpen := nofun
  closedDead := nofun
  inSlot := by cases initial <;> nofun
  displaced := nofun
  devices := nofun

theorem AttemptPc.settled_not_early {pc : AttemptPc} (settled : pc.settled = true) :
    pc.early = false := by
  cases pc <;> first | rfl | exact nomatch settled

theorem AttemptPc.holding_not_early {pc : AttemptPc} (holding : pc.holding = true) :
    pc.early = false := by
  cases pc <;> first | rfl | exact nomatch holding

theorem AttemptPc.holding_not_settled {pc : AttemptPc} (holding : pc.holding = true) :
    pc.settled = false := by
  cases pc <;> first | rfl | exact nomatch holding

theorem AttemptPc.holding_not_ended {pc : AttemptPc} (holding : pc.holding = true) :
    pc.ended = false := by
  cases pc <;> first | rfl | exact nomatch holding

theorem AttemptPc.remaining_of_holding {pc : AttemptPc} (holding : pc.holding = true) :
    AttemptPc.fail.remaining < pc.remaining := by
  cases pc <;> first | decide | exact nomatch holding

section

variable {s s' : DeviceOpen} {i : Nat} {pc : AttemptPc}

theorem Accounted.called (accounted : Accounted s) (known : s.attempts i ≠ .notCalled) :
    i < s.called := by
  by_contra past
  exact known (accounted.fresh i (by omega))

/-- An attempt moves on.  Whatever it held is closed, or it still holds it. -/
theorem Accounted.setAttempt {before : AttemptPc} (accounted : Accounted s)
    (stands : s.attempts i = before) (known : before ≠ .notCalled)
    (early : pc.early = true → before.early = true)
    (settled : before.settled = true → pc.settled = true)
    (holding :
      before.holding = true → pc.holding = true ∨ s.closed (.device i) = true)
    (took : ∀ p, before = .takeOver (some p) → s.closed p = true)
    (takes : ∀ p, pc ≠ .takeOver (some p)) :
    Accounted (s.setAttempt i pc) where
  fresh := by
    intro j past
    have past : s.called ≤ j := past
    have called := accounted.called (stands ▸ known)
    rw [setAttempt_of_ne (by omega)]
    exact accounted.fresh j past
  early := by
    intro j before
    by_cases same : j = i
    · subst same
      rw [setAttempt_self] at before
      exact accounted.early j (stands ▸ early before)
    · rw [setAttempt_of_ne same] at before
      exact accounted.early j before
  openedOpen := accounted.openedOpen
  closedDead := accounted.closedDead
  inSlot := by
    intro j installed
    have before := accounted.inSlot j installed
    by_cases same : j = i
    · subst same
      rw [setAttempt_self]
      exact settled (stands ▸ before)
    · rwa [setAttempt_of_ne same]
  displaced := by
    intro j p taking
    have other : j ≠ i := by
      rintro rfl
      rw [setAttempt_self] at taking
      exact takes p taking
    rw [setAttempt_of_ne other] at taking
    obtain ⟨elsewhere, dead⟩ := accounted.displaced j p taking
    refine ⟨elsewhere, fun k device => ?_⟩
    obtain ⟨before, closed⟩ := dead k device
    refine ⟨?_, closed⟩
    by_cases same : k = i
    · subst same
      rw [setAttempt_self]
      exact settled (stands ▸ before)
    · rwa [setAttempt_of_ne same]
  devices := by
    intro j opened
    rcases accounted.devices j opened with before | installed | closed | ⟨k, taking⟩
    · by_cases same : j = i
      · subst same
        rw [setAttempt_self]
        rcases holding (stands ▸ before) with still | closed
        · exact Or.inl still
        · exact Or.inr (Or.inr (Or.inl closed))
      · rw [setAttempt_of_ne same]
        exact Or.inl before
    · exact Or.inr (Or.inl installed)
    · exact Or.inr (Or.inr (Or.inl closed))
    · by_cases same : k = i
      · subst same
        exact Or.inr (Or.inr (Or.inl (took _ (stands ▸ taking))))
      · refine Or.inr (Or.inr (Or.inr ⟨k, ?_⟩))
        rwa [setAttempt_of_ne same]

theorem Accounted.markClosed (accounted : Accounted s) (p : Player) :
    Accounted (s.markClosed p) where
  fresh := accounted.fresh
  early := accounted.early
  openedOpen := by
    intro j isOpen
    by_cases same : Player.device j = p
    · simp [DeviceOpen.markClosed, same] at isOpen
    · simp only [DeviceOpen.markClosed, Function.update_of_ne same] at isOpen
      exact accounted.openedOpen j isOpen
  closedDead := by
    intro q closed
    by_cases same : q = p
    · simp [DeviceOpen.markClosed, same]
    · simpa only [DeviceOpen.markClosed, Function.update_of_ne same] using
        accounted.closedDead q closed
  inSlot := accounted.inSlot
  displaced := by
    intro j q taking
    obtain ⟨elsewhere, dead⟩ := accounted.displaced j q taking
    refine ⟨elsewhere, fun k device => ⟨(dead k device).1, ?_⟩⟩
    by_cases same : q = p
    · simp [DeviceOpen.markClosed, same]
    · simpa only [DeviceOpen.markClosed, Function.update_of_ne same] using
        (dead k device).2
  devices := accounted.devices

/-- `close()` on a player that no attempt is still opening. -/
theorem Accounted.close {p : Player} (accounted : Accounted s)
    (done : ∀ i, p = .device i → (s.attempts i).early = false) :
    Accounted (s.close p) where
  fresh := accounted.fresh
  early := by
    intro j before
    have other : Player.device j ≠ p := by
      rintro rfl
      have before : (s.attempts j).early = true := before
      rw [done j rfl] at before
      exact nomatch before
    obtain ⟨notOpened, notClosed⟩ := accounted.early j before
    refine ⟨notOpened, ?_⟩
    simpa only [DeviceOpen.close, Function.update_of_ne other] using notClosed
  openedOpen := (accounted.markClosed p).openedOpen
  closedDead := by
    intro q closed
    by_cases same : q = p
    · simp [DeviceOpen.close, DeviceOpen.markClosed, same]
    · simp only [DeviceOpen.close, Function.update_of_ne same] at closed
      exact (accounted.markClosed p).closedDead q closed
  inSlot := accounted.inSlot
  displaced := (accounted.markClosed p).displaced
  devices := by
    intro j opened
    rcases accounted.devices j opened with before | installed | closed | taking
    · exact Or.inl before
    · exact Or.inr (Or.inl installed)
    · refine Or.inr (Or.inr (Or.inl ?_))
      by_cases same : Player.device j = p
      · simp [DeviceOpen.close, same]
      · simpa only [DeviceOpen.close, Function.update_of_ne same] using closed
    · exact Or.inr (Or.inr (Or.inr taking))

/-- `open_fn` returns true: the attempt holds an open device from here on. -/
theorem Accounted.openReturned (accounted : Accounted s)
    (holding : (s.attempts i).holding = true)
    (notClosed : s.closed (.device i) = false) :
    Accounted (s.openReturned i true) where
  fresh := accounted.fresh
  early := by
    intro j before
    have other : j ≠ i := by
      rintro rfl
      have before : (s.attempts j).early = true := before
      rw [AttemptPc.holding_not_early holding] at before
      exact nomatch before
    obtain ⟨notOpened, notClosed⟩ := accounted.early j before
    refine ⟨?_, notClosed⟩
    simpa only [DeviceOpen.openReturned, Function.update_of_ne other] using notOpened
  openedOpen := by
    intro j isOpen
    by_cases same : j = i
    · simp [DeviceOpen.openReturned, same]
    · have device : Player.device j ≠ .device i := fun eq => same (Player.device.inj eq)
      simp only [DeviceOpen.openReturned, Function.update_of_ne device] at isOpen
      simpa only [DeviceOpen.openReturned, Function.update_of_ne same] using
        accounted.openedOpen j isOpen
  closedDead := by
    intro p closed
    have closed : s.closed p = true := closed
    have other : p ≠ .device i := by
      rintro rfl
      rw [notClosed] at closed
      exact nomatch closed
    simpa only [DeviceOpen.openReturned, Function.update_of_ne other] using
      accounted.closedDead p closed
  inSlot := accounted.inSlot
  displaced := by
    intro j p taking
    obtain ⟨elsewhere, dead⟩ := accounted.displaced j p taking
    refine ⟨elsewhere, fun k device => ?_⟩
    obtain ⟨settled, closed⟩ := dead k device
    refine ⟨settled, ?_⟩
    have other : p ≠ .device i := by
      rintro rfl
      obtain rfl := Player.device.inj device
      rw [AttemptPc.holding_not_settled holding] at settled
      exact nomatch settled
    simpa only [DeviceOpen.openReturned, Function.update_of_ne other] using closed
  devices := by
    intro j opened
    by_cases same : j = i
    · subst same
      exact Or.inl holding
    · simp only [DeviceOpen.openReturned, Function.update_of_ne same] at opened
      exact accounted.devices j opened

/-- Where `open_fn` returns false nothing has been opened. -/
theorem Accounted.openReturned_false (accounted : Accounted s)
    (early : (s.attempts i).early = true) : s.openReturned i false = s := by
  have notOpened := (accounted.early i early).1
  have notOpen : s.isOpen (.device i) = false := by
    by_contra isOpen
    have opened := accounted.openedOpen i (eq_true_of_ne_false isOpen)
    rw [notOpened] at opened
    exact nomatch opened
  have isOpenSame : Function.update s.isOpen (.device i) false = s.isOpen :=
    Function.update_eq_self_iff.2 notOpen.symm
  have openedSame : Function.update s.opened i false = s.opened :=
    Function.update_eq_self_iff.2 notOpened.symm
  rw [DeviceOpen.openReturned, isOpenSame, openedSame]

theorem isOpen_of_free {k : Nat} (installed : s.player = some (.device k))
    (free : s.isPlaying = false) : s.isOpen (.device k) = false := by
  simpa [isPlaying, installed, isPlaceholder] using free

/-- The attempt takes a free slot; the player that it displaces is dead. -/
theorem Accounted.install (accounted : Accounted s) (locking : s.attempts i = .lock)
    (free : s.isPlaying = false) :
    Accounted ((s.install i).setAttempt i (.takeOver s.player)) where
  fresh := by
    intro j past
    have past : s.called ≤ j := past
    have called : i < s.called := accounted.called (by rw [locking]; exact nofun)
    rw [setAttempt_of_ne (by omega)]
    exact accounted.fresh j past
  early := by
    intro j before
    by_cases same : j = i
    · subst same
      rw [setAttempt_self] at before
      exact nomatch before
    · rw [setAttempt_of_ne same] at before
      exact accounted.early j before
  openedOpen := accounted.openedOpen
  closedDead := accounted.closedDead
  inSlot := by
    intro j installed
    obtain rfl : i = j := Player.device.inj (Option.some.inj installed)
    rw [setAttempt_self]
    rfl
  displaced := by
    have notSettled : (s.attempts i).settled = false := by rw [locking]; rfl
    intro j p taking
    by_cases same : j = i
    · subst same
      rw [setAttempt_self] at taking
      have player : s.player = some p := AttemptPc.takeOver.inj taking
      constructor
      · rintro eq
        obtain rfl := Option.some.inj eq
        have settled := accounted.inSlot j player
        rw [notSettled] at settled
        exact nomatch settled
      · rintro k rfl
        have settled := accounted.inSlot k player
        have dead : s.isOpen (.device k) = false := isOpen_of_free player free
        refine ⟨?_, dead⟩
        have other : k ≠ j := by
          rintro rfl
          rw [notSettled] at settled
          exact nomatch settled
        rwa [setAttempt_of_ne other]
    · rw [setAttempt_of_ne same] at taking
      obtain ⟨_, dead⟩ := accounted.displaced j p taking
      constructor
      · rintro eq
        obtain rfl := Option.some.inj eq
        have settled := (dead i rfl).1
        rw [notSettled] at settled
        exact nomatch settled
      · intro k device
        obtain ⟨settled, closed⟩ := dead k device
        refine ⟨?_, closed⟩
        have other : k ≠ i := by
          rintro rfl
          rw [notSettled] at settled
          exact nomatch settled
        rwa [setAttempt_of_ne other]
  devices := by
    intro j opened
    by_cases same : j = i
    · subst same
      exact Or.inr (Or.inl rfl)
    · rw [setAttempt_of_ne same]
      rcases accounted.devices j opened with before | installed | closed | ⟨k, taking⟩
      · exact Or.inl before
      · refine Or.inr (Or.inr (Or.inr ⟨i, ?_⟩))
        rw [setAttempt_self, installed]
      · exact Or.inr (Or.inr (Or.inl closed))
      · have other : k ≠ i := by
          rintro rfl
          rw [locking] at taking
          exact nomatch taking
        refine Or.inr (Or.inr (Or.inr ⟨k, ?_⟩))
        rwa [setAttempt_of_ne other]

theorem Moves.accounted {before : AttemptPc} (moved : Moves before pc)
    (stands : s.attempts i = before) (accounted : Accounted s) :
    Accounted (s.setAttempt i pc) := by
  cases moved with
  | refused => exact accounted.setAttempt stands nofun nofun nofun nofun nofun nofun
  | allowed =>
    exact accounted.setAttempt stands nofun (fun _ => rfl) nofun nofun nofun nofun
  | raced | locks | superseded =>
    exact
      accounted.setAttempt stands nofun nofun nofun (fun _ => Or.inl rfl) nofun nofun
  | tookFreeSlot | ends =>
    exact accounted.setAttempt stands nofun nofun (fun _ => rfl) nofun nofun nofun

/-- What one step of an attempt preserves. -/
theorem AttemptEffect.accounted (effect : AttemptEffect s i s')
    (accounted : Accounted s) : Accounted s' := by
  cases effect with
  | moves moved => exact moved.accounted rfl accounted
  | opens opening =>
    have early : (s.attempts i).early = true := by rw [opening]; rfl
    have moved : Accounted (s.setAttempt i .recheckShutdown) := by
      refine accounted.setAttempt opening ?_ ?_ ?_ ?_ ?_ ?_ <;> exact nofun
    refine moved.openReturned ?_ (accounted.early i early).2
    rw [setAttempt_self]
    rfl
  | cannotOpen opening =>
    have early : (s.attempts i).early = true := by rw [opening]; rfl
    rw [accounted.openReturned_false early]
    refine accounted.setAttempt opening ?_ ?_ ?_ ?_ ?_ ?_ <;> exact nofun
  | installs locking free => exact accounted.install locking free
  | discards holding =>
    have closes : Accounted (s.close (.device i)) := by
      refine accounted.close fun k device => ?_
      obtain rfl := Player.device.inj device
      exact AttemptPc.holding_not_early holding
    have closed : (s.close (.device i)).closed (.device i) = true := by
      simp [DeviceOpen.close]
    refine closes.setAttempt rfl ?_ nofun ?_ (fun _ => Or.inr closed) ?_ nofun
    · intro eq
      have holding : ((s.close (.device i)).attempts i).holding = true := holding
      rw [eq] at holding
      exact nomatch holding
    · intro settled
      exact absurd settled (by
        rw [Bool.not_eq_true]
        exact AttemptPc.holding_not_settled holding)
    · intro p eq
      have holding : ((s.close (.device i)).attempts i).holding = true := holding
      rw [eq] at holding
      exact nomatch holding
  | @displaces p taking =>
    have closes : Accounted (s.close p) := by
      refine accounted.close fun k device => ?_
      exact AttemptPc.settled_not_early ((accounted.displaced i p taking).2 k device).1
    have closed : (s.close p).closed p = true := by simp [DeviceOpen.close]
    refine closes.setAttempt taking nofun nofun (fun _ => rfl) nofun ?_ nofun
    intro q eq
    obtain rfl := Option.some.inj (AttemptPc.takeOver.inj eq)
    exact closed
  | fails failing =>
    have same : Accounted { s with result := false, pending := false } :=
      { accounted with }
    exact same.setAttempt failing nofun nofun nofun nofun nofun nofun

/-- The player of the slot is not the device that an attempt still holds. -/
theorem Accounted.player_ne {i : Nat} (accounted : Accounted s)
    (held : (s.attempts i).settled = false) : s.player ≠ some (.device i) := by
  intro installed
  have settled := accounted.inSlot i installed
  rw [held] at settled
  exact nomatch settled

/-- Whether the slot's player plays depends on that player only. -/
theorem isPlaying_congr (player : s'.player = s.player)
    (placeholder : s'.initialPlaceholder = s.initialPlaceholder)
    (isOpen : ∀ p, s.player = some p → s'.isOpen p = s.isOpen p) :
    s'.isPlaying = s.isPlaying := by
  rw [isPlaying, isPlaying, player]
  cases slot : s.player with
  | none => rfl
  | some p =>
    have same : s'.isPlaceholder p = s.isPlaceholder p := by
      cases p with
      | initial => exact placeholder
      | device k => rfl
    simp only [isOpen p slot, same]

/-- A player that is playing is neither replaced nor closed by an attempt. -/
theorem AttemptEffect.playing (effect : AttemptEffect s i s')
    (accounted : Accounted s) (playing : s.isPlaying = true) :
    s'.player = s.player ∧ s'.isPlaying = true := by
  rw [← playing]
  cases effect with
  | moves _ => exact ⟨rfl, rfl⟩
  | opens opening =>
    refine ⟨rfl, isPlaying_congr rfl rfl fun p slot => ?_⟩
    have other : p ≠ .device i := by
      rintro rfl
      exact accounted.player_ne (by rw [opening]; rfl) slot
    simp only [DeviceOpen.setAttempt, openReturned, Function.update_of_ne other]
  | cannotOpen opening =>
    rw [accounted.openReturned_false (by rw [opening]; rfl)]
    exact ⟨rfl, rfl⟩
  | installs _ free =>
    rw [playing] at free
    cases free
  | discards holding =>
    refine ⟨rfl, isPlaying_congr rfl rfl fun p slot => ?_⟩
    have other : p ≠ .device i := by
      rintro rfl
      exact accounted.player_ne (AttemptPc.holding_not_settled holding) slot
    simp only [DeviceOpen.setAttempt, DeviceOpen.close, markClosed,
      Function.update_of_ne other]
  | @displaces displaced taking =>
    refine ⟨rfl, isPlaying_congr rfl rfl fun p slot => ?_⟩
    have other : p ≠ displaced := by
      rintro rfl
      exact (accounted.displaced i p taking).1 slot
    simp only [DeviceOpen.setAttempt, DeviceOpen.close, markClosed,
      Function.update_of_ne other]
  | fails _ => exact ⟨rfl, rfl⟩

theorem callAttempt_attempts (accounted : Accounted s) (j : Nat) :
    s.callAttempt.attempts j = s.attempts j ∨
      s.attempts j = .notCalled ∧ s.callAttempt.attempts j = .checkShutdown := by
  by_cases same : j = s.called
  · subst same
    exact Or.inr ⟨accounted.fresh _ (Nat.le_refl _), setAttempt_self s _ _⟩
  · exact Or.inl (setAttempt_of_ne same s _)

theorem Accounted.callAttempt (accounted : Accounted s) : Accounted s.callAttempt := by
  have settled :
      ∀ j, (s.attempts j).settled = true → (s.callAttempt.attempts j).settled = true := by
    intro j before
    rcases callAttempt_attempts accounted j with kept | ⟨fresh, _⟩
    · rwa [kept]
    · rw [fresh] at before
      exact nomatch before
  have takes :
      ∀ j p, s.callAttempt.attempts j = .takeOver p ↔ s.attempts j = .takeOver p := by
    intro j p
    rcases callAttempt_attempts accounted j with kept | ⟨fresh, called⟩
    · rw [kept]
    · rw [fresh, called]
      exact ⟨nofun, nofun⟩
  constructor
  case fresh =>
    intro j past
    have past : s.called + 1 ≤ j := past
    have other : j ≠ s.called := by omega
    exact (setAttempt_of_ne other s _).trans (accounted.fresh j (by omega))
  case early =>
    intro j before
    rcases callAttempt_attempts accounted j with kept | ⟨fresh, _⟩
    · exact accounted.early j (kept ▸ before)
    · exact accounted.early j (by rw [fresh]; rfl)
  case openedOpen => exact accounted.openedOpen
  case closedDead => exact accounted.closedDead
  case inSlot => exact fun j installed => settled j (accounted.inSlot j installed)
  case displaced =>
    intro j p taking
    obtain ⟨elsewhere, dead⟩ := accounted.displaced j p ((takes j _).1 taking)
    exact ⟨elsewhere, fun k device => ⟨settled k (dead k device).1, (dead k device).2⟩⟩
  case devices =>
    intro j opened
    rcases accounted.devices j opened with before | installed | closed | ⟨k, taking⟩
    · rcases callAttempt_attempts accounted j with kept | ⟨fresh, _⟩
      · exact Or.inl (kept.symm ▸ before)
      · rw [fresh] at before
        exact nomatch before
    · exact Or.inr (Or.inl installed)
    · exact Or.inr (Or.inr (Or.inl closed))
    · exact Or.inr (Or.inr (Or.inr ⟨k, (takes k _).2 taking⟩))

/-! ## Steps and runs -/

/-- What one step preserves. -/
theorem step_accounted {action : Action} (accounted : Accounted s)
    (stepped : step s action = some s') : Accounted s' := by
  cases action with
  | attempt i openFn => exact (attemptStep_effect stepped).accounted accounted
  | supervisor timeout =>
    cases supervisorStep_effect stepped with
    | spawns _ => exact { accounted.callAttempt with }
    | _ => exact { accounted with }
  | call =>
    obtain rfl := Option.some.inj stepped
    exact accounted.callAttempt
  | selfClose p =>
    obtain rfl := Option.some.inj stepped
    exact accounted.markClosed p
  | stop =>
    obtain rfl := Option.some.inj stepped
    exact { accounted with }
  | setShutdown =>
    obtain ⟨_, rfl⟩ := step_setShutdown stepped
    exact { accounted with }
  | closePlayer =>
    obtain ⟨_, rfl | ⟨p, slot, rfl⟩⟩ := step_closePlayer stepped
    · exact accounted
    · refine accounted.close fun i device => ?_
      subst device
      exact AttemptPc.settled_not_early (accounted.inSlot i slot)

theorem run_accounted {actions : List Action} (accounted : Accounted s)
    (reached : run step s actions = some s') : Accounted s' :=
  run_preserves (fun _ _ _ before stepped => step_accounted before stepped) actions
    accounted reached

/-- A player that is playing stays in the slot, whatever step is taken. -/
theorem step_player {action : Action} (accounted : Accounted s)
    (playing : s.isPlaying = true) (stepped : step s action = some s') :
    s'.player = s.player := by
  cases action with
  | attempt i openFn => exact ((attemptStep_effect stepped).playing accounted playing).1
  | supervisor timeout =>
    cases supervisorStep_effect stepped <;> rfl
  | call | selfClose | stop =>
    obtain rfl := Option.some.inj stepped
    rfl
  | setShutdown =>
    obtain ⟨_, rfl⟩ := step_setShutdown stepped
    rfl
  | closePlayer =>
    obtain ⟨_, rfl | ⟨p, _, rfl⟩⟩ := step_closePlayer stepped <;> rfl

/-! ## An attempt is never blocked -/

theorem attemptStep_isSome {openFn : Bool} (called : s.attempts i ≠ .notCalled)
    (unfinished : s.attempts i ≠ .finished) : (s.attemptStep i openFn).isSome = true := by
  rw [attemptStep]
  split
  case h_1 pc => exact absurd pc called
  case h_5 => split <;> rfl
  case h_12 pc => exact absurd pc unfinished
  all_goals rfl

theorem Moves.remaining {before after : AttemptPc} (moved : Moves before after) :
    after.remaining < before.remaining := by
  cases moved <;> decide

theorem AttemptEffect.remaining (effect : AttemptEffect s i s') :
    (s'.attempts i).remaining < (s.attempts i).remaining := by
  cases effect with
  | moves moved =>
    rw [setAttempt_self]
    exact moved.remaining
  | opens opening | cannotOpen opening =>
    rw [setAttempt_self, opening]
    decide
  | installs locking _ =>
    rw [setAttempt_self, locking]
    exact Nat.lt_of_sub_eq_succ rfl
  | discards holding =>
    rw [setAttempt_self]
    exact AttemptPc.remaining_of_holding holding
  | displaces taking =>
    rw [setAttempt_self, taking]
    exact Nat.lt_of_sub_eq_succ rfl
  | fails failing =>
    rw [setAttempt_self, failing]
    decide

theorem Moves.called {before after : AttemptPc} (moved : Moves before after) :
    after ≠ .notCalled := by
  cases moved <;> exact nofun

/-- A step of an attempt leaves it called. -/
theorem AttemptEffect.called (effect : AttemptEffect s i s') :
    s'.attempts i ≠ .notCalled := by
  cases effect with
  | moves moved =>
    rw [setAttempt_self]
    exact moved.called
  | _ =>
    rw [setAttempt_self]
    exact nofun

theorem AttemptEffect.others {j : Nat} (effect : AttemptEffect s i s') (other : j ≠ i) :
    s'.attempts j = s.attempts j := by
  cases effect <;> exact setAttempt_of_ne other _ _

/-- The action is a step of attempt `i`. -/
def Action.ofAttempt (i : Nat) : Action → Bool
  | .attempt j _ => j == i
  | _ => false

/-- No step of another thread moves an attempt, and each of its own brings it
nearer to `finished`. -/
theorem step_remaining {action : Action} (accounted : Accounted s)
    (known : s.attempts i ≠ .notCalled) (stepped : step s action = some s') :
    s'.attempts i ≠ .notCalled ∧
      (s'.attempts i).remaining + (if action.ofAttempt i then 1 else 0) ≤
        (s.attempts i).remaining := by
  have kept (same : s'.attempts i = s.attempts i) (other : action.ofAttempt i = false) :
      s'.attempts i ≠ .notCalled ∧
        (s'.attempts i).remaining + (if action.ofAttempt i then 1 else 0) ≤
          (s.attempts i).remaining := by
    rw [same, other]
    exact ⟨known, Nat.le_refl _⟩
  have calls : s.callAttempt.attempts i = s.attempts i := by
    have called := accounted.called known
    exact setAttempt_of_ne (by omega) s _
  cases action with
  | attempt j openFn =>
    have effect := attemptStep_effect stepped
    by_cases same : j = i
    · subst same
      have nearer := effect.remaining
      refine ⟨effect.called, ?_⟩
      simp only [Action.ofAttempt, beq_self_eq_true, if_true]
      omega
    · exact
        kept (effect.others fun eq => same eq.symm) (beq_false_of_ne same)
  | supervisor timeout =>
    cases supervisorStep_effect stepped with
    | spawns _ => exact kept calls rfl
    | _ => exact kept rfl rfl
  | call =>
    obtain rfl := Option.some.inj stepped
    exact kept calls rfl
  | selfClose | stop =>
    obtain rfl := Option.some.inj stepped
    exact kept rfl rfl
  | setShutdown =>
    obtain ⟨_, rfl⟩ := step_setShutdown stepped
    exact kept rfl rfl
  | closePlayer =>
    obtain ⟨_, rfl | ⟨p, _, rfl⟩⟩ := step_closePlayer stepped <;> exact kept rfl rfl

/-- Where `open_fn` returns, the attempt has finished after seven of its own
steps, however the other threads are interleaved. -/
theorem attempt_finishes {actions : List Action} (accounted : Accounted s)
    (known : s.attempts i ≠ .notCalled) (reached : run step s actions = some s') :
    (s'.attempts i).remaining + actions.countP (Action.ofAttempt i) ≤
      (s.attempts i).remaining := by
  induction actions generalizing s with
  | nil =>
    obtain rfl := Option.some.inj reached
    exact Nat.le_refl _
  | cons action actions ih =>
    obtain ⟨u, stepped, rest⟩ := run_cons_eq_some.1 reached
    obtain ⟨still, nearer⟩ := step_remaining accounted known stepped
    have later := ih (step_accounted accounted stepped) still rest
    rw [List.countP_cons]
    omega

/-! ## The end of the attempts -/

/-- Behind `open_fn`, the device is held, in the slot, closed, or about to be
closed by the attempt that has displaced it. -/
theorem Accounted.returned_device (accounted : Accounted s) (opened : s.opened i = true)
    (ended : (s.attempts i).ended = true) :
    s.player = some (.device i) ∨ s.closed (.device i) = true ∨
      ∃ j, s.attempts j = .takeOver (some (.device i)) := by
  rcases accounted.devices i opened with holding | rest
  · rw [AttemptPc.holding_not_ended holding] at ended
    exact nomatch ended
  · exact rest

/-- Once every attempt is over, an opened device is in the slot or closed. -/
theorem Accounted.slot_or_closed (accounted : Accounted s)
    (ended : ∀ i, (s.attempts i).ended = true) (opened : s.opened i = true) :
    s.player = some (.device i) ∨ s.closed (.device i) = true := by
  rcases accounted.returned_device opened (ended i) with installed | closed | ⟨j, taking⟩
  · exact Or.inl installed
  · exact Or.inr closed
  · have ended := ended j
    rw [taking] at ended
    exact nomatch ended

end

/-- Attempts that share the slot, in any order of their steps, with the supervisor,
with backends that stop being open on their own and with `stop()`: a player that
plays is never replaced; an attempt whose `open_fn` returned true ends with its
device in the slot or closed, or displaced when dead by an attempt that is about
to close it; once all attempts have returned every opened device is in the slot or
closed, and at most one is open. -/
theorem attempts_share_slot {deviceName : String} {pulseWorthTrying : Bool}
    {initial : Option Initial} {actions : List Action} {s : DeviceOpen}
    (reached : run step (start deviceName pulseWorthTrying initial) actions = some s) :
    (∀ action s', step s action = some s' → s.isPlaying = true →
      s'.player = s.player) ∧
    (∀ i, s.opened i = true → (s.attempts i).ended = true →
      s.player = some (.device i) ∨ s.closed (.device i) = true ∨
        s.isOpen (.device i) = false ∧
          ∃ j, s.attempts j = .takeOver (some (.device i))) ∧
    ((∀ i, (s.attempts i).ended = true) →
      (∀ i, s.opened i = true →
        s.player = some (.device i) ∨ s.closed (.device i) = true) ∧
      ∀ i j, s.opened i = true → s.opened j = true →
        s.isOpen (.device i) = true → s.isOpen (.device j) = true → i = j) := by
  have accounted : Accounted s :=
    run_accounted (start_accounted deviceName pulseWorthTrying initial) reached
  refine ⟨fun action s' stepped playing => step_player accounted playing stepped, ?_, ?_⟩
  · intro i opened ended
    rcases accounted.returned_device opened ended with installed | closed | ⟨j, taking⟩
    · exact Or.inl installed
    · exact Or.inr (Or.inl closed)
    · exact Or.inr (Or.inr ⟨((accounted.displaced j _ taking).2 i rfl).2, j, taking⟩)
  · intro ended
    have ends : ∀ i, s.opened i = true → s.isOpen (.device i) = true →
        s.player = some (.device i) := by
      intro i opened isOpen
      rcases accounted.slot_or_closed ended opened with installed | closed
      · exact installed
      · rw [accounted.closedDead _ closed] at isOpen
        exact nomatch isOpen
    refine ⟨fun i opened => accounted.slot_or_closed ended opened, ?_⟩
    intro i j opened openedToo isOpen isOpenToo
    have installed := ends i opened isOpen
    rw [ends j openedToo isOpenToo] at installed
    exact (Player.device.inj (Option.some.inj installed)).symm

/-- The first attempt hangs and is abandoned, the second one takes the slot, and
then the first one comes back with an open device. -/
def lateAttempt : List Action :=
  [.supervisor false, .supervisor false, .supervisor false, .supervisor false,
    .attempt 0 true,
    .supervisor true, .supervisor false, .supervisor false, .supervisor false,
    .supervisor false, .supervisor true,
    .supervisor false, .supervisor false, .supervisor false,
    .attempt 1 true, .attempt 1 true, .attempt 1 true, .attempt 1 true,
    .attempt 1 true,
    .attempt 0 true, .attempt 0 true, .attempt 0 true, .attempt 0 true,
    .attempt 0 true]

def lateAttemptEnd : DeviceOpen :=
  (run step (start "aaudio" false none) lateAttempt).getD (start "aaudio" false none)

theorem late_attempt_closed :
    (∀ i, lateAttemptEnd.opened i = true → (lateAttemptEnd.attempts i).ended = true →
      lateAttemptEnd.player = some (.device i) ∨
        lateAttemptEnd.closed (.device i) = true ∨
          lateAttemptEnd.isOpen (.device i) = false ∧
            ∃ j, lateAttemptEnd.attempts j = .takeOver (some (.device i))) ∧
      lateAttemptEnd.player = some (.device 1) ∧
      lateAttemptEnd.opened 0 = true ∧ lateAttemptEnd.attempts 0 = .returned ∧
      lateAttemptEnd.closed (.device 0) = true :=
  ⟨(attempts_share_slot (run_eq_some_getD (by decide +kernel))).2.1,
    by decide +kernel, by decide +kernel, by decide +kernel, by decide +kernel⟩

end AudioRouter.DeviceOpen
