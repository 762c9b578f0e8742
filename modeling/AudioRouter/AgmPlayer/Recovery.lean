import AudioRouter.AgmPlayer.Model

/-!
# Recoveries of the AGM player

`recover` closes the FIFO before it spawns a new `agmplay`.  Where the respawn fails the
player stays open without a descriptor, and `write_frames` gives up before it comes to
anything that calls `recover` again.
-/

namespace AudioRouter.AgmFifoPlayer

open Transition

namespace PlayPc

/-- `recover` has set `recovering_` and not cleared it yet. -/
def inRecovery : PlayPc → Bool
  | .rateLimit | .teardown | .clearFlag | .spawn | .adopt _ | .waitReader | .recovered => true
  | _ => false

/-- `recover` has closed the FIFO and not opened it again. -/
def disconnected : PlayPc → Bool
  | .clearFlag | .spawn | .adopt _ | .waitReader => true
  | _ => false

theorem not_disconnected {pc : PlayPc} (outside : pc.inRecovery = false) :
    pc.disconnected = false := by
  cases pc <;> first | rfl | exact nomatch outside

end PlayPc

/-- The respawn of a recovery fails although the player is open. -/
def respawnFails (s : AgmFifoPlayer) : Action → Bool
  | .play os =>
      s.isOpen &&
        match s.pc with
        | .spawn => !(os.mkfifoOk && os.forkOk)
        | .waitReader => !os.readerOk
        | _ => false
  | _ => false

/-- A call of `write_frames` with data, due for a recovery, writes to an open
descriptor or calls `recover`. -/
def Serves (s : AgmFifoPlayer) : Prop :=
  s.isOpen = true → s.recovering = false → s.pc = .idle → ∀ numFrames os, 0 < numFrames →
    (os.nowMs - s.lastRecoverMs).toNat ≥ kMinRecoverIntervalMs →
      ∃ t, run step s [.writeFrames numFrames, .play os, .play os] = some t ∧
        (t.recoverCalls = s.recoverCalls + 1 ∨ ∃ fd ∈ t.openFds, t.writes = s.writes ++ [fd])

/-- What is known of the player while no respawn fails. -/
structure Tended (s : AgmFifoPlayer) : Prop where
  live : ∀ fd, s.fifoFd = some fd → fd ∈ s.openFds
  recovering : s.recovering = s.pc.inRecovery
  connected : s.isOpen = true → s.pc.disconnected = false → s.fifoFd ≠ none
  severed : s.pc.disconnected = true → s.fifoFd = none

section

variable {s t : AgmFifoPlayer} {os : Os}

/-! ## The descriptor -/

theorem closeFifo_fifoFd : s.closeFifo.fifoFd = none := by
  rw [closeFifo]
  split
  next none => exact none
  · rfl

theorem closeFifo_keeps {α : Type} (read : AgmFifoPlayer → α)
    (kept : ∀ fd fds, read { s with fifoFd := fd, openFds := fds } = read s) :
    read s.closeFifo = read s := by
  rw [closeFifo]
  split
  · rfl
  · exact kept _ _

theorem closeFifo_recovering : s.closeFifo.recovering = s.recovering :=
  closeFifo_keeps AgmFifoPlayer.recovering fun _ _ => rfl

theorem closePlayer_fifoFd : s.closePlayer.fifoFd = none := closeFifo_fifoFd

theorem closePlayer_isOpen : s.closePlayer.isOpen = false :=
  closeFifo_keeps AgmFifoPlayer.isOpen fun _ _ => rfl

theorem closePlayer_recovering : s.closePlayer.recovering = s.recovering :=
  closeFifo_recovering

theorem closePlayer_pc : s.closePlayer.pc = s.pc :=
  closeFifo_keeps AgmFifoPlayer.pc fun _ _ => rfl

theorem openFifo_live : ∀ fd, s.openFifo.fifoFd = some fd → fd ∈ s.openFifo.openFds := by
  intro fd stored
  obtain rfl := Option.some.inj stored
  exact List.mem_cons_self

/-! ## Ways to keep what is known -/

/-- Without a descriptor nothing is to be known of one. -/
theorem Tended.of_none (none : t.fifoFd = none) (recovering : t.recovering = t.pc.inRecovery)
    (away : t.isOpen = true → t.pc.disconnected = true) : Tended t where
  live := fun _ stored => nomatch none.symm.trans stored
  recovering := recovering
  connected := fun isOpen here => nomatch here.symm.trans (away isOpen)
  severed := fun _ => none

/-- A new descriptor is there for all that follows. -/
theorem Tended.of_openFifo (fd : t.fifoFd = s.openFifo.fifoFd)
    (fds : t.openFds = s.openFifo.openFds) (recovering : t.recovering = t.pc.inRecovery)
    (here : t.pc.disconnected = false) : Tended t where
  live := by
    rw [fd, fds]
    exact openFifo_live
  recovering := recovering
  connected := by
    rw [fd]
    exact fun _ _ => Option.some_ne_none s.opened
  severed := fun away => nomatch here.symm.trans away

/-- Where the descriptor stays, so does what is known of it. -/
theorem Tended.move (tended : Tended s) (fd : t.fifoFd = s.fifoFd)
    (fds : t.openFds = s.openFds) (isOpen : t.isOpen = s.isOpen)
    (recovering : t.recovering = t.pc.inRecovery)
    (same : t.pc.disconnected = s.pc.disconnected) : Tended t where
  live := by
    rw [fd, fds]
    exact tended.live
  recovering := recovering
  connected := by
    rw [isOpen, same, fd]
    exact tended.connected
  severed := by
    rw [same, fd]
    exact tended.severed

/-- `recover` returns from a player that is closed, or still has its descriptor. -/
theorem Tended.leaveRecover (tended : Tended s)
    (open_connected : s.isOpen = true → s.pc.disconnected = false) : Tended s.leaveRecover where
  live := tended.live
  recovering := rfl
  connected := fun isOpen _ => tended.connected isOpen (open_connected isOpen)
  severed := fun away => nomatch away

/-! ## `open` and `close()` -/

theorem closePlayer_tended (recovering : s.recovering = s.pc.inRecovery) :
    Tended s.closePlayer := by
  apply Tended.of_none closePlayer_fifoFd
  · rw [closePlayer_recovering, closePlayer_pc]
    exact recovering
  · intro isOpen
    exact nomatch isOpen.symm.trans closePlayer_isOpen

theorem Tended.openPlayer (tended : Tended s) (idle : s.pc = .idle) (watcherOk : Bool) :
    Tended (s.openPlayer os watcherOk) := by
  have resting : s.recovering = false := by rw [tended.recovering, idle]; rfl
  rw [AgmFifoPlayer.openPlayer]
  have idleToo : (if s.isOpen then s.closePlayer else s).pc = .idle := by
    split
    · exact closePlayer_pc.trans idle
    · exact idle
  have restingToo : (if s.isOpen then s.closePlayer else s).recovering = false := by
    split
    · exact closePlayer_recovering.trans resting
    · exact resting
  generalize (if s.isOpen then s.closePlayer else s) = u at idleToo restingToo ⊢
  have outside : u.recovering = u.pc.inRecovery :=
    restingToo.trans (congrArg PlayPc.inRecovery idleToo).symm
  dsimp only
  split
  · split
    · exact Tended.of_openFifo rfl rfl outside (congrArg PlayPc.disconnected idleToo)
    · exact closePlayer_tended outside
  · exact closePlayer_tended outside

/-! ## The playback thread -/

theorem Tended.writeFrames (tended : Tended s) (idle : s.pc = .idle) (numFrames : Nat) :
    Tended (s.writeFrames numFrames) := by
  rw [AgmFifoPlayer.writeFrames]
  split
  · exact tended
  · split
    · exact tended
    · split
      · exact tended
      next running =>
        refine tended.move rfl rfl rfl ?_ ?_
        · exact eq_false_of_ne_true running
        · exact (congrArg PlayPc.disconnected idle).symm

/-- A step between two places outside `recover`. -/
theorem Tended.stay (tended : Tended s) (before : s.pc.inRecovery = false)
    (fd : t.fifoFd = s.fifoFd) (fds : t.openFds = s.openFds) (isOpen : t.isOpen = s.isOpen)
    (same : t.recovering = s.recovering) (after : t.pc.inRecovery = false) : Tended t := by
  apply tended.move fd fds isOpen
  · rw [same, tended.recovering, before, after]
  · rw [PlayPc.not_disconnected before, PlayPc.not_disconnected after]

theorem Tended.writeSome {bytes written : Nat} (tended : Tended s)
    (writes : s.pc = .writing bytes written) : Tended (s.writeSome os bytes written) := by
  have before : s.pc.inRecovery = false := by rw [writes]; rfl
  rw [AgmFifoPlayer.writeSome]
  split
  · dsimp only
    split
    case h_5 =>
      refine tended.stay before rfl rfl rfl rfl ?_
      dsimp only [enter]
      split <;> rfl
    all_goals exact tended.stay before rfl rfl rfl rfl rfl
  · exact tended.stay before rfl rfl rfl rfl rfl

theorem Tended.waitForRoom {bytes written : Nat} (tended : Tended s)
    (stalled : s.pc = .stalled bytes written) : Tended (s.waitForRoom os bytes written) := by
  have before : s.pc.inRecovery = false := by rw [stalled]; rfl
  rw [AgmFifoPlayer.waitForRoom]
  generalize (if s.stallStartMs = 0 then os.nowMs else s.stallStartMs) = start
  refine tended.stay before rfl rfl rfl rfl ?_
  dsimp only [enter]
  split <;> rfl

theorem Tended.recoverEntry (tended : Tended s) (calls : s.pc = .recover) :
    Tended s.recoverEntry := by
  have resting : s.recovering = false := by rw [tended.recovering, calls]; rfl
  rw [AgmFifoPlayer.recoverEntry]
  dsimp only
  rw [if_neg (by rw [resting]; exact Bool.false_ne_true)]
  refine tended.move rfl rfl rfl rfl ?_
  rw [calls]
  rfl

theorem Tended.recoverRateLimit (tended : Tended s) (asks : s.pc = .rateLimit) :
    Tended (s.recoverRateLimit os) := by
  have here : s.pc.disconnected = false := by rw [asks]; rfl
  have busy : s.recovering = true := by rw [tended.recovering, asks]; rfl
  rw [AgmFifoPlayer.recoverRateLimit]
  split
  · exact tended.leaveRecover fun _ => here
  · exact tended.move rfl rfl rfl busy here.symm

theorem Tended.recoverTeardown (tended : Tended s) (tears : s.pc = .teardown) :
    Tended s.recoverTeardown := by
  have busy : s.recovering = true := by rw [tended.recovering, tears]; rfl
  rw [AgmFifoPlayer.recoverTeardown]
  split
  · apply Tended.of_none
    · exact closeFifo_fifoFd
    · exact closeFifo_recovering.trans busy
    · exact fun _ => rfl
  next closed => exact tended.leaveRecover fun isOpen => absurd isOpen closed

/-- The respawn goes on without a descriptor, or it fails on a player that is closed. -/
theorem Tended.respawnSpawn (tended : Tended s) (spawns : s.pc = .spawn)
    (kept : respawnFails s (.play os) = false) : Tended (s.respawnSpawn os) := by
  have busy : s.recovering = true := by rw [tended.recovering, spawns]; rfl
  have away : s.pc.disconnected = true := by rw [spawns]; rfl
  rw [AgmFifoPlayer.respawnSpawn]
  split
  · exact tended.move rfl rfl rfl busy away.symm
  next failed =>
    apply tended.leaveRecover
    intro isOpen
    rw [respawnFails, spawns, isOpen, eq_false_of_ne_true failed] at kept
    exact nomatch kept

theorem Tended.respawnAdopt {pid : Pid} (tended : Tended s) (adopts : s.pc = .adopt pid) :
    Tended (s.respawnAdopt pid) := by
  have busy : s.recovering = true := by rw [tended.recovering, adopts]; rfl
  have away : s.pc.disconnected = true := by rw [adopts]; rfl
  rw [AgmFifoPlayer.respawnAdopt]
  split
  · exact tended.move rfl rfl rfl busy away.symm
  next closed => exact tended.leaveRecover fun isOpen => absurd isOpen closed

theorem Tended.respawnWaitReader (tended : Tended s) (waits : s.pc = .waitReader)
    (kept : respawnFails s (.play os) = false) : Tended (s.respawnWaitReader os) := by
  have busy : s.recovering = true := by rw [tended.recovering, waits]; rfl
  rw [AgmFifoPlayer.respawnWaitReader]
  split
  · exact Tended.of_openFifo (s := s) rfl rfl busy rfl
  next failed =>
    apply tended.leaveRecover
    intro isOpen
    rw [respawnFails, waits, isOpen, eq_false_of_ne_true failed] at kept
    exact nomatch kept

theorem Tended.playStep (tended : Tended s) (kept : respawnFails s (.play os) = false)
    (stepped : s.playStep os = some t) : Tended t := by
  rw [AgmFifoPlayer.playStep] at stepped
  split at stepped
  case h_1 => exact nomatch stepped
  all_goals obtain rfl := Option.some.inj stepped
  next bytes exchanges =>
    refine tended.stay (by rw [exchanges]; rfl) rfl rfl rfl rfl ?_
    dsimp only [enter]
    split <;> rfl
  next writes => exact tended.writeSome writes
  next stalled => exact tended.waitForRoom stalled
  next calls => exact tended.recoverEntry calls
  next asks => exact tended.recoverRateLimit asks
  next tears => exact tended.recoverTeardown tears
  next clears =>
    have busy : s.recovering = true := by rw [tended.recovering, clears]; rfl
    exact tended.move rfl rfl rfl busy (by rw [clears]; rfl)
  next spawns => exact tended.respawnSpawn spawns kept
  next adopts => exact tended.respawnAdopt adopts
  next waits => exact tended.respawnWaitReader waits kept
  next recovers =>
    have here : s.pc.disconnected = false := by rw [recovers]; rfl
    have calm : Tended { s with stallStartMs := 0 } :=
      tended.move rfl rfl rfl tended.recovering rfl
    exact calm.leaveRecover fun _ => here

/-! ## All threads -/

theorem Tended.watchStep {nowMs : Millis} {routingIntact logcatExited : Bool}
    (tended : Tended s) (stepped : s.watchStep nowMs routingIntact logcatExited = some t) :
    Tended t := by
  rw [AgmFifoPlayer.watchStep] at stepped
  split at stepped
  · exact nomatch stepped
  · repeat' split at stepped
    all_goals
      obtain rfl := Option.some.inj stepped
      exact tended.move rfl rfl rfl tended.recovering rfl
  · obtain rfl := Option.some.inj stepped
    exact tended.move rfl rfl rfl tended.recovering rfl

theorem Tended.step {action : Action} (tended : Tended s)
    (kept : respawnFails s action = false) (stepped : s.step action = some t) : Tended t := by
  rw [AgmFifoPlayer.step.eq_def] at stepped
  cases action with
  | «open» os watcherOk =>
    dsimp only at stepped
    split at stepped
    next ready =>
      obtain rfl := Option.some.inj stepped
      exact tended.openPlayer ready.1 watcherOk
    · exact nomatch stepped
  | writeFrames numFrames =>
    dsimp only at stepped
    split at stepped
    next idle =>
      obtain rfl := Option.some.inj stepped
      exact tended.writeFrames idle numFrames
    · exact nomatch stepped
  | play os => exact tended.playStep kept stepped
  | watch nowMs routingIntact logcatExited => exact tended.watchStep stepped
  | close =>
    dsimp only at stepped
    split at stepped
    · exact nomatch stepped
    · obtain rfl := Option.some.inj stepped
      exact closePlayer_tended tended.recovering

/-! ## What a call comes to -/

theorem run_three {u v w : AgmFifoPlayer} {a b c : Action} (first : step s a = some u)
    (second : step u b = some v) (third : step v c = some w) :
    run step s [a, b, c] = some w := by
  refine run_cons_eq_some.2 ⟨u, first, ?_⟩
  refine run_cons_eq_some.2 ⟨v, second, ?_⟩
  exact run_cons_eq_some.2 ⟨w, third, rfl⟩

theorem writeSome_writes {fd : Fd} (isOpen : s.isOpen = true) (stored : s.fifoFd = some fd)
    (bytes written : Nat) :
    (s.writeSome os bytes written).writes = s.writes ++ [fd] ∧
      (s.writeSome os bytes written).openFds = s.openFds := by
  rw [AgmFifoPlayer.writeSome, isOpen, stored]
  dsimp only
  split <;> exact ⟨rfl, rfl⟩

/-- With a descriptor the call gets past its first section, and from there to a write or
to `recover`. -/
theorem Tended.serves (tended : Tended s) : Serves s := by
  intro isOpen resting idle numFrames os positive due
  have connected : s.fifoFd ≠ none := by
    apply tended.connected isOpen
    rw [idle]
    rfl
  obtain ⟨fd, stored⟩ := Option.ne_none_iff_exists'.1 connected
  have first :
      s.step (.writeFrames numFrames) = some (s.enter (.exchange (numFrames * 2))) := by
    rw [AgmFifoPlayer.step, if_pos idle, AgmFifoPlayer.writeFrames,
      if_neg (Nat.ne_of_gt positive), if_neg (by simp [isOpen, stored]),
      if_neg (by simp [resting])]
  cases closed : s.sessionClosed with
  | true =>
    have second :
        (s.enter (.exchange (numFrames * 2))).step (.play os) =
          some ({ s with sessionClosed := false }.enter .recover) := by
      simp [AgmFifoPlayer.step, AgmFifoPlayer.playStep, enter, closed]
    refine ⟨_, run_three first second rfl, Or.inl ?_⟩
    rw [AgmFifoPlayer.recoverEntry]
    dsimp only
    split <;> rfl
  | false =>
    have second :
        (s.enter (.exchange (numFrames * 2))).step (.play os) =
          some ({ s with sessionClosed := false }.enter (.writing (numFrames * 2) 0)) := by
      simp [AgmFifoPlayer.step, AgmFifoPlayer.playStep, enter, closed]
    refine ⟨_, run_three first second rfl, Or.inr ⟨fd, ?_⟩⟩
    have wrote :=
      @writeSome_writes ({ s with sessionClosed := false }.enter (.writing (numFrames * 2) 0))
        os fd isOpen stored (numFrames * 2) 0
    rw [wrote.1, wrote.2]
    exact ⟨tended.live fd stored, rfl⟩

/-- An open player without a descriptor gives up every call at once. -/
theorem not_serves_of_none (isOpen : t.isOpen = true) (resting : t.recovering = false)
    (idle : t.pc = .idle) (none : t.fifoFd = none) : ¬ Serves t := by
  intro serves
  have due :
      ((t.lastRecoverMs + BitVec.ofNat 64 kMinRecoverIntervalMs) - t.lastRecoverMs).toNat ≥
        kMinRecoverIntervalMs := by
    rw [BitVec.add_comm, BitVec.add_sub_cancel]
    decide
  obtain ⟨u, ran, -⟩ :=
    serves isOpen resting idle 1
      { nowMs := t.lastRecoverMs + BitVec.ofNat 64 kMinRecoverIntervalMs } Nat.one_pos due
  obtain ⟨v, first, rest⟩ := run_cons_eq_some.1 ran
  rw [AgmFifoPlayer.step, if_pos idle, AgmFifoPlayer.writeFrames, if_neg Nat.one_ne_zero,
    if_pos (Or.inr none)] at first
  obtain rfl := Option.some.inj first
  obtain ⟨w, second, -⟩ := run_cons_eq_some.1 rest
  rw [AgmFifoPlayer.step, AgmFifoPlayer.playStep, idle] at second
  exact nomatch second

/-- A respawn that fails leaves the player open, idle and without a descriptor. -/
theorem respawnFails_not_serves {action : Action} (tended : Tended s)
    (failed : respawnFails s action = true) (stepped : s.step action = some t) :
    ¬ Serves t := by
  cases action with
  | play os =>
    obtain ⟨isOpen, fails⟩ := Bool.and_eq_true_iff.1 failed
    have left : t = s.leaveRecover ∧ s.pc.disconnected = true := by
      rw [AgmFifoPlayer.step, AgmFifoPlayer.playStep] at stepped
      split at fails
      next spawns =>
        rw [spawns] at stepped ⊢
        have broken : (os.mkfifoOk && os.forkOk) = false := by simpa only [Bool.not_eq_true'] using fails
        dsimp only at stepped
        rw [respawnSpawn, broken, if_neg Bool.false_ne_true] at stepped
        exact ⟨(Option.some.inj stepped).symm, rfl⟩
      next waits =>
        rw [waits] at stepped ⊢
        have broken : os.readerOk = false := by simpa only [Bool.not_eq_true'] using fails
        dsimp only at stepped
        rw [respawnWaitReader, broken, if_neg Bool.false_ne_true] at stepped
        exact ⟨(Option.some.inj stepped).symm, rfl⟩
      next => exact nomatch fails
    obtain ⟨rfl, away⟩ := left
    exact not_serves_of_none isOpen rfl rfl (tended.severed away)
  | «open» _ _ | writeFrames _ | watch _ _ _ | close => exact nomatch failed

end

/-! ## Runs of the player -/

theorem tended_new : Tended {} where
  live := nofun
  recovering := rfl
  connected := nofun
  severed := nofun

/-- Every call of an open player that is due for a recovery writes to an open descriptor
or calls `recover` if and only if no respawn of a recovery fails while the player is
open. -/
theorem write_frames_never_stuck {actions : List Action} {s : AgmFifoPlayer}
    (reached : run step {} actions = some s) :
    (∀ before u, before <+: actions → run step {} before = some u → Serves u) ↔
      EveryStep step (fun s action => respawnFails s action = false) {} actions := by
  refine everyState_iff_of_breaks ?_ ?_ ?_ actions tended_new reached
  · exact fun _ _ _ tended kept stepped => tended.step kept stepped
  · exact fun _ tended => tended.serves
  · exact fun _ _ _ tended failed stepped =>
      respawnFails_not_serves tended (eq_true_of_ne_false failed) stepped

/-- `agmplay` exits, the write fails, and a recovery runs up to the respawn. -/
def recovers (forkOk : Bool) : List Action :=
  .open {} true :: .writeFrames 480 ::
    ([{}, { write := .failed }, {}, { nowMs := 5000 }, {}, {}, { forkOk := forkOk }] :
      List Os).map .play

/-- The respawn goes on to a new descriptor. -/
def recoversWhole : List Action := recovers true ++ ([{}, {}, {}] : List Os).map .play

def ranFrom (actions : List Action) : AgmFifoPlayer := (run step {} actions).getD {}

theorem write_frames_never_stuck_recovered :
    (ranFrom recoversWhole).fifoFd = some 1 ∧
      (∀ before u, before <+: recoversWhole → run step {} before = some u → Serves u) :=
  ⟨by decide +kernel,
    (write_frames_never_stuck (s := ranFrom recoversWhole)
      (run_eq_some_getD (by decide +kernel))).2 (by decide +kernel)⟩

/-- The fork fails: the player stays open, and a call much later writes nothing and does
not call `recover`. -/
theorem failed_fork_sticks :
    run step {} (recovers false) = some (ranFrom (recovers false)) ∧
      (ranFrom (recovers false)).isOpen = true ∧
      (ranFrom (recovers false)).recovering = false ∧
      (ranFrom (recovers false)).pc = .idle ∧
      (ranFrom (recovers false)).lastRecoverMs = 5000 ∧
      (ranFrom (recovers false)).writeFrames 480 = ranFrom (recovers false) ∧
      ¬ Serves (ranFrom (recovers false)) :=
  ⟨run_eq_some_getD (by decide +kernel), by decide +kernel, by decide +kernel,
    by decide +kernel, by decide +kernel, by decide +kernel,
    not_serves_of_none (by decide +kernel) (by decide +kernel) (by decide +kernel)
      (by decide +kernel)⟩

end AudioRouter.AgmFifoPlayer
