import AudioRouter.AaudioPlayer.Handles

/-!
# The pump as the consumer of the FIFO

`write_frames` waits for room in the FIFO while `is_open_` is set.  The pump leaves its
loop on shutdown and where it gives up on AAudio, but also where `poll` fails and where
a rebuild has failed and left no stream.
-/

namespace AudioRouter.AaudioFifoPlayer

open Transition

/-- The pump returns although the player is open and nobody has asked it to stop. -/
def abandons (s : AaudioFifoPlayer) : Action → Bool
  | .close => false
  | .pump hal =>
      !s.stopPump && s.isOpen &&
        match s.pc with
        | .begin => decide (s.config.bytesPerFrame = 0)
        | .poll => decide (hal.poll = .failed)
        | .resolve _ => s.stream.isNone
        | _ => false

/-- `pump_loop` has returned only if the player is being stopped or not open. -/
def ReturnedStopped (s : AaudioFifoPlayer) : Prop :=
  s.pc = .returned → s.stopPump = true ∨ s.isOpen = false

/-- A pump that has returned was stopped, and one that holds a copy of the stream finds
the stream gone only then. -/
structure Placed (s : AaudioFifoPlayer) : Prop where
  returned : ReturnedStopped s
  busy : s.pc.copy.isSome = true → s.stream = none → s.stopPump = true

/-- What is known of the player while the pump has not abandoned it. -/
structure Attended (s : AaudioFifoPlayer) : Prop extends Placed s where
  closing : s.closePc ≠ .notCalled → s.stopPump = true

/-! ## What the pump leaves to `close()` -/

/-- Only `close()` sets `stop_pump_` and moves on. -/
structure SameClosing (s t : AaudioFifoPlayer) : Prop where
  stopPump : t.stopPump = s.stopPump
  closePc : t.closePc = s.closePc

section

variable {s t u : AaudioFifoPlayer} {hal : Hal} {stream : Handle}

theorem SameClosing.trans (first : SameClosing s t) (second : SameClosing t u) :
    SameClosing s u :=
  ⟨second.stopPump.trans first.stopPump, second.closePc.trans first.closePc⟩

theorem sameClosing_closeStream (s : AaudioFifoPlayer) : SameClosing s s.closeStream := by
  rw [closeStream]
  split <;> exact ⟨rfl, rfl⟩

theorem sameClosing_rebuild (s : AaudioFifoPlayer) (hal : Hal) :
    SameClosing s (s.rebuildStreamLocked hal) := by
  have closed := sameClosing_closeStream s
  rw [rebuildStreamLocked]
  split <;> exact ⟨closed.stopPump, closed.closePc⟩

theorem Ensured.sameClosing {result : AaudioFifoPlayer × Bool}
    (outcome : Ensured s hal stream result) : SameClosing s result.1 := by
  cases outcome with
  | rebuilds _ _ =>
    exact
      SameClosing.trans (t := { s.use .getState stream with lastRebuildMs := hal.nowMs })
        ⟨rfl, rfl⟩ (sameClosing_rebuild _ hal)
  | waits _ | restarts _ | runs _ => exact ⟨rfl, rfl⟩

theorem sameClosing_resolve (frames : Nat) : SameClosing s (s.resolve hal frames) := by
  rw [resolve]
  split
  · exact ⟨rfl, rfl⟩
  next stream _ =>
    have same := (ensured s hal stream).sameClosing
    split
    next eq =>
      rw [eq] at same
      exact ⟨same.stopPump, same.closePc⟩
    next eq =>
      rw [eq] at same
      exact ⟨same.stopPump, same.closePc⟩

theorem sameClosing_report (result : Int) : SameClosing s (s.report hal stream result) := by
  rcases report_eq s hal stream result with ⟨failures, warnMs, uses, disconnected, reported⟩
  rw [reported]
  exact ⟨rfl, rfl⟩

theorem sameClosing_escalate (nowMs : Millis) :
    SameClosing s (s.escalate hal stream nowMs) := by
  rw [escalate]
  split <;> exact ⟨rfl, rfl⟩

theorem sameClosing_rebuildStalled (s : AaudioFifoPlayer) (hal : Hal) (nowMs : Millis) :
    SameClosing s (s.rebuildStalled hal nowMs) := by
  rw [rebuildStalled]
  dsimp only
  split
  · exact
      ⟨(sameClosing_closeStream _).stopPump, (sameClosing_closeStream _).closePc⟩
  · exact ⟨(sameClosing_rebuild _ hal).stopPump, (sameClosing_rebuild _ hal).closePc⟩

theorem sameClosing_recoverStream (disconnected : Bool) (nowMs : Millis) :
    SameClosing s (s.recoverStream hal stream disconnected nowMs) := by
  rw [recoverStream]
  split
  · exact ⟨rfl, rfl⟩
  · dsimp only
    split
    · split
      · exact ⟨(sameClosing_rebuild _ hal).stopPump, (sameClosing_rebuild _ hal).closePc⟩
      · exact ⟨rfl, rfl⟩
    · have escalated : SameClosing s (s.escalate hal stream nowMs) :=
        sameClosing_escalate nowMs
      split
      · split
        · exact escalated.trans (sameClosing_rebuildStalled _ hal nowMs)
        · exact ⟨escalated.stopPump, escalated.closePc⟩
      · exact ⟨escalated.stopPump, escalated.closePc⟩

theorem sameClosing_publish : SameClosing s (s.publish hal stream) := by
  rw [publish]
  dsimp only
  split <;> exact ⟨rfl, rfl⟩

theorem sameClosing_takeBytes (bytesRead : Int) : SameClosing s (s.takeBytes bytesRead) := by
  rw [takeBytes]
  split <;> exact ⟨rfl, rfl⟩

theorem sameClosing_pumpStep (stepped : s.pumpStep hal = some t) : SameClosing s t := by
  rw [AaudioFifoPlayer.pumpStep] at stepped
  split at stepped
  case h_10 => cases stepped
  all_goals obtain rfl := Option.some.inj stepped
  case h_4 => exact sameClosing_takeBytes hal.bytesRead
  case h_5 => exact sameClosing_resolve _
  case h_7 => exact sameClosing_report _
  case h_8 => exact sameClosing_recoverStream _ _
  case h_9 => exact sameClosing_publish
  all_goals exact ⟨rfl, rfl⟩

/-! ## Where the pump stands afterwards -/

/-- `ensure_stream_started_locked` returns true only with a stream. -/
theorem Ensured.present {result : AaudioFifoPlayer × Bool}
    (outcome : Ensured s hal stream result) (stored : s.stream = some stream)
    (ok : result.2 = true) : result.1.stream ≠ none := by
  cases outcome with
  | rebuilds _ _ =>
    have opened : (hal.builderOk && hal.openOk) = true := ok
    rw [rebuild_stream, opened]
    exact nofun
  | waits _ | restarts _ | runs _ =>
    simp only [use_stream, stored, ne_eq, reduceCtorEq, not_false_eq_true]

/-- The pump goes on without a copy of the stream. -/
theorem Placed.of_pc (running : t.pc ≠ .returned) (noCopy : t.pc.copy = none) :
    Placed t where
  returned := fun eq => absurd eq running
  busy := fun copy => by
    rw [noCopy] at copy
    exact nomatch copy

theorem Placed.of_copy (copied : t.pc.copy.isSome = true)
    (busy : t.stream = none → t.stopPump = true) : Placed t where
  returned := fun eq => by
    rw [eq] at copied
    exact nomatch copied
  busy := fun _ => busy

/-- The pump returns from a player that is being stopped or not open. -/
theorem Placed.of_returned (returned : t.pc = .returned)
    (stopped : t.stopPump = true ∨ t.isOpen = false) : Placed t where
  returned := fun _ => stopped
  busy := fun copy => by
    rw [returned] at copy
    exact nomatch copy

/-! ## The steps of the pump and of `close()` -/

theorem resolve_placed {frames : Nat}
    (present : s.stream = none → s.stopPump = true ∨ s.isOpen = false) :
    Placed (s.resolve hal frames) := by
  rw [resolve]
  cases stored : s.stream with
  | none => exact Placed.of_returned rfl (present stored)
  | some stream =>
    have outcome := ensured s hal stream
    dsimp only
    generalize s.ensureStreamStartedLocked hal stream = result at outcome ⊢
    have present := outcome.present stored
    obtain ⟨after, ok⟩ := result
    cases ok with
    | true => exact Placed.of_copy rfl fun empty => absurd empty (present rfl)
    | false => exact Placed.of_pc (by rintro ⟨⟩) rfl

theorem report_placed {result : Int} (busy : s.stream = none → s.stopPump = true) :
    Placed (s.report hal stream result) := by
  rcases report_eq s hal stream result with ⟨failures, warnMs, uses, disconnected, reported⟩
  rw [reported]
  exact Placed.of_copy rfl busy

theorem rebuildStalled_placed {nowMs : Millis} :
    Placed (s.rebuildStalled hal nowMs) := by
  rw [rebuildStalled]
  dsimp only
  split
  · exact Placed.of_returned rfl (Or.inr rfl)
  · exact Placed.of_pc (by rintro ⟨⟩) rfl

theorem recoverStream_placed {disconnected : Bool} {nowMs : Millis}
    (busy : s.stream = none → s.stopPump = true) :
    Placed (s.recoverStream hal stream disconnected nowMs) := by
  rw [recoverStream]
  split
  next empty => exact Placed.of_returned rfl (Or.inl (busy empty))
  · dsimp only
    split
    · split <;> exact Placed.of_pc (by rintro ⟨⟩) rfl
    · split
      · split
        · exact rebuildStalled_placed
        · exact Placed.of_pc (by rintro ⟨⟩) rfl
      · exact Placed.of_pc (by rintro ⟨⟩) rfl

theorem publish_placed (busy : s.stream = none → s.stopPump = true) :
    Placed (s.publish hal stream) := by
  rw [publish]
  dsimp only
  split
  next empty => exact Placed.of_returned rfl (Or.inl (busy empty))
  · exact Placed.of_pc (by rintro ⟨⟩) rfl

/-- A pump that does not abandon the player finds its place. -/
theorem Attended.pumpStep_placed (attended : Attended s)
    (kept : abandons s (.pump hal) = false) (stepped : s.pumpStep hal = some t) :
    Placed t := by
  have busy := attended.busy
  have notOpen :
      (match s.pc with
        | .begin => decide (s.config.bytesPerFrame = 0)
        | .poll => decide (hal.poll = .failed)
        | .resolve _ => s.stream.isNone
        | _ => false) = true → s.stopPump = true ∨ s.isOpen = false := by
    intro leaves
    rw [abandons, leaves] at kept
    cases stop : s.stopPump <;> cases isOpen : s.isOpen <;>
      simp [stop, isOpen] at kept ⊢
  rw [AaudioFifoPlayer.pumpStep] at stepped
  split at stepped
  case h_10 => cases stepped
  all_goals obtain rfl := Option.some.inj stepped
  next begins =>
    rw [begins] at notOpen
    split
    next empty => exact Placed.of_returned rfl (notOpen (decide_eq_true empty))
    · exact Placed.of_pc (by rintro ⟨⟩) rfl
  next =>
    split
    next stopped => exact Placed.of_returned rfl (Or.inl stopped)
    · exact Placed.of_pc (by rintro ⟨⟩) rfl
  next polls =>
    rw [polls] at notOpen
    cases said : hal.poll with
    | failed => exact Placed.of_returned rfl (notOpen (decide_eq_true said))
    | readable | nothing | interrupted => exact Placed.of_pc (by rintro ⟨⟩) rfl
  next =>
    rw [takeBytes]
    split
    · exact Placed.of_pc (by rintro ⟨⟩) rfl
    · dsimp only
      split <;> exact Placed.of_pc (by rintro ⟨⟩) rfl
  next frames resolves =>
    rw [resolves] at notOpen
    apply resolve_placed
    intro empty
    apply notOpen
    exact Option.isNone_iff_eq_none.2 empty
  next stream frames writes =>
    rw [writes] at busy
    split <;> exact Placed.of_copy rfl (busy rfl)
  next reports =>
    rw [reports] at busy
    exact report_placed (busy rfl)
  next fails =>
    rw [fails] at busy
    exact recoverStream_placed (busy rfl)
  next succeeds =>
    rw [succeeds] at busy
    exact publish_placed (busy rfl)

theorem Attended.pumpStep (attended : Attended s) (kept : abandons s (.pump hal) = false)
    (stepped : s.pumpStep hal = some t) : Attended t where
  toPlaced := attended.pumpStep_placed kept stepped
  closing := by
    have same := sameClosing_pumpStep stepped
    rw [same.closePc, same.stopPump]
    exact attended.closing

/-- `close()` sets `stop_pump_` before anything else. -/
theorem Attended.closeStep (attended : Attended s) (stepped : s.closeStep = some t) :
    Attended t := by
  rw [AaudioFifoPlayer.closeStep] at stepped
  split at stepped
  next =>
    obtain rfl := Option.some.inj stepped
    exact ⟨⟨fun _ => Or.inl rfl, fun _ _ => rfl⟩, fun _ => rfl⟩
  next called =>
    obtain rfl := Option.some.inj stepped
    have stopped := attended.closing (by rw [called]; exact nofun)
    exact ⟨⟨fun _ => Or.inl stopped, fun _ _ => stopped⟩, fun _ => stopped⟩
  next joins =>
    split at stepped
    · obtain rfl := Option.some.inj stepped
      have stopped := attended.closing (by rw [joins]; exact nofun)
      exact ⟨⟨fun _ => Or.inl stopped, fun _ _ => stopped⟩, fun _ => stopped⟩
    · exact nomatch stepped
  next => exact nomatch stepped

theorem Attended.step {action : Action} (attended : Attended s)
    (kept : abandons s action = false) (stepped : s.step action = some t) :
    Attended t := by
  cases action with
  | pump hal => exact attended.pumpStep kept stepped
  | close => exact attended.closeStep stepped

/-- Where the pump abandons the player it has returned from an open one. -/
theorem abandons_returned {action : Action} (left : abandons s action = true)
    (stepped : s.step action = some t) : ¬ ReturnedStopped t := by
  cases action with
  | close => cases left
  | pump hal =>
    simp only [abandons, Bool.and_eq_true, Bool.not_eq_eq_eq_not, Bool.not_true] at left
    obtain ⟨⟨running, isOpen⟩, leaves⟩ := left
    have stays : t = s.enter .returned := by
      rw [AaudioFifoPlayer.step, AaudioFifoPlayer.pumpStep] at stepped
      split at leaves
      next begins =>
        rw [begins] at stepped
        dsimp only at stepped
        rw [if_pos (of_decide_eq_true leaves)] at stepped
        exact (Option.some.inj stepped).symm
      next polls =>
        rw [polls] at stepped
        dsimp only at stepped
        rw [of_decide_eq_true leaves] at stepped
        exact (Option.some.inj stepped).symm
      next frames resolves =>
        rw [resolves] at stepped
        dsimp only at stepped
        rw [resolve, Option.isNone_iff_eq_none.1 leaves] at stepped
        exact (Option.some.inj stepped).symm
      next => cases leaves
    intro stopped
    subst stays
    rcases stopped rfl with stop | closed
    · exact Bool.noConfusion (running.symm.trans stop)
    · exact Bool.noConfusion (isOpen.symm.trans closed)

end

/-! ## Runs of the pump and of `close()` -/

theorem openedPlayer_attended (config : AudioConfig) (openedMs : Millis) :
    Attended (openedPlayer config openedMs) where
  returned := nofun
  busy := nofun
  closing := fun called => absurd rfl called

/-- The pump returns only from a player that is being stopped or not open if and only
if it never abandons an open one: `poll` does not fail on it, and the pump does not come
back with data after a rebuild that has left no stream. -/
theorem pump_returns_stopped {config : AudioConfig} {openedMs : Millis}
    {actions : List Action} {s : AaudioFifoPlayer}
    (reached : run step (openedPlayer config openedMs) actions = some s) :
    (∀ before u, before <+: actions →
        run step (openedPlayer config openedMs) before = some u → ReturnedStopped u) ↔
      EveryStep step (fun s action => abandons s action = false)
        (openedPlayer config openedMs) actions := by
  refine
    everyState_iff_of_breaks ?_ ?_ ?_ actions (openedPlayer_attended config openedMs)
      reached
  · exact fun _ _ _ attended kept stepped => attended.step kept stepped
  · exact fun _ attended => attended.returned
  · exact fun _ _ _ _ left stepped => abandons_returned (eq_true_of_ne_false left) stepped

/-- The pump sees a disconnected stream, with a rebuild that succeeds or fails, and
reads again. -/
def readsAgain (openOk : Bool) : List Action :=
  ([{}, {}, {}, { bytesRead := 4 },
    { state := .disconnected, nowMs := 1000, openOk := openOk }] : List Hal).map .pump

/-- The pump writes to its copy, and `close()` ends it. -/
def closesRebuilt : List Action :=
  readsAgain true ++ [.pump { write := 1 }, .close, .close, .pump {}]

/-- A failed rebuild leaves no stream, and the pump returns with the next data. -/
def readsWithoutStream : List Action :=
  readsAgain false ++ ([{}, {}, { bytesRead := 4 }, {}] : List Hal).map .pump

def ranFrom (actions : List Action) : AaudioFifoPlayer :=
  (run step (openedPlayer {} 0) actions).getD (openedPlayer {} 0)

theorem pump_returns_stopped_closed :
    (ranFrom closesRebuilt).pc = .returned ∧
      (∀ before u, before <+: closesRebuilt →
        run step (openedPlayer {} 0) before = some u → ReturnedStopped u) :=
  ⟨by decide +kernel,
    (pump_returns_stopped (s := ranFrom closesRebuilt)
      (run_eq_some_getD (by decide +kernel))).2 (by decide +kernel)⟩

theorem failed_rebuild_ends_pump :
    run step (openedPlayer {} 0) readsWithoutStream = some (ranFrom readsWithoutStream) ∧
      (ranFrom readsWithoutStream).pc = .returned ∧
      (ranFrom readsWithoutStream).stopPump = false ∧
      (ranFrom readsWithoutStream).isOpen = true :=
  ⟨run_eq_some_getD (by decide +kernel), by decide +kernel, by decide +kernel,
    by decide +kernel⟩

end AudioRouter.AaudioFifoPlayer
