import AudioRouter.AaudioPlayer.Model

/-!
# The handles that the pump passes to AAudio

The pump copies `stream_` before it lets `ensure_stream_started_locked` replace the
stream, and writes to the copy.  Apart from that one branch every call gets the stream
that is stored.
-/

namespace AudioRouter.AaudioFifoPlayer

open Transition

/-- The copy of `stream_` that the pump goes on with. -/
def PumpPc.copy : PumpPc → Option Handle
  | .write stream _ | .report stream _ | .failed stream _ _ | .succeeded stream => some stream
  | _ => none

/-- Every call that the pump has made got the stream that was stored. -/
def Live (s : AaudioFifoPlayer) : Prop := ∀ u ∈ s.uses, u.stored = some u.given

/-- What is known of the pump while it has not replaced a stream under its copy. -/
structure Holding (s : AaudioFifoPlayer) : Prop where
  live : Live s
  copied : ∀ stream, s.pc.copy = some stream → s.stream = some stream
  older : ∀ stream, s.stream = some stream → stream < s.opened

/-- The locked section before a write finds the stream disconnected and replaces it. -/
def replacesCopied (s : AaudioFifoPlayer) (hal : Hal) : Bool :=
  match s.pc with
  | .resolve _ =>
      s.stream.isSome && decide (hal.state = .disconnected) && s.mayRebuild hal.nowMs &&
        hal.builderOk && hal.openOk
  | _ => false

/-! ## The parts of a step -/

section

variable {s : AaudioFifoPlayer} {hal : Hal} {stream : Handle}

@[simp]
theorem use_stream (call : StreamCall) (given : Handle) :
    (s.use call given).stream = s.stream := rfl

/-- A call with the stored stream. -/
theorem Live.use (live : Live s) (stored : s.stream = some stream) (call : StreamCall) :
    Live (s.use call stream) := by
  intro u made
  rcases List.mem_append.1 made with before | last
  · exact live u before
  · obtain rfl := List.mem_singleton.1 last
    exact stored

theorem Live.closeStream (live : Live s) : Live s.closeStream := by
  rw [AaudioFifoPlayer.closeStream]
  split
  · exact live
  next stream stored => exact live.use stored .close

theorem closeStream_stream : s.closeStream.stream = none := by
  rw [closeStream]
  split
  next empty => exact empty
  · rfl

theorem closeStream_opened : s.closeStream.opened = s.opened := by
  rw [closeStream]
  split <;> rfl

theorem Live.openStream (live : Live s) (openedMs : Millis) : Live (s.openStream openedMs) := by
  have fresh : Live { s with stream := some s.opened, opened := s.opened + 1 } := live
  exact ((fresh.use rfl .requestStart).use rfl .getSampleRate).use rfl .getChannelCount

theorem Live.rebuild (live : Live s) (hal : Hal) : Live (s.rebuildStreamLocked hal) := by
  have closed :
      Live { s.closeStream with framesInFlight := 0, consecutiveWriteFailures := 0 } :=
    live.closeStream
  rw [rebuildStreamLocked]
  split
  · exact closed.openStream hal.openedMs
  · exact closed

/-- A rebuild leaves a new stream, or none. -/
theorem rebuild_stream (hal : Hal) :
    (s.rebuildStreamLocked hal).stream =
      if hal.builderOk && hal.openOk then some s.opened else none := by
  rw [rebuildStreamLocked]
  split
  · exact congrArg some closeStream_opened
  · exact closeStream_stream

theorem rebuild_older (hal : Hal) :
    ∀ stream, (s.rebuildStreamLocked hal).stream = some stream →
      stream < (s.rebuildStreamLocked hal).opened := by
  intro stream stored
  rw [rebuild_stream] at stored
  split at stored
  next ok =>
    obtain rfl := Option.some.inj stored
    have opened : (s.rebuildStreamLocked hal).opened = s.opened + 1 := by
      rw [rebuildStreamLocked, if_pos ok]
      exact congrArg (· + 1) closeStream_opened
    rw [opened]
    exact Nat.lt_succ_self s.opened
  · exact nomatch stored

/-- Behind a rebuild the pump holds no copy. -/
theorem Live.rebuilt (live : Live s) (hal : Hal) {pc : PumpPc} (noCopy : pc.copy = none) :
    Holding ((s.rebuildStreamLocked hal).enter pc) where
  live := live.rebuild hal
  copied := fun _ copy => nomatch noCopy.symm.trans copy
  older := rebuild_older hal

theorem Holding.enter (holding : Holding s) {pc : PumpPc}
    (copied : ∀ stream, pc.copy = some stream → s.stream = some stream) :
    Holding (s.enter pc) :=
  ⟨holding.live, copied, holding.older⟩

theorem Holding.use (holding : Holding s) (stored : s.stream = some stream)
    (call : StreamCall) : Holding (s.use call stream) :=
  ⟨holding.live.use stored call, holding.copied, holding.older⟩

/-! ## The check of the stream -/

/-- What `ensure_stream_started_locked` can do. -/
inductive Ensured (s : AaudioFifoPlayer) (hal : Hal) (stream : Handle) :
    AaudioFifoPlayer × Bool → Prop where
  | rebuilds (gone : hal.state = .disconnected) (due : s.mayRebuild hal.nowMs = true) :
      Ensured s hal stream
        ({ s.use .getState stream with
            lastRebuildMs := hal.nowMs }.rebuildStreamLocked hal,
          hal.builderOk && hal.openOk)
  | waits (notDue : s.mayRebuild hal.nowMs = false) :
      Ensured s hal stream (s.use .getState stream, s.stream.isSome)
  | restarts (there : hal.state ≠ .disconnected) :
      Ensured s hal stream ((s.use .getState stream).use .requestStart stream, true)
  | runs (there : hal.state ≠ .disconnected) :
      Ensured s hal stream (s.use .getState stream, true)

theorem ensured (s : AaudioFifoPlayer) (hal : Hal) (stream : Handle) :
    Ensured s hal stream (s.ensureStreamStartedLocked hal stream) := by
  rw [ensureStreamStartedLocked]
  split
  next gone =>
    by_cases due : s.mayRebuild hal.nowMs = true
    · have dueToo : (s.use .getState stream).mayRebuild hal.nowMs = true := due
      simp only [dueToo, if_true, rebuild_stream]
      have same :
          (if (hal.builderOk && hal.openOk) = true then
              some { s.use .getState stream with lastRebuildMs := hal.nowMs }.opened
            else none).isSome = (hal.builderOk && hal.openOk) := by
        split
        next ok => exact ok.symm
        next failed => exact (eq_false_of_ne_true failed).symm
      rw [same]
      exact .rebuilds gone due
    · have dueToo : ¬ (s.use .getState stream).mayRebuild hal.nowMs = true := due
      simp only [if_neg dueToo]
      exact .waits (eq_false_of_ne_true due)
  next there =>
    split
    · exact .restarts there
    · exact .runs there

/-! ## The steps of the pump -/

/-- The section before a write keeps the copy live, unless it replaces the stream. -/
theorem Holding.resolve (holding : Holding s) {frames : Nat}
    (resolving : s.pc = .resolve frames) (kept : replacesCopied s hal = false) :
    Holding (s.resolve hal frames) := by
  rw [AaudioFifoPlayer.resolve]
  cases stored : s.stream with
  | none => exact holding.enter nofun
  | some stream =>
    have asked := holding.use stored .getState
    have copied : ∀ t, (PumpPc.write stream frames).copy = some t → s.stream = some t := by
      intro t copy
      obtain rfl := Option.some.inj copy
      exact stored
    have outcome := ensured s hal stream
    dsimp only
    generalize s.ensureStreamStartedLocked hal stream = result at outcome ⊢
    cases outcome with
    | rebuilds gone due =>
      have failed : (hal.builderOk && hal.openOk) = false := by
        rw [replacesCopied, resolving] at kept
        simpa [stored, gone, due, Bool.and_assoc] using kept
      rw [failed]
      have live : Live { s.use .getState stream with lastRebuildMs := hal.nowMs } :=
        asked.live
      exact live.rebuilt hal rfl
    | waits _ =>
      rw [stored]
      exact asked.enter copied
    | restarts _ => exact (asked.use stored .requestStart).enter copied
    | runs _ => exact asked.enter copied

/-- A stream that is replaced under the copy leaves a dead handle for the write. -/
theorem resolve_replaces {frames : Nat} (holding : Holding s)
    (resolving : s.pc = .resolve frames) (replaced : replacesCopied s hal = true) :
    ∃ stream, (s.resolve hal frames).pc = .write stream frames ∧
      (s.resolve hal frames).stream ≠ some stream := by
  rw [replacesCopied, resolving] at replaced
  simp only [Bool.and_eq_true, decide_eq_true_eq] at replaced
  obtain ⟨⟨⟨⟨present, gone⟩, due⟩, builderOk⟩, openOk⟩ := replaced
  obtain ⟨stream, stored⟩ := Option.isSome_iff_exists.1 present
  have older := holding.older stream stored
  refine ⟨stream, ?_⟩
  rw [AaudioFifoPlayer.resolve, stored]
  have outcome := ensured s hal stream
  dsimp only
  generalize s.ensureStreamStartedLocked hal stream = result at outcome ⊢
  cases outcome with
  | rebuilds _ _ =>
    rw [builderOk, openOk]
    refine ⟨rfl, ?_⟩
    have renewed := rebuild_stream (s := { s.use .getState stream with
      lastRebuildMs := hal.nowMs }) hal
    rw [builderOk, openOk] at renewed
    intro same
    have eq := Option.some.inj (renewed.symm.trans same)
    exact Nat.ne_of_gt older eq
  | waits notDue => exact nomatch notDue.symm.trans due
  | restarts there => exact absurd gone there
  | runs there => exact absurd gone there

/-- A failed write is counted and at times warned about; besides the counters, the time of
the warning and the calls on the stream only the place of the pump changes. -/
theorem report_eq (s : AaudioFifoPlayer) (hal : Hal) (stream : Handle) (result : Int) :
    ∃ failures warnMs uses disconnected,
      s.report hal stream result =
        { s with
          consecutiveWriteFailures := failures
          lastWriteWarnMs := warnMs
          uses := uses
          pc := .failed stream disconnected hal.nowMs } := by
  by_cases warns : (hal.nowMs - s.lastWriteWarnMs).toNat ≥ 5000
  · by_cases gone : result = errorDisconnected
    · simp only [report, warns, gone, if_true]
      exact ⟨_, _, _, _, rfl⟩
    · simp only [report, warns, gone, if_true, if_false]
      exact ⟨_, _, _, _, rfl⟩
  · by_cases gone : result = errorDisconnected
    · simp only [report, warns, gone, if_true, if_false]
      exact ⟨_, _, _, _, rfl⟩
    · simp only [report, warns, gone, if_false]
      exact ⟨_, _, _, _, rfl⟩

theorem Holding.report (holding : Holding s) {result : Int}
    (stored : s.stream = some stream) : Holding (s.report hal stream result) := by
  have copied :
      ∀ disconnected nowMs t,
        (PumpPc.failed stream disconnected nowMs).copy = some t → s.stream = some t := by
    intro _ _ t copy
    obtain rfl := Option.some.inj copy
    exact stored
  have counted :
      Holding { s with consecutiveWriteFailures := s.consecutiveWriteFailures + 1 } :=
    ⟨holding.live, holding.copied, holding.older⟩
  have warned :
      Holding
        { s with
          consecutiveWriteFailures := s.consecutiveWriteFailures + 1
          lastWriteWarnMs := hal.nowMs } :=
    ⟨holding.live, holding.copied, holding.older⟩
  have logged := ((warned.use stored .getState).use stored .getFramesWritten).use stored
    .getFramesRead
  rw [AaudioFifoPlayer.report]
  dsimp only
  split <;> split
  · exact logged.enter (copied _ _)
  · exact counted.enter (copied _ _)
  · exact (logged.use stored .getState).enter (copied _ _)
  · exact (counted.use stored .getState).enter (copied _ _)

theorem Holding.escalate (holding : Holding s) (stored : s.stream = some stream)
    (nowMs : Millis) :
    Holding (s.escalate hal stream nowMs) ∧
      (s.escalate hal stream nowMs).stream = some stream := by
  have asked := holding.use stored .getFramesRead
  rw [AaudioFifoPlayer.escalate]
  split
  · exact ⟨⟨asked.live, asked.copied, asked.older⟩, stored⟩
  · exact ⟨asked, stored⟩

theorem Live.rebuildStalled (live : Live s) (nowMs : Millis) :
    Holding (s.rebuildStalled hal nowMs) := by
  rw [AaudioFifoPlayer.rebuildStalled]
  dsimp only
  split
  · refine ⟨Live.closeStream (by exact live), nofun, fun stream stored => ?_⟩
    exact nomatch closeStream_stream.symm.trans stored
  · exact Live.rebuilt (by exact live) hal rfl

/-- Whatever a failed write leads to, the copy is used before the stream is replaced. -/
theorem Holding.recoverStream (holding : Holding s) {disconnected : Bool}
    {nowMs : Millis} (stored : s.stream = some stream) :
    Holding (s.recoverStream hal stream disconnected nowMs) := by
  rw [AaudioFifoPlayer.recoverStream, stored]
  dsimp only
  split
  · split
    · exact Live.rebuilt (by exact holding.live) hal rfl
    · exact holding.enter nofun
  · obtain ⟨escalated, kept⟩ : Holding (s.escalate hal stream nowMs) ∧
        (s.escalate hal stream nowMs).stream = some stream := holding.escalate stored nowMs
    split
    · split
      · exact escalated.live.rebuildStalled nowMs
      · exact escalated.enter nofun
    · exact (escalated.use kept .requestStart).enter nofun

theorem Holding.publish (holding : Holding s) (stored : s.stream = some stream) :
    Holding (s.publish hal stream) := by
  have full : Holding { s with consecutiveWriteFailures := 0 } :=
    ⟨holding.live, holding.copied, holding.older⟩
  have counted := (full.use stored .getFramesWritten).use stored .getFramesRead
  rw [AaudioFifoPlayer.publish]
  dsimp only
  split
  next empty => exact nomatch empty.symm.trans stored
  · exact ⟨counted.live, nofun, counted.older⟩

theorem Holding.takeBytes (holding : Holding s) (bytesRead : Int) :
    Holding (s.takeBytes bytesRead) := by
  rw [AaudioFifoPlayer.takeBytes]
  split
  · exact holding.enter nofun
  · refine ⟨holding.live, fun t copy => ?_, holding.older⟩
    dsimp only [AaudioFifoPlayer.enter] at copy
    split at copy <;> exact nomatch copy

/-- What one step preserves. -/
theorem Holding.pumpStep {s' : AaudioFifoPlayer} (holding : Holding s)
    (kept : replacesCopied s hal = false) (stepped : s.pumpStep hal = some s') :
    Holding s' := by
  rw [AaudioFifoPlayer.pumpStep] at stepped
  split at stepped
  case h_10 => exact nomatch stepped
  all_goals obtain rfl := Option.some.inj stepped
  · refine holding.enter fun t copy => ?_
    split at copy <;> exact nomatch copy
  · refine holding.enter fun t copy => ?_
    split at copy <;> exact nomatch copy
  · refine holding.enter fun t copy => ?_
    split at copy <;> exact nomatch copy
  · exact holding.takeBytes hal.bytesRead
  next resolving => exact holding.resolve resolving kept
  next stream frames writing =>
    have stored := holding.copied stream (by rw [writing]; rfl)
    refine (holding.use stored .write).enter fun t copy => ?_
    split at copy <;> obtain rfl := Option.some.inj copy <;> exact stored
  next reporting => exact holding.report (holding.copied _ (by rw [reporting]; rfl))
  next failing => exact holding.recoverStream (holding.copied _ (by rw [failing]; rfl))
  next succeeding => exact holding.publish (holding.copied _ (by rw [succeeding]; rfl))

end

/-! ## Runs of the pump -/

theorem openedPlayer_holding (config : AudioConfig) (openedMs : Millis) :
    Holding (openedPlayer config openedMs) where
  live := fun _ made => absurd made List.not_mem_nil
  copied := nofun
  older := by
    intro stream stored
    obtain rfl := Option.some.inj stored
    exact Nat.lt_succ_self 0

/-- The calls that the pump has made got the stream that was stored, and so will the
write that it is about to make. -/
def PassesStored (s : AaudioFifoPlayer) : Prop :=
  Live s ∧ ∀ stream frames, s.pc = .write stream frames → s.stream = some stream

/-- As long as `close()` is not called, every call of the pump gets the stored stream
if and only if the section before a write never replaces a disconnected stream. -/
theorem pump_passes_stored_stream {config : AudioConfig} {openedMs : Millis}
    {hals : List Hal} {s : AaudioFifoPlayer}
    (reached : run pumpStep (openedPlayer config openedMs) hals = some s) :
    (∀ before u, before <+: hals →
        run pumpStep (openedPlayer config openedMs) before = some u → PassesStored u) ↔
      EveryStep pumpStep (fun s hal => replacesCopied s hal = false)
        (openedPlayer config openedMs) hals := by
  refine
    everyState_iff_of_breaks ?_ ?_ ?_ hals (openedPlayer_holding config openedMs) reached
  · exact fun _ _ _ holding kept stepped => holding.pumpStep kept stepped
  · intro u holding
    refine ⟨holding.live, fun stream frames writing => ?_⟩
    exact holding.copied stream (by rw [writing]; rfl)
  · intro u hal v holding replaces stepped passes
    have replaced : replacesCopied u hal = true := eq_true_of_ne_false replaces
    obtain ⟨frames, resolving⟩ : ∃ frames, u.pc = .resolve frames := by
      rw [replacesCopied] at replaced
      split at replaced
      next frames resolving => exact ⟨frames, resolving⟩
      · exact nomatch replaced
    have result : u.pumpStep hal = some (u.resolve hal frames) := by
      rw [AaudioFifoPlayer.pumpStep, resolving]
    obtain rfl := Option.some.inj (result.symm.trans stepped)
    obtain ⟨stream, writing, dead⟩ := resolve_replaces holding resolving replaced
    exact dead (passes.2 stream frames writing)

/-- One chunk of one frame, as far as the write of it. -/
def oneWrite (state : StreamState) : List Hal :=
  [{}, {}, {}, { bytesRead := 4 }, { state := state, nowMs := 1000 }, { write := 1 }]

def afterWrite (state : StreamState) : AaudioFifoPlayer :=
  (run pumpStep (openedPlayer {} 0) (oneWrite state)).getD (openedPlayer {} 0)

theorem pump_passes_stored_stream_started :
    (afterWrite .started).uses = [⟨.getState, 0, some 0⟩, ⟨.write, 0, some 0⟩] ∧
      (∀ before u, before <+: oneWrite .started →
        run pumpStep (openedPlayer {} 0) before = some u → PassesStored u) :=
  ⟨by decide +kernel,
    (pump_passes_stored_stream (s := afterWrite .started)
      (run_eq_some_getD (by decide +kernel))).2 (by decide +kernel)⟩

/-- The stream is disconnected when the pump looks, and the write goes to the stream
that has been closed. -/
theorem pump_writes_closed_stream :
    run pumpStep (openedPlayer {} 0) (oneWrite .disconnected) =
        some (afterWrite .disconnected) ∧
      ⟨.close, 0, some 0⟩ ∈ (afterWrite .disconnected).uses ∧
      ⟨.write, 0, some 1⟩ ∈ (afterWrite .disconnected).uses :=
  ⟨run_eq_some_getD (by decide +kernel), by decide +kernel, by decide +kernel⟩

end AudioRouter.AaudioFifoPlayer
