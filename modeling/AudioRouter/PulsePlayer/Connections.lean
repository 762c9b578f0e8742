import AudioRouter.PulsePlayer.Stream
import Mathlib.Data.List.Basic
import Mathlib.Data.List.Nodup

/-!
# No connection is lost

`write_frames` rebuilds a missing connection without a second look at `is_open_`.  A call
that passed its look before `close()` can therefore connect behind it, and nothing frees
that connection any more: `close()` returns at once on a closed player, and `open` puts the
next connection over it.  In every run this is the only way to lose one.
-/

namespace AudioRouter

namespace PulsePlayer

open Transition

/-! ## The accounts of the connections -/

/-- No connection is used after it has been freed, and none is freed twice. -/
structure Sound (p : PulsePlayer) : Prop where
  nodup : p.freed.Nodup
  freed : ∀ h ∈ p.freed, h < p.made
  stream : ∀ h, p.stream = some h → h < p.made ∧ h ∉ p.freed

/-- Every connection is in use or has been freed. -/
def Accounted (p : PulsePlayer) : Prop :=
  ∀ h < p.made, h ∈ p.freed ∨ p.stream = some h

/-- The members that the accounts are about are the same. -/
structure SameStream (p q : PulsePlayer) : Prop where
  stream : q.stream = p.stream
  made : q.made = p.made
  freed : q.freed = p.freed

/-- The members that the calls are about are the same. -/
structure SameCalls (p q : PulsePlayer) : Prop where
  isOpen : q.isOpen = p.isOpen
  calls : q.calls = p.calls
  config : q.config = p.config

section

variable {p q : PulsePlayer}

theorem Sound.same (sound : p.Sound) (same : SameStream p q) : q.Sound := by
  refine ⟨?_, ?_, ?_⟩
  · rw [same.freed]
    exact sound.nodup
  · rw [same.freed, same.made]
    exact sound.freed
  · rw [same.stream, same.made, same.freed]
    exact sound.stream

theorem Accounted.same (accounted : p.Accounted) (same : SameStream p q) : q.Accounted := by
  unfold Accounted
  rw [same.stream, same.made, same.freed]
  exact accounted

@[simp]
theorem disconnectLocked_stream (p : PulsePlayer) : p.disconnectLocked.stream = none := by
  unfold disconnectLocked
  cases stream : p.stream with
  | none => exact stream
  | some s => rfl

@[simp]
theorem disconnectLocked_made (p : PulsePlayer) : p.disconnectLocked.made = p.made := by
  unfold disconnectLocked
  cases p.stream <;> rfl

theorem disconnectLocked_freed (p : PulsePlayer) :
    p.disconnectLocked.freed = p.freed ++ p.stream.toList := by
  unfold disconnectLocked
  cases stream : p.stream with
  | none => exact (List.append_nil _).symm
  | some s => rfl

theorem SameStream.disconnect (same : SameStream p q) :
    SameStream p.disconnectLocked q.disconnectLocked := by
  refine ⟨?_, ?_, ?_⟩
  · rw [disconnectLocked_stream, disconnectLocked_stream]
  · rw [disconnectLocked_made, disconnectLocked_made, same.made]
  · rw [disconnectLocked_freed, disconnectLocked_freed, same.freed, same.stream]

theorem mem_disconnectLocked_freed {h : Nat} :
    h ∈ p.disconnectLocked.freed ↔ h ∈ p.freed ∨ p.stream = some h := by
  rw [disconnectLocked_freed, List.mem_append, Option.mem_toList]

theorem Sound.disconnect (sound : p.Sound) : p.disconnectLocked.Sound := by
  refine ⟨?_, fun h member => ?_, fun h stream => ?_⟩
  · rw [disconnectLocked_freed]
    cases stream : p.stream with
    | none =>
      rw [Option.toList_none, List.append_nil]
      exact sound.nodup
    | some s =>
      rw [Option.toList_some, List.nodup_append]
      refine ⟨sound.nodup, List.nodup_singleton s, fun h before last => ?_⟩
      rw [List.mem_singleton]
      rintro rfl rfl
      exact (sound.stream h stream).2 before
  · rw [disconnectLocked_made]
    rcases mem_disconnectLocked_freed.1 member with before | current
    · exact sound.freed h before
    · exact (sound.stream h current).1
  · rw [disconnectLocked_stream] at stream
    cases stream

theorem Accounted.disconnect (accounted : p.Accounted) : p.disconnectLocked.Accounted := by
  intro h made
  rw [disconnectLocked_made] at made
  exact Or.inl (mem_disconnectLocked_freed.2 (accounted h made))

theorem connectLocked_eq {connects : Bool} (connected : p.connectLocked connects = some q) :
    q = { p with stream := some p.made, made := p.made + 1 } := by
  unfold connectLocked at connected
  split at connected
  · cases connected
  · split at connected
    · cases connected
    · split at connected <;> cases connected
      rfl

theorem Sound.connect (sound : p.Sound) {connects : Bool}
    (connected : p.connectLocked connects = some q) : q.Sound := by
  rw [connectLocked_eq connected]
  refine ⟨sound.nodup, fun h member => Nat.lt_succ_of_lt (sound.freed h member), ?_⟩
  intro h current
  obtain rfl := Option.some.inj current
  exact ⟨Nat.lt_succ_self _, fun member => Nat.lt_irrefl _ (sound.freed _ member)⟩

/-- A connection that is put where there was none. -/
theorem Accounted.connect (accounted : p.Accounted) (missing : p.stream = none)
    {connects : Bool} (connected : p.connectLocked connects = some q) : q.Accounted := by
  rw [connectLocked_eq connected]
  intro h made
  rcases Nat.lt_succ_iff_lt_or_eq.1 made with earlier | rfl
  · rcases accounted h earlier with freed | current
    · exact Or.inl freed
    · rw [missing] at current
      cases current
  · exact Or.inr rfl

end

/-! ## What a locked section does to them -/

section

variable {p q : PulsePlayer} {threads : Nat}

/-- A write leaves the connection, or breaks it after the third failure. -/
theorem writeLocked_cases (p : PulsePlayer) (numFrames : Nat) (d : Daemon) :
    SameStream p (p.writeLocked numFrames d).2 ∨
      p.consecutiveWriteFailures + 1 ≥ kWriteFailuresBeforeReconnect ∧
        SameStream p.disconnectLocked (p.writeLocked numFrames d).2 := by
  unfold writeLocked
  split
  · exact Or.inl ⟨rfl, rfl, rfl⟩
  · split
    · next enough =>
      have counted : SameStream p (p.countFailure d.laterMs) := ⟨rfl, rfl, rfl⟩
      have broken := counted.disconnect
      exact Or.inr ⟨enough, broken.stream, broken.made, broken.freed⟩
    · exact Or.inl ⟨rfl, rfl, rfl⟩

/-- A first failure does not break a connection. -/
theorem writeLocked_fresh (p : PulsePlayer) (numFrames : Nat) (d : Daemon) :
    SameStream p (writeLocked { p with consecutiveWriteFailures := 0 } numFrames d).2 := by
  rcases writeLocked_cases { p with consecutiveWriteFailures := 0 } numFrames d with
    same | ⟨enough, -⟩
  · exact ⟨same.stream, same.made, same.freed⟩
  · simp [kWriteFailuresBeforeReconnect] at enough

/-- The section of a `write_frames` connects again. -/
def Reconnects (p : PulsePlayer) (d : Daemon) : Prop :=
  p.stream = none ∧ p.mayReconnect = true ∧ (p.connectLocked d.connects).isSome

theorem connectLocked_isSome_iff (p : PulsePlayer) (connects : Bool) :
    (p.connectLocked connects).isSome ↔
      hasPaFormat p.config.format = true ∧
        ¬ (p.config.sampleRate = 0 ∨ p.config.channels = 0) ∧ connects = true := by
  unfold connectLocked
  by_cases invalid : p.config.sampleRate = 0 ∨ p.config.channels = 0
  · rw [if_pos invalid]
    simp only [ite_self, Option.isSome_none, invalid, not_true_eq_false, false_and, and_false,
      Bool.false_eq_true]
  · rw [if_neg invalid]
    cases hasPaFormat p.config.format <;> cases connects <;> simp [invalid]

/-- Whether a player connects is a matter of its configuration. -/
theorem connectLocked_isSome_congr (same : q.config = p.config) (connects : Bool) :
    (q.connectLocked connects).isSome = (p.connectLocked connects).isSome := by
  rw [Bool.eq_iff_iff, connectLocked_isSome_iff, connectLocked_isSome_iff, same]

theorem writeSection_of_reconnects {d : Daemon} (reconnects : Reconnects p d)
    (numFrames : Nat) :
    SameStream { p with stream := some p.made, made := p.made + 1 }
      (p.writeSection numFrames d).2 := by
  obtain ⟨missing, elapsed, connects⟩ := reconnects
  have config : p.noteReconnect.config = p.config := rfl
  rw [← connectLocked_isSome_congr config] at connects
  obtain ⟨q, connected⟩ := Option.isSome_iff_exists.1 connects
  have same := writeLocked_fresh q numFrames d
  simp only [writeSection, missing, elapsed, connected]
  rw [connectLocked_eq connected] at same ⊢
  exact ⟨same.stream, same.made, same.freed⟩

theorem writeSection_of_not_reconnects {d : Daemon} (others : ¬ Reconnects p d)
    (numFrames : Nat) :
    SameStream p (p.writeSection numFrames d).2 ∨
      SameStream p.disconnectLocked (p.writeSection numFrames d).2 := by
  unfold writeSection
  split
  · rcases p.writeLocked_cases numFrames d with same | ⟨-, broken⟩
    · exact Or.inl same
    · exact Or.inr broken
  · next missing =>
    split
    · exact Or.inl ⟨rfl, rfl, rfl⟩
    · next elapsed =>
      have config : p.noteReconnect.config = p.config := rfl
      have refused : p.noteReconnect.connectLocked d.connects = none := by
        rw [← Option.not_isSome_iff_eq_none, connectLocked_isSome_congr config]
        exact fun connects => others ⟨missing, by simpa using elapsed, connects⟩
      rw [refused]
      exact Or.inl ⟨rfl, rfl, rfl⟩

theorem disconnectLocked_sameCalls (p : PulsePlayer) : SameCalls p p.disconnectLocked := by
  unfold disconnectLocked
  split <;> exact ⟨rfl, rfl, rfl⟩

theorem writeLocked_sameCalls (p : PulsePlayer) (numFrames : Nat) (d : Daemon) :
    SameCalls p (p.writeLocked numFrames d).2 := by
  unfold writeLocked
  split
  · exact ⟨rfl, rfl, rfl⟩
  · split
    · have same := disconnectLocked_sameCalls (p.countFailure d.laterMs)
      exact ⟨same.isOpen, same.calls, same.config⟩
    · exact ⟨rfl, rfl, rfl⟩

/-- The section of a `write_frames` neither opens nor closes. -/
theorem writeSection_sameCalls (p : PulsePlayer) (numFrames : Nat) (d : Daemon) :
    SameCalls p (p.writeSection numFrames d).2 := by
  unfold writeSection
  split
  · exact p.writeLocked_sameCalls numFrames d
  · split
    · exact ⟨rfl, rfl, rfl⟩
    · split
      · exact ⟨rfl, rfl, rfl⟩
      · next q connected =>
        have same := writeLocked_sameCalls { q with consecutiveWriteFailures := 0 } numFrames d
        rw [connectLocked_eq connected] at same ⊢
        exact ⟨same.isOpen, same.calls, same.config⟩

theorem closeDevice_isOpen (p : PulsePlayer) : p.closeDevice.isOpen = false := by
  unfold closeDevice
  split
  · exact (disconnectLocked_sameCalls _).isOpen
  · next closed => simpa using closed

theorem closeDevice_calls (p : PulsePlayer) : p.closeDevice.calls = p.calls := by
  unfold closeDevice
  split
  · exact (disconnectLocked_sameCalls _).calls
  · rfl

theorem openDevice_calls (p : PulsePlayer) (config : AudioConfig)
    (serverAvailable connects : Bool) :
    (p.openDevice config serverAvailable connects).calls = p.calls := by
  have same : (p.closeDevice.configure config).calls = p.calls := p.closeDevice_calls
  unfold openDevice
  dsimp only
  split
  · exact same
  · split
    · exact same
    · next q connected =>
      rw [connectLocked_eq connected]
      exact same

/-- `open` drops the connection of an open player, and may make a new one. -/
theorem openDevice_cases (p : PulsePlayer) (config : AudioConfig)
    (serverAvailable connects : Bool) :
    (p.openDevice config serverAvailable connects).isOpen = false ∧
        SameStream p.closeDevice (p.openDevice config serverAvailable connects) ∨
      (p.openDevice config serverAvailable connects).isOpen = true ∧
        ∃ q, (p.closeDevice.configure config).connectLocked connects = some q ∧
          SameStream q (p.openDevice config serverAvailable connects) := by
  have closed : (p.closeDevice.configure config).isOpen = false := p.closeDevice_isOpen
  unfold openDevice
  dsimp only
  split
  · exact Or.inl ⟨closed, rfl, rfl, rfl⟩
  · split
    · exact Or.inl ⟨closed, rfl, rfl, rfl⟩
    · next q connected => exact Or.inr ⟨rfl, q, connected, rfl, rfl, rfl⟩

end

/-! ## Every run -/

/-- A connection of a closed player is about to be freed by the `close` that closed it. -/
def Attended (threads : Nat) (p : PulsePlayer) : Prop :=
  p.isOpen = true ∨ p.stream = none ∨ ∃ i < threads, p.calls i = .closing

/-- No `write_frames` connects behind a `close` that has returned. -/
def ConnectsInTime (threads : Nat) (p : PulsePlayer) : Action → Prop
  | .section' i d =>
      ∀ numFrames, p.calls i = .writing numFrames → Reconnects p d →
        p.isOpen = true ∨ ∃ j < threads, p.calls j = .closing
  | _ => True

section

variable {p q t : PulsePlayer} {threads : Nat} {a : Action}

theorem Sound.close (sound : p.Sound) : p.closeDevice.Sound := by
  unfold closeDevice
  split
  · have same : SameStream p { p with isOpen := false } := ⟨rfl, rfl, rfl⟩
    exact (sound.same same).disconnect
  · exact sound

theorem SameStream.setCall (same : SameStream p q) (i : Nat) (call : Call) :
    SameStream p (q.setCall i call) :=
  ⟨same.stream, same.made, same.freed⟩

/-- What the section of a call does, by the call. -/
theorem section_cases {i : Nat} {d : Daemon} (stepped : step threads p (.section' i d) = some t) :
    i < threads ∧
      (p.calls i = .closing ∧ t = p.disconnectLocked.setCall i .idle ∨
        ∃ numFrames, p.calls i = .writing numFrames ∧ p.clock ≤ d.laterMs ∧
          t = ((p.writeSection numFrames d).2.finish (p.writeSection numFrames d).1
            d.laterMs).setCall i .idle) := by
  simp only [step] at stepped
  split at stepped
  · next bound =>
    refine ⟨bound, ?_⟩
    split at stepped
    · cases stepped
    · next closing =>
      cases stepped
      exact Or.inl ⟨closing, rfl⟩
    · next numFrames writing =>
      split at stepped
      · next onward =>
        cases stepped
        exact Or.inr ⟨numFrames, writing, onward, rfl⟩
      · cases stepped
  · cases stepped

/-- A `write_frames` goes on only where the player is open. -/
theorem callWrite_cases {i numFrames : Nat} {hasData : Bool}
    (stepped : step threads p (.callWrite i hasData numFrames) = some t) :
    p.calls i = .idle ∧ SameStream p t ∧ t.isOpen = p.isOpen ∧ t.config = p.config ∧
      (t.calls = p.calls ∨
        p.isOpen = true ∧ t.calls = (p.setCall i (.writing numFrames)).calls) := by
  simp only [step] at stepped
  split at stepped
  · next bound =>
    split at stepped
    · next taken =>
      cases stepped
      exact ⟨bound.2, ⟨rfl, rfl, rfl⟩, rfl, rfl, Or.inr ⟨taken.1, rfl⟩⟩
    · cases stepped
      exact ⟨bound.2, ⟨rfl, rfl, rfl⟩, rfl, rfl, Or.inl rfl⟩
  · cases stepped

theorem callClose_cases {i : Nat} (stepped : step threads p (.callClose i) = some t) :
    p.calls i = .idle ∧ SameStream p t ∧
      (t = p ∨ i < threads ∧ p.isOpen = true ∧ t.isOpen = false ∧ t.calls i = .closing) := by
  simp only [step] at stepped
  split at stepped
  · next bound =>
    split at stepped
    · next opened =>
      cases stepped
      exact ⟨bound.2, ⟨rfl, rfl, rfl⟩, Or.inr ⟨bound.1, opened, rfl, setCall_self _ _ _⟩⟩
    · cases stepped
      exact ⟨bound.2, ⟨rfl, rfl, rfl⟩, Or.inl rfl⟩
  · cases stepped

theorem openDevice_step {config : AudioConfig} {serverAvailable connects : Bool}
    (stepped : step threads p (.openDevice config serverAvailable connects) = some t) :
    (∀ i < threads, p.calls i = .idle) ∧ t = p.openDevice config serverAvailable connects := by
  simp only [step] at stepped
  split at stepped
  · next quiet =>
    cases stepped
    exact ⟨quiet, rfl⟩
  · cases stepped

theorem tick_step {nowMs : Millis} (stepped : step threads p (.tick nowMs) = some t) :
    p.clock ≤ nowMs ∧ t = { p with clock := nowMs } := by
  simp only [step] at stepped
  split at stepped
  · next later =>
    cases stepped
    exact ⟨later, rfl⟩
  · cases stepped

theorem Sound.writeSection (sound : p.Sound) (numFrames : Nat) (d : Daemon) :
    (p.writeSection numFrames d).2.Sound := by
  by_cases reconnects : Reconnects p d
  · obtain ⟨q, connected⟩ := Option.isSome_iff_exists.1 reconnects.2.2
    have made := sound.connect connected
    rw [connectLocked_eq connected] at made
    exact made.same (writeSection_of_reconnects reconnects numFrames)
  · rcases writeSection_of_not_reconnects reconnects numFrames with same | broken
    · exact sound.same same
    · exact sound.disconnect.same broken

theorem Sound.openDevice (sound : p.Sound) (config : AudioConfig)
    (serverAvailable connects : Bool) :
    (p.openDevice config serverAvailable connects).Sound := by
  rcases p.openDevice_cases config serverAvailable connects with
    ⟨-, same⟩ | ⟨-, q, connected, same⟩
  · exact sound.close.same same
  · have configured : SameStream p.closeDevice (p.closeDevice.configure config) :=
      ⟨rfl, rfl, rfl⟩
    exact ((sound.close.same configured).connect connected).same same

/-- While no call is running, `close` leaves no connection. -/
theorem closeDevice_stream (quiet : ∀ i < threads, p.calls i = .idle)
    (attended : p.Attended threads) : p.closeDevice.stream = none := by
  unfold closeDevice
  split
  · exact disconnectLocked_stream _
  · next closed =>
    rcases attended with opened | missing | ⟨i, bound, closing⟩
    · exact absurd opened closed
    · exact missing
    · rw [quiet i bound] at closing
      cases closing

theorem Accounted.close (accounted : p.Accounted) : p.closeDevice.Accounted := by
  unfold closeDevice
  split
  · have same : SameStream p { p with isOpen := false } := ⟨rfl, rfl, rfl⟩
    exact (accounted.same same).disconnect
  · exact accounted

theorem Accounted.openDevice (accounted : p.Accounted)
    (quiet : ∀ i < threads, p.calls i = .idle) (attended : p.Attended threads)
    (config : AudioConfig) (serverAvailable connects : Bool) :
    (p.openDevice config serverAvailable connects).Attended threads ∧
      (p.openDevice config serverAvailable connects).Accounted := by
  have missing := closeDevice_stream quiet attended
  rcases p.openDevice_cases config serverAvailable connects with
    ⟨-, same⟩ | ⟨opened, q, connected, same⟩
  · exact ⟨Or.inr (Or.inl (same.stream.trans missing)), accounted.close.same same⟩
  · have configured : SameStream p.closeDevice (p.closeDevice.configure config) :=
      ⟨rfl, rfl, rfl⟩
    have connects := (accounted.close.same configured).connect missing connected
    exact ⟨Or.inl opened, connects.same same⟩

theorem Sound.step (sound : p.Sound) (stepped : step threads p a = some t) : t.Sound := by
  cases a with
  | tick nowMs =>
    obtain ⟨-, rfl⟩ := tick_step stepped
    exact sound.same ⟨rfl, rfl, rfl⟩
  | openDevice config serverAvailable connects =>
    obtain ⟨-, rfl⟩ := openDevice_step stepped
    exact sound.openDevice config serverAvailable connects
  | callWrite i hasData numFrames => exact sound.same (callWrite_cases stepped).2.1
  | callClose i => exact sound.same (callClose_cases stepped).2.1
  | section' i d =>
    rcases (section_cases stepped).2 with ⟨-, rfl⟩ | ⟨numFrames, -, -, rfl⟩
    · exact sound.disconnect.same ⟨rfl, rfl, rfl⟩
    · exact (sound.writeSection numFrames d).same ⟨rfl, rfl, rfl⟩

/-- A call that does not close is no other call's business. -/
theorem closing_setCall_iff {i : Nat} {call : Call} (before : p.calls i ≠ .closing)
    (after : call ≠ .closing) :
    (∃ j < threads, (p.setCall i call).calls j = .closing) ↔
      ∃ j < threads, p.calls j = .closing := by
  refine exists_congr fun j => and_congr_right fun _ => ?_
  by_cases same : j = i
  · rw [same, setCall_self]
    exact iff_of_false after before
  · rw [setCall_of_ne same]

/-- The section of a `write_frames` keeps the accounts.  It leaves a connection that nobody
attends to where it connects on a closed player. -/
theorem attended_write {i numFrames : Nat} {d : Daemon} (attended : p.Attended threads)
    (accounted : p.Accounted) (writing : p.calls i = .writing numFrames)
    (same : SameStream (p.writeSection numFrames d).2 t) (isOpen : t.isOpen = p.isOpen)
    (calls : t.calls = (p.setCall i .idle).calls) :
    t.Attended threads ∧ t.Accounted ↔
      (Reconnects p d → p.isOpen = true ∨ ∃ j < threads, p.calls j = .closing) := by
  have before : p.calls i ≠ .closing := by simp [writing]
  have after : Call.idle ≠ .closing := by decide
  unfold Attended
  rw [isOpen, calls, closing_setCall_iff before after, same.stream]
  by_cases reconnects : Reconnects p d
  · have made := writeSection_of_reconnects reconnects numFrames
    have kept : t.Accounted := by
      obtain ⟨q, connected⟩ := Option.isSome_iff_exists.1 reconnects.2.2
      have next := accounted.connect reconnects.1 connected
      rw [connectLocked_eq connected] at next
      exact (next.same made).same same
    simp [made.stream, kept, reconnects]
  · refine iff_of_true ?_ fun connects => absurd connects reconnects
    rcases writeSection_of_not_reconnects reconnects numFrames with left | broken
    · rw [left.stream]
      exact ⟨attended, (accounted.same left).same same⟩
    · rw [broken.stream]
      have missing := disconnectLocked_stream p
      exact ⟨Or.inr (Or.inl missing), (accounted.disconnect.same broken).same same⟩

theorem attended_step (attended : p.Attended threads)
    (accounted : p.Accounted) (stepped : step threads p a = some t) :
    t.Attended threads ∧ t.Accounted ↔ ConnectsInTime threads p a := by
  cases a with
  | tick nowMs =>
    obtain ⟨-, rfl⟩ := tick_step stepped
    exact iff_of_true ⟨attended, accounted⟩ trivial
  | openDevice config serverAvailable connects =>
    obtain ⟨quiet, rfl⟩ := openDevice_step stepped
    have opens := accounted.openDevice quiet attended config serverAvailable connects
    exact iff_of_true opens trivial
  | callWrite i hasData numFrames =>
    obtain ⟨idle, same, isOpen, -, calls | ⟨-, calls⟩⟩ := callWrite_cases stepped
    · refine iff_of_true ⟨?_, accounted.same same⟩ trivial
      unfold Attended
      rw [isOpen, same.stream, calls]
      exact attended
    · refine iff_of_true ⟨?_, accounted.same same⟩ trivial
      have before : p.calls i ≠ .closing := by simp [idle]
      have after : Call.writing numFrames ≠ .closing := Call.noConfusion
      unfold Attended
      rw [isOpen, same.stream, calls, closing_setCall_iff before after]
      exact attended
  | callClose i =>
    obtain ⟨-, same, rfl | ⟨bound, -, -, closing⟩⟩ := callClose_cases stepped
    · exact iff_of_true ⟨attended, accounted⟩ trivial
    · exact iff_of_true ⟨Or.inr (Or.inr ⟨i, bound, closing⟩), accounted.same same⟩ trivial
  | section' i d =>
    rcases (section_cases stepped).2 with ⟨closing, rfl⟩ | ⟨numFrames, writing, -, result⟩
    · have missing := disconnectLocked_stream p
      refine iff_of_true ⟨Or.inr (Or.inl missing), accounted.disconnect⟩ ?_
      intro numFrames writing
      rw [closing] at writing
      cases writing
    · have same : SameStream (p.writeSection numFrames d).2 t := by
        rw [result]
        exact ⟨rfl, rfl, rfl⟩
      have untouched := p.writeSection_sameCalls numFrames d
      have isOpen : t.isOpen = p.isOpen := by
        rw [result]
        exact untouched.isOpen
      have calls : t.calls = (p.setCall i .idle).calls := by
        rw [result, setCall, setCall, ← untouched.calls]
        rfl
      rw [attended_write attended accounted writing same isOpen calls]
      constructor
      · intro inTime frames writesToo
        exact inTime
      · intro inTime
        exact inTime numFrames writing

/-! ## What is lost -/

/-- A connection that is in use by a closed player without calls, or by none. -/
structure LeftBehind (threads h : Nat) (p : PulsePlayer) : Prop where
  made : h < p.made
  kept : h ∉ p.freed
  closed : p.stream = some h → p.isOpen = false
  quiet : p.stream = some h → ∀ i < threads, p.calls i = .idle

theorem LeftBehind.disconnect {h : Nat} (left : p.LeftBehind threads h)
    (other : p.stream ≠ some h) : p.disconnectLocked.LeftBehind threads h := by
  refine ⟨?_, ?_, by simp, by simp⟩
  · rw [disconnectLocked_made]
    exact left.made
  · rw [mem_disconnectLocked_freed]
    rintro (freed | current)
    · exact left.kept freed
    · exact other current

theorem LeftBehind.of_stream {h : Nat} (left : p.LeftBehind threads h) (made : p.made ≤ t.made)
    (freed : t.freed = p.freed) (other : t.stream ≠ some h) : t.LeftBehind threads h := by
  refine ⟨Nat.lt_of_lt_of_le left.made made, ?_, ?_, ?_⟩
  · rw [freed]
    exact left.kept
  · exact fun current => absurd current other
  · exact fun current => absurd current other

theorem LeftBehind.same {h : Nat} (left : p.LeftBehind threads h) (same : SameStream p t)
    (isOpen : t.isOpen = p.isOpen) (calls : t.calls = p.calls) : t.LeftBehind threads h := by
  refine ⟨?_, ?_, ?_, ?_⟩
  · rw [same.made]
    exact left.made
  · rw [same.freed]
    exact left.kept
  · rw [same.stream, isOpen]
    exact left.closed
  · rw [same.stream, calls]
    exact left.quiet

theorem LeftBehind.connect {h : Nat} {connects : Bool} (left : p.LeftBehind threads h)
    (connected : p.connectLocked connects = some q) (same : SameStream q t) :
    t.LeftBehind threads h := by
  rw [connectLocked_eq connected] at same
  refine left.of_stream ?_ same.freed ?_
  · rw [same.made]
    exact Nat.le_succ _
  · rw [same.stream]
    rintro ⟨⟩
    exact Nat.lt_irrefl _ left.made

/-- The next `open` leaves it behind as well: its `close()` returns at once. -/
theorem LeftBehind.openDevice {h : Nat} (left : p.LeftBehind threads h) (config : AudioConfig)
    (serverAvailable connects : Bool) :
    (p.openDevice config serverAvailable connects).LeftBehind threads h := by
  have closed : p.closeDevice.LeftBehind threads h := by
    unfold closeDevice
    split
    · next opened =>
      have other : p.stream ≠ some h := fun current => by simp [left.closed current] at opened
      have unopened : LeftBehind threads h { p with isOpen := false } :=
        left.of_stream (Nat.le_refl _) rfl other
      exact unopened.disconnect other
    · exact left
  have calls : (p.openDevice config serverAvailable connects).calls = p.closeDevice.calls :=
    (p.openDevice_calls _ _ _).trans p.closeDevice_calls.symm
  rcases p.openDevice_cases config serverAvailable connects with
    ⟨unopened, same⟩ | ⟨-, q, connected, same⟩
  · exact closed.same same (unopened.trans p.closeDevice_isOpen.symm) calls
  · have configured : (p.closeDevice.configure config).LeftBehind threads h :=
      closed.same ⟨rfl, rfl, rfl⟩ rfl rfl
    exact configured.connect connected same

theorem LeftBehind.step {h : Nat} (left : p.LeftBehind threads h)
    (stepped : step threads p a = some t) : t.LeftBehind threads h := by
  cases a with
  | tick nowMs =>
    obtain ⟨-, rfl⟩ := tick_step stepped
    exact left.same ⟨rfl, rfl, rfl⟩ rfl rfl
  | openDevice config serverAvailable connects =>
    obtain ⟨-, rfl⟩ := openDevice_step stepped
    exact left.openDevice config serverAvailable connects
  | callWrite i hasData numFrames =>
    obtain ⟨-, same, isOpen, -, calls | ⟨opened, -⟩⟩ := callWrite_cases stepped
    · exact left.same same isOpen calls
    · refine left.of_stream (Nat.le_of_eq same.made.symm) same.freed ?_
      rw [same.stream]
      exact fun current => by simp [left.closed current] at opened
  | callClose i =>
    obtain ⟨-, same, rfl | ⟨-, opened, -⟩⟩ := callClose_cases stepped
    · exact left
    · refine left.of_stream (Nat.le_of_eq same.made.symm) same.freed ?_
      rw [same.stream]
      exact fun current => by simp [left.closed current] at opened
  | section' i d =>
    -- a call is running, so the connection in use is another one
    have other : p.calls i ≠ .idle → i < threads → p.stream ≠ some h :=
      fun busy bound current => busy (left.quiet current i bound)
    obtain ⟨bound, ⟨closing, rfl⟩ | ⟨numFrames, writing, -, rfl⟩⟩ := section_cases stepped
    · have dropped := left.disconnect (other (by simp [closing]) bound)
      exact dropped.of_stream (Nat.le_refl _) rfl (by simp [setCall])
    · have elsewhere := other (by simp [writing]) bound
      by_cases reconnects : Reconnects p d
      · have same := writeSection_of_reconnects reconnects numFrames
        refine left.of_stream ?_ same.freed ?_
        · exact (Nat.le_succ _).trans_eq same.made.symm
        · refine same.stream.trans_ne ?_
          rintro ⟨⟩
          exact Nat.lt_irrefl _ left.made
      · rcases writeSection_of_not_reconnects reconnects numFrames with same | broken
        · refine left.of_stream (Nat.le_of_eq same.made.symm) same.freed ?_
          exact same.stream.trans_ne elsewhere
        · have dropped := left.disconnect elsewhere
          refine dropped.of_stream (Nat.le_of_eq broken.made.symm) broken.freed ?_
          exact broken.stream.trans_ne (by simp)

end

/-- Every player starts with no connection. -/
theorem sound_fresh : Sound {} :=
  ⟨List.nodup_nil, fun _ member => absurd member List.not_mem_nil, by simp⟩

/-- No run frees a connection twice or uses a freed one.  Every connection is attended to,
in every state on the way, if and only if no `write_frames` connects behind a `close` that
has returned; what is left behind when no call is running is never freed. -/
theorem connections_attended {threads : Nat} {actions : List Action} {p : PulsePlayer}
    (reached : run (step threads) {} actions = some p) :
    p.Sound ∧
      ((∀ before q, before <+: actions → run (step threads) {} before = some q →
          q.Attended threads ∧ q.Accounted) ↔
        EveryStep (step threads) (ConnectsInTime threads) {} actions) ∧
      ∀ h, p.stream = some h → p.isOpen = false → (∀ i < threads, p.calls i = .idle) →
        ∀ later q, run (step threads) p later = some q → h ∉ q.freed := by
  have sound : p.Sound :=
    run_preserves (fun _ _ _ sound stepped => Sound.step sound stepped) actions sound_fresh
      reached
  refine ⟨sound, ?_, ?_⟩
  · have passedOn : ∀ (p : PulsePlayer) (a : Action) (t : PulsePlayer), True →
        p.Attended threads ∧ p.Accounted → step threads p a = some t →
          (t.Attended threads ∧ t.Accounted ↔ ConnectsInTime threads p a) :=
      fun _ _ _ _ both stepped => attended_step both.1 both.2 stepped
    refine everyState_iff (fun _ _ _ _ _ => trivial) passedOn actions trivial ⟨?_, ?_⟩ reached
    · exact Or.inr (Or.inl rfl)
    · exact fun h made => absurd made (Nat.not_lt_zero h)
  · intro h current closed quiet later q continued
    have left : p.LeftBehind threads h :=
      ⟨(sound.stream h current).1, (sound.stream h current).2, fun _ => closed, fun _ => quiet⟩
    exact (run_preserves (fun _ _ _ left stepped => LeftBehind.step left stepped) later left
      continued).kept

/-- The daemon is restarted, and thread 1 closes the player while thread 0 is between its
look at `is_open_` and its section. -/
def reconnectedAfterClose : List Action :=
  [.openDevice {} true true,
    .callWrite 0 true 240, .section' 0 { writes := false },
    .callWrite 0 true 240, .section' 0 { writes := false },
    .callWrite 0 true 240, .section' 0 { writes := false },
    .tick 2000, .callWrite 0 true 240, .callClose 1, .section' 1 {},
    .section' 0 { laterMs := 2000 }]

def leakingPlayer : PulsePlayer :=
  (run (step 2) {} reconnectedAfterClose).getD {}

theorem reconnectedAfterClose_leaks :
    leakingPlayer.stream = some 1 ∧
      ∀ later q, run (step 2) leakingPlayer later = some q → 1 ∉ q.freed := by
  have reached : run (step 2) {} reconnectedAfterClose = some leakingPlayer :=
    run_eq_some_getD (by decide +kernel)
  have current : leakingPlayer.stream = some 1 := by decide +kernel
  exact ⟨current, (connections_attended reached).2.2 1 current (by decide +kernel)
    (by decide +kernel)⟩

end PulsePlayer

end AudioRouter
