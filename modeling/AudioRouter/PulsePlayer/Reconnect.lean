import AudioRouter.PulsePlayer.Connections

/-!
# Reconnecting

A daemon that is gone is asked for a new connection at most every two seconds.  Once it is
back, three failed writes and one more, after the interval, are enough to play again.
-/

namespace AudioRouter

namespace PulsePlayer

open Transition

/-! ## What the counters say -/

theorem kWriteFailuresBeforeReconnect_pos : 0 < kWriteFailuresBeforeReconnect := by decide

/-- `lastReconnectMs` is the last attempt, or the last break after it. -/
structure PacedBy (now : Millis) (p : PulsePlayer) : Prop where
  failures : p.consecutiveWriteFailures < kWriteFailuresBeforeReconnect
  past : p.lastReconnectMs ≤ now
  attempts : ∀ r ∈ p.reconnects, r ≤ p.lastReconnectMs
  apart :
    p.reconnects.Pairwise fun later earlier =>
      earlier.toNat + kReconnectIntervalMs ≤ later.toNat

/-- An open player has a configuration that the daemon takes, and is not being closed. -/
structure Usable (threads : Nat) (p : PulsePlayer) : Prop where
  connects : p.isOpen = true → (p.connectLocked true).isSome
  closing : p.isOpen = true → ∀ i < threads, p.calls i ≠ .closing

section

variable {p q t : PulsePlayer} {threads : Nat} {now later : Millis}

theorem PacedBy.of_eq (paced : p.PacedBy now) (onward : now ≤ later)
    (failures : q.consecutiveWriteFailures < kWriteFailuresBeforeReconnect)
    (lastReconnectMs : q.lastReconnectMs = p.lastReconnectMs)
    (reconnects : q.reconnects = p.reconnects) : q.PacedBy later := by
  refine ⟨failures, ?_, ?_, ?_⟩
  · rw [lastReconnectMs]
    exact BitVec.le_trans paced.past onward
  · rw [lastReconnectMs, reconnects]
    exact paced.attempts
  · rw [reconnects]
    exact paced.apart

theorem disconnectLocked_paced (p : PulsePlayer) :
    p.disconnectLocked.consecutiveWriteFailures = p.consecutiveWriteFailures ∧
      p.disconnectLocked.lastReconnectMs = p.lastReconnectMs ∧
        p.disconnectLocked.reconnects = p.reconnects := by
  unfold disconnectLocked
  split <;> exact ⟨rfl, rfl, rfl⟩

theorem PacedBy.disconnect (paced : p.PacedBy now) : p.disconnectLocked.PacedBy now := by
  obtain ⟨failures, lastReconnectMs, reconnects⟩ := p.disconnectLocked_paced
  exact paced.of_eq (BitVec.le_refl now) (failures ▸ paced.failures) lastReconnectMs reconnects

theorem PacedBy.connect {connects : Bool} (paced : p.PacedBy now)
    (connected : p.connectLocked connects = some q) : q.PacedBy now := by
  rw [connectLocked_eq connected]
  exact paced.of_eq (BitVec.le_refl now) paced.failures rfl rfl

theorem PacedBy.reset (paced : p.PacedBy now) :
    PacedBy now { p with consecutiveWriteFailures := 0 } :=
  paced.of_eq (BitVec.le_refl now) (kWriteFailuresBeforeReconnect_pos) rfl rfl

theorem PacedBy.write (paced : p.PacedBy now) (numFrames : Nat) {d : Daemon}
    (onward : now ≤ d.laterMs) : (p.writeLocked numFrames d).2.PacedBy d.laterMs := by
  unfold writeLocked
  split
  · exact paced.of_eq onward (kWriteFailuresBeforeReconnect_pos) rfl rfl
  · split
    · have same : ((p.countFailure d.laterMs).dropBroken d.laterMs).reconnects =
          p.reconnects := (p.countFailure d.laterMs).disconnectLocked_paced.2.2
      refine ⟨kWriteFailuresBeforeReconnect_pos, BitVec.le_refl _, ?_, ?_⟩
      · intro r member
        rw [same] at member
        exact BitVec.le_trans (paced.attempts r member) (BitVec.le_trans paced.past onward)
      · rw [same]
        exact paced.apart
    · next few => exact paced.of_eq onward (Nat.lt_of_not_le few) rfl rfl

/-- A new attempt is made after the interval. -/
theorem PacedBy.attempt (paced : p.PacedBy p.clock) (elapsed : p.mayReconnect = true) :
    p.noteReconnect.PacedBy p.clock := by
  have interval : kReconnectIntervalMs ≤ (p.clock - p.lastReconnectMs).toNat := by
    simpa [mayReconnect] using elapsed
  have past := paced.past
  rw [BitVec.toNat_sub_of_le past] at interval
  rw [BitVec.le_def] at past
  refine ⟨paced.failures, BitVec.le_refl _, ?_, ?_⟩
  · intro r member
    rcases List.mem_cons.1 member with rfl | before
    · exact BitVec.le_refl _
    · exact BitVec.le_trans (paced.attempts r before) paced.past
  · refine List.pairwise_cons.2 ⟨fun earlier before => ?_, paced.apart⟩
    have upTo := BitVec.le_def.1 (paced.attempts earlier before)
    omega

theorem PacedBy.writeSection (paced : p.PacedBy p.clock) (numFrames : Nat) {d : Daemon}
    (onward : p.clock ≤ d.laterMs) : (p.writeSection numFrames d).2.PacedBy d.laterMs := by
  unfold PulsePlayer.writeSection
  split
  · exact paced.write numFrames onward
  · split
    · exact paced.of_eq onward paced.failures rfl rfl
    · next elapsed =>
      have attempted := paced.attempt (by simpa using elapsed)
      split
      · exact attempted.of_eq onward attempted.failures rfl rfl
      · next q connected =>
        exact (attempted.connect connected).reset.write numFrames onward

theorem disconnectLocked_clock (p : PulsePlayer) : p.disconnectLocked.clock = p.clock := by
  unfold disconnectLocked
  split <;> rfl

theorem PacedBy.close (paced : p.PacedBy now) : p.closeDevice.PacedBy now := by
  unfold closeDevice
  split
  · have unopened : PacedBy now { p with isOpen := false } :=
      paced.of_eq (BitVec.le_refl now) paced.failures rfl rfl
    exact unopened.disconnect
  · exact paced

theorem closeDevice_clock (p : PulsePlayer) : p.closeDevice.clock = p.clock := by
  unfold closeDevice
  split
  · exact disconnectLocked_clock _
  · rfl

theorem PacedBy.openDevice (paced : p.PacedBy p.clock) (config : AudioConfig)
    (serverAvailable connects : Bool) :
    (p.openDevice config serverAvailable connects).PacedBy
      (p.openDevice config serverAvailable connects).clock := by
  have configured : (p.closeDevice.configure config).PacedBy p.clock :=
    paced.close.of_eq (BitVec.le_refl _) kWriteFailuresBeforeReconnect_pos rfl rfl
  have clock : (p.closeDevice.configure config).clock = p.clock := p.closeDevice_clock
  unfold PulsePlayer.openDevice
  dsimp only
  split
  · rw [clock]
    exact configured
  · split
    · rw [clock]
      exact configured
    · next q connected =>
      have connects := configured.connect connected
      rw [connectLocked_eq connected] at connects ⊢
      rw [← clock] at connects
      exact connects.of_eq (BitVec.le_refl _) connects.failures rfl rfl

theorem PacedBy.step {a : Action} (paced : p.PacedBy p.clock)
    (stepped : step threads p a = some t) : t.PacedBy t.clock := by
  cases a with
  | tick nowMs =>
    obtain ⟨later, rfl⟩ := tick_step stepped
    exact paced.of_eq later paced.failures rfl rfl
  | openDevice config serverAvailable connects =>
    obtain ⟨-, rfl⟩ := openDevice_step stepped
    exact paced.openDevice config serverAvailable connects
  | callWrite i hasData numFrames =>
    simp only [PulsePlayer.step] at stepped
    split at stepped
    · split at stepped <;> cases stepped <;>
        exact paced.of_eq (BitVec.le_refl _) paced.failures rfl rfl
    · cases stepped
  | callClose i =>
    simp only [PulsePlayer.step] at stepped
    split at stepped
    · split at stepped <;> cases stepped <;>
        exact paced.of_eq (BitVec.le_refl _) paced.failures rfl rfl
    · cases stepped
  | section' i d =>
    obtain ⟨-, ⟨-, rfl⟩ | ⟨numFrames, -, onward, rfl⟩⟩ := section_cases stepped
    · have dropped := paced.disconnect
      rw [← disconnectLocked_clock] at dropped
      exact dropped.of_eq (BitVec.le_refl _) dropped.failures rfl rfl
    · have written := paced.writeSection numFrames onward
      exact written.of_eq (BitVec.le_refl _) written.failures rfl rfl

/-! ## What an open player keeps -/

theorem Usable.same (usable : p.Usable threads) (config : t.config = p.config)
    (isOpen : t.isOpen = p.isOpen) (calls : ∀ i, t.calls i = .closing → p.calls i = .closing) :
    t.Usable threads := by
  refine ⟨?_, ?_⟩
  · rw [isOpen, connectLocked_isSome_congr config]
    exact usable.connects
  · rw [isOpen]
    exact fun opened i bound closing => usable.closing opened i bound (calls i closing)

theorem Usable.of_closed (closed : p.isOpen = false) : p.Usable threads := by
  refine ⟨?_, ?_⟩ <;> simp [closed]

theorem openDevice_config (p : PulsePlayer) (config : AudioConfig)
    (serverAvailable connects : Bool) :
    (p.openDevice config serverAvailable connects).config = config := by
  unfold openDevice
  dsimp only
  split
  · rfl
  · split
    · rfl
    · next q connected =>
      rw [connectLocked_eq connected]
      rfl

theorem Usable.openDevice (quiet : ∀ i < threads, p.calls i = .idle) (config : AudioConfig)
    (serverAvailable connects : Bool) :
    (p.openDevice config serverAvailable connects).Usable threads := by
  rcases p.openDevice_cases config serverAvailable connects with
    ⟨closed, -⟩ | ⟨-, q, connected, -⟩
  · exact Usable.of_closed closed
  · refine ⟨fun _ => ?_, fun _ i bound => ?_⟩
    · have taken : ((p.closeDevice.configure config).connectLocked connects).isSome := by
        rw [connected, Option.isSome_some]
      rw [connectLocked_isSome_iff] at taken ⊢
      rw [openDevice_config]
      exact ⟨taken.1, taken.2.1, rfl⟩
    · rw [openDevice_calls, quiet i bound]
      exact Call.noConfusion

/-- A call that ends is not closing. -/
theorem closing_of_setCall_idle {i j : Nat} (closing : (p.setCall i .idle).calls j = .closing) :
    p.calls j = .closing := by
  by_cases same : j = i
  · rw [same, setCall_self] at closing
    cases closing
  · rwa [setCall_of_ne same] at closing

theorem Usable.step {a : Action} (usable : p.Usable threads)
    (stepped : step threads p a = some t) : t.Usable threads := by
  cases a with
  | tick nowMs =>
    obtain ⟨-, rfl⟩ := tick_step stepped
    exact usable.same rfl rfl fun _ closing => closing
  | openDevice config serverAvailable connects =>
    obtain ⟨quiet, rfl⟩ := openDevice_step stepped
    exact Usable.openDevice quiet config serverAvailable connects
  | callWrite i hasData numFrames =>
    obtain ⟨-, -, isOpen, config, calls | ⟨-, calls⟩⟩ := callWrite_cases stepped
    · exact usable.same config isOpen fun j closing => by rwa [calls] at closing
    · refine usable.same config isOpen fun j closing => ?_
      rw [calls] at closing
      by_cases same : j = i
      · rw [same, setCall_self] at closing
        cases closing
      · rwa [setCall_of_ne same] at closing
  | callClose i =>
    obtain ⟨-, -, rfl | ⟨-, -, closed, -⟩⟩ := callClose_cases stepped
    · exact usable
    · exact Usable.of_closed closed
  | section' i d =>
    obtain ⟨-, ⟨-, rfl⟩ | ⟨numFrames, -, -, rfl⟩⟩ := section_cases stepped
    · have same := p.disconnectLocked_sameCalls
      refine usable.same same.config same.isOpen fun j closing => ?_
      have before := closing_of_setCall_idle closing
      rwa [same.calls] at before
    · have same := p.writeSection_sameCalls numFrames d
      refine usable.same same.config same.isOpen fun j closing => ?_
      have before := closing_of_setCall_idle closing
      rwa [finish, same.calls] at before

end

/-! ## The daemon is back -/

/-- The player is left open, and the daemon runs: the connections made before serve no
more, the next ones do. -/
def Healthy (earlier : Nat) (p : PulsePlayer) : Action → Prop
  | .tick _ | .callWrite _ _ _ => True
  | .openDevice _ _ _ | .callClose _ => False
  | .section' _ d =>
      d.connects = true ∧ d.writes = p.stream.all fun h => decide (earlier ≤ h)

instance decidableHealthy (earlier : Nat) (p : PulsePlayer) :
    ∀ a, Decidable (Healthy earlier p a)
  | .tick _ | .callWrite _ _ _ => inferInstanceAs (Decidable True)
  | .openDevice _ _ _ | .callClose _ => inferInstanceAs (Decidable False)
  | .section' _ _ => inferInstanceAs (Decidable (_ ∧ _))

/-- A `write_frames` that finds a connection, or the interval over. -/
def tries (p : PulsePlayer) : Action → Bool
  | .section' i _ =>
      match p.calls i with
      | .writing _ => p.stream.isSome || p.mayReconnect
      | _ => false
  | _ => false

/-- Failed writes until the connection is dropped. -/
def failuresLeft (p : PulsePlayer) : Nat :=
  match p.stream with
  | none => 0
  | some _ => kWriteFailuresBeforeReconnect - p.consecutiveWriteFailures

/-- The player has a connection that serves. -/
structure Served (threads earlier : Nat) (p : PulsePlayer) : Prop where
  usable : p.Usable threads
  isOpen : p.isOpen = true
  stream : ∃ h, p.stream = some h ∧ earlier ≤ h

/-- The player has an old connection, or none. -/
structure Waiting (threads earlier : Nat) (p : PulsePlayer) : Prop where
  usable : p.Usable threads
  isOpen : p.isOpen = true
  paced : p.PacedBy p.clock
  made : earlier ≤ p.made
  stream : ∀ h, p.stream = some h → h < earlier

section

variable {p q t : PulsePlayer} {threads earlier : Nat}

theorem writeSection_of_stream {h : Nat} (current : p.stream = some h) (numFrames : Nat)
    (d : Daemon) : p.writeSection numFrames d = p.writeLocked numFrames d := by
  simp only [writeSection, current]

theorem writeLocked_of_writes {d : Daemon} (writes : d.writes = true) (numFrames : Nat) :
    p.writeLocked numFrames d = (numFrames, { p with consecutiveWriteFailures := 0 }) := by
  simp only [writeLocked, writes, if_true]

/-- A connection that serves takes the frames. -/
theorem Served.write {i numFrames : Nat} {d : Daemon} (served : p.Served threads earlier)
    (healthy : Healthy earlier p (.section' i d)) :
    p.writeSection numFrames d = (numFrames, { p with consecutiveWriteFailures := 0 }) := by
  obtain ⟨h, current, new⟩ := served.stream
  have writes : d.writes = true := by
    rw [healthy.2, current]
    exact decide_eq_true new
  rw [writeSection_of_stream current, writeLocked_of_writes writes]

theorem Served.same (served : p.Served threads earlier) (usable : t.Usable threads)
    (isOpen : t.isOpen = p.isOpen) (stream : t.stream = p.stream) :
    t.Served threads earlier := by
  refine ⟨usable, isOpen.trans served.isOpen, ?_⟩
  rw [stream]
  exact served.stream

theorem Served.step {a : Action} (served : p.Served threads earlier)
    (healthy : Healthy earlier p a) (stepped : step threads p a = some t) :
    t.Served threads earlier := by
  have usable := served.usable.step stepped
  cases a with
  | tick nowMs =>
    obtain ⟨-, rfl⟩ := tick_step stepped
    exact served.same usable rfl rfl
  | openDevice config serverAvailable connects => exact healthy.elim
  | callWrite i hasData numFrames =>
    obtain ⟨-, same, isOpen, -⟩ := callWrite_cases stepped
    exact served.same usable isOpen same.stream
  | callClose i => exact healthy.elim
  | section' i d =>
    obtain ⟨bound, ⟨closing, -⟩ | ⟨numFrames, -, -, result⟩⟩ := section_cases stepped
    · exact absurd closing (served.usable.closing served.isOpen i bound)
    · rw [served.write healthy] at result
      exact served.same usable (by rw [result]; rfl) (by rw [result]; rfl)

theorem failuresLeft_of_stream {h : Nat} (current : p.stream = some h) :
    p.failuresLeft = kWriteFailuresBeforeReconnect - p.consecutiveWriteFailures := by
  simp only [failuresLeft, current]

theorem failuresLeft_of_none (missing : p.stream = none) : p.failuresLeft = 0 := by
  simp only [failuresLeft, missing]

/-- An old connection fails once more, and is dropped in the end. -/
theorem Waiting.write_old {h : Nat} {d : Daemon} (waiting : p.Waiting threads earlier)
    (current : p.stream = some h) (fails : d.writes = false) (numFrames : Nat) :
    (∀ h', (p.writeSection numFrames d).2.stream = some h' → h' < earlier) ∧
      (p.writeSection numFrames d).2.failuresLeft + 1 ≤ p.failuresLeft := by
  have few := waiting.paced.failures
  rw [writeSection_of_stream current, failuresLeft_of_stream current]
  unfold writeLocked
  rw [fails, if_neg Bool.false_ne_true]
  split
  · have missing : ((p.countFailure d.laterMs).dropBroken d.laterMs).stream = none :=
      disconnectLocked_stream _
    refine ⟨by simp [missing], ?_⟩
    rw [failuresLeft_of_none missing]
    omega
  · have same : (p.countFailure d.laterMs).stream = some h := current
    refine ⟨fun h' current' => waiting.stream h' current', ?_⟩
    rw [failuresLeft_of_stream same, countFailure]
    dsimp only
    omega

/-- Without a connection, nothing happens before the interval is over. -/
theorem writeSection_early {d : Daemon} (missing : p.stream = none)
    (early : p.mayReconnect = false) (numFrames : Nat) :
    p.writeSection numFrames d = (0, p) := by
  simp only [writeSection, missing, early, Bool.not_false, if_true]

/-- After it, there is a new connection. -/
theorem Waiting.write_none {d : Daemon} (waiting : p.Waiting threads earlier)
    (missing : p.stream = none) (elapsed : p.mayReconnect = true) (back : d.connects = true)
    (numFrames : Nat) : (p.writeSection numFrames d).2.stream = some p.made := by
  have reconnects : Reconnects p d := by
    refine ⟨missing, elapsed, ?_⟩
    rw [back]
    exact waiting.usable.connects waiting.isOpen
  exact (writeSection_of_reconnects reconnects numFrames).stream

theorem Waiting.same (waiting : p.Waiting threads earlier) (usable : t.Usable threads)
    (paced : t.PacedBy t.clock) (isOpen : t.isOpen = p.isOpen) (made : t.made = p.made)
    (stream : ∀ h, t.stream = some h → h < earlier) : t.Waiting threads earlier :=
  ⟨usable, isOpen.trans waiting.isOpen, paced, made.symm ▸ waiting.made, stream⟩

/-- The section of a `write_frames` brings a connection closer. -/
theorem Waiting.section {i numFrames : Nat} {d : Daemon} (waiting : p.Waiting threads earlier)
    (healthy : Healthy earlier p (.section' i d)) (writing : p.calls i = .writing numFrames)
    (usable : t.Usable threads) (paced : t.PacedBy t.clock) (isOpen : t.isOpen = p.isOpen)
    (same : SameStream (p.writeSection numFrames d).2 t)
    (failures :
      t.consecutiveWriteFailures = (p.writeSection numFrames d).2.consecutiveWriteFailures) :
    t.Served threads earlier ∨
      t.Waiting threads earlier ∧
        t.failuresLeft + (if tries p (.section' i d) then 1 else 0) ≤ p.failuresLeft := by
  have left : t.failuresLeft = (p.writeSection numFrames d).2.failuresLeft := by
    simp only [failuresLeft, same.stream, failures]
  cases current : p.stream with
  | none =>
    cases elapsed : p.mayReconnect with
    | false =>
      rw [writeSection_early current elapsed] at same left
      refine Or.inr ⟨waiting.same usable paced isOpen same.made ?_, ?_⟩
      · rw [same.stream]
        exact waiting.stream
      · simp [tries, writing, current, elapsed, left]
    | true =>
      have made := waiting.write_none current elapsed healthy.1 numFrames
      refine Or.inl ⟨usable, isOpen.trans waiting.isOpen, p.made, ?_, waiting.made⟩
      exact same.stream.trans made
  | some h =>
    have old := waiting.stream h current
    have fails : d.writes = false := by
      rw [healthy.2, current]
      exact decide_eq_false (Nat.not_le_of_lt old)
    have others : ¬ Reconnects p d := fun reconnects => by simp [reconnects.1] at current
    have made : t.made = p.made := by
      rcases writeSection_of_not_reconnects others numFrames with kept | broken
      · exact same.made.trans kept.made
      · exact (same.made.trans broken.made).trans p.disconnectLocked_made
    obtain ⟨stillOld, fewer⟩ := waiting.write_old current fails numFrames
    refine Or.inr ⟨waiting.same usable paced isOpen made ?_, ?_⟩
    · rw [same.stream]
      exact stillOld
    · rw [left]
      simpa [tries, writing, current] using fewer

theorem Waiting.step {a : Action} (waiting : p.Waiting threads earlier)
    (healthy : Healthy earlier p a) (stepped : step threads p a = some t) :
    t.Served threads earlier ∨
      t.Waiting threads earlier ∧
        t.failuresLeft + (if tries p a then 1 else 0) ≤ p.failuresLeft := by
  have usable := waiting.usable.step stepped
  have paced := waiting.paced.step stepped
  cases a with
  | tick nowMs =>
    obtain ⟨-, rfl⟩ := tick_step stepped
    exact Or.inr ⟨waiting.same usable paced rfl rfl waiting.stream, Nat.le_refl _⟩
  | openDevice config serverAvailable connects => exact healthy.elim
  | callWrite i hasData numFrames =>
    right
    simp only [PulsePlayer.step] at stepped
    split at stepped
    · split at stepped <;> cases stepped <;>
        exact ⟨waiting.same usable paced rfl rfl waiting.stream, Nat.le_refl _⟩
    · cases stepped
  | callClose i => exact healthy.elim
  | section' i d =>
    obtain ⟨bound, ⟨closing, -⟩ | ⟨numFrames, writing, -, rfl⟩⟩ := section_cases stepped
    · exact absurd closing (waiting.usable.closing waiting.isOpen i bound)
    · have untouched := p.writeSection_sameCalls numFrames d
      exact waiting.section healthy writing usable paced untouched.isOpen ⟨rfl, rfl, rfl⟩ rfl

end

/-- What holds of a player in every run. -/
structure Kept (threads : Nat) (p : PulsePlayer) : Prop where
  sound : p.Sound
  paced : p.PacedBy p.clock
  usable : p.Usable threads

theorem run_kept {threads : Nat} {actions : List Action} {p : PulsePlayer}
    (reached : run (step threads) {} actions = some p) : p.Kept threads := by
  have fresh : Kept threads {} := by
    refine ⟨sound_fresh, ⟨kWriteFailuresBeforeReconnect_pos, BitVec.le_refl _, ?_, .nil⟩,
      Usable.of_closed rfl⟩
    exact fun _ member => absurd member List.not_mem_nil
  have kept : ∀ (p : PulsePlayer) (a : Action) (t : PulsePlayer), p.Kept threads →
      step threads p a = some t → t.Kept threads :=
    fun _ _ _ kept stepped =>
      ⟨kept.sound.step stepped, kept.paced.step stepped, kept.usable.step stepped⟩
  exact run_preserves kept actions fresh reached

/-- In every run, attempts to reconnect are two seconds apart.  From any state in which the
player is open, once the daemon serves new connections, four writes that find a connection
or the interval over are enough: there is a new connection, and every write on it takes all
of its frames. -/
theorem daemon_back_served {threads : Nat} {before actions : List Action}
    {p t : PulsePlayer} (reached : run (step threads) {} before = some p)
    (continued : run (step threads) p actions = some t) :
    (t.reconnects.Pairwise fun later earlier =>
        earlier.toNat + kReconnectIntervalMs ≤ later.toNat) ∧
      (p.isOpen = true → EveryStep (step threads) (Healthy p.made) p actions →
        kWriteFailuresBeforeReconnect < countSteps (step threads) tries p actions →
          (∃ h, t.stream = some h ∧ p.made ≤ h) ∧
            ∀ i numFrames d u, t.calls i = .writing numFrames →
              Healthy p.made t (.section' i d) → step threads t (.section' i d) = some u →
                u.results = numFrames :: t.results ∧ u.stream = t.stream) := by
  have whole := run_append_eq_some.2 ⟨p, reached, continued⟩
  refine ⟨(run_kept whole).paced.apart, fun opened every enough => ?_⟩
  have start := run_kept reached
  have waiting : p.Waiting threads p.made :=
    ⟨start.usable, opened, start.paced, Nat.le_refl _, fun h current =>
      (start.sound.stream h current).1⟩
  have few : p.failuresLeft ≤ kWriteFailuresBeforeReconnect := by
    unfold failuresLeft
    split
    · exact Nat.zero_le _
    · exact Nat.sub_le _ _
  have stays : ∀ (q : PulsePlayer) (a : Action) (u : PulsePlayer), q.Served threads p.made →
      Healthy p.made q a → step threads q a = some u → u.Served threads p.made :=
    fun _ _ _ served healthy stepped => served.step healthy stepped
  have moves : ∀ (q : PulsePlayer) (a : Action) (u : PulsePlayer),
      q.Waiting threads p.made → Healthy p.made q a → step threads q a = some u →
        u.Served threads p.made ∨ u.Waiting threads p.made ∧
          u.failuresLeft + (if tries q a then 1 else 0) ≤ q.failuresLeft :=
    fun _ _ _ waiting healthy stepped => waiting.step healthy stepped
  have served : t.Served threads p.made :=
    run_reaches_by_steps stays moves actions waiting every continued
      (Nat.lt_of_le_of_lt few enough)
  refine ⟨served.stream, fun i numFrames d u writing healthy stepped => ?_⟩
  obtain ⟨-, ⟨closing, -⟩ | ⟨frames, writes, -, rfl⟩⟩ := section_cases stepped
  · rw [writing] at closing
    cases closing
  · rw [writing] at writes
    cases writes
    rw [served.write healthy]
    exact ⟨rfl, rfl⟩

/-- Three writes on the connection to a daemon that has been restarted, one within the
interval after them, and one after it. -/
def restartedDaemon : List Action :=
  [.callWrite 0 true 240, .section' 0 { writes := false, laterMs := 5000 },
    .callWrite 0 true 240, .section' 0 { writes := false, laterMs := 5005 },
    .callWrite 0 true 240, .section' 0 { writes := false, laterMs := 5010 },
    .callWrite 0 true 240, .section' 0 { laterMs := 5015 },
    .tick 7010, .callWrite 0 true 240, .section' 0 { laterMs := 7011 }]

def openPlayer : PulsePlayer :=
  (run (step 1) {} [.tick 4000, .openDevice {} true true]).getD {}

def restartedPlayer : PulsePlayer :=
  (run (step 1) openPlayer restartedDaemon).getD {}

theorem restartedDaemon_served : ∃ h, restartedPlayer.stream = some h ∧ openPlayer.made ≤ h := by
  have reached : run (step 1) {} [.tick 4000, .openDevice {} true true] = some openPlayer :=
    run_eq_some_getD (by decide +kernel)
  have continued : run (step 1) openPlayer restartedDaemon = some restartedPlayer :=
    run_eq_some_getD (by decide +kernel)
  exact ((daemon_back_served reached continued).2 (by decide +kernel) (by decide +kernel)
    (by decide +kernel)).1

end PulsePlayer

end AudioRouter
