import AudioRouter.TermuxPlayer.Wav

/-!
# What the segments hold

The window of a segment is fixed before anything is recorded, and a write is put into the
open file as a whole before the recorder looks whether the window is full.  A player reads
as much of a file as its header declares.
-/

namespace AudioRouter.TermuxApiPlayer

open Transition FileImage

/-! ## The recorder and its files -/

/-- The step meets no error of the system and discards nothing. -/
def undisturbed (s : TermuxApiPlayer) : Action → Bool
  | .writeFrames _ openOk => openOk
  | .record os => os.ok
  | .flush _ | .watchdog _ => !(s.isOpen && decide (s.segFrames > 0))
  | .issue _ _ =>
      decide (s.issuer ≠ .failed) || !(s.isOpen && decide (s.segFrames > 0))
  | .stop | .close => true

/-- The issuer truncates the file that is open. -/
def truncatesOpenFile (s : TermuxApiPlayer) : Bool :=
  match s.issuer, s.prevPath with
  | .truncating job, some file => decide (file ≠ job.path) && decide (s.segFd = some file)
  | _, _ => false

def RecorderPc.isSizing : RecorderPc → Bool
  | .sizing _ => true
  | _ => false

/-- The player, the segment files as they were when the next one was opened, the file
opened last, the data of the write that is going on, and of all writes. -/
structure Recording where
  player : TermuxApiPlayer
  finished : List FileImage := []
  current : Option FileImage := none
  given : List UInt8 := []
  written : List UInt8 := []
  deriving DecidableEq

/-- An action, and the PCM that a write is given. -/
structure Input where
  action : Action
  pcm : List UInt8 := []

namespace Recording

/-- A player that has been opened. -/
def start (config : AudioConfig) (requested : Option Int) : Recording :=
  { player := openedPlayer config requested }

/-- The player goes on, and may have opened a new file. -/
def turnPage (r : Recording) (player : TermuxApiPlayer) : Recording :=
  if player.recorder.isSizing then
    { r with
      player := player
      finished := r.finished ++ r.current.toList
      current := some {} }
  else { r with player := player }

/-- What a step of the player does to the files. -/
def follow (r : Recording) (player : TermuxApiPlayer) (input : Input) : Option Recording :=
  match input.action with
  | .writeFrames numFrames _ =>
      if input.pcm.length = numFrames * r.player.config.bytesPerFrame then
        some
          ({ r with given := wavData r.player.config numFrames input.pcm }.turnPage player)
      else none
  | .record _ =>
      match r.player.recorder with
      | .sizing _ => some { r with player := player, current := some r.player.newSegment }
      | .writing _ =>
          some
            { r with
              player := player
              current := r.current.map (·.write r.given)
              written := r.written ++ r.given }
      | .rotating => some (r.turnPage player)
      | _ => some { r with player := player }
  | .issue _ _ =>
      some
        { r with
          player := player
          current :=
            if r.player.truncatesOpenFile then r.current.map (·.resize 0) else r.current }
  | _ => some { r with player := player }

/-- A step without errors and discards. -/
def step (r : Recording) (input : Input) : Option Recording :=
  if r.player.undisturbed input.action then
    (r.player.step input.action).bind fun player => r.follow player input
  else none

/-- The data regions of the files, as far as recorded and declared, are the data written,
and the open file declares its window. -/
structure Lossless (r : Recording) : Prop where
  regions :
    r.finished.flatMap dataRegion ++ (r.current.map recordedRegion).getD [] = r.written
  declared :
    ∀ f, r.current = some f → r.player.recorder.isSizing = false →
      declaredBytes f.contents =
        r.player.segTotalFrames * wavBytesPerFrame r.player.config

/-- A write stays in the window, the header can declare the window, and the open file is
not truncated. -/
def fits (r : Recording) (input : Input) : Bool :=
  match input.action with
  | .record _ =>
      match r.player.recorder with
      | .writing numFrames =>
          decide (r.player.segFrames + numFrames ≤ r.player.segTotalFrames)
      | .sizing _ => decide (r.player.windowBytes < 2 ^ 32)
      | _ => true
  | .issue _ _ => r.player.recorder.isSizing || !r.player.truncatesOpenFile
  | _ => true

/-! ## The invariant -/

/-- The parameters of the player, and what is open. -/
structure Settled (r : Recording) : Prop where
  frame : 0 < wavBytesPerFrame r.player.config
  window : 0 < r.player.segmentMs * r.player.config.sampleRate / 1000
  opened : r.player.segFd.isSome = true → r.current.isSome = true
  /-- A file is only closed by `close()`. -/
  kept : r.player.isOpen = true → r.current.isSome = true → r.player.segFd.isSome = true
  busy :
    r.player.recorder ≠ .idle → r.player.recorder ≠ .flushing →
      r.player.isOpen = true ∧ r.current.isSome = true
  given :
    ∀ numFrames,
      r.player.recorder = .writing numFrames ∨ r.player.recorder = .sizing (some numFrames) →
        r.given.length = numFrames * wavBytesPerFrame r.player.config

/-- A file between its header and the next rotation. -/
structure Holds (s : TermuxApiPlayer) (f : FileImage) (recorded : List UInt8) : Prop where
  total : s.segTotalFrames = s.segmentMs * s.config.sampleRate / 1000
  small : s.windowBytes < 2 ^ 32
  records : Records s.segmentHeader s.windowBytes recorded f
  inside : recorded.length ≤ s.windowBytes
  length : s.isOpen = true → recorded.length = s.segFrames * wavBytesPerFrame s.config

/-- What is known of the file opened last. -/
def Current (s : TermuxApiPlayer) : Option FileImage → List UInt8 → Prop
  | none, recorded => recorded = []
  | some f, recorded =>
      if s.recorder.isSizing then f = {} ∧ recorded = [] else Holds s f recorded

/-- What is known while all steps have fitted. -/
structure Sound (r : Recording) : Prop extends Settled r where
  regions :
    ∃ recorded,
      r.finished.flatMap dataRegion ++ recorded = r.written ∧ Current r.player r.current recorded

section

variable {s t : TermuxApiPlayer} {f : FileImage} {recorded : List UInt8} {r : Recording}

theorem current_none : Current s none recorded ↔ recorded = [] :=
  Iff.rfl

theorem current_sizing (sizing : s.recorder.isSizing = true) :
    Current s (some f) recorded ↔ f = {} ∧ recorded = [] := by
  rw [Current, if_pos sizing]

theorem current_held (sized : s.recorder.isSizing = false) :
    Current s (some f) recorded ↔ Holds s f recorded := by
  rw [Current, if_neg (by simp [sized])]

/-! ## The regions of a file -/

theorem Holds.declared (held : Holds s f recorded) :
    declaredBytes f.contents = s.windowBytes := by
  rw [held.records.contents, List.append_assoc, declaredBytes_segmentHeader,
    Nat.mod_eq_of_lt held.small]

theorem Holds.recordedRegion (held : Holds s f recorded) :
    recordedRegion f = recorded := by
  have behind := held.records.drop_take
  rw [length_segmentHeader] at behind
  rw [TermuxApiPlayer.recordedRegion, behind, held.declared,
    List.take_of_length_le held.inside]

/-- The data region of a full window is what was recorded. -/
theorem Holds.dataRegion (held : Holds s f recorded)
    (full : recorded.length = s.windowBytes) : dataRegion f = recorded := by
  have behind := held.records.drop full
  rw [length_segmentHeader] at behind
  rw [TermuxApiPlayer.dataRegion, behind, held.declared, ← full, List.take_length]

theorem Sound.lossless (sound : r.Sound) : r.Lossless := by
  rcases sound.regions with ⟨recorded, joined, current⟩
  cases opened : r.current with
  | none =>
    rw [opened, current_none] at current
    constructor
    · rw [opened, ← joined, current]
      rfl
    · intro f same
      rw [opened] at same
      cases same
  | some f =>
    rw [opened] at current
    cases sizing : r.player.recorder.isSizing with
    | true =>
      rw [current_sizing sizing] at current
      rcases current with ⟨rfl, rfl⟩
      constructor
      · rw [opened, ← joined]
        rfl
      · intro _ _ notSizing
        rw [sizing] at notSizing
        cases notSizing
    | false =>
      rw [current_held sizing] at current
      constructor
      · rw [opened, Option.map_some, Option.getD_some, current.recordedRegion, joined]
      · intro g same _
        rw [opened] at same
        cases same
        rw [current.declared, current.total]
        rfl

/-! ## Steps that leave the file alone -/

/-- The members that say what is recorded are the same. -/
structure SameFile (s t : TermuxApiPlayer) : Prop where
  config : t.config = s.config
  segmentMs : t.segmentMs = s.segmentMs
  isOpen : t.isOpen = s.isOpen
  segFd : t.segFd = s.segFd
  segFrames : t.segFrames = s.segFrames
  segTotalFrames : t.segTotalFrames = s.segTotalFrames

theorem windowBytes_congr (config : t.config = s.config) (segmentMs : t.segmentMs = s.segmentMs) :
    t.windowBytes = s.windowBytes ∧ t.segmentHeader = s.segmentHeader := by
  unfold segmentHeader windowBytes
  rw [config, segmentMs]
  exact ⟨rfl, rfl⟩

theorem Holds.congr (held : Holds s f recorded) (same : SameFile s t) : Holds t f recorded := by
  rcases windowBytes_congr same.config same.segmentMs with ⟨window, header⟩
  rcases held with ⟨total, small, records, inside, length⟩
  constructor
  · rw [same.segTotalFrames, same.segmentMs, same.config, total]
  · rwa [window]
  · rwa [window, header]
  · rwa [window]
  · rwa [same.isOpen, same.segFrames, same.config]

/-- A step that records nothing and opens nothing. -/
theorem Sound.of_sameFile (sound : r.Sound) (same : SameFile r.player t)
    (sizing : t.recorder.isSizing = r.player.recorder.isSizing) (data : List UInt8)
    (busy : t.recorder ≠ .idle → t.recorder ≠ .flushing →
      r.player.isOpen = true ∧ r.current.isSome = true)
    (given : ∀ numFrames,
      t.recorder = .writing numFrames ∨ t.recorder = .sizing (some numFrames) →
        data.length = numFrames * wavBytesPerFrame r.player.config) :
    Sound { r with player := t, given := data } := by
  rcases sound with ⟨⟨frame, window, opened, kept, _, _⟩, recorded, joined, current⟩
  refine ⟨⟨?_, ?_, ?_, ?_, ?_, ?_⟩, recorded, joined, ?_⟩
  · dsimp only
    rwa [same.config]
  · dsimp only
    rwa [same.segmentMs, same.config]
  · dsimp only
    rwa [same.segFd]
  · dsimp only
    rwa [same.isOpen, same.segFd]
  · dsimp only
    rwa [same.isOpen]
  · dsimp only
    rwa [same.config]
  · dsimp only
    cases file : r.current with
    | none =>
      rw [file] at current
      exact current
    | some f =>
      rw [file] at current
      cases before : r.player.recorder.isSizing with
      | true =>
        rw [before] at sizing
        rw [current_sizing before] at current
        rwa [current_sizing sizing]
      | false =>
        rw [before] at sizing
        rw [current_held before] at current
        rw [current_held sizing]
        exact current.congr same

/-! ## A new file -/

/-- The open file, if there is one, is full when the next one is opened. -/
def IsFull (r : Recording) : Prop :=
  r.current = none ∨
    r.player.recorder = .rotating ∧ r.player.segTotalFrames ≤ r.player.segFrames

theorem Sound.finished (sound : r.Sound) (full : r.IsFull) :
    (r.finished ++ r.current.toList).flatMap dataRegion = r.written := by
  rcases sound.regions with ⟨recorded, joined, current⟩
  rw [List.flatMap_append, ← joined]
  rcases full with unopened | ⟨rotating, full⟩
  · rw [unopened, current_none] at current
    rw [unopened, current]
    rfl
  · have busy := sound.busy (by simp [rotating]) (by simp [rotating])
    rcases Option.isSome_iff_exists.1 busy.2 with ⟨f, opened⟩
    rw [opened, current_held (by rw [rotating]; rfl)] at current
    have length := current.length busy.1
    have enough : r.player.windowBytes ≤ recorded.length := by
      rw [length, windowBytes, ← current.total]
      exact Nat.mul_le_mul_right _ full
    rw [opened, Option.toList_some, List.flatMap_singleton,
      current.dataRegion (Nat.le_antisymm current.inside enough)]

/-- `open_next_segment_locked` as far as the open of the file. -/
theorem Sound.openNextSegment (sound : r.Sound) (full : r.IsFull)
    (isOpen : r.player.isOpen = true) (frames : Option Nat) (data : List UInt8)
    (given : ∀ numFrames, frames = some numFrames →
      data.length = numFrames * wavBytesPerFrame r.player.config) :
    Sound (({ r with given := data }).turnPage (r.player.openNextSegment true frames)) := by
  have joined := sound.finished full
  rcases sound with ⟨⟨frame, window, _, _, _, _⟩, _⟩
  refine ⟨⟨frame, window, ?_, ?_, ?_, ?_⟩, [], ?_, ?_⟩
  · exact fun _ => rfl
  · exact fun _ _ => rfl
  · exact fun _ _ => ⟨isOpen, rfl⟩
  · rintro numFrames (writing | sizing)
    · cases writing
    · cases sizing
      exact given numFrames rfl
  · rw [List.append_nil]
    exact joined
  · exact ⟨rfl, rfl⟩

/-- The header and the full length. -/
theorem Sound.sizeSegment (sound : r.Sound) {frames : Option Nat}
    (sizing : r.player.recorder = .sizing frames) (small : r.player.windowBytes < 2 ^ 32)
    (nowMs : Millis) :
    Sound
      { r with
        player := r.player.sizeSegment true nowMs frames
        current := some r.player.newSegment } := by
  have busy := sound.busy (by simp [sizing]) (by simp [sizing])
  rcases sound with ⟨⟨frame, window, opened, kept, _, given⟩, recorded, joined, current⟩
  rcases Option.isSome_iff_exists.1 busy.2 with ⟨f, file⟩
  rw [file, current_sizing (by rw [sizing]; rfl)] at current
  rcases current with ⟨_, rfl⟩
  refine ⟨⟨frame, window, fun _ => rfl, fun isOpen _ => kept isOpen busy.2,
    fun _ _ => ⟨busy.1, rfl⟩, ?_⟩, [], joined, ?_⟩
  · rintro numFrames (writing | sizing)
    · cases frames with
      | none => cases writing
      | some asked =>
        cases writing
        exact given _ (.inr sizing)
    · cases frames <;> cases sizing
  · have notSizing : (r.player.sizeSegment true nowMs frames).recorder.isSizing = false := by
      cases frames <;> rfl
    rw [current_held notSizing]
    exact ⟨rfl, small, records_new _ _, Nat.zero_le _, fun _ => (Nat.zero_mul _).symm⟩

/-! ## A write -/

/-- A write that stays in the window. -/
theorem Sound.writing (sound : r.Sound) {numFrames : Nat}
    (writing : r.player.recorder = .writing numFrames)
    (fits : r.player.segFrames + numFrames ≤ r.player.segTotalFrames) :
    Sound
      { r with
        player :=
          { r.player with
            segFrames := r.player.segFrames + numFrames
            recorder := .deciding }
        current := r.current.map (·.write r.given)
        written := r.written ++ r.given } := by
  have busy := sound.busy (by simp [writing]) (by simp [writing])
  rcases sound with ⟨⟨frame, window, opened, kept, _, given⟩, recorded, joined, current⟩
  rcases Option.isSome_iff_exists.1 busy.2 with ⟨f, file⟩
  rw [file, current_held (by rw [writing]; rfl)] at current
  have length : (recorded ++ r.given).length =
      (r.player.segFrames + numFrames) * wavBytesPerFrame r.player.config := by
    rw [List.length_append, current.length busy.1, given numFrames (.inl writing), Nat.add_mul]
  refine ⟨⟨frame, window, ?_, ?_, ?_, ?_⟩, recorded ++ r.given, ?_, ?_⟩
  · simpa using opened
  · simpa using kept
  · intro _ _
    exact ⟨busy.1, by simpa using busy.2⟩
  · rintro _ (writing | sizing)
    · cases writing
    · cases sizing
  · rw [← List.append_assoc, joined]
  · rw [file, Option.map_some, current_held rfl]
    refine ⟨current.total, current.small, current.records.write r.given, ?_, fun _ => length⟩
    rw [length]
    change _ ≤ r.player.windowBytes
    rw [windowBytes, ← current.total]
    exact Nat.mul_le_mul_right _ fits

/-- The file is closed for good. -/
theorem Sound.close (sound : r.Sound) (idle : r.player.recorder = .idle) :
    Sound
      { r with
        player :=
          { r.player with
            isOpen := false, segFd := none, segPath := none, segFrames := 0, pending := none } } := by
  rcases sound with ⟨⟨frame, window, _, _, _, given⟩, recorded, joined, current⟩
  refine ⟨⟨frame, window, ?_, ?_, ?_, given⟩, recorded, joined, ?_⟩
  · simp
  · simp
  · exact fun busy _ => absurd idle busy
  · cases file : r.current with
    | none => rwa [file] at current
    | some f =>
      have notSizing : r.player.recorder.isSizing = false := by rw [idle]; rfl
      rw [file, current_held notSizing] at current
      rw [current_held]
      · exact ⟨current.total, current.small, current.records, current.inside, by simp⟩
      · exact notSizing

/-! ## The steps of the player -/

theorem discardRecorded_eq (nothing : (!(s.isOpen && decide (s.segFrames > 0))) = true)
    (nowMs : Millis) : s.discardRecorded nowMs = s := by
  rw [discardRecorded, if_neg]
  rintro ⟨isOpen, recorded⟩
  simp [isOpen, recorded] at nothing

theorem finalizeSegment_same (s : TermuxApiPlayer) :
    SameFile s s.finalizeSegment ∧ s.finalizeSegment.recorder = s.recorder := by
  unfold finalizeSegment
  split <;> exact ⟨⟨rfl, rfl, rfl, rfl, rfl, rfl⟩, rfl⟩

/-- The issuer leaves the recorder alone, where it discards nothing. -/
theorem issueStep_same {outcome : Outcome} {nowMs : Millis}
    (calm : s.undisturbed (.issue outcome nowMs) = true)
    (stepped : s.issueStep outcome nowMs = some t) :
    SameFile s t ∧ t.recorder = s.recorder := by
  unfold issueStep at stepped
  cases place : s.issuer with
  | waiting =>
    rw [place] at stepped
    dsimp only at stepped
    split at stepped
    · cases stepped
      exact ⟨⟨rfl, rfl, rfl, rfl, rfl, rfl⟩, rfl⟩
    · split at stepped
      · cases stepped
      · cases stepped
        exact ⟨⟨rfl, rfl, rfl, rfl, rfl, rfl⟩, rfl⟩
  | commanding job =>
    rw [place] at stepped
    cases stepped
    exact ⟨⟨rfl, rfl, rfl, rfl, rfl, rfl⟩, rfl⟩
  | truncating job =>
    rw [place] at stepped
    cases stepped
    unfold confirmPlay
    split
    · exact ⟨⟨rfl, rfl, rfl, rfl, rfl, rfl⟩, rfl⟩
    · split <;> exact ⟨⟨rfl, rfl, rfl, rfl, rfl, rfl⟩, rfl⟩
  | failed =>
    have nothing : (!(s.isOpen && decide (s.segFrames > 0))) = true := by
      simpa [undisturbed, place] using calm
    rw [place] at stepped
    dsimp only at stepped
    rw [discardRecorded_eq nothing] at stepped
    split at stepped
    · cases stepped
      exact ⟨⟨rfl, rfl, rfl, rfl, rfl, rfl⟩, rfl⟩
    · cases stepped
  | returned =>
    rw [place] at stepped
    cases stepped

/-- The player takes a step that leaves the recorder where it is. -/
theorem Sound.stays (sound : r.Sound) (same : SameFile r.player t)
    (recorder : t.recorder = r.player.recorder) : Sound { r with player := t } := by
  refine sound.of_sameFile same (by rw [recorder]) r.given ?_ ?_
  · rw [recorder]
    exact sound.busy
  · rw [recorder]
    exact sound.given

/-- The player takes a step to a place where it has nothing under way. -/
theorem Sound.rests (sound : r.Sound) (same : SameFile r.player t)
    (sized : r.player.recorder.isSizing = false)
    (rest : t.recorder = .idle ∨ t.recorder = .flushing) (data : List UInt8) :
    Sound { r with player := t, given := data } := by
  refine sound.of_sameFile same ?_ data ?_ ?_
  · rw [sized]
    rcases rest with idle | flushing
    · rw [idle]
      rfl
    · rw [flushing]
      rfl
  · intro notIdle notFlushing
    exact absurd rest (by simp [notIdle, notFlushing])
  · rintro numFrames (writing | sizing)
    · simp [writing] at rest
    · simp [sizing] at rest

theorem turnPage_of_sized (sized : t.recorder.isSizing = false) :
    r.turnPage t = { r with player := t } := by
  rw [turnPage, if_neg (by simp [sized])]

theorem SameFile.refl (s : TermuxApiPlayer) : SameFile s s :=
  ⟨rfl, rfl, rfl, rfl, rfl, rfl⟩

/-- `write_frames` up to its first system call. -/
theorem Sound.writeFrames (sound : r.Sound) (idle : r.player.recorder = .idle)
    {numFrames : Nat} {data : List UInt8}
    (length : data.length = numFrames * wavBytesPerFrame r.player.config) :
    Sound (({ r with given := data }).turnPage (r.player.writeFrames numFrames true)) := by
  have sized : r.player.recorder.isSizing = false := by rw [idle]; rfl
  have unchanged : Sound (({ r with given := data }).turnPage r.player) := by
    rw [turnPage_of_sized sized]
    exact sound.rests (SameFile.refl _) sized (.inl idle) data
  unfold TermuxApiPlayer.writeFrames
  split
  · exact unchanged
  split
  · exact unchanged
  next notClosed =>
    have isOpen : r.player.isOpen = true := by simpa using notClosed
    split
    · exact unchanged
    split
    · next closed =>
      have unopened : r.current = none := by
        cases file : r.current with
        | none => rfl
        | some f =>
          have stored := sound.kept isOpen (by rw [file]; rfl)
          rw [closed] at stored
          cases stored
      refine sound.openNextSegment (.inl unopened) isOpen (some numFrames) data ?_
      intro asked same
      cases same
      exact length
    · next stored =>
      have file := sound.opened (Option.isSome_iff_ne_none.2 stored)
      rw [turnPage_of_sized rfl]
      refine
        sound.of_sameFile (t := { r.player with recorder := .writing numFrames })
          ⟨rfl, rfl, rfl, rfl, rfl, rfl⟩ sized.symm data ?_ ?_
      · exact fun _ _ => ⟨isOpen, file⟩
      · rintro asked (writing | sizing)
        · cases writing
          exact length
        · cases sizing

/-- A step of the recorder. -/
theorem Sound.recordStep (sound : r.Sound) {os : Os} {pcm : List UInt8} {q : Recording}
    (ok : os.ok = true) (fits : r.fits { action := .record os, pcm := pcm } = true)
    (stepped : r.player.recordStep os = some t)
    (followed : r.follow t { action := .record os, pcm := pcm } = some q) : q.Sound := by
  unfold TermuxApiPlayer.recordStep at stepped
  unfold Recording.follow at followed
  unfold Recording.fits at fits
  dsimp only at followed fits
  cases place : r.player.recorder with
  | idle =>
    rw [place] at stepped
    cases stepped
  | sizing frames =>
    rw [place] at stepped followed fits
    cases stepped
    cases followed
    rw [ok]
    exact sound.sizeSegment place (of_decide_eq_true fits) os.nowMs
  | writing numFrames =>
    rw [place] at stepped followed fits
    dsimp only at stepped
    rw [if_pos ok] at stepped
    cases stepped
    cases followed
    exact sound.writing place (of_decide_eq_true fits)
  | deciding =>
    have busy := sound.busy (by simp [place]) (by simp [place])
    rw [place] at stepped followed
    cases stepped
    cases followed
    refine sound.of_sameFile ?_ (by rw [place]; rfl) r.given (fun _ _ => busy) ?_
    · split
      · rcases finalizeSegment_same r.player with ⟨same, _⟩
        rcases same with ⟨config, segmentMs, isOpen, segFd, segFrames, segTotalFrames⟩
        exact ⟨config, segmentMs, isOpen, segFd, segFrames, segTotalFrames⟩
      · exact ⟨rfl, rfl, rfl, rfl, rfl, rfl⟩
    · rintro numFrames (writing | sizing)
      · cases writing
      · cases sizing
  | rotating =>
    have busy := sound.busy (by simp [place]) (by simp [place])
    rw [place] at stepped followed
    cases stepped
    cases followed
    rw [ok]
    split
    · next full =>
      refine sound.openNextSegment (.inr ⟨place, full.2⟩) busy.1 none r.given ?_
      rintro _ ⟨⟩
    · rw [turnPage_of_sized rfl]
      exact
        sound.rests (t := { r.player with recorder := .idle })
          ⟨rfl, rfl, rfl, rfl, rfl, rfl⟩ (by rw [place]; rfl) (.inl rfl) r.given
  | flushing =>
    rw [place] at stepped followed
    cases stepped
    cases followed
    exact
      sound.rests (t := { r.player with pending := none, recorder := .idle })
        ⟨rfl, rfl, rfl, rfl, rfl, rfl⟩ (by rw [place]; rfl) (.inl rfl) r.given

/-- A file that has no header yet may be truncated. -/
theorem Sound.spared (sound : r.Sound)
    (spared : (r.player.recorder.isSizing || !r.player.truncatesOpenFile) = true) :
    (if r.player.truncatesOpenFile then r.current.map (·.resize 0) else r.current) =
      r.current := by
  split
  · next truncates =>
    have sizing : r.player.recorder.isSizing = true := by simpa [truncates] using spared
    rcases sound.regions with ⟨recorded, _, current⟩
    cases file : r.current with
    | none => rfl
    | some f =>
      rw [file, current_sizing sizing] at current
      rw [current.1]
      rfl
  · rfl

theorem Sound.step (sound : r.Sound) {input : Input} {q : Recording}
    (fits : r.fits input = true) (stepped : r.step input = some q) : q.Sound := by
  unfold Recording.step at stepped
  split at stepped
  · next calm =>
    rcases Option.bind_eq_some_iff.1 stepped with ⟨player, moved, followed⟩
    rcases input with ⟨action, pcm⟩
    dsimp only at calm moved
    cases action with
    | writeFrames numFrames openOk =>
      have ok : openOk = true := calm
      unfold TermuxApiPlayer.step at moved
      unfold Recording.follow at followed
      dsimp only at moved followed
      split at moved
      · next idle =>
        cases moved
        split at followed
        · next length =>
          cases followed
          rw [ok]
          exact sound.writeFrames idle (length_wavData length)
        · cases followed
      · cases moved
    | record os => exact sound.recordStep calm fits moved followed
    | issue outcome nowMs =>
      rcases issueStep_same calm moved with ⟨same, recorder⟩
      cases followed
      rw [sound.spared fits]
      exact sound.stays same recorder
    | flush nowMs =>
      unfold TermuxApiPlayer.step at moved
      dsimp only at moved
      rw [discardRecorded_eq calm] at moved
      split at moved
      · next idle =>
        have sized : r.player.recorder.isSizing = false := by rw [idle]; rfl
        cases moved
        cases followed
        split
        · exact
            sound.rests (t := { r.player with recorder := .flushing })
              ⟨rfl, rfl, rfl, rfl, rfl, rfl⟩ sized (.inr rfl) r.given
        · exact sound.stays (SameFile.refl _) rfl
      · cases moved
    | watchdog nowMs =>
      unfold TermuxApiPlayer.step at moved
      dsimp only at moved
      rw [discardRecorded_eq calm] at moved
      split at moved
      · cases moved
        cases followed
        exact sound.stays (SameFile.refl _) rfl
      · cases moved
    | stop =>
      cases moved
      cases followed
      exact sound.stays ⟨rfl, rfl, rfl, rfl, rfl, rfl⟩ rfl
    | close =>
      unfold TermuxApiPlayer.step at moved
      dsimp only at moved
      split at moved
      · next ends =>
        cases moved
        cases followed
        exact sound.close ends.1
      · cases moved
  · cases stepped

/-! ## The steps that lose something -/

theorem declaredBytes_of_records
    (records : Records s.segmentHeader s.windowBytes recorded f) :
    declaredBytes f.contents = s.windowBytes % 2 ^ 32 := by
  rw [records.contents, List.append_assoc, declaredBytes_segmentHeader]

theorem declaredBytes_newSegment (s : TermuxApiPlayer) :
    declaredBytes s.newSegment.contents = s.windowBytes % 2 ^ 32 :=
  declaredBytes_of_records (records_new s.segmentHeader s.windowBytes)

/-- Frames behind the window are in the file, but not in the data that it declares. -/
theorem Sound.overshoots (sound : r.Sound) {numFrames : Nat}
    (writing : r.player.recorder = .writing numFrames)
    (beyond : r.player.segTotalFrames < r.player.segFrames + numFrames)
    (player : TermuxApiPlayer) :
    ¬ Lossless
      { r with
        player := player
        current := r.current.map (·.write r.given)
        written := r.written ++ r.given } := by
  intro lossless
  have regions := congrArg List.length lossless.regions
  have busy := sound.busy (by simp [writing]) (by simp [writing])
  have length := sound.given numFrames (.inl writing)
  rcases sound.regions with ⟨recorded, joined, current⟩
  rcases Option.isSome_iff_exists.1 busy.2 with ⟨f, file⟩
  rw [file, current_held (by rw [writing]; rfl)] at current
  have declares := declaredBytes_of_records (current.records.write r.given)
  rw [Nat.mod_eq_of_lt current.small, windowBytes, ← current.total] at declares
  have before := congrArg List.length joined
  have atMost : (recordedRegion (f.write r.given)).length ≤
      r.player.segTotalFrames * wavBytesPerFrame r.player.config := by
    rw [← declares]
    exact List.length_take_le _ _
  have more := Nat.mul_lt_mul_of_pos_right beyond sound.frame
  rw [file, Option.map_some, Option.map_some, Option.getD_some] at regions
  simp only [List.length_append] at regions before
  rw [current.length busy.1] at before
  rw [Nat.add_mul, ← length] at more
  omega

/-- A step that does not fit is seen at once. -/
theorem Sound.breaks (sound : r.Sound) {input : Input} {q : Recording}
    (unfit : ¬ r.fits input = true) (stepped : r.step input = some q) : ¬ q.Lossless := by
  unfold Recording.step at stepped
  split at stepped
  · next calm =>
    rcases Option.bind_eq_some_iff.1 stepped with ⟨player, moved, followed⟩
    rcases input with ⟨action, pcm⟩
    cases action with
    | record os =>
      have ok : os.ok = true := calm
      unfold Recording.fits at unfit
      unfold Recording.follow at followed
      dsimp only at unfit followed
      cases place : r.player.recorder with
      | writing numFrames =>
        rw [place] at unfit followed
        cases followed
        have beyond : r.player.segTotalFrames < r.player.segFrames + numFrames := by
          simpa using unfit
        exact sound.overshoots place beyond player
      | sizing frames =>
        rw [place] at unfit followed
        cases followed
        have large : 2 ^ 32 ≤ r.player.windowBytes := by simpa using unfit
        intro lossless
        unfold TermuxApiPlayer.step TermuxApiPlayer.recordStep at moved
        dsimp only at moved
        rw [place, ok] at moved
        cases moved
        have sized : (r.player.sizeSegment true os.nowMs frames).recorder.isSizing = false := by
          cases frames <;> rfl
        have declared := lossless.declared r.player.newSegment rfl sized
        rw [declaredBytes_newSegment] at declared
        have small : r.player.windowBytes % 2 ^ 32 < 2 ^ 32 := Nat.mod_lt _ (by decide)
        have window : r.player.windowBytes % 2 ^ 32 = r.player.windowBytes := declared
        omega
      | idle | deciding | rotating | flushing =>
        rw [place] at unfit
        exact absurd rfl unfit
    | issue outcome nowMs =>
      unfold Recording.fits at unfit
      cases followed
      have both : r.player.recorder.isSizing = false ∧ r.player.truncatesOpenFile = true := by
        simpa using unfit
      have stored : r.player.segFd.isSome = true := by
        have truncates := both.2
        unfold truncatesOpenFile at truncates
        split at truncates
        · simp only [Bool.and_eq_true, decide_eq_true_eq] at truncates
          rw [truncates.2]
          rfl
        · cases truncates
      rcases Option.isSome_iff_exists.1 (sound.opened stored) with ⟨f, file⟩
      rcases sound.regions with ⟨recorded, _, current⟩
      rw [file, current_held both.1] at current
      rcases issueStep_same calm moved with ⟨same, recorder⟩
      intro lossless
      have declared := lossless.declared (f.resize 0) (by simp [both.2, file])
        (by rw [recorder]; exact both.1)
      dsimp only at declared
      rw [same.segTotalFrames, same.config, current.total] at declared
      have nothing : declaredBytes (f.resize 0).contents = 0 := by
        simp [resize, declaredBytes, LittleEndian.field, LittleEndian.decode]
      have positive := Nat.mul_pos sound.window sound.frame
      omega
    | writeFrames | flush | watchdog | stop | close => exact absurd rfl unfit
  · cases stepped

/-! ## A run from `open` -/

theorem start_sound (config : AudioConfig) (requested : Option Int) :
    (start config requested).Sound := by
  have rate : 0 < (openConfig config).sampleRate := by
    rw [openConfig]
    dsimp only
    split <;> omega
  have channels : 0 < (openConfig config).channels := by
    rw [openConfig]
    dsimp only
    split <;> omega
  have segment : kMinSegmentMs ≤ acceptedSegmentMs requested := by
    cases requested with
    | none => decide
    | some ms =>
      rw [acceptedSegmentMs]
      omega
  refine ⟨⟨?_, ?_, ?_, ?_, ?_, ?_⟩, [], rfl, rfl⟩
  · change 0 < wavBytesPerFrame (openConfig config)
    unfold wavBytesPerFrame
    split
    · exact Nat.mul_pos (AudioConfig.bytesPerSample_pos _) channels
    · omega
  · change 0 < acceptedSegmentMs requested * (openConfig config).sampleRate / 1000
    have product : kMinSegmentMs * 1 ≤ acceptedSegmentMs requested * (openConfig config).sampleRate :=
      Nat.mul_le_mul segment rate
    have least : kMinSegmentMs = 2000 := rfl
    omega
  · simp [start, openedPlayer]
  · simp [start]
  · simp [start, openedPlayer]
  · simp [start, openedPlayer]

end

/-- In a run without errors and discards the declared data regions of the segments are
always what was written, exactly when no write goes beyond the window of the open file,
the window can be declared in 32 bits, and the issuer does not truncate the open file. -/
theorem rotation_loses_nothing_iff (config : AudioConfig) (requested : Option Int)
    (inputs : List Input) {r : Recording}
    (reached : run step (start config requested) inputs = some r) :
    (∀ before u, before <+: inputs → run step (start config requested) before = some u →
        u.Lossless) ↔
      EveryStep step (fun r input => r.fits input = true) (start config requested) inputs :=
  everyState_iff_of_breaks (fun _ _ _ sound fits stepped => Sound.step sound fits stepped)
    (fun _ sound => sound.lossless) (fun _ _ _ sound unfit stepped => sound.breaks unfit stepped)
    inputs (start_sound config requested) reached

section Windows

/-- A window of two seconds is two mono frames. -/
def slowConfig : AudioConfig := { sampleRate := 1, channels := 1 }

/-- A write with `steps` steps of the recorder. -/
def writeOf (pcm : List UInt8) (steps : Nat) : List Input :=
  { action := .writeFrames (pcm.length / 2) true, pcm := pcm } ::
    List.replicate steps { action := .record {} }

def recording (inputs : List Input) : Recording :=
  (run step (start slowConfig (some 2000)) inputs).getD (start slowConfig (some 2000))

/-- Single frames fill the window exactly. -/
def frameByFrame : List Input :=
  writeOf [1, 2] 4 ++ writeOf [3, 4] 4 ++ writeOf [5, 6] 3

theorem frame_by_frame_lossless :
    (recording frameByFrame).Lossless ∧ (recording frameByFrame).finished.length = 1 := by
  refine ⟨?_, by decide +kernel⟩
  have reached :
      run step (start slowConfig (some 2000)) frameByFrame = some (recording frameByFrame) :=
    run_eq_some_getD (by decide +kernel)
  have every :
      EveryStep step (fun r input => r.fits input = true) (start slowConfig (some 2000))
        frameByFrame := by decide +kernel
  exact
    (rotation_loses_nothing_iff slowConfig (some 2000) frameByFrame reached).2 every
      frameByFrame (recording frameByFrame) List.prefix_rfl reached

/-- A write of three frames into a window of two. -/
theorem long_write_loses_a_frame :
    ¬ ∀ (config : AudioConfig) (requested : Option Int) (inputs : List Input) (r : Recording),
        run step (start config requested) inputs = some r → r.Lossless := by
  intro claim
  have lossless :=
    claim slowConfig (some 2000) (writeOf [1, 2, 3, 4, 5, 6] 5)
      (recording (writeOf [1, 2, 3, 4, 5, 6] 5)) (run_eq_some_getD (by decide +kernel))
  have regions :
      (recording (writeOf [1, 2, 3, 4, 5, 6] 5)).finished.flatMap dataRegion = [1, 2, 3, 4] ∧
        (recording (writeOf [1, 2, 3, 4, 5, 6] 5)).written = [1, 2, 3, 4, 5, 6] ∧
          ((recording (writeOf [1, 2, 3, 4, 5, 6] 5)).current.map recordedRegion).getD [] =
            [] := by decide +kernel
  have joined := lossless.regions
  rw [regions.1, regions.2.1, regions.2.2] at joined
  exact absurd joined (by decide)

end Windows

end Recording

end AudioRouter.TermuxApiPlayer
