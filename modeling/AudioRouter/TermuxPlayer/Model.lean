import AudioRouter.AudioTypes
import AudioRouter.Lib.Transition

/-!
# The Termux:API player

The recorder of `TermuxApiPlayer` (`client/termux_api_player.cpp`), which writes into the
files of a pool and is guarded by `io_mutex_`, and the issuer thread, which hands the
files to the media player and truncates the one before.  The recorder's critical section
is cut at its system calls, since the issuer truncates without the lock.  What the files
hold is left out.
-/

namespace AudioRouter

namespace TermuxApiPlayer

/-- `get_time_ms()`. -/
abbrev Millis := BitVec 64

def kPrefillMs : Nat := 600
def kDefaultSegmentMs : Nat := 600000
def kMinSegmentMs : Nat := 2000
def kMaxSegmentMs : Nat := 3600000
def kPoolSize : Nat := 4

/-- The number in the name `seg_p<n>.wav`. -/
abbrev PoolFile := Nat

/-- The file of a segment. -/
def poolFile (segIndex : Nat) : PoolFile := segIndex % kPoolSize

/-- `PendingSegment` -/
structure PendingSegment where
  path : PoolFile
  frames : Nat
  segIndex : Nat
  deriving DecidableEq, Repr

/-- What `media_command` reports of a play. -/
inductive Outcome where
  | confirmed
  | unanswered
  | undelivered
  deriving DecidableEq, Repr

/-- Where the holder of `io_mutex_` stands. -/
inductive RecorderPc where
  | idle
  /-- A new file is open.  A write waits for it, unless it comes from a rotation. -/
  | sizing (frames : Option Nat)
  | writing (frames : Nat)
  | deciding
  | rotating
  | flushing
  deriving DecidableEq, Repr

/-- Where `issuer_loop` stands. -/
inductive IssuerPc where
  | waiting
  | commanding (job : PendingSegment)
  | truncating (job : PendingSegment)
  | failed
  | returned
  deriving DecidableEq, Repr

/-- A `truncate`: the file, and what the recorder had open and handed off meanwhile. -/
structure Truncation where
  file : PoolFile
  openFile : Option PoolFile
  pendingFile : Option PoolFile
  deriving DecidableEq, Repr

end TermuxApiPlayer

open TermuxApiPlayer

/-- The members of `TermuxApiPlayer` that the recorder and the issuer use, the local
variables of the issuer, and the truncations so far. -/
structure TermuxApiPlayer where
  config : AudioConfig
  segmentMs : Nat
  isOpen : Bool := false
  /-- The file that `seg_fd_` has open. -/
  segFd : Option PoolFile := none
  segIndex : Nat := 0
  segPath : Option PoolFile := none
  segStartWallMs : Millis := 0
  segFrames : Nat := 0
  segTotalFrames : Nat := 0
  segIssued : Bool := false
  pending : Option PendingSegment := none
  stopIssuer : Bool := false
  recorder : RecorderPc := .idle
  issuer : IssuerPc := .waiting
  prevPath : Option PoolFile := none
  /-- The segment of the previously confirmed play. -/
  prevIndex : Option Nat := none
  truncations : List Truncation := []
  deriving DecidableEq, Repr

namespace TermuxApiPlayer

/-! ## `open` -/

/-- The segment length that `open` makes of the number behind `termux:`. -/
def acceptedSegmentMs : Option Int → Nat
  | none => kDefaultSegmentMs
  | some ms => (max (kMinSegmentMs : Int) (min ms (kMaxSegmentMs : Int))).toNat

/-- The configuration that `open` makes of the negotiated one. -/
def openConfig (config : AudioConfig) : AudioConfig :=
  { config with
    sampleRate := if config.sampleRate = 0 then 48000 else config.sampleRate
    channels := if config.channels = 0 then 2 else config.channels }

/-- What a successful `open` leaves behind. -/
def openedPlayer (config : AudioConfig) (requested : Option Int) : TermuxApiPlayer :=
  { config := openConfig config
    segmentMs := acceptedSegmentMs requested
    isOpen := true }

/-! ## The recorder -/

/-- `segment_ready`, which compares exactly although it computes with doubles. -/
def segmentReady (s : TermuxApiPlayer) (nowMs : Millis) : Bool :=
  let rate := if s.config.sampleRate > 0 then s.config.sampleRate else 48000
  decide (s.segFrames * 1000 ≥ kPrefillMs * rate) &&
    decide ((if nowMs ≥ s.segStartWallMs then nowMs - s.segStartWallMs else 0).toNat ≥
      kPrefillMs)

/-- `open_next_segment_locked` up to the open of the file. -/
def openNextSegment (s : TermuxApiPlayer) (openOk : Bool) (frames : Option Nat) :
    TermuxApiPlayer :=
  let file := poolFile (s.segIndex + 1)
  let s := { s with segFd := none, segIndex := s.segIndex + 1, segPath := some file }
  if openOk then { s with segFd := some file, recorder := .sizing frames }
  else { s with recorder := .idle }

/-- The header and the size of a new file. -/
def sizeSegment (s : TermuxApiPlayer) (sizeOk : Bool) (nowMs : Millis)
    (frames : Option Nat) : TermuxApiPlayer :=
  let s := { s with segTotalFrames := s.segmentMs * s.config.sampleRate / 1000 }
  if sizeOk then
    { s with
      segFrames := 0
      segIssued := false
      segStartWallMs := nowMs
      recorder :=
        match frames with
        | none => .idle
        | some numFrames => .writing numFrames }
  else { s with segFd := none, segPath := none, recorder := .idle }

def discardSegment (s : TermuxApiPlayer) (nowMs : Millis) : TermuxApiPlayer :=
  { s with
    segFd := none
    segPath := none
    segFrames := 0
    segIssued := false
    segStartWallMs := nowMs }

/-- A restart at live audio, where there is something to discard. -/
def discardRecorded (s : TermuxApiPlayer) (nowMs : Millis) : TermuxApiPlayer :=
  if s.isOpen ∧ s.segFrames > 0 then s.discardSegment nowMs else s

def finalizeSegment (s : TermuxApiPlayer) : TermuxApiPlayer :=
  match s.segFd, s.segPath, s.segIssued with
  | some _, some path, false =>
      { s with segIssued := true, pending := some ⟨path, s.segFrames, s.segIndex⟩ }
  | _, _, _ => s

/-- `write_frames` as far as the first system call. -/
def writeFrames (s : TermuxApiPlayer) (numFrames : Nat) (openOk : Bool) : TermuxApiPlayer :=
  if numFrames = 0 then s
  else if s.isOpen = false then s
  else if s.config.bytesPerFrame = 0 then s
  else if s.segFd = none then s.openNextSegment openOk (some numFrames)
  else { s with recorder := .writing numFrames }

/-- What the system returns at a step of the recorder. -/
structure Os where
  ok : Bool := true
  nowMs : Millis := 0
  deriving DecidableEq, Repr

/-- One step inside `write_frames` or `flush`. -/
def recordStep (s : TermuxApiPlayer) (os : Os) : Option TermuxApiPlayer :=
  match s.recorder with
  | .idle => none
  | .sizing frames => some (s.sizeSegment os.ok os.nowMs frames)
  | .writing numFrames =>
      some
        (if os.ok then
          { s with segFrames := s.segFrames + numFrames, recorder := .deciding }
        else { s.discardSegment os.nowMs with recorder := .idle })
  | .deciding =>
      let s := if !s.segIssued && s.segmentReady os.nowMs then s.finalizeSegment else s
      some { s with recorder := .rotating }
  | .rotating =>
      some
        (if s.segTotalFrames > 0 ∧ s.segFrames ≥ s.segTotalFrames then
          s.openNextSegment os.ok none
        else { s with recorder := .idle })
  | .flushing => some { s with pending := none, recorder := .idle }

/-! ## The issuer -/

/-- The application has closed the previous file, which is truncated unless the new one
has its name. -/
def confirmPlay (s : TermuxApiPlayer) (job : PendingSegment) : TermuxApiPlayer :=
  let s : TermuxApiPlayer :=
    match s.prevPath with
    | none => s
    | some file =>
        if file = job.path then s
        else
          { s with
            truncations :=
              s.truncations ++ [⟨file, s.segFd, s.pending.map PendingSegment.path⟩] }
  { s with prevPath := some job.path, prevIndex := some job.segIndex, issuer := .waiting }

/-- One step of `issuer_loop`. -/
def issueStep (s : TermuxApiPlayer) (outcome : Outcome) (nowMs : Millis) :
    Option TermuxApiPlayer :=
  match s.issuer with
  | .waiting =>
      if s.stopIssuer then some { s with issuer := .returned }
      else
        match s.pending with
        | none => none
        | some job => some { s with pending := none, issuer := .commanding job }
  | .commanding job =>
      some
        { s with
          issuer :=
            match outcome with
            | .confirmed => .truncating job
            | .unanswered => .waiting
            | .undelivered => .failed }
  | .truncating job => some (s.confirmPlay job)
  | .failed =>
      if s.recorder = .idle then some { s.discardRecorded nowMs with issuer := .waiting }
      else none
  | .returned => none

/-! ## The threads together -/

inductive Action where
  | writeFrames (numFrames : Nat) (openOk : Bool)
  | flush (nowMs : Millis)
  | record (os : Os)
  | issue (outcome : Outcome) (nowMs : Millis)
  /-- The watchdog finds that the media player has no track. -/
  | watchdog (nowMs : Millis)
  | stop
  | close
  deriving DecidableEq, Repr

/-- `io_mutex_` is free where the recorder is idle.  `close()` waits for the issuer
before it takes the lock. -/
def step (s : TermuxApiPlayer) : Action → Option TermuxApiPlayer
  | .writeFrames numFrames openOk =>
      if s.recorder = .idle then some (s.writeFrames numFrames openOk) else none
  | .flush nowMs =>
      if s.recorder = .idle then
        some
          (if s.isOpen then { s.discardRecorded nowMs with recorder := .flushing } else s)
      else none
  | .record os => s.recordStep os
  | .issue outcome nowMs => s.issueStep outcome nowMs
  | .watchdog nowMs => if s.recorder = .idle then some (s.discardRecorded nowMs) else none
  | .stop => some { s with stopIssuer := true }
  | .close =>
      if s.recorder = .idle ∧ s.issuer = .returned then
        some
          { s with
            isOpen := false, segFd := none, segPath := none, segFrames := 0, pending := none }
      else none

end TermuxApiPlayer

end AudioRouter
