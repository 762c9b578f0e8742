import AudioRouter.TermuxPlayer.Model

/-!
# Truncations and the recorder

Segments are handed to the issuer in the order of their numbers, and the number of a
segment gives its file modulo the size of the pool.  The issuer remembers the file of
the play before; by the time that the next one is confirmed the recorder may have come
round to that file again.
-/

namespace AudioRouter.TermuxApiPlayer

open Transition

/-- The issuer has truncated neither the open file nor the one that was handed off. -/
def SparesRecording (s : TermuxApiPlayer) : Prop :=
  ∀ cut ∈ s.truncations, cut.openFile ≠ some cut.file ∧ cut.pendingFile ≠ some cut.file

/-- The open segment, or the one that was handed off, is a multiple of the size of the
pool ahead of a segment. -/
def laps (s : TermuxApiPlayer) (index : Nat) : Bool :=
  s.segFd.isSome && decide ((s.segIndex - index) % kPoolSize = 0) ||
    s.pending.any fun job => decide ((job.segIndex - index) % kPoolSize = 0)

/-- A play is confirmed when the recorder has lapped the previously confirmed segment. -/
def lapsPrevious (s : TermuxApiPlayer) : Action → Bool
  | .issue _ _ =>
      match s.issuer, s.prevIndex with
      | .truncating job, some index =>
          decide ((job.segIndex - index) % kPoolSize ≠ 0) && s.laps index
      | _, _ => false
  | _ => false

/-- When a play is confirmed the recorder is less than the pool ahead of the previously
confirmed segment. -/
def withinPool (s : TermuxApiPlayer) : Action → Bool
  | .issue _ _ =>
      match s.issuer, s.prevIndex with
      | .truncating _, some index => decide (s.segIndex < index + kPoolSize)
      | _, _ => true
  | _ => true

/-- The segment that the issuer is at work on. -/
def IssuerPc.job : IssuerPc → Option PendingSegment
  | .commanding job | .truncating job => some job
  | _ => none

/-- The segments that have been handed off and are remembered. -/
def handed (s : TermuxApiPlayer) : List Nat :=
  s.prevIndex.toList ++ s.issuer.job.toList.map PendingSegment.segIndex ++
    s.pending.toList.map PendingSegment.segIndex

/-- The current segment has not been handed off. -/
def Unissued (s : TermuxApiPlayer) : Prop :=
  (∃ frames, s.recorder = .sizing frames) ∨ (s.segFd ≠ none ∧ s.segIssued = false)

/-- Files are named after the segments. -/
structure Named (s : TermuxApiPlayer) : Prop where
  opened : ∀ file, s.segFd = some file → s.segPath = some file ∧ file = poolFile s.segIndex
  pending : ∀ job, s.pending = some job → job.path = poolFile job.segIndex
  taken : ∀ job, s.issuer.job = some job → job.path = poolFile job.segIndex
  previous : s.prevPath = s.prevIndex.map poolFile

/-- Segments are handed off in order, and each at most once. -/
structure Ordered (s : TermuxApiPlayer) : Prop where
  increasing : (handed s).Pairwise (· < ·)
  reached : ∀ index ∈ handed s, index ≤ s.segIndex
  fresh : s.Unissued → ∀ index ∈ handed s, index < s.segIndex

theorem poolFile_eq_iff {index later : Nat} (upTo : index ≤ later) :
    poolFile later = poolFile index ↔ (later - index) % kPoolSize = 0 := by
  change later % 4 = index % 4 ↔ (later - index) % 4 = 0
  omega

section

variable {s t : TermuxApiPlayer} {os : Os}

/-! ## Ways to keep what is known -/

/-- No segment is handed off, and the current one stays. -/
theorem Ordered.of_sublist (ordered : Ordered s) (fewer : (handed t).Sublist (handed s))
    (same : t.segIndex = s.segIndex) (unissued : t.Unissued → s.Unissued) : Ordered t where
  increasing := ordered.increasing.sublist fewer
  reached := by
    rw [same]
    exact fun index mem => ordered.reached index (fewer.subset mem)
  fresh := by
    rw [same]
    exact fun open_t index mem => ordered.fresh (unissued open_t) index (fewer.subset mem)

theorem Ordered.stay (ordered : Ordered s) (same : handed t = handed s)
    (index : t.segIndex = s.segIndex) (unissued : t.Unissued → s.Unissued) : Ordered t :=
  ordered.of_sublist (same ▸ List.Sublist.refl _) index unissued

/-- The recorder goes on to the next segment. -/
theorem Ordered.next (ordered : Ordered s) (same : handed t = handed s)
    (next : t.segIndex = s.segIndex + 1) : Ordered t where
  increasing := by
    rw [same]
    exact ordered.increasing
  reached := by
    rw [same, next]
    exact fun index mem => Nat.le_succ_of_le (ordered.reached index mem)
  fresh := by
    rw [same, next]
    exact fun _ index mem => Nat.lt_succ_of_le (ordered.reached index mem)

/-- Without an open file the current segment is over. -/
theorem not_unissued (closed : t.segFd = none) (sized : ∀ frames, t.recorder ≠ .sizing frames) :
    ¬ t.Unissued := by
  rintro (⟨frames, sizing⟩ | ⟨isOpen, -⟩)
  · exact sized frames sizing
  · exact isOpen closed

theorem not_unissued_of_idle (closed : t.segFd = none) (idle : t.recorder = .idle) :
    ¬ t.Unissued := by
  apply not_unissued closed
  intro frames sizing
  exact nomatch idle.symm.trans sizing

/-- Away from the sizing of a new file, only the open file matters. -/
theorem Unissued.of_same (unissued : t.Unissued) (sized : ∀ frames, t.recorder ≠ .sizing frames)
    (fd : t.segFd = s.segFd) (issued : t.segIssued = s.segIssued) : s.Unissued := by
  rcases unissued with ⟨frames, sizing⟩ | isOpen
  · exact absurd sizing (sized frames)
  · rw [fd, issued] at isOpen
    exact Or.inr isOpen

theorem Named.stay (named : Named s) (fd : t.segFd = s.segFd) (path : t.segPath = s.segPath)
    (index : t.segIndex = s.segIndex) (pending : t.pending = s.pending)
    (issuer : t.issuer = s.issuer) (prevPath : t.prevPath = s.prevPath)
    (prevIndex : t.prevIndex = s.prevIndex) : Named t where
  opened := by
    rw [fd, path, index]
    exact named.opened
  pending := by
    rw [pending]
    exact named.pending
  taken := by
    rw [issuer]
    exact named.taken
  previous := by
    rw [prevPath, prevIndex]
    exact named.previous

/-- The recorder closes its file. -/
theorem Named.closed (named : Named s) (fd : t.segFd = none) (pending : t.pending = s.pending)
    (issuer : t.issuer = s.issuer) (prevPath : t.prevPath = s.prevPath)
    (prevIndex : t.prevIndex = s.prevIndex) : Named t where
  opened := fun _ stored => nomatch fd.symm.trans stored
  pending := by
    rw [pending]
    exact named.pending
  taken := by
    rw [issuer]
    exact named.taken
  previous := by
    rw [prevPath, prevIndex]
    exact named.previous

/-! ## The recorder -/

theorem handed_openNextSegment (openOk : Bool) (frames : Option Nat) :
    handed (s.openNextSegment openOk frames) = handed s := by
  rw [openNextSegment]
  dsimp only
  split <;> rfl

theorem Named.openNextSegment (named : Named s) (openOk : Bool) (frames : Option Nat) :
    Named (s.openNextSegment openOk frames) := by
  rw [TermuxApiPlayer.openNextSegment]
  dsimp only
  split
  · refine ⟨?_, named.pending, named.taken, named.previous⟩
    intro file stored
    obtain rfl := Option.some.inj stored
    exact ⟨rfl, rfl⟩
  · exact named.closed rfl rfl rfl rfl rfl

theorem Ordered.openNextSegment (ordered : Ordered s) (openOk : Bool) (frames : Option Nat) :
    Ordered (s.openNextSegment openOk frames) := by
  apply ordered.next (handed_openNextSegment openOk frames)
  rw [TermuxApiPlayer.openNextSegment]
  dsimp only
  split <;> rfl

theorem Named.discardSegment (named : Named s) (nowMs : Millis) :
    Named (s.discardSegment nowMs) :=
  named.closed rfl rfl rfl rfl rfl

theorem Ordered.discardSegment (ordered : Ordered s) (idle : s.recorder = .idle)
    (nowMs : Millis) : Ordered (s.discardSegment nowMs) := by
  refine ordered.stay rfl rfl fun unissued => ?_
  exact absurd unissued (not_unissued_of_idle rfl idle)

theorem Named.discardRecorded (named : Named s) (nowMs : Millis) :
    Named (s.discardRecorded nowMs) := by
  rw [TermuxApiPlayer.discardRecorded]
  split
  · exact named.discardSegment nowMs
  · exact named

theorem Ordered.discardRecorded (ordered : Ordered s) (idle : s.recorder = .idle)
    (nowMs : Millis) : Ordered (s.discardRecorded nowMs) := by
  rw [TermuxApiPlayer.discardRecorded]
  split
  · exact ordered.discardSegment idle nowMs
  · exact ordered

/-- The current segment is handed off at the end of the list, in the place of one that
the issuer has not taken. -/
theorem Ordered.finalize {file : PoolFile} (ordered : Ordered s) (stored : s.segFd = some file)
    (unissued : s.segIssued = false) (job : PendingSegment) (current : job.segIndex = s.segIndex)
    (issued : t.segIssued = true) (sized : ∀ frames, t.recorder ≠ .sizing frames)
    (index : t.segIndex = s.segIndex) (pending : t.pending = some job)
    (issuer : t.issuer = s.issuer) (prevIndex : t.prevIndex = s.prevIndex) : Ordered t := by
  have before := ordered.fresh (Or.inr ⟨by rw [stored]; exact nofun, unissued⟩)
  have split : handed t =
      (s.prevIndex.toList ++ s.issuer.job.toList.map PendingSegment.segIndex) ++
        [s.segIndex] := by
    rw [handed, prevIndex, issuer, pending, Option.toList_some, List.map_singleton, current]
  have remembered : ∀ h ∈ s.prevIndex.toList ++
      s.issuer.job.toList.map PendingSegment.segIndex, h < s.segIndex :=
    fun h mem => before h (List.mem_append_left _ mem)
  constructor
  · rw [split, List.pairwise_append]
    refine ⟨?_, List.pairwise_singleton _ _, ?_⟩
    · exact ordered.increasing.sublist (List.sublist_append_left _ _)
    · intro h mem last isLast
      rw [List.mem_singleton.1 isLast]
      exact remembered h mem
  · intro h mem
    rw [split] at mem
    rw [index]
    rcases List.mem_append.1 mem with earlier | last
    · exact Nat.le_of_lt (remembered h earlier)
    · exact Nat.le_of_eq (List.mem_singleton.1 last)
  · rintro (⟨frames, sizing⟩ | ⟨-, notIssued⟩)
    · exact absurd sizing (sized frames)
    · exact nomatch issued.symm.trans notIssued

theorem Named.recordStep (named : Named s) (stepped : s.recordStep os = some t) : Named t := by
  rw [TermuxApiPlayer.recordStep] at stepped
  split at stepped
  · exact nomatch stepped
  · obtain rfl := Option.some.inj stepped
    rw [sizeSegment.eq_def]
    dsimp only
    split
    · exact named.stay rfl rfl rfl rfl rfl rfl rfl
    · exact named.closed rfl rfl rfl rfl rfl
  · obtain rfl := Option.some.inj stepped
    split
    · exact named.stay rfl rfl rfl rfl rfl rfl rfl
    · exact named.closed rfl rfl rfl rfl rfl
  · obtain rfl := Option.some.inj stepped
    split
    · rw [finalizeSegment]
      split
      next path stored name _ =>
        refine ⟨named.opened, ?_, named.taken, named.previous⟩
        intro job isJob
        obtain rfl := Option.some.inj isJob
        obtain ⟨named, file⟩ := named.opened _ stored
        rw [name] at named
        exact (Option.some.inj named).trans file
      · exact named.stay rfl rfl rfl rfl rfl rfl rfl
    · exact named.stay rfl rfl rfl rfl rfl rfl rfl
  · obtain rfl := Option.some.inj stepped
    split
    · exact named.openNextSegment os.ok none
    · exact named.stay rfl rfl rfl rfl rfl rfl rfl
  · obtain rfl := Option.some.inj stepped
    exact ⟨named.opened, nofun, named.taken, named.previous⟩

theorem Ordered.recordStep (ordered : Ordered s) (stepped : s.recordStep os = some t) :
    Ordered t := by
  rw [TermuxApiPlayer.recordStep] at stepped
  split at stepped
  · exact nomatch stepped
  next frames sizing =>
    obtain rfl := Option.some.inj stepped
    rw [sizeSegment.eq_def]
    dsimp only
    split
    · exact ordered.stay rfl rfl fun _ => Or.inl ⟨frames, sizing⟩
    · exact ordered.stay rfl rfl fun _ => Or.inl ⟨frames, sizing⟩
  next numFrames writing =>
    obtain rfl := Option.some.inj stepped
    split
    · exact ordered.stay rfl rfl fun unissued => unissued.of_same nofun rfl rfl
    · refine ordered.stay rfl rfl fun unissued => ?_
      exact absurd unissued (not_unissued rfl nofun)
  next deciding =>
    obtain rfl := Option.some.inj stepped
    have stays : Ordered { s with recorder := .rotating } := by
      exact ordered.stay rfl rfl fun unissued => unissued.of_same nofun rfl rfl
    split
    · rw [finalizeSegment]
      split
      next path stored _ unissued =>
        exact ordered.finalize stored unissued _ rfl rfl nofun rfl rfl rfl rfl
      · exact stays
    · exact stays
  next rotating =>
    obtain rfl := Option.some.inj stepped
    split
    · exact ordered.openNextSegment os.ok none
    · exact ordered.stay rfl rfl fun unissued => unissued.of_same nofun rfl rfl
  next flushing =>
    obtain rfl := Option.some.inj stepped
    refine ordered.of_sublist ?_ rfl ?_
    · exact List.Sublist.append (List.Sublist.refl _) (List.nil_sublist _)
    · exact fun unissued => unissued.of_same nofun rfl rfl

/-! ## The issuer -/

/-- The truncations after a confirmed play. -/
def cutsAfter (s : TermuxApiPlayer) (job : PendingSegment) : List Truncation :=
  match s.prevPath with
  | none => s.truncations
  | some file =>
      if file = job.path then s.truncations
      else s.truncations ++ [⟨file, s.segFd, s.pending.map PendingSegment.path⟩]

theorem confirmPlay_eq (job : PendingSegment) :
    s.confirmPlay job =
      { s with
        truncations := s.cutsAfter job
        prevPath := some job.path
        prevIndex := some job.segIndex
        issuer := .waiting } := by
  rw [confirmPlay, cutsAfter]
  cases s.prevPath with
  | none => rfl
  | some file =>
    dsimp only
    split <;> rfl

theorem Named.issueStep {outcome : Outcome} {nowMs : Millis} (named : Named s)
    (stepped : s.issueStep outcome nowMs = some t) : Named t := by
  rw [TermuxApiPlayer.issueStep] at stepped
  split at stepped
  · split at stepped
    · obtain rfl := Option.some.inj stepped
      exact ⟨named.opened, named.pending, nofun, named.previous⟩
    · split at stepped
      · exact nomatch stepped
      next job waits =>
        obtain rfl := Option.some.inj stepped
        refine ⟨named.opened, nofun, ?_, named.previous⟩
        intro taken isTaken
        obtain rfl := Option.some.inj isTaken
        exact named.pending job waits
  next job commands =>
    obtain rfl := Option.some.inj stepped
    refine ⟨named.opened, named.pending, ?_, named.previous⟩
    intro taken isTaken
    cases outcome with
    | confirmed =>
      obtain rfl := Option.some.inj isTaken
      exact named.taken job (by rw [commands]; rfl)
    | unanswered | undelivered => exact nomatch isTaken
  next job truncates =>
    obtain rfl := Option.some.inj stepped
    rw [confirmPlay_eq]
    have file := named.taken job (by rw [truncates]; rfl)
    exact ⟨named.opened, named.pending, nofun, congrArg some file⟩
  next failed =>
    split at stepped
    · obtain rfl := Option.some.inj stepped
      have discarded := named.discardRecorded nowMs
      exact ⟨discarded.opened, discarded.pending, nofun, discarded.previous⟩
    · exact nomatch stepped
  · exact nomatch stepped

theorem Ordered.issueStep {outcome : Outcome} {nowMs : Millis} (ordered : Ordered s)
    (stepped : s.issueStep outcome nowMs = some t) : Ordered t := by
  rw [TermuxApiPlayer.issueStep] at stepped
  split at stepped
  next waiting =>
    split at stepped
    · obtain rfl := Option.some.inj stepped
      refine ordered.stay ?_ rfl id
      rw [handed, handed, waiting]
      rfl
    · split at stepped
      · exact nomatch stepped
      next job pending =>
        obtain rfl := Option.some.inj stepped
        refine ordered.stay ?_ rfl id
        rw [handed, handed, waiting, pending]
        simp [IssuerPc.job]
  next job commands =>
    obtain rfl := Option.some.inj stepped
    refine ordered.of_sublist ?_ rfl id
    rw [handed, handed, commands]
    apply List.Sublist.append _ (List.Sublist.refl _)
    apply List.Sublist.append (List.Sublist.refl _)
    cases outcome with
    | confirmed => exact List.Sublist.refl _
    | unanswered | undelivered => exact List.nil_sublist _
  next job truncates =>
    obtain rfl := Option.some.inj stepped
    rw [confirmPlay_eq]
    refine ordered.of_sublist ?_ rfl id
    -- the confirmed play takes the place of the one before
    rw [handed, handed, truncates]
    apply List.Sublist.append _ (List.Sublist.refl _)
    exact List.sublist_append_right s.prevIndex.toList [job.segIndex]
  next failed =>
    split at stepped
    next idle =>
      obtain rfl := Option.some.inj stepped
      have discarded := ordered.discardRecorded idle nowMs
      have same : (s.discardRecorded nowMs).issuer = .failed := by
        rw [TermuxApiPlayer.discardRecorded]
        split <;> exact failed
      refine discarded.stay ?_ rfl id
      rw [handed, handed, same]
      rfl
    · exact nomatch stepped
  · exact nomatch stepped

/-! ## All threads -/

theorem Named.step {action : Action} (named : Named s) (stepped : s.step action = some t) :
    Named t := by
  cases action with
  | writeFrames numFrames openOk =>
    obtain ⟨-, eq⟩ := Option.ite_none_right_eq_some.1 stepped
    obtain rfl := Option.some.inj eq
    rw [writeFrames]
    repeat' split
    · exact named
    · exact named
    · exact named
    · exact named.openNextSegment openOk _
    · exact named.stay rfl rfl rfl rfl rfl rfl rfl
  | flush nowMs =>
    obtain ⟨-, eq⟩ := Option.ite_none_right_eq_some.1 stepped
    obtain rfl := Option.some.inj eq
    split
    · exact (named.discardRecorded nowMs).stay rfl rfl rfl rfl rfl rfl rfl
    · exact named
  | record os => exact named.recordStep stepped
  | issue outcome nowMs => exact named.issueStep stepped
  | watchdog nowMs =>
    obtain ⟨-, eq⟩ := Option.ite_none_right_eq_some.1 stepped
    obtain rfl := Option.some.inj eq
    exact named.discardRecorded nowMs
  | stop =>
    obtain rfl := Option.some.inj stepped
    exact named.stay rfl rfl rfl rfl rfl rfl rfl
  | close =>
    obtain ⟨⟨-, returned⟩, eq⟩ := Option.ite_none_right_eq_some.1 stepped
    obtain rfl := Option.some.inj eq
    exact ⟨nofun, nofun, named.taken, named.previous⟩

theorem Ordered.step {action : Action} (ordered : Ordered s) (stepped : s.step action = some t) :
    Ordered t := by
  cases action with
  | writeFrames numFrames openOk =>
    obtain ⟨idle, eq⟩ := Option.ite_none_right_eq_some.1 stepped
    obtain rfl := Option.some.inj eq
    rw [writeFrames]
    repeat' split
    · exact ordered
    · exact ordered
    · exact ordered
    · exact ordered.openNextSegment openOk _
    · exact ordered.stay rfl rfl fun unissued => unissued.of_same nofun rfl rfl
  | flush nowMs =>
    obtain ⟨idle, eq⟩ := Option.ite_none_right_eq_some.1 stepped
    obtain rfl := Option.some.inj eq
    split
    · exact (ordered.discardRecorded idle nowMs).stay rfl rfl fun unissued =>
        unissued.of_same nofun rfl rfl
    · exact ordered
  | record os => exact ordered.recordStep stepped
  | issue outcome nowMs => exact ordered.issueStep stepped
  | watchdog nowMs =>
    obtain ⟨idle, eq⟩ := Option.ite_none_right_eq_some.1 stepped
    obtain rfl := Option.some.inj eq
    exact ordered.discardRecorded idle nowMs
  | stop =>
    obtain rfl := Option.some.inj stepped
    exact ordered.stay rfl rfl id
  | close =>
    obtain ⟨⟨idle, returned⟩, eq⟩ := Option.ite_none_right_eq_some.1 stepped
    obtain rfl := Option.some.inj eq
    refine ordered.of_sublist ?_ rfl fun unissued => ?_
    · exact List.Sublist.append (List.Sublist.refl _) (List.nil_sublist _)
    · exact absurd unissued (not_unissued_of_idle rfl idle)

/-! ## What a truncation hits -/

/-- The recorder has lapped a segment if and only if it has come to its file. -/
theorem laps_iff {index : Nat} (named : Named s) (upTo : index ≤ s.segIndex)
    (before : ∀ job, s.pending = some job → index ≤ job.segIndex) :
    s.laps index = true ↔
      s.segFd = some (poolFile index) ∨
        s.pending.map PendingSegment.path = some (poolFile index) := by
  rw [laps, Bool.or_eq_true]
  apply or_congr
  · cases stored : s.segFd with
    | none => simp
    | some file =>
      rw [(named.opened file stored).2, Option.isSome_some, Bool.true_and, decide_eq_true_iff,
        Option.some_inj]
      exact (poolFile_eq_iff upTo).symm
  · cases waits : s.pending with
    | none => simp
    | some job =>
      rw [Option.any_some, decide_eq_true_iff, Option.map_some, Option.some_inj,
        named.pending job waits]
      exact (poolFile_eq_iff (before job waits)).symm

/-- The order of what has been handed off, seen from the issuer. -/
theorem Ordered.around {job : PendingSegment} {index : Nat} (ordered : Ordered s)
    (taken : s.issuer.job = some job) (previous : s.prevIndex = some index) :
    index < job.segIndex ∧ job.segIndex ≤ s.segIndex ∧
      ∀ waits, s.pending = some waits → job.segIndex < waits.segIndex ∧
        waits.segIndex ≤ s.segIndex := by
  have list : handed s =
      index :: job.segIndex :: s.pending.toList.map PendingSegment.segIndex := by
    rw [handed, taken, previous]
    rfl
  have increasing := ordered.increasing
  have reached := ordered.reached
  rw [list, List.pairwise_cons, List.pairwise_cons] at increasing
  rw [list] at reached
  refine ⟨increasing.1 _ List.mem_cons_self, ?_, ?_⟩
  · exact reached _ (List.mem_cons_of_mem _ List.mem_cons_self)
  · intro waits pending
    have mem : waits.segIndex ∈ s.pending.toList.map PendingSegment.segIndex := by
      rw [pending]
      exact List.mem_singleton_self _
    exact
      ⟨increasing.2.1 _ mem,
        reached _ (List.mem_cons_of_mem _ (List.mem_cons_of_mem _ mem))⟩

theorem openNextSegment_truncations (openOk : Bool) (frames : Option Nat) :
    (s.openNextSegment openOk frames).truncations = s.truncations := by
  rw [openNextSegment]
  dsimp only
  split <;> rfl

theorem discardRecorded_truncations (nowMs : Millis) :
    (s.discardRecorded nowMs).truncations = s.truncations := by
  rw [discardRecorded]
  split <;> rfl

theorem recordStep_truncations (stepped : s.recordStep os = some t) :
    t.truncations = s.truncations := by
  rw [recordStep] at stepped
  split at stepped
  · exact nomatch stepped
  all_goals obtain rfl := Option.some.inj stepped
  · rw [sizeSegment.eq_def]
    dsimp only
    split <;> rfl
  · split <;> rfl
  · split
    · rw [finalizeSegment]
      split <;> rfl
    · rfl
  · split
    · exact openNextSegment_truncations os.ok none
    · rfl
  · rfl

/-- Only a confirmed play truncates. -/
theorem truncations_step {action : Action} (stepped : s.step action = some t) :
    t.truncations = s.truncations ∨
      ∃ job outcome nowMs, action = .issue outcome nowMs ∧ s.issuer = .truncating job ∧
        t.truncations = s.cutsAfter job := by
  cases action with
  | writeFrames numFrames openOk =>
    obtain ⟨-, eq⟩ := Option.ite_none_right_eq_some.1 stepped
    obtain rfl := Option.some.inj eq
    left
    rw [writeFrames]
    repeat' split
    · rfl
    · rfl
    · rfl
    · exact openNextSegment_truncations openOk _
    · rfl
  | flush nowMs =>
    obtain ⟨-, eq⟩ := Option.ite_none_right_eq_some.1 stepped
    obtain rfl := Option.some.inj eq
    left
    split
    · exact discardRecorded_truncations nowMs
    · rfl
  | record os => exact Or.inl (recordStep_truncations stepped)
  | issue outcome nowMs =>
    rw [TermuxApiPlayer.step, issueStep.eq_def] at stepped
    split at stepped
    · left
      split at stepped
      · obtain rfl := Option.some.inj stepped
        rfl
      · split at stepped
        · exact nomatch stepped
        · obtain rfl := Option.some.inj stepped
          rfl
    · obtain rfl := Option.some.inj stepped
      exact Or.inl rfl
    next job truncates =>
      obtain rfl := Option.some.inj stepped
      refine Or.inr ⟨job, outcome, nowMs, rfl, truncates, ?_⟩
      rw [confirmPlay_eq]
    · left
      split at stepped
      · obtain rfl := Option.some.inj stepped
        exact discardRecorded_truncations nowMs
      · exact nomatch stepped
    · exact nomatch stepped
  | watchdog nowMs =>
    obtain ⟨-, eq⟩ := Option.ite_none_right_eq_some.1 stepped
    obtain rfl := Option.some.inj eq
    exact Or.inl (discardRecorded_truncations nowMs)
  | stop =>
    obtain rfl := Option.some.inj stepped
    exact Or.inl rfl
  | close =>
    obtain ⟨-, eq⟩ := Option.ite_none_right_eq_some.1 stepped
    obtain rfl := Option.some.inj eq
    exact Or.inl rfl

/-- A confirmed play laps the one before if and only if it truncates a file that the
recorder has come to. -/
theorem lapsPrevious_iff {job : PendingSegment} {index : Nat} {outcome : Outcome}
    {nowMs : Millis} (named : Named s) (ordered : Ordered s)
    (truncates : s.issuer = .truncating job) (previous : s.prevIndex = some index) :
    lapsPrevious s (.issue outcome nowMs) = true ↔
      poolFile index ≠ job.path ∧
        (s.segFd = some (poolFile index) ∨
          s.pending.map PendingSegment.path = some (poolFile index)) := by
  have taken : s.issuer.job = some job := by rw [truncates]; rfl
  obtain ⟨older, upTo, later⟩ := ordered.around taken previous
  have come :=
    laps_iff named (Nat.le_trans (Nat.le_of_lt older) upTo) fun waits pending =>
      Nat.le_of_lt (Nat.lt_trans older (later waits pending).1)
  rw [lapsPrevious, truncates, previous]
  dsimp only
  rw [Bool.and_eq_true, decide_eq_true_iff, come, named.taken job taken]
  apply and_congr_left'
  exact not_congr ((poolFile_eq_iff (Nat.le_of_lt older)).symm.trans eq_comm)

theorem cutsAfter_of_some {job : PendingSegment} {index : Nat} (named : Named s)
    (previous : s.prevIndex = some index) :
    s.cutsAfter job =
      if poolFile index = job.path then s.truncations
      else s.truncations ++
        [⟨poolFile index, s.segFd, s.pending.map PendingSegment.path⟩] := by
  rw [cutsAfter, named.previous, previous]
  rfl

/-- A confirmed play that does not lap the one before spares the recording. -/
theorem SparesRecording.step {action : Action} (spares : SparesRecording s) (named : Named s)
    (ordered : Ordered s) (kept : lapsPrevious s action = false)
    (stepped : s.step action = some t) : SparesRecording t := by
  rw [SparesRecording]
  rcases truncations_step stepped with same | ⟨job, outcome, nowMs, rfl, truncates, cuts⟩
  · rw [same]
    exact spares
  · rw [cuts]
    cases previous : s.prevIndex with
    | none =>
      rw [cutsAfter, named.previous, previous]
      exact spares
    | some index =>
      rw [cutsAfter_of_some named previous]
      split
      · exact spares
      next different =>
        intro cut made
        rcases List.mem_append.1 made with before | last
        · exact spares cut before
        · obtain rfl := List.mem_singleton.1 last
          have away := (lapsPrevious_iff named ordered truncates previous).not.1
            (Bool.not_eq_true _ ▸ kept)
          exact not_or.1 fun come => away ⟨different, come⟩

/-- A confirmed play that laps the one before truncates what the recorder has open or
has handed off. -/
theorem lapsPrevious_not_spares {action : Action} (named : Named s) (ordered : Ordered s)
    (lapped : lapsPrevious s action = true) (stepped : s.step action = some t) :
    ¬ SparesRecording t := by
  cases action with
  | issue outcome nowMs =>
    obtain ⟨job, index, truncates, previous⟩ :
        ∃ job index, s.issuer = .truncating job ∧ s.prevIndex = some index := by
      rw [lapsPrevious] at lapped
      split at lapped
      next job index truncates previous => exact ⟨job, index, truncates, previous⟩
      · exact nomatch lapped
    obtain ⟨different, come⟩ := (lapsPrevious_iff named ordered truncates previous).1 lapped
    have confirmed : t.truncations = s.cutsAfter job := by
      rw [TermuxApiPlayer.step, issueStep, truncates] at stepped
      obtain rfl := Option.some.inj stepped
      rw [confirmPlay_eq]
    intro spares
    have cut := spares ⟨poolFile index, s.segFd, s.pending.map PendingSegment.path⟩ (by
      rw [confirmed, cutsAfter_of_some named previous, if_neg different]
      exact List.mem_append_right _ (List.mem_singleton_self _))
    rcases come with isOpen | waits
    · exact cut.1 isOpen
    · exact cut.2 waits
  | writeFrames _ _ | flush _ | record _ | watchdog _ | stop | close => exact nomatch lapped

/-- A recorder that is less than the pool ahead has not come round. -/
theorem lapsPrevious_of_withinPool {action : Action} (ordered : Ordered s)
    (within : withinPool s action = true) : lapsPrevious s action = false := by
  cases action with
  | issue outcome nowMs =>
    rw [withinPool] at within
    split at within
    next job index truncates previous =>
      have ahead := of_decide_eq_true within
      have taken : s.issuer.job = some job := by rw [truncates]; rfl
      obtain ⟨older, upTo, later⟩ := ordered.around taken previous
      have away : ∀ later, index < later → later ≤ s.segIndex →
          (later - index) % kPoolSize ≠ 0 := by
        intro later after upTo
        unfold kPoolSize at ahead ⊢
        omega
      have open_away := away s.segIndex (Nat.lt_of_lt_of_le older upTo) (Nat.le_refl _)
      rw [lapsPrevious, truncates, previous]
      dsimp only
      rw [laps, decide_eq_false open_away, Bool.and_false, Bool.false_or]
      cases waits : s.pending with
      | none => exact Bool.and_false _
      | some next =>
        obtain ⟨after, reached⟩ := later next waits
        rw [Option.any_some, decide_eq_false (away _ (Nat.lt_trans older after) reached),
          Bool.and_false]
    next elsewhere =>
      rw [lapsPrevious]
      split
      next job index truncates previous => exact absurd previous (elsewhere job index truncates)
      · rfl
  | writeFrames _ _ | flush _ | record _ | watchdog _ | stop | close => rfl

end

/-! ## Runs of the player -/

/-- What is known of the player while no confirmed play laps the one before. -/
structure Spared (s : TermuxApiPlayer) : Prop where
  named : Named s
  ordered : Ordered s
  spares : SparesRecording s

theorem Spared.step {s t : TermuxApiPlayer} {action : Action} (spared : Spared s)
    (kept : lapsPrevious s action = false) (stepped : s.step action = some t) : Spared t where
  named := spared.named.step stepped
  ordered := spared.ordered.step stepped
  spares := spared.spares.step spared.named spared.ordered kept stepped

theorem openedPlayer_spared (config : AudioConfig) (requested : Option Int) :
    Spared (openedPlayer config requested) where
  named := ⟨nofun, nofun, nofun, rfl⟩
  ordered := by
    refine ⟨List.Pairwise.nil, fun _ mem => absurd mem List.not_mem_nil, ?_⟩
    exact fun _ _ mem => absurd mem List.not_mem_nil
  spares := fun _ made => absurd made List.not_mem_nil

/-- For every segment length the issuer truncates neither the open file nor the one that
was handed off if and only if no play is confirmed when the recorder has lapped the
previously confirmed one. -/
theorem issuer_spares_recording {config : AudioConfig} {requested : Option Int}
    {actions : List Action} {s : TermuxApiPlayer}
    (reached : run step (openedPlayer config requested) actions = some s) :
    (∀ before u, before <+: actions →
        run step (openedPlayer config requested) before = some u → SparesRecording u) ↔
      EveryStep step (fun s action => lapsPrevious s action = false)
        (openedPlayer config requested) actions := by
  refine
    everyState_iff_of_breaks ?_ ?_ ?_ actions (openedPlayer_spared config requested) reached
  · exact fun _ _ _ spared kept stepped => spared.step kept stepped
  · exact fun _ spared => spared.spares
  · exact fun _ _ _ spared lapped stepped =>
      lapsPrevious_not_spares spared.named spared.ordered (eq_true_of_ne_false lapped) stepped

/-- It is enough that the recorder stays less than the pool ahead. -/
theorem recording_spared_within_pool {config : AudioConfig} {requested : Option Int}
    {actions : List Action} {s : TermuxApiPlayer}
    (within : EveryStep step (fun s action => withinPool s action = true)
      (openedPlayer config requested) actions)
    (reached : run step (openedPlayer config requested) actions = some s) :
    SparesRecording s := by
  have spared : Spared s := by
    refine run_invariant ?_ actions (openedPlayer_spared config requested) within reached
    intro u action v spared within stepped
    exact spared.step (lapsPrevious_of_withinPool spared.ordered within) stepped
  exact spared.spares

/-- Two seconds of audio fill a file, which is handed off, and the next one is opened. -/
def fills (nowMs : Millis) : List Action :=
  [.record {}, .record { nowMs := nowMs }, .record {}, .record { nowMs := nowMs }]

def writesSegment (nowMs : Millis) : List Action := .writeFrames 16000 true :: fills nowMs

def writesFirst : List Action := .writeFrames 16000 true :: .record {} :: fills 2000

/-- The issuer takes a segment, or goes on with it. -/
def issues : Action := .issue .confirmed 0

/-- The first two segments are confirmed while the next one is recorded. -/
def promptPlays : List Action :=
  writesFirst ++ [issues, issues, issues] ++ writesSegment 4000 ++ [issues, issues, issues]

/-- The command of the second segment takes longer than two more segments. -/
def slowPlay : List Action :=
  writesFirst ++ [issues, issues, issues] ++ writesSegment 4000 ++ [issues] ++
    writesSegment 6000 ++ writesSegment 8000 ++ [issues, issues]

/-- Mono audio of 8 kHz in files of two seconds. -/
def shortFiles : TermuxApiPlayer :=
  openedPlayer { sampleRate := 8000, channels := 1 } (some 2000)

def ranFrom (actions : List Action) : TermuxApiPlayer :=
  (run step shortFiles actions).getD shortFiles

theorem issuer_spares_recording_prompt :
    (ranFrom promptPlays).truncations = [⟨1, some 3, none⟩] ∧
      (∀ before u, before <+: promptPlays →
        run step shortFiles before = some u → SparesRecording u) :=
  ⟨by decide +kernel,
    (issuer_spares_recording (s := ranFrom promptPlays)
      (run_eq_some_getD (by decide +kernel))).2 (by decide +kernel)⟩

/-- The file of the first segment, which the recorder has opened again for the fifth, is
truncated. -/
theorem slow_play_truncates_open_file :
    run step shortFiles slowPlay = some (ranFrom slowPlay) ∧
      (ranFrom slowPlay).segFd = some 1 ∧
      (ranFrom slowPlay).truncations = [⟨1, some 1, some 0⟩] ∧
      ¬ SparesRecording (ranFrom slowPlay) :=
  ⟨run_eq_some_getD (by decide +kernel), by decide +kernel, by decide +kernel,
    fun spares => (spares ⟨1, some 1, some 0⟩ (by decide +kernel)).1 rfl⟩

end AudioRouter.TermuxApiPlayer
