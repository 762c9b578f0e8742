import AudioRouter.DirectAlsa.Model
import AudioRouter.Lib.FixedWidth
import Mathlib.Tactic.Common

/-!
# The kernel players never open

The loop that computes the boundary doubles it until the double would exceed
`ULONG_MAX - buffer`, and doubles in the same 64 bits: the product wraps before the
condition fails, is zero in the end, and the loop never ends.  A node that accepts the
stream's parameters is therefore where `open` stays.
-/

namespace AudioRouter

open DirectAlsa FixedWidth

namespace DirectAlsa

/-! ## The boundary -/

/-- A buffer of fewer than `2 ^ 32` frames, doubled so many times. -/
def doubled (buffer : BitVec 64) (times : Nat) : BitVec 64 :=
  buffer * BitVec.ofNat 64 (2 ^ times)

theorem doubled_succ (buffer : BitVec 64) (times : Nat) :
    doubled buffer (times + 1) = doubled buffer times * 2 := by
  have power : BitVec.ofNat 64 (2 ^ (times + 1)) = BitVec.ofNat 64 (2 ^ times) * 2 := by
    rw [Nat.pow_succ, BitVec.ofNat_mul]
    rfl
  rw [doubled, doubled, power, BitVec.mul_assoc]

theorem doubles (buffer : BitVec 64) (small : buffer.toNat < 2 ^ 32) (times : Nat) :
    Doubles buffer (doubled buffer times) := by
  have bound := mul_two_pow_mod_add_lt small times
  have value : (doubled buffer times * 2).toNat =
      buffer.toNat * 2 ^ (times + 1) % 2 ^ (2 * 32) := by
    rw [← doubled_succ, doubled, BitVec.toNat_mul, BitVec.toNat_ofNat, Nat.mul_mod_mod]
  have room : (ulongMax - buffer).toNat = 2 ^ 64 - 1 - buffer.toNat := by
    have whole : ulongMax.toNat = 2 ^ 64 - 1 := by decide
    rw [BitVec.toNat_sub_of_le, whole]
    rw [BitVec.le_def, whole]
    omega
  unfold Doubles
  rw [BitVec.le_def, value, room]
  omega

/-- The loop is never at its end. -/
theorem boundaryLoop_none (buffer : BitVec 64) (small : buffer.toNat < 2 ^ 32) :
    ∀ fuel times, boundaryLoop buffer fuel (doubled buffer times) = none := by
  intro fuel
  induction fuel with
  | zero => exact fun _ => rfl
  | succ fuel inductionHypothesis =>
    intro times
    rw [boundaryLoop, if_pos (doubles buffer small times), ← doubled_succ]
    exact inductionHypothesis (times + 1)

theorem swParamsOf_none (fuel : Nat) (period : BitVec 64) (frames : BitVec 32) :
    swParamsOf fuel period (frames.setWidth 64) = none := by
  have small : (bufferOrDefault (frames.setWidth 64)).toNat < 2 ^ 32 := by
    unfold bufferOrDefault
    split
    · rw [BitVec.toNat_setWidth_of_le (by decide)]
      exact frames.isLt
    · decide
  have start : doubled (bufferOrDefault (frames.setWidth 64)) 0 =
      bufferOrDefault (frames.setWidth 64) := by
    rw [doubled, Nat.pow_zero]
    exact BitVec.mul_one _
  have stuck := boundaryLoop_none (bufferOrDefault (frames.setWidth 64)) small fuel 0
  rw [start] at stuck
  rw [swParamsOf, stuck]
  rfl

/-- The node can be opened and accepts one of the two requests. -/
def Node.Accepts (node : Node) (config : AudioConfig) : Prop :=
  node.open' = .ok () ∧
    ((node.hwParams (constrainedParams config)).isOk ∨
      (node.hwParamsAgain (streamParams config)).isOk)

end DirectAlsa

namespace DirectAlsaPlayer

section

variable {fuel : Nat} {kernel : String → Node} {p : DirectAlsaPlayer} {candidate : String}

theorem negotiate_ok {node : Node} :
    (∃ chosen, p.negotiate node = .ok chosen) ↔
      (node.hwParams (constrainedParams p.config)).isOk ∨
        (node.hwParamsAgain (streamParams p.config)).isOk := by
  unfold negotiate
  cases node.hwParams (constrainedParams p.config) with
  | ok chosen => simp [Except.isOk, Except.toBool]
  | error errno =>
    cases node.hwParamsAgain (streamParams p.config) with
    | ok chosen => simp [Except.isOk, Except.toBool]
    | error errno => simp [Except.isOk, Except.toBool]

/-- On a node that accepts, `try_open_candidate` does not come to its end. -/
theorem tryOpenCandidate_of_accepts (accepts : (kernel candidate).Accepts p.config) :
    p.tryOpenCandidate fuel kernel candidate = none := by
  obtain ⟨chosen, negotiated⟩ := negotiate_ok.2 accepts.2
  unfold tryOpenCandidate
  dsimp only
  rw [accepts.1]
  dsimp only
  rw [negotiated]
  dsimp only
  rw [swParamsOf_none]
  rfl

/-- On any other node it fails, and leaves the player as it was. -/
theorem tryOpenCandidate_of_refuses (fuel : Nat)
    (refuses : ¬ (kernel candidate).Accepts p.config) :
    ∃ lastError, p.tryOpenCandidate fuel kernel candidate = some (.error lastError, p) := by
  unfold tryOpenCandidate
  dsimp only
  cases opened : (kernel candidate).open' with
  | error errno => exact ⟨_, rfl⟩
  | ok =>
    dsimp only
    cases negotiated : p.negotiate (kernel candidate) with
    | error lastError => exact ⟨_, rfl⟩
    | ok chosen => exact absurd ⟨opened, negotiate_ok.1 ⟨chosen, negotiated⟩⟩ refuses

theorem tryCandidates_eq (fuel : Nat) (kernel : String → Node) (p : DirectAlsaPlayer)
    (list : List String) :
    (∃ candidate ∈ list, (kernel candidate).Accepts p.config) ∧
        p.tryCandidates fuel kernel list = none ∨
      (∀ candidate ∈ list, ¬ (kernel candidate).Accepts p.config) ∧
        p.tryCandidates fuel kernel list = some (false, p) := by
  induction list with
  | nil => exact Or.inr ⟨by simp, rfl⟩
  | cons candidate rest inductionHypothesis =>
    rw [tryCandidates]
    by_cases accepts : (kernel candidate).Accepts p.config
    · rw [tryOpenCandidate_of_accepts accepts]
      exact Or.inl ⟨⟨candidate, List.mem_cons_self, accepts⟩, rfl⟩
    · obtain ⟨lastError, failed⟩ := tryOpenCandidate_of_refuses fuel accepts
      rw [failed]
      rcases inductionHypothesis with ⟨⟨other, member, accepted⟩, stuck⟩ | ⟨none, ends⟩
      · exact Or.inl ⟨⟨other, List.mem_cons_of_mem _ member, accepted⟩, stuck⟩
      · refine Or.inr ⟨fun other member => ?_, ends⟩
        rcases List.mem_cons.1 member with rfl | later
        · exact accepts
        · exact none other later

/-! ## The candidates -/

theorem addCandidate_nodup {list : List String} (nodup : list.Nodup) (dev : String) :
    (addCandidate list dev).Nodup := by
  unfold addCandidate
  split
  · exact nodup
  · next new =>
    rw [List.nodup_append]
    refine ⟨nodup, List.nodup_singleton dev, fun other member last => ?_⟩
    rw [List.mem_singleton]
    rintro rfl rfl
    exact new member

theorem candidates_nodup (deviceName : String) (entries : List String) :
    (candidates deviceName entries).Nodup := by
  have added (devices list : List String) (nodup : list.Nodup) :
      (devices.foldl addCandidate list).Nodup := by
    induction devices generalizing list with
    | nil => exact nodup
    | cons dev devices inductionHypothesis =>
      exact inductionHypothesis _ (addCandidate_nodup nodup dev)
  unfold candidates
  refine added _ _ ?_
  generalize (if deviceName.isEmpty then defaultDevice else deviceName) = primary
  split
  · next different => simp [different]
  · exact List.nodup_singleton _

theorem beginOpen_isOpen (config : AudioConfig) (devicePath : String) :
    (p.beginOpen config devicePath).isOpen = false := by
  unfold beginOpen
  split
  · rfl
  · next closed => exact Bool.eq_false_iff.2 closed

end

/-- The lists of `open`, from the first candidate on. -/
theorem openDevice_eq (fuel : Nat) (kernel : String → Node) (entries : List String)
    (p : DirectAlsaPlayer) (config : AudioConfig) (deviceName : String) :
    (∃ candidate ∈ candidates deviceName entries, (kernel candidate).Accepts config) ∧
        p.openDevice fuel kernel entries config deviceName = none ∨
      (∀ candidate ∈ candidates deviceName entries, ¬ (kernel candidate).Accepts config) ∧
        ∃ q, p.openDevice fuel kernel entries config deviceName = some (false, q) ∧
          q.isOpen = false := by
  unfold openDevice
  dsimp only
  generalize (if deviceName.isEmpty then defaultDevice else deviceName) = path
  rcases tryCandidates_eq fuel kernel (p.beginOpen config path) (candidates deviceName entries)
    with ⟨accepted, stuck⟩ | ⟨refused, ends⟩
  · refine Or.inl ⟨accepted, ?_⟩
    rw [stuck, Option.map_none]
  · refine Or.inr ⟨refused, p.beginOpen config path, ?_, beginOpen_isOpen config path⟩
    rw [ends, Option.map_some]
    rfl

theorem openCandidateOnly_eq (fuel : Nat) (kernel : String → Node) (p : DirectAlsaPlayer)
    (config : AudioConfig) (candidate : String) :
    p.openCandidateOnly fuel kernel config candidate = none ∨
      ∃ q, p.openCandidateOnly fuel kernel config candidate = some (false, q) := by
  unfold openCandidateOnly
  split
  · exact Or.inr ⟨p, rfl⟩
  · generalize p.beginOpen config candidate = begun
    by_cases accepts : (kernel candidate).Accepts begun.config
    · rw [tryOpenCandidate_of_accepts accepts]
      exact Or.inl rfl
    · obtain ⟨lastError, failed⟩ := tryOpenCandidate_of_refuses fuel accepts
      rw [failed]
      exact Or.inr ⟨_, rfl⟩

/-- Whatever the kernel answers, opening a kernel node never succeeds: where a node of the
list, tried at most once, accepts the stream, `open` does not come to its end, and else it
fails. -/
theorem open_never_succeeds (fuel : Nat) (kernel : String → Node) (entries : List String)
    (p : DirectAlsaPlayer) (config : AudioConfig) (deviceName : String) :
    (candidates deviceName entries).Nodup ∧
      ((∃ candidate ∈ candidates deviceName entries, (kernel candidate).Accepts config) ∧
          p.openDevice fuel kernel entries config deviceName = none ∨
        (∀ candidate ∈ candidates deviceName entries, ¬ (kernel candidate).Accepts config) ∧
          ∃ q, p.openDevice fuel kernel entries config deviceName = some (false, q) ∧
            q.isOpen = false) ∧
      ∀ candidate,
        p.openCandidateOnly fuel kernel config candidate = none ∨
          ∃ q, p.openCandidateOnly fuel kernel config candidate = some (false, q) :=
  ⟨candidates_nodup deviceName entries,
    openDevice_eq fuel kernel entries p config deviceName,
    openCandidateOnly_eq fuel kernel p config⟩

end DirectAlsaPlayer

end AudioRouter
