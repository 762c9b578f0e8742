import AudioRouter.DeviceOpen.Model
import AudioRouter.Lib.Text
import AudioRouter.PulsePlayer.BufferAttr

/-!
# The device names of the PulseAudio backend

`parse_device_spec` of `client/pulse_player.cpp` takes a name apart from both ends: the
backend on the left, an optional latency behind the last `@` on the right, and the sink
between them.  A string is the list of its bytes, each written as the character with
that code.
-/

namespace AudioRouter.PulsePlayer

open Text

/-- `isspace` in the C locale. -/
def isSpace (c : Char) : Bool :=
  c = ' ' || (9 ≤ c.toNat && c.toNat ≤ 13)

/-- `DeviceSpec`. -/
structure DeviceSpec where
  sink : List Char := []
  latencyMs : Nat := 0
  deriving DecidableEq, Repr

def pulse : List Char := ['p', 'u', 'l', 's', 'e']
def pulseaudio : List Char := ['p', 'u', 'l', 's', 'e', 'a', 'u', 'd', 'i', 'o']
def pa : List Char := ['p', 'a']

def isPulseDeviceName (deviceName : List Char) : Bool :=
  deviceName == pulse || deviceName == pulseaudio || deviceName == pa ||
    (pulse ++ [':']).isPrefixOf deviceName || (pulse ++ ['@']).isPrefixOf deviceName ||
    (pulseaudio ++ [':']).isPrefixOf deviceName || (pulseaudio ++ ['@']).isPrefixOf deviceName ||
    (pa ++ [':']).isPrefixOf deviceName || (pa ++ ['@']).isPrefixOf deviceName

/-- The backends in the order in which the loop tries them. -/
def backends : List (List Char) := [pulseaudio, pulse, pa]

/-- What is left of a name without the first backend that it begins with. -/
def stripBackend (deviceName : List Char) : List Char :=
  match backends.find? fun backend => backend.isPrefixOf deviceName with
  | some backend => deviceName.drop backend.length
  | none => []

/-- `std::stoul` on decimal digits.  It throws `out_of_range` above `ULONG_MAX`, which
depends on the platform. -/
def stoul (ulongMax : Nat) (digits : List Char) : Option Nat :=
  let value := Nat.ofDigitChars 10 digits 0
  if value ≤ ulongMax then some value else none

/-- The latency suffix is the last `@` with digits behind it. -/
def cutLatency (ulongMax : Nat) (rest : List Char) : Nat × List Char :=
  match rfind '@' rest with
  | none => (0, rest)
  | some position =>
      let tail := trim isSpace (rest.drop (position + 1))
      let allDigits := !tail.isEmpty && tail.all Char.isDigit
      if allDigits then
        -- the exception is caught, and then the latency is 0
        let ms := (stoul ulongMax tail).getD 0
        let ms := if ms > kMaxLatencyMs then kMaxLatencyMs else ms
        let ms := if ms ≠ 0 ∧ ms < kMinLatencyMs then kMinLatencyMs else ms
        (ms, rest.take position)
      else (0, rest)

def sinkText (rest : List Char) : List Char :=
  match rest with
  | ':' :: text => trim isSpace text
  | _ => []

/-- The spellings of the daemon's own choice. -/
def defaultSinks : List (List Char) :=
  [['d', 'e', 'f', 'a', 'u', 'l', 't'],
    ['@', 'D', 'E', 'F', 'A', 'U', 'L', 'T', '_', 'S', 'I', 'N', 'K', '@']]

def normalise (sink : List Char) : List Char :=
  if sink ∈ defaultSinks then [] else sink

def parseDeviceSpec (ulongMax : Nat) (deviceName : List Char) : DeviceSpec :=
  if !isPulseDeviceName deviceName then {}
  else
    let (latencyMs, rest) := cutLatency ulongMax (stripBackend deviceName)
    { sink := normalise (sinkText rest), latencyMs := latencyMs }

/-! ## The grammar -/

/-- A backend is followed by the end of the name, a colon or an at sign. -/
structure Remainder (name rest : List Char) : Prop where
  backend : ∃ backend ∈ [pulse, pulseaudio, pa], name = backend ++ rest
  follows : ∀ c ∈ rest.head?, c = ':' ∨ c = '@'

/-- The number behind the last at sign: digits, possibly between spaces. -/
structure LatencySuffix (rest front : List Char) (n : Nat) : Prop where
  suffix :
    ∃ tail digits, rest = front ++ '@' :: tail ∧ '@' ∉ tail ∧ IsTrim isSpace tail digits ∧
      digits ≠ [] ∧ (∀ c ∈ digits, c.isDigit) ∧ n = Nat.ofDigitChars 10 digits 0

/-- The sink that a remainder without its latency names. -/
inductive NamesSink : (left sink : List Char) → Prop
  | none {left : List Char} (noColon : left.head? ≠ some ':') : NamesSink left []
  | daemon {text kept : List Char} (trimmed : IsTrim isSpace text kept)
      (chosen : kept ∈ defaultSinks) : NamesSink (':' :: text) []
  | named {text kept : List Char} (trimmed : IsTrim isSpace text kept)
      (own : kept ∉ defaultSinks) : NamesSink (':' :: text) kept

/-- A latency of 0 is left to the stream, any other is brought into the bounds. -/
def boundedLatency (n : Nat) : Nat :=
  if n = 0 then 0 else max kMinLatencyMs (min n kMaxLatencyMs)

/-- What a device name stands for. -/
inductive Grammar (name : List Char) : DeviceSpec → Prop
  | foreign (other : ∀ rest, ¬ Remainder name rest) :
      Grammar name { sink := [], latencyMs := 0 }
  | latency {rest front sink : List Char} {n : Nat} (remainder : Remainder name rest)
      (suffix : LatencySuffix rest front n) (names : NamesSink front sink) :
      Grammar name { sink := sink, latencyMs := boundedLatency n }
  | plain {rest sink : List Char} (remainder : Remainder name rest)
      (none : ∀ front n, ¬ LatencySuffix rest front n) (names : NamesSink rest sink) :
      Grammar name { sink := sink, latencyMs := 0 }

/-! ## The three cuts -/

section

variable {name rest front sink : List Char} {n ulongMax : Nat}

/-- The three comparisons that are made for each backend. -/
theorem backend_iff {backend : List Char} :
    (name = backend ∨ (backend ++ [':']).isPrefixOf name ∨
        (backend ++ ['@']).isPrefixOf name) ↔
      ∃ rest, name = backend ++ rest ∧ ∀ c ∈ rest.head?, c = ':' ∨ c = '@' := by
  simp only [List.isPrefixOf_iff_prefix]
  constructor
  · rintro (rfl | ⟨text, rfl⟩ | ⟨text, rfl⟩)
    · exact ⟨[], (List.append_nil _).symm, by simp⟩
    · exact ⟨':' :: text, by simp, by simp⟩
    · exact ⟨'@' :: text, by simp, by simp⟩
  · rintro ⟨rest, rfl, follows⟩
    cases rest with
    | nil => simp
    | cons c text =>
        rcases follows c rfl with rfl | rfl
        · exact Or.inr (Or.inl ⟨text, by simp⟩)
        · exact Or.inr (Or.inr ⟨text, by simp⟩)

theorem isPulseDeviceName_iff : isPulseDeviceName name ↔ ∃ rest, Remainder name rest := by
  have tested :
      isPulseDeviceName name ↔
        ∃ backend ∈ [pulse, pulseaudio, pa], name = backend ∨
          (backend ++ [':']).isPrefixOf name ∨ (backend ++ ['@']).isPrefixOf name := by
    simp only [isPulseDeviceName, Bool.or_eq_true, beq_iff_eq, List.mem_cons,
      List.not_mem_nil, or_false, exists_eq_or_imp, exists_eq_left]
    apply iff_of_eq
    ac_rfl
  rw [tested]
  constructor
  · rintro ⟨backend, member, found⟩
    rcases backend_iff.1 found with ⟨rest, whole, follows⟩
    exact ⟨rest, ⟨backend, member, whole⟩, follows⟩
  · rintro ⟨rest, ⟨backend, member, whole⟩, follows⟩
    exact ⟨backend, member, backend_iff.2 ⟨rest, whole, follows⟩⟩

/-- The backend is stripped whole: no other one leaves a remainder. -/
theorem stripBackend_eq (remainder : Remainder name rest) : stripBackend name = rest := by
  rcases remainder with ⟨⟨backend, member, rfl⟩, follows⟩
  simp only [List.mem_cons, List.not_mem_nil, or_false] at member
  rcases member with rfl | rfl | rfl
  · -- what follows `pulse` does not make it `pulseaudio`
    have shorter : pulseaudio.isPrefixOf (pulse ++ rest) = false := by
      cases rest with
      | nil => decide
      | cons c text =>
          rcases follows c rfl with rfl | rfl <;>
            simp [pulse, pulseaudio, List.isPrefixOf]
    simp [stripBackend, backends, shorter]
  · simp [stripBackend, backends]
  · simp [stripBackend, backends, pulseaudio, pulse, pa, List.isPrefixOf]

theorem sinkText_of_noColon (noColon : rest.head? ≠ some ':') : sinkText rest = [] := by
  unfold sinkText
  split
  · exact absurd rfl noColon
  · rfl

theorem namesSink_iff : NamesSink rest sink ↔ sink = normalise (sinkText rest) := by
  constructor
  · intro names
    cases names with
    | none noColon =>
        rw [sinkText_of_noColon noColon]
        simp [normalise]
    | daemon trimmed chosen =>
        rw [isTrim_iff.1 trimmed] at chosen
        simp [sinkText, normalise, chosen]
    | named trimmed own =>
        rw [isTrim_iff.1 trimmed] at own ⊢
        simp [sinkText, normalise, own]
  · rintro rfl
    by_cases colon : rest.head? = some ':'
    · rcases List.head?_eq_some_iff.1 colon with ⟨text, rfl⟩
      have trimmed := isTrim_trim isSpace text
      by_cases chosen : trim isSpace text ∈ defaultSinks
      · simpa [sinkText, normalise, chosen] using NamesSink.daemon trimmed chosen
      · simpa [sinkText, normalise, chosen] using NamesSink.named trimmed chosen
    · rw [sinkText_of_noColon colon]
      simpa [normalise] using NamesSink.none colon

theorem bounded_eq (ms : Nat) :
    (let ms := if ms > kMaxLatencyMs then kMaxLatencyMs else ms
      if ms ≠ 0 ∧ ms < kMinLatencyMs then kMinLatencyMs else ms) = boundedLatency ms := by
  simp only [boundedLatency, kMaxLatencyMs, kMinLatencyMs]
  by_cases high : 500 < ms
  · have nonzero : ms ≠ 0 := by omega
    simp [high, nonzero]
    omega
  · simp [high]
    split_ifs <;> omega

/-- What becomes of a remainder that is cut at its last at sign. -/
theorem cutLatency_at {tail : List Char} (absent : '@' ∉ tail) :
    cutLatency ulongMax (front ++ '@' :: tail) =
      if !(trim isSpace tail).isEmpty && (trim isSpace tail).all Char.isDigit then
        (boundedLatency ((stoul ulongMax (trim isSpace tail)).getD 0), front)
      else (0, front ++ '@' :: tail) := by
  have behind : (front ++ '@' :: tail).drop (front.length + 1) = tail := by simp
  have before : (front ++ '@' :: tail).take front.length = front := List.take_left
  simp only [cutLatency, rfind_append_cons absent, behind, before, ← bounded_eq]

/-- The digits are read as their value, and an exception as 0. -/
theorem cutLatency_of_suffix (suffix : LatencySuffix rest front n) :
    cutLatency ulongMax rest = (boundedLatency (if n ≤ ulongMax then n else 0), front) := by
  rcases suffix with ⟨tail, digits, rfl, absent, trimmed, nonempty, allDigits, rfl⟩
  have kept : trim isSpace tail = digits := (isTrim_iff.1 trimmed).symm
  have accepted : (!digits.isEmpty && digits.all Char.isDigit) = true := by
    simpa [nonempty] using allDigits
  rw [cutLatency_at absent, kept, if_pos accepted, stoul]
  split_ifs <;> rfl

theorem cutLatency_of_plain (none : ∀ front n, ¬ LatencySuffix rest front n) :
    cutLatency ulongMax rest = (0, rest) := by
  cases found : rfind '@' rest with
  | none => simp [cutLatency, found]
  | some position =>
      rcases rfind_eq_some_iff.1 found with ⟨front, tail, rfl, absent, rfl⟩
      have refused :
          ¬ (!(trim isSpace tail).isEmpty && (trim isSpace tail).all Char.isDigit) = true := by
        intro accepted
        simp only [Bool.and_eq_true, Bool.not_eq_true', List.isEmpty_eq_false_iff,
          List.all_eq_true] at accepted
        exact none front _
          ⟨tail, trim isSpace tail, rfl, absent, isTrim_trim isSpace tail, accepted.1,
            accepted.2, rfl⟩
      rw [cutLatency_at absent, if_neg refused]

end

/-! ## What the parser computes -/

section

variable {name rest front : List Char} {n ulongMax : Nat}

theorem Remainder.unique {other : List Char} (left : Remainder name rest)
    (right : Remainder name other) : rest = other :=
  (stripBackend_eq left).symm.trans (stripBackend_eq right)

theorem LatencySuffix.unique {otherFront : List Char} {m : Nat}
    (left : LatencySuffix rest front n) (right : LatencySuffix rest otherFront m) :
    front = otherFront ∧ n = m := by
  rcases left with ⟨tail, digits, rfl, absent, trimmed, -, -, rfl⟩
  rcases right with ⟨otherTail, otherDigits, same, otherAbsent, otherTrimmed, -, -, rfl⟩
  rcases last_cut_unique same absent otherAbsent with ⟨rfl, rfl⟩
  rw [isTrim_iff.1 trimmed, isTrim_iff.1 otherTrimmed]
  exact ⟨rfl, rfl⟩

theorem parseDeviceSpec_foreign (other : ∀ rest, ¬ Remainder name rest) :
    parseDeviceSpec ulongMax name = {} := by
  have foreign : isPulseDeviceName name = false := by
    by_contra pulse
    rcases isPulseDeviceName_iff.1 (eq_true_of_ne_false pulse) with ⟨rest, remainder⟩
    exact other rest remainder
  rw [parseDeviceSpec, foreign]
  rfl

theorem parseDeviceSpec_latency (remainder : Remainder name rest)
    (suffix : LatencySuffix rest front n) :
    parseDeviceSpec ulongMax name =
      { sink := normalise (sinkText front)
        latencyMs := boundedLatency (if n ≤ ulongMax then n else 0) } := by
  have known := isPulseDeviceName_iff.2 ⟨rest, remainder⟩
  simp [parseDeviceSpec, known, stripBackend_eq remainder, cutLatency_of_suffix suffix]

theorem parseDeviceSpec_plain (remainder : Remainder name rest)
    (none : ∀ front n, ¬ LatencySuffix rest front n) :
    parseDeviceSpec ulongMax name =
      { sink := normalise (sinkText rest), latencyMs := 0 } := by
  have known := isPulseDeviceName_iff.2 ⟨rest, remainder⟩
  simp [parseDeviceSpec, known, stripBackend_eq remainder, cutLatency_of_plain none]

end

/-- The strategies of a device open test a name in the same way. -/
theorem isPulseDevice_eq (deviceName : String) :
    DeviceOpen.isPulseDevice deviceName = isPulseDeviceName deviceName.toList := by
  have same (text : String) : (deviceName == text) = (deviceName.toList == text.toList) := by
    rw [Bool.eq_iff_iff, beq_iff_eq, beq_iff_eq, String.toList_inj]
  simp only [DeviceOpen.isPulseDevice, DeviceOpen.startsWith, same]
  rfl

/-- A name is foreign, or its remainder is plain, or it has a latency suffix. -/
theorem classify (name : List Char) :
    (∀ rest, ¬ Remainder name rest) ∨
      ∃ rest, Remainder name rest ∧
        ((∀ front n, ¬ LatencySuffix rest front n) ∨
          ∃ front n, LatencySuffix rest front n) := by
  by_cases foreign : ∀ rest, ¬ Remainder name rest
  · exact Or.inl foreign
  · push Not at foreign
    rcases foreign with ⟨rest, remainder⟩
    by_cases plain : ∀ front n, ¬ LatencySuffix rest front n
    · exact Or.inr ⟨rest, remainder, Or.inl plain⟩
    · push Not at plain
      exact Or.inr ⟨rest, remainder, Or.inr plain⟩

/-- Every latency that the parser returns is one for the buffer, or left to it. -/
theorem parseDeviceSpec_latency_bounds (ulongMax : Nat) (name : List Char) :
    (parseDeviceSpec ulongMax name).latencyMs = 0 ∨
      kMinLatencyMs ≤ (parseDeviceSpec ulongMax name).latencyMs ∧
        (parseDeviceSpec ulongMax name).latencyMs ≤ kMaxLatencyMs := by
  rcases classify name with foreign | ⟨rest, remainder, plain | ⟨front, n, suffix⟩⟩
  · rw [parseDeviceSpec_foreign foreign]
    exact Or.inl rfl
  · rw [parseDeviceSpec_plain remainder plain]
    exact Or.inl rfl
  · rw [parseDeviceSpec_latency remainder suffix]
    simp only [boundedLatency, kMinLatencyMs, kMaxLatencyMs]
    split_ifs <;> omega

/-- The name asks for a latency that no `unsigned long` holds. -/
def OutOfRange (ulongMax : Nat) (name : List Char) : Prop :=
  ∃ rest front n, Remainder name rest ∧ LatencySuffix rest front n ∧ ulongMax < n

/-- Out of range the latency is lost, while the grammar has the upper bound for it. -/
theorem not_grammar_of_outOfRange {ulongMax : Nat} {name : List Char}
    (outOfRange : OutOfRange ulongMax name) :
    ¬ Grammar name (parseDeviceSpec ulongMax name) := by
  intro grammar
  rcases outOfRange with ⟨rest, front, n, remainder, suffix, above⟩
  have parsed : parseDeviceSpec ulongMax name = _ :=
    parseDeviceSpec_latency remainder suffix
  rw [if_neg (Nat.not_le.2 above)] at parsed
  generalize parseDeviceSpec ulongMax name = spec at grammar parsed
  cases grammar with
  | foreign other => exact other rest remainder
  | plain other none names =>
      rw [other.unique remainder] at none
      exact none front n suffix
  | latency other otherSuffix names =>
      rename_i m
      rw [other.unique remainder] at otherSuffix
      have same : m = n := (otherSuffix.unique suffix).2
      -- a number above any bound is positive, so its bounded latency is not 0
      have nonzero : m ≠ 0 := by omega
      have zero := congrArg DeviceSpec.latencyMs parsed
      simp only [boundedLatency, kMinLatencyMs, kMaxLatencyMs, if_neg nonzero, if_true] at zero
      omega

theorem grammar_of_inRange {ulongMax : Nat} {name : List Char}
    (inRange : ¬ OutOfRange ulongMax name) : Grammar name (parseDeviceSpec ulongMax name) := by
  rcases classify name with foreign | ⟨rest, remainder, plain | ⟨front, n, suffix⟩⟩
  · rw [parseDeviceSpec_foreign foreign]
    exact Grammar.foreign foreign
  · rw [parseDeviceSpec_plain remainder plain]
    exact Grammar.plain remainder plain (namesSink_iff.2 rfl)
  · have fits : n ≤ ulongMax := by
      by_contra above
      exact inRange ⟨rest, front, n, remainder, suffix, Nat.lt_of_not_le above⟩
    rw [parseDeviceSpec_latency remainder suffix, if_pos fits]
    exact Grammar.latency remainder suffix (namesSink_iff.2 rfl)

/-- The parser computes the grammar on exactly the names whose latency is in range. -/
theorem parseDeviceSpec_grammar_iff (ulongMax : Nat) (name : List Char) :
    Grammar name (parseDeviceSpec ulongMax name) ↔ ¬ OutOfRange ulongMax name := by
  constructor
  · intro grammar outOfRange
    exact not_grammar_of_outOfRange outOfRange grammar
  · exact grammar_of_inRange

/-- `pulse@` and twenty nines, which do not fit 64 bits: the latency becomes 0, where 500
is meant. -/
theorem parseDeviceSpec_nines :
    let name := pulse ++ '@' :: List.replicate 20 '9'
    let ulongMax := 0xFFFFFFFFFFFFFFFF
    parseDeviceSpec ulongMax name = { sink := [], latencyMs := 0 } ∧
      Grammar name { sink := [], latencyMs := 500 } ∧
      ¬ Grammar name (parseDeviceSpec ulongMax name) := by
  intro name ulongMax
  have remainder : Remainder name ('@' :: List.replicate 20 '9') :=
    ⟨⟨pulse, by simp, rfl⟩, by simp⟩
  have suffix :
      LatencySuffix ('@' :: List.replicate 20 '9') [] 99999999999999999999 :=
    ⟨List.replicate 20 '9', List.replicate 20 '9', rfl, by simp,
      isTrim_iff.2 (by decide +kernel), by simp, by simp, by decide +kernel⟩
  refine ⟨by decide +kernel, ?_, ?_⟩
  · exact Grammar.latency remainder suffix (NamesSink.none (by simp))
  · exact not_grammar_of_outOfRange ⟨_, _, _, remainder, suffix, by decide⟩

end AudioRouter.PulsePlayer
