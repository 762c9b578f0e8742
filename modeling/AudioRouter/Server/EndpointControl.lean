import AudioRouter.Lib.Transition

/-!
# The speaker of the PC

`AudioEndpointControl` (`server/audio_endpoint_control.cpp`), Windows branch, with
device calls that succeed.  The mute flag and the volume of the device are saved by
the first `mute_pc_speaker`; a restore writes back what the method of the last one
asks for.
-/

namespace AudioRouter

open Transition

inductive MuteMethod where
  | endpointMute
  | volumeZero
  | both
  deriving DecidableEq, Repr

namespace MuteMethod

def mutes : MuteMethod → Bool
  | .endpointMute | .both => true
  | .volumeZero => false

def zeroesVolume : MuteMethod → Bool
  | .volumeZero | .both => true
  | .endpointMute => false

end MuteMethod

/-- The default render endpoint; `V` is the type of its volume. -/
structure RenderEndpoint (V : Type) where
  muted : Bool
  volume : V
  deriving DecidableEq, Repr

/-- The members of `AudioEndpointControl`, and the device. -/
structure AudioEndpointControl (V : Type) where
  device : RenderEndpoint V
  /-- Whether `endpoint_volume` points to the device. -/
  hasEndpoint : Bool
  isSilencedByUs : Bool := false
  prevMuteState : Bool := false
  prevVolumeLevel : V
  activeMuteMethod : MuteMethod := .endpointMute
  deriving DecidableEq, Repr

namespace AudioEndpointControl

variable {V : Type}

/-- `std::clamp`. -/
def clamp [LT V] [DecidableLT V] (value low high : V) : V :=
  if value < low then low else if high < value then high else value

def writeMute (c : AudioEndpointControl V) (mute : Bool) : AudioEndpointControl V :=
  { c with device := { c.device with muted := mute } }

def writeVolume (c : AudioEndpointControl V) (volume : V) : AudioEndpointControl V :=
  { c with device := { c.device with volume := volume } }

/-- The state that the first silencing call remembers. -/
def savePrevious (c : AudioEndpointControl V) : AudioEndpointControl V :=
  if c.isSilencedByUs then c
  else
    { c with
      prevMuteState := c.device.muted
      prevVolumeLevel := c.device.volume }

/-- `mute_pc_speaker`.  Without an endpoint it calls `init` under the mutex that
`init` locks, and does not return. -/
def mutePcSpeaker [Zero V] (c : AudioEndpointControl V) (method : MuteMethod) :
    Option (Bool × AudioEndpointControl V) :=
  let c := { c with activeMuteMethod := method }
  if c.hasEndpoint then
    let c := c.savePrevious
    let c := if method.mutes then c.writeMute true else c
    let c := if method.zeroesVolume then c.writeVolume 0 else c
    some (true, { c with isSilencedByUs := true })
  else none

/-- The writes by which `unmute_pc_speaker` and `shutdown` restore. -/
def writePrevious (c : AudioEndpointControl V) : AudioEndpointControl V :=
  let c := if c.activeMuteMethod.mutes then c.writeMute c.prevMuteState else c
  if c.activeMuteMethod.zeroesVolume then c.writeVolume c.prevVolumeLevel else c

/-- `unmute_pc_speaker`. -/
def unmutePcSpeaker (c : AudioEndpointControl V) : Bool × AudioEndpointControl V :=
  if !c.isSilencedByUs then (true, c)
  else if !c.hasEndpoint then (false, c)
  else (true, { c.writePrevious with isSilencedByUs := false })

/-- `shutdown`. -/
def shutdown (c : AudioEndpointControl V) : AudioEndpointControl V :=
  let c :=
    if c.isSilencedByUs then
      { (if c.hasEndpoint then c.writePrevious else c) with isSilencedByUs := false }
    else c
  { c with hasEndpoint := false }

/-- `set_mute`. -/
def setMute (c : AudioEndpointControl V) (mute : Bool) :
    Bool × AudioEndpointControl V :=
  if c.hasEndpoint then (true, c.writeMute mute) else (false, c)

/-- `set_volume`. -/
def setVolume [LT V] [DecidableLT V] [Zero V] [One V] (c : AudioEndpointControl V)
    (volume : V) : Bool × AudioEndpointControl V :=
  if c.hasEndpoint then (true, c.writeVolume (clamp volume 0 1)) else (false, c)

/-! ## Calls -/

inductive Call (V : Type) where
  | mutePcSpeaker (method : MuteMethod)
  | setMute (mute : Bool)
  | setVolume (volume : V)
  deriving DecidableEq, Repr

variable [LT V] [DecidableLT V] [Zero V] [One V]

def call (c : AudioEndpointControl V) : Call V → Option (AudioEndpointControl V)
  | .mutePcSpeaker method => (c.mutePcSpeaker method).map Prod.snd
  | .setMute mute => some (c.setMute mute).2
  | .setVolume volume => some (c.setVolume volume).2

namespace Call

/-- The method a call silences by. -/
def method? : Call V → Option MuteMethod
  | .mutePcSpeaker method => some method
  | _ => none

/-- What a call sets the mute flag to. -/
def mute? : Call V → Option Bool
  | .mutePcSpeaker method => if method.mutes then some true else none
  | .setMute mute => some mute
  | .setVolume _ => none

/-- What a call sets the volume to. -/
def volume? : Call V → Option V
  | .mutePcSpeaker method => if method.zeroesVolume then some 0 else none
  | .setMute _ => none
  | .setVolume volume => some (clamp volume 0 1)

end Call

/-- What the last call that sets something sets it to. -/
def lastSet {A : Type} (set? : Call V → Option A) (before : A) (calls : List (Call V)) :
    A :=
  (calls.filterMap set?).getLastD before

omit [LT V] [DecidableLT V] [Zero V] [One V] in
theorem lastSet_cons {A : Type} (set? : Call V → Option A) (before : A) (first : Call V)
    (rest : List (Call V)) :
    lastSet set? before (first :: rest) =
      lastSet set? ((set? first).getD before) rest := by
  unfold lastSet
  cases sets : set? first with
  | none => rw [List.filterMap_cons_none sets, Option.getD_none]
  | some value => rw [List.filterMap_cons_some sets, List.getLastD_cons, Option.getD_some]

/-- The mute flag and the volume that a run of calls finds are each written back by
the method of the last silencing call, or are what the last call that sets them sets
them to. -/
def Restorable (device : RenderEndpoint V) (calls : List (Call V)) : Prop :=
  ((lastSet Call.method? .endpointMute calls).mutes = true ∨
      lastSet Call.mute? device.muted calls = device.muted) ∧
    ((lastSet Call.method? .endpointMute calls).zeroesVolume = true ∨
      lastSet Call.volume? device.volume calls = device.volume)

instance [DecidableEq V] (device : RenderEndpoint V) (calls : List (Call V)) :
    Decidable (Restorable device calls) :=
  inferInstanceAs (Decidable (_ ∧ _))

/-! ## What a call does -/

/-- The speaker is silenced, and the state before is saved. -/
structure Silenced (c : AudioEndpointControl V) (saved : RenderEndpoint V) : Prop where
  hasEndpoint : c.hasEndpoint = true
  isSilencedByUs : c.isSilencedByUs = true
  prevMuteState : c.prevMuteState = saved.muted
  prevVolumeLevel : c.prevVolumeLevel = saved.volume

/-- The method and the device after a call. -/
structure Sets (c : AudioEndpointControl V) (first : Call V)
    (t : AudioEndpointControl V) : Prop where
  method : t.activeMuteMethod = first.method?.getD c.activeMuteMethod
  muted : t.device.muted = first.mute?.getD c.device.muted
  volume : t.device.volume = first.volume?.getD c.device.volume

section

variable {c : AudioEndpointControl V} {saved : RenderEndpoint V}

omit [LT V] [DecidableLT V] [One V] in
/-- What `mute_pc_speaker` does where an endpoint is open. -/
theorem mutePcSpeaker_eq (ready : c.hasEndpoint = true) (method : MuteMethod) :
    c.mutePcSpeaker method =
      some (true,
        { c.savePrevious with
          activeMuteMethod := method
          isSilencedByUs := true
          device :=
            { muted := if method.mutes then true else c.device.muted
              volume := if method.zeroesVolume then 0 else c.device.volume } }) := by
  obtain ⟨device, hasEndpoint, isSilencedByUs, prevMute, prevVolume, active⟩ := c
  obtain rfl : hasEndpoint = true := ready
  cases isSilencedByUs <;> cases method <;> rfl

theorem call_first (ready : c.hasEndpoint = true) (free : c.isSilencedByUs = false)
    (method : MuteMethod) :
    ∃ t, c.call (.mutePcSpeaker method) = some t ∧ t.Silenced c.device ∧
      c.Sets (.mutePcSpeaker method) t := by
  refine ⟨_, by rw [call, mutePcSpeaker_eq ready]; rfl, ?_, ?_⟩
  · constructor <;> simp [savePrevious, free, ready]
  · constructor
    · rfl
    · cases method <;> rfl
    · cases method <;> rfl

/-- The saved state outlives a call. -/
theorem Silenced.call (silenced : c.Silenced saved) (first : Call V) :
    ∃ t, c.call first = some t ∧ t.Silenced saved ∧ c.Sets first t := by
  cases first with
  | mutePcSpeaker method =>
    refine
      ⟨_, by rw [AudioEndpointControl.call, mutePcSpeaker_eq silenced.hasEndpoint]; rfl,
        ?_, ?_⟩
    · constructor <;>
        simp [savePrevious, silenced.isSilencedByUs, silenced.hasEndpoint,
          silenced.prevMuteState, silenced.prevVolumeLevel]
    · constructor
      · rfl
      · cases method <;> rfl
      · cases method <;> rfl
  | setMute mute =>
    refine ⟨_, rfl, ?_, ?_⟩
    · rw [setMute, if_pos silenced.hasEndpoint]
      exact ⟨silenced.1, silenced.2, silenced.3, silenced.4⟩
    · rw [setMute, if_pos silenced.hasEndpoint]
      exact ⟨rfl, rfl, rfl⟩
  | setVolume volume =>
    refine ⟨_, rfl, ?_, ?_⟩
    · rw [setVolume, if_pos silenced.hasEndpoint]
      exact ⟨silenced.1, silenced.2, silenced.3, silenced.4⟩
    · rw [setVolume, if_pos silenced.hasEndpoint]
      exact ⟨rfl, rfl, rfl⟩

/-- A run of calls ends with the saved state, and with what its last calls set. -/
theorem Silenced.run (calls : List (Call V)) {c : AudioEndpointControl V}
    (silenced : c.Silenced saved) :
    ∃ t, Transition.run AudioEndpointControl.call c calls = some t ∧ t.Silenced saved ∧
      t.activeMuteMethod = lastSet Call.method? c.activeMuteMethod calls ∧
        t.device.muted = lastSet Call.mute? c.device.muted calls ∧
          t.device.volume = lastSet Call.volume? c.device.volume calls := by
  induction calls generalizing c with
  | nil => exact ⟨c, rfl, silenced, rfl, rfl, rfl⟩
  | cons first rest inductionHypothesis =>
    obtain ⟨u, called, still, sets⟩ := silenced.call first
    obtain ⟨t, reached, kept, method, muted, volume⟩ := inductionHypothesis still
    refine ⟨t, run_cons_eq_some.2 ⟨u, called, reached⟩, kept, ?_, ?_, ?_⟩
    · rw [method, sets.method, lastSet_cons]
    · rw [muted, sets.muted, lastSet_cons]
    · rw [volume, sets.volume, lastSet_cons]

omit [LT V] [DecidableLT V] [Zero V] [One V] in
/-- A restore gives the device back if and only if each part is written back by the
method or has its old value. -/
theorem Silenced.writePrevious_iff (silenced : c.Silenced saved) :
    c.writePrevious.device = saved ↔
      (c.activeMuteMethod.mutes = true ∨ c.device.muted = saved.muted) ∧
        (c.activeMuteMethod.zeroesVolume = true ∨ c.device.volume = saved.volume) := by
  obtain ⟨muted, volume⟩ := saved
  obtain ⟨⟨mutedNow, volumeNow⟩, ready, byUs, prevMute, prevVolume, method⟩ := c
  obtain ⟨_, _, sameMute, sameVolume⟩ := silenced
  dsimp only at sameMute sameVolume
  subst sameMute sameVolume
  cases method <;>
    simp [writePrevious, writeMute, writeVolume, MuteMethod.mutes, MuteMethod.zeroesVolume]

omit [LT V] [DecidableLT V] [Zero V] [One V] in
/-- `unmute_pc_speaker` and `shutdown` restore in the same way. -/
theorem Silenced.restores (silenced : c.Silenced saved) :
    c.unmutePcSpeaker.2.device = c.writePrevious.device ∧
      c.shutdown.device = c.writePrevious.device := by
  simp [unmutePcSpeaker, shutdown, silenced.isSilencedByUs, silenced.hasEndpoint]

end

/-- After calls that begin with a `mute_pc_speaker`, a following `unmute_pc_speaker`
and a following `shutdown` leave the device as it was: exactly when the mute flag and
the volume are each written back by the method of the last `mute_pc_speaker`, or set
by the last call that sets them to what they were. -/
theorem restores_iff (c : AudioEndpointControl V) (ready : c.hasEndpoint = true)
    (free : c.isSilencedByUs = false) (method : MuteMethod) (rest : List (Call V)) :
    ∃ t, run call c (.mutePcSpeaker method :: rest) = some t ∧
      (t.unmutePcSpeaker.2.device = c.device ∧ t.shutdown.device = c.device ↔
        Restorable c.device (.mutePcSpeaker method :: rest)) := by
  obtain ⟨u, called, silenced, sets⟩ := call_first ready free method
  obtain ⟨t, reached, kept, lastMethod, lastMuted, lastVolume⟩ := silenced.run rest
  refine ⟨t, run_cons_eq_some.2 ⟨u, called, reached⟩, ?_⟩
  rw [kept.restores.1, kept.restores.2, and_self, kept.writePrevious_iff, lastMethod,
    lastMuted, lastVolume, sets.method, sets.muted, sets.volume, Restorable,
    lastSet_cons, lastSet_cons, lastSet_cons]
  rfl

/-- With the method `Both` every session is restored, whatever the commands. -/
theorem restorable_of_both (device : RenderEndpoint V) (rest : List (Call V))
    (both : ∀ method ∈ rest.filterMap Call.method?, method = .both) :
    Restorable device (.mutePcSpeaker .both :: rest) := by
  have last : lastSet Call.method? .endpointMute (.mutePcSpeaker .both :: rest) = .both := by
    rw [lastSet_cons, lastSet]
    rcases List.mem_cons.1 List.getLastD_mem_cons with same | later
    · exact same
    · exact both _ later
  rw [Restorable, last]
  exact ⟨.inl rfl, .inl rfl⟩

/-- A volume in percent. -/
structure Percent where
  value : Nat
  deriving DecidableEq, Repr

instance : Zero Percent := ⟨⟨0⟩⟩

instance : One Percent := ⟨⟨100⟩⟩

instance : LT Percent := ⟨fun low high => low.value < high.value⟩

instance : DecidableLT Percent := fun low high =>
  inferInstanceAs (Decidable (low.value < high.value))

/-- A PC at 80 percent, not muted. -/
def pc : AudioEndpointControl Percent :=
  { device := { muted := false, volume := ⟨80⟩ }
    hasEndpoint := true
    prevVolumeLevel := 1 }

/-- A session in which the phone sets the volume. -/
def volumeCommand (method : MuteMethod) : List (Call Percent) :=
  [.mutePcSpeaker method, .setVolume ⟨30⟩]

theorem volume_restored_by_both :
    ∃ t, run call pc (volumeCommand .both) = some t ∧
      t.unmutePcSpeaker.2.device = pc.device ∧ t.shutdown.device = pc.device := by
  obtain ⟨t, reached, restored⟩ := restores_iff pc rfl rfl .both [.setVolume ⟨30⟩]
  exact ⟨t, reached, restored.2 (by decide +kernel)⟩

/-- After a session that mutes the endpoint the volume command stays. -/
theorem volume_command_stays :
    ¬ ∀ (c : AudioEndpointControl Percent) (method : MuteMethod)
        (rest : List (Call Percent)),
        c.hasEndpoint = true → c.isSilencedByUs = false →
          ∀ t, run call c (.mutePcSpeaker method :: rest) = some t →
            t.unmutePcSpeaker.2.device = c.device ∧ t.shutdown.device = c.device := by
  intro claim
  have restored := claim pc .endpointMute [.setVolume ⟨30⟩] rfl rfl
  have reached :
      run call pc (volumeCommand .endpointMute) =
        some ((run call pc (volumeCommand .endpointMute)).getD pc) :=
    run_eq_some_getD (by decide +kernel)
  exact absurd (restored _ reached).1 (by decide +kernel)

end AudioEndpointControl

end AudioRouter
