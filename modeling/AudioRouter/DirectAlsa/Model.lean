import AudioRouter.AudioTypes
import Mathlib.Logic.Function.Basic

/-!
# Opening a kernel PCM node

`DirectAlsaPlayer::open` (`client/direct_alsa.cpp`), Linux branch, where `unsigned long`
has 64 bits.  The kernel is what it answers to each call; the loop that computes the
boundary of the software parameters has fuel.  The capability probe after a failure only
logs and is left out.
-/

namespace AudioRouter

namespace DirectAlsa

/-- The masks of `snd_pcm_hw_params`. -/
inductive MaskParam where
  | access
  | format
  | subformat
  deriving DecidableEq, Repr

/-- Its intervals. -/
inductive IntervalParam where
  | sampleBits
  | frameBits
  | channels
  | rate
  | periodTime
  | periodSize
  | periodBytes
  | periods
  | bufferTime
  | bufferSize
  | bufferBytes
  | tickTime
  deriving DecidableEq, Repr

/-- `snd_interval`. -/
structure Interval where
  min : BitVec 32 := 0
  max : BitVec 32 := 0
  openmin : Bool := false
  openmax : Bool := false
  integer : Bool := false
  empty : Bool := false
  deriving DecidableEq, Repr

/-- `snd_pcm_hw_params`; the members that stay zero are left out. -/
structure HwParams where
  masks : MaskParam → BitVec 256
  intervals : IntervalParam → Interval

/-- `init_any_params`. -/
def initAnyParams : HwParams :=
  { masks := fun _ => BitVec.allOnes 256
    intervals := fun _ => { min := 0, max := BitVec.allOnes 32 } }

namespace HwParams

/-- `set_param_value` of a mask. -/
def setMask (params : HwParams) (param : MaskParam) (value : Nat) : HwParams :=
  { params with
    masks := Function.update params.masks param (BitVec.twoPow 256 value) }

def setRange (params : HwParams) (param : IntervalParam) (min max : BitVec 32) : HwParams :=
  { params with
    intervals :=
      Function.update params.intervals param
        { params.intervals param with min := min, max := max } }

/-- `set_param_value` of an interval. -/
def setValue (params : HwParams) (param : IntervalParam) (value : BitVec 32) : HwParams :=
  params.setRange param value value

end HwParams

def sndrvPcmAccessRwInterleaved : Nat := 3

def sndrvPcmFormatS16Le : Nat := 2

/-- The parameters that the stream fixes. -/
def streamParams (config : AudioConfig) : HwParams :=
  (((initAnyParams.setMask .access sndrvPcmAccessRwInterleaved).setMask .format
    sndrvPcmFormatS16Le).setValue .channels (BitVec.ofNat 32 config.channels)).setValue .rate
      (BitVec.ofNat 32 config.sampleRate)

def periodReq (config : AudioConfig) : BitVec 32 :=
  if config.framesPerPacket > 0 then BitVec.ofNat 32 config.framesPerPacket else 240

/-- The first request, with a period and a buffer of four of them. -/
def constrainedParams (config : AudioConfig) : HwParams :=
  let period := periodReq config
  let buffer := period * 4
  ((streamParams config).setRange .periodSize period (period * 2)).setRange .bufferSize buffer
    (buffer * 4)

/-! ## The boundary -/

/-- `ULONG_MAX`. -/
def ulongMax : BitVec 64 := BitVec.allOnes 64

/-- The buffer that the software parameters are computed from. -/
def bufferOrDefault (bufferSizeFrames : BitVec 64) : BitVec 64 :=
  if bufferSizeFrames > 0 then bufferSizeFrames else 4096

/-- The condition of the loop over `boundary`. -/
def Doubles (buffer boundary : BitVec 64) : Prop :=
  boundary * 2 ≤ ulongMax - buffer

instance (buffer boundary : BitVec 64) : Decidable (Doubles buffer boundary) :=
  inferInstanceAs (Decidable (_ ≤ _))

/-- The loop with fuel. -/
def boundaryLoop (buffer : BitVec 64) : Nat → BitVec 64 → Option (BitVec 64)
  | 0, _ => none
  | fuel + 1, boundary =>
      if Doubles buffer boundary then boundaryLoop buffer fuel (boundary * 2) else some boundary

/-- What `snd_pcm_sw_params` is filled with. -/
structure SwParams where
  periodStep : Nat := 1
  availMin : BitVec 64
  startThreshold : BitVec 64
  stopThreshold : BitVec 64
  boundary : BitVec 64
  deriving DecidableEq, Repr

def swParamsOf (fuel : Nat) (periodSizeFrames bufferSizeFrames : BitVec 64) :
    Option SwParams :=
  let period := if periodSizeFrames > 0 then periodSizeFrames else 240
  let buffer := bufferOrDefault bufferSizeFrames
  (boundaryLoop buffer fuel buffer).map fun boundary =>
    { availMin := period
      startThreshold := period
      stopThreshold := buffer
      boundary := boundary }

/-! ## The kernel -/

/-- What the kernel answers on one node; an error comes with its `strerror`. -/
structure Node where
  open' : Except String Unit := .ok ()
  /-- `SNDRV_PCM_IOCTL_HW_PARAMS`, the first and the second time. -/
  hwParams : HwParams → Except String HwParams
  hwParamsAgain : HwParams → Except String HwParams
  prepare : SwParams → Except String Unit := fun _ => .ok ()

end DirectAlsa

open DirectAlsa

/-- The members of `DirectAlsaPlayer` that `open` writes; the descriptor is the path of
the node it is open on. -/
structure DirectAlsaPlayer where
  fd : Option String := none
  config : AudioConfig := {}
  devicePath : String := ""
  periodSizeFrames : BitVec 64 := 240
  bufferSizeFrames : BitVec 64 := 960
  stagingBuffer : List UInt16 := []
  isOpen : Bool := false

namespace DirectAlsaPlayer

/-- `close`. -/
def close (p : DirectAlsaPlayer) : DirectAlsaPlayer :=
  { p with isOpen := false, fd := none, stagingBuffer := [] }

/-- The two requests for hardware parameters, and the error of the second one. -/
def negotiate (p : DirectAlsaPlayer) (node : Node) : Except String HwParams :=
  match node.hwParams (constrainedParams p.config) with
  | .ok chosen => .ok chosen
  | .error _ =>
      match node.hwParamsAgain (streamParams p.config) with
      | .ok chosen => .ok chosen
      | .error errno => .error ("hw_params (relaxed): " ++ errno)

/-- `try_open_candidate`: the result and the error, or `none` where the fuel does not
bring it to its end. -/
def tryOpenCandidate (fuel : Nat) (kernel : String → Node) (p : DirectAlsaPlayer)
    (candidate : String) : Option (Except String Unit × DirectAlsaPlayer) :=
  let node := kernel candidate
  match node.open' with
  | .error errno => some (.error ("open: " ++ errno), p)
  | .ok () =>
      match p.negotiate node with
      | .error lastError => some (.error lastError, p)
      | .ok chosen =>
          let p :=
            { p with
              periodSizeFrames := (chosen.intervals .periodSize).min.setWidth 64
              bufferSizeFrames := (chosen.intervals .bufferSize).min.setWidth 64 }
          (swParamsOf fuel p.periodSizeFrames p.bufferSizeFrames).map fun swParams =>
            -- SNDRV_PCM_IOCTL_SW_PARAMS may fail
            match node.prepare swParams with
            | .error errno => (.error ("prepare: " ++ errno), p)
            | .ok () => (.ok (), { p with fd := some candidate, devicePath := candidate })

def defaultDevice : String := "/dev/snd/pcmC0D0p"

/-- `enumerate_kernel_pcm_devices`, from the names in `/dev/snd`. -/
def enumerateKernelPcmDevices (entries : List String) : List String :=
  let playback := entries.filter fun name => "pcmC".isPrefixOf name && name.endsWith "p"
  (playback.map fun name => "/dev/snd/" ++ name).mergeSort fun a b => decide (a ≤ b)

/-- A device is added unless it is there already. -/
def addCandidate (candidates : List String) (dev : String) : List String :=
  if dev ∈ candidates then candidates else candidates ++ [dev]

/-- The list of candidates of `open`. -/
def candidates (deviceName : String) (entries : List String) : List String :=
  let primary := if deviceName.isEmpty then defaultDevice else deviceName
  let first := if primary ≠ defaultDevice then [primary, defaultDevice] else [primary]
  (enumerateKernelPcmDevices entries).foldl addCandidate first

/-- The loop of `open` over the candidates. -/
def tryCandidates (fuel : Nat) (kernel : String → Node) (p : DirectAlsaPlayer) :
    List String → Option (Bool × DirectAlsaPlayer)
  | [] => some (false, p)
  | candidate :: rest =>
      match p.tryOpenCandidate fuel kernel candidate with
      | none => none
      | some (.ok (), p) => some (true, p)
      | some (.error _, p) => tryCandidates fuel kernel p rest

/-- What `open` and `open_candidate_only` do first. -/
def beginOpen (p : DirectAlsaPlayer) (config : AudioConfig) (devicePath : String) :
    DirectAlsaPlayer :=
  { (if p.isOpen then p.close else p) with
    config := config
    devicePath := devicePath
    stagingBuffer := [] }

/-- `open`. -/
def openDevice (fuel : Nat) (kernel : String → Node) (entries : List String)
    (p : DirectAlsaPlayer) (config : AudioConfig) (deviceName : String) :
    Option (Bool × DirectAlsaPlayer) :=
  let p := p.beginOpen config (if deviceName.isEmpty then defaultDevice else deviceName)
  (p.tryCandidates fuel kernel (candidates deviceName entries)).map fun
    | (success, p) => (success, if success then { p with isOpen := true } else p)

/-- `open_candidate_only`. -/
def openCandidateOnly (fuel : Nat) (kernel : String → Node) (p : DirectAlsaPlayer)
    (config : AudioConfig) (candidate : String) : Option (Bool × DirectAlsaPlayer) :=
  if candidate.isEmpty then some (false, p)
  else
    ((p.beginOpen config candidate).tryOpenCandidate fuel kernel candidate).map fun
      | (.ok (), p) => (true, { p with isOpen := true })
      | (.error _, p) => (false, p)

end DirectAlsaPlayer

end AudioRouter
