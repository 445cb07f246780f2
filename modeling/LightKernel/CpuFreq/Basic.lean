import LightKernel.Driver.InitGate
import Mathlib.Data.List.Basic

/-!
# CPU frequency management

`cpufreq.rs`: module-wide `INITIALIZED` and `LAST_FREQ_CHANGE` in front of a frequency driver (`CpuFreqImpl`, not
in the source). The driver is a collaborator: each call sees its answers (`FreqDriver`), and the module's state is
the two globals and the list of the changes the driver accepted (`FreqCommand`). Times are the microsecond clock's.

`set_frequency` passes the rate limit (`rateLimit`), then the safe range, the availability and the thermal gate
(`validateFrequency`), and only then calls the driver and stores its clock sample.
-/

namespace LightKernel.CpuFreq

/-- Modelled from the spec: `CpuFreqImplError`, the kinds the module raises and a driver's own failures. -/
inductive CpuFreqImplError
  | notInitialized
  | rateLimited
  | invalidFrequency
  | unsupportedFrequency
  | thermalThrottled
  | noFrequenciesAvailable
  | invalidParameter
  | driver (code : Nat)
  deriving DecidableEq, Repr

/-- `MIN_SAFE_FREQUENCY`. -/
def minSafeFrequency : UInt64 := 400000000

/-- `MAX_SAFE_FREQUENCY`. -/
def maxSafeFrequency : UInt64 := 5000000000

/-- `FREQ_CHANGE_MIN_INTERVAL_US`. -/
def freqChangeMinIntervalUs : UInt64 := 10000

/-- `THERMAL_THROTTLE_TEMP`. -/
def thermalThrottleTemp : UInt64 := 85

/-- `THERMAL_CRITICAL_TEMP`. -/
def thermalCriticalTemp : UInt64 := 95

/-- `Governor`. -/
inductive Governor
  | performance
  | powersave
  | ondemand
  | conservative
  | userspace
  deriving DecidableEq, Repr

/-- `ThermalInfo`, through the temperature that `set_frequency` reads. -/
structure ThermalInfo where
  temperature : UInt64
  deriving DecidableEq, Repr

/-- The answers of the frequency driver at one call. -/
structure FreqDriver where
  currentFrequency : Except CpuFreqImplError UInt64
  availableFrequencies : Except CpuFreqImplError (List UInt64)
  thermalInfo : Except CpuFreqImplError ThermalInfo
  defaultFrequency : Except CpuFreqImplError UInt64
  setFrequency : UInt64 → Except CpuFreqImplError Unit
  setGovernor : Governor → Except CpuFreqImplError Unit
  shutdown : Except CpuFreqImplError Unit

/-- What the driver accepted from the module: a driver installed, a frequency set at a time, a governor, a
shutdown. -/
inductive FreqCommand
  | setImpl
  | setFrequency (frequency time : UInt64)
  | setGovernor (governor : Governor)
  | shutdown
  deriving DecidableEq, Repr

/-- The module's state: `INITIALIZED`, `LAST_FREQ_CHANGE`, and the driver's accepted commands. -/
structure CpuFreqState where
  initialized : Bool
  lastFreqChange : UInt64
  commands : List FreqCommand
  deriving DecidableEq, Repr

/-- A call's result and the state it leaves. -/
abbrev FreqResult (α : Type) := Except CpuFreqImplError α × CpuFreqState

namespace CpuFreqState

/-- Log an accepted command. -/
def issue (s : CpuFreqState) (c : FreqCommand) : CpuFreqState := { s with commands := s.commands ++ [c] }

/-- The module before `init`. -/
def initial : CpuFreqState := ⟨false, 0, []⟩

/-- The times of the frequency changes the driver accepted. -/
def changeTimes (s : CpuFreqState) : List UInt64 :=
  s.commands.filterMap fun | .setFrequency _ t => some t | _ => none

/-- `ensure_initialized`. -/
def ensureInitialized (s : CpuFreqState) : Except CpuFreqImplError Unit :=
  if s.initialized then .ok () else .error .notInitialized

/-- The module's `INITIALIZED`, `CpuFreq::set_impl` and the store of the flag. -/
def hooks : Driver.InitHooks CpuFreqState :=
  ⟨fun s => s.initialized, fun s => s.issue .setImpl, fun s => { s with initialized := true }⟩

/-- `init_with_config`, with the outcome of `CpuFreqImpl::new`; what it logs afterwards only reads. -/
def initWithConfig (created : Except CpuFreqImplError Unit) (s : CpuFreqState) : FreqResult Unit :=
  Driver.initOnce hooks created s

/-- `get_current_frequency`. -/
def getCurrentFrequency (d : FreqDriver) (s : CpuFreqState) : Except CpuFreqImplError UInt64 := do
  s.ensureInitialized
  d.currentFrequency

/-- `get_available_frequencies`. -/
def getAvailableFrequencies (d : FreqDriver) (s : CpuFreqState) : Except CpuFreqImplError (List UInt64) := do
  s.ensureInitialized
  d.availableFrequencies

/-- `get_thermal_info`. -/
def getThermalInfo (d : FreqDriver) (s : CpuFreqState) : Except CpuFreqImplError ThermalInfo := do
  s.ensureInitialized
  d.thermalInfo

/-- The rate limit of `set_frequency` with the clock sample `now` and the loaded `LAST_FREQ_CHANGE`. -/
def rateLimit (now last : UInt64) : Except CpuFreqImplError Unit :=
  if now - last < freqChangeMinIntervalUs then .error .rateLimited else .ok ()

/-- The thermal gate of `set_frequency`: an unreadable temperature lets the request through; above the critical
temperature every request is refused; above the throttle temperature an increase of more than a tenth is. -/
def thermalGate (d : FreqDriver) (s : CpuFreqState) (frequency : UInt64) : Except CpuFreqImplError Unit :=
  match s.getThermalInfo d with
  | .error _ => .ok ()
  | .ok info =>
    if info.temperature > thermalCriticalTemp then .error .thermalThrottled
    else if info.temperature > thermalThrottleTemp then do
      let currentFreq ← s.getCurrentFrequency d
      if frequency > currentFreq then
        let maxAllowed := currentFreq + currentFreq / 10
        if frequency > maxAllowed then throw .thermalThrottled
    else .ok ()

/-- The checks of `set_frequency` after the rate limit: the safe range, the availability and the thermal gate. -/
def validateFrequency (d : FreqDriver) (s : CpuFreqState) (frequency : UInt64) : Except CpuFreqImplError Unit := do
  if frequency < minSafeFrequency || frequency > maxSafeFrequency then throw .invalidFrequency
  let available ← s.getAvailableFrequencies d
  if !available.contains frequency then throw .unsupportedFrequency
  s.thermalGate d frequency

/-- The driver's `set_frequency`, and on success the store of `LAST_FREQ_CHANGE`. -/
def changeFrequency (d : FreqDriver) (now frequency : UInt64) (s : CpuFreqState) : FreqResult Unit :=
  match d.setFrequency frequency with
  | .error e => (.error e, s)
  | .ok () => (.ok (), { s.issue (.setFrequency frequency now) with lastFreqChange := now })

/-- `set_frequency` at the clock's time `now`. -/
def setFrequency (d : FreqDriver) (now frequency : UInt64) (s : CpuFreqState) : FreqResult Unit :=
  match (do s.ensureInitialized; rateLimit now s.lastFreqChange; s.validateFrequency d frequency) with
  | .error e => (.error e, s)
  | .ok () => s.changeFrequency d now frequency

/-- `restore_default_frequency`. -/
def restoreDefaultFrequency (d : FreqDriver) (now : UInt64) (s : CpuFreqState) : FreqResult Unit :=
  match (do s.ensureInitialized; d.defaultFrequency : Except CpuFreqImplError UInt64) with
  | .error e => (.error e, s)
  | .ok f => s.setFrequency d now f

/-- `set_governor`. -/
def setGovernor (d : FreqDriver) (governor : Governor) (s : CpuFreqState) : FreqResult Unit :=
  match (do s.ensureInitialized; d.setGovernor governor) with
  | .error e => (.error e, s)
  | .ok () => (.ok (), s.issue (.setGovernor governor))

/-- `shutdown`: restore the default frequency and the conservative governor (their failures only logged), then
shut the driver down. -/
def shutdown (d : FreqDriver) (now : UInt64) (s : CpuFreqState) : FreqResult Unit :=
  if !s.initialized then (.ok (), s)
  else
    let s := (s.restoreDefaultFrequency d now).2
    let s := (s.setGovernor d .conservative).2
    match d.shutdown with
    | .error e => (.error e, s)
    | .ok () => (.ok (), { s.issue .shutdown with initialized := false })

/-- `get_min_frequency`. -/
def getMinFrequency (d : FreqDriver) (s : CpuFreqState) : Except CpuFreqImplError UInt64 := do
  let frequencies ← s.getAvailableFrequencies d
  match frequencies.min? with
  | some f => pure f
  | none => throw .noFrequenciesAvailable

/-- `get_max_frequency`. -/
def getMaxFrequency (d : FreqDriver) (s : CpuFreqState) : Except CpuFreqImplError UInt64 := do
  let frequencies ← s.getAvailableFrequencies d
  match frequencies.max? with
  | some f => pure f
  | none => throw .noFrequenciesAvailable

/-- A mode setter: `set_governor`, then a frequency step that runs only after it succeeded. -/
def setMode (d : FreqDriver) (governor : Governor) (next : CpuFreqState → FreqResult Unit) (s : CpuFreqState) :
    FreqResult Unit :=
  match s.setGovernor d governor with
  | (.error e, s) => (.error e, s)
  | (.ok (), s) => next s

/-- A frequency step that first asks the driver for its target. -/
def setTarget (target : CpuFreqState → Except CpuFreqImplError UInt64) (d : FreqDriver) (now : UInt64)
    (s : CpuFreqState) : FreqResult Unit :=
  match target s with
  | .error e => (.error e, s)
  | .ok f => s.setFrequency d now f

/-- `set_performance_mode`. -/
def setPerformanceMode (d : FreqDriver) (now : UInt64) (s : CpuFreqState) : FreqResult Unit :=
  s.setMode d .performance (setTarget (getMaxFrequency d) d now)

/-- `set_powersave_mode`. -/
def setPowersaveMode (d : FreqDriver) (now : UInt64) (s : CpuFreqState) : FreqResult Unit :=
  s.setMode d .powersave (setTarget (getMinFrequency d) d now)

/-- `set_balanced_mode`. -/
def setBalancedMode (d : FreqDriver) (now : UInt64) (s : CpuFreqState) : FreqResult Unit :=
  s.setMode d .ondemand (restoreDefaultFrequency d now)

@[simp] theorem changeFrequency_initialized (d : FreqDriver) (now frequency : UInt64) (s : CpuFreqState) :
    (s.changeFrequency d now frequency).2.initialized = s.initialized := by
  unfold changeFrequency; split <;> rfl

end CpuFreqState

end LightKernel.CpuFreq
