import Mathlib.Order.Basic
import Mathlib.Order.Lattice
import Mathlib.Data.List.Basic

/-!
# PSI: the scheduler's pressure monitor

`psi.rs`. A pressure is an `f64` that is not NaN; on those `>=` and `max` are a linear order's, so pressures range
over any linearly ordered type `P`. Instants and durations are nanosecond counts, and `duration_since` saturates at
zero as the standard library's does. The pressure tracker is a collaborator: `updateMetrics` receives its three
readings.

`update_metrics` records a sample once the update interval has passed since the last one: it computes the severity
of the largest pressure, stores the readings, counts the event, and appends to the history, dropping the oldest
entry when the history is longer than `history_size`.
-/

namespace LightKernel.Psi

/-- `PSIThresholds`. -/
structure PSIThresholds (P : Type) where
  low : P
  medium : P
  high : P
  critical : P
  deriving DecidableEq, Repr

/-- `PSIThresholds::default`: 10, 30, 60 and 90 percent. -/
def PSIThresholds.default {P : Type} [NatCast P] : PSIThresholds P :=
  ⟨(10 : Nat), (30 : Nat), (60 : Nat), (90 : Nat)⟩

/-- `PSISeverity`. -/
inductive PSISeverity
  | none
  | low
  | medium
  | high
  | critical
  deriving DecidableEq, Repr

/-- `PSIConfig`. -/
structure PSIConfig (P : Type) where
  enabled : Bool
  updateInterval : Nat
  thresholds : PSIThresholds P
  historySize : Nat
  deriving DecidableEq, Repr

/-- `PSIConfig::default`: enabled, every 100 ms, 60 entries. -/
def PSIConfig.default {P : Type} [NatCast P] : PSIConfig P :=
  ⟨true, 100000000, .default, 60⟩

/-- `PSIHistoryEntry`. -/
structure PSIHistoryEntry (P : Type) where
  timestamp : Nat
  cpuPressure : P
  memoryPressure : P
  ioPressure : P
  severity : PSISeverity
  deriving DecidableEq, Repr

/-- `PSIMetrics`: the latest readings. -/
structure PSIMetrics (P : Type) where
  cpuPressure : P
  memoryPressure : P
  ioPressure : P
  deriving DecidableEq, Repr

/-- The keys of `pressure_events` that `record_pressure_events` counts. -/
inductive PressureType
  | critical
  | high
  | medium
  deriving DecidableEq, Repr

/-- `PSIScheduler`. -/
structure PSIScheduler (P : Type) where
  config : PSIConfig P
  metrics : PSIMetrics P
  history : List (PSIHistoryEntry P)
  lastUpdate : Nat
  pressureEvents : PressureType → UInt64

variable {P : Type}

/-- `SchedulingHint`. -/
inductive SchedulingHint
  | normal
  | preferLightTasks
  | limitNewTasks
  | reduceLoad
  deriving DecidableEq, Repr

namespace PSIScheduler

/-- `PSIScheduler::with_config`, created at `now`. -/
def withConfig [Zero P] (config : PSIConfig P) (now : Nat) : PSIScheduler P :=
  ⟨config, ⟨0, 0, 0⟩, [], now, fun _ => 0⟩

/-- `calculate_severity`. -/
def calculateSeverity [LinearOrder P] (s : PSIScheduler P) (pressure : P) : PSISeverity :=
  let t := s.config.thresholds
  if pressure ≥ t.critical then .critical
  else if pressure ≥ t.high then .high
  else if pressure ≥ t.medium then .medium
  else if pressure ≥ t.low then .low
  else .none

/-- `record_pressure_events`: medium and above are counted. -/
def recordPressureEvents (s : PSIScheduler P) (severity : PSISeverity) : PSIScheduler P :=
  let bump (k : PressureType) := { s with pressureEvents := Function.update s.pressureEvents k (s.pressureEvents k + 1) }
  match severity with
  | .critical => bump .critical
  | .high => bump .high
  | .medium => bump .medium
  | _ => s

/-- `add_history_entry`: push, and remove the first entry if the history is then longer than `history_size`. -/
def addHistoryEntry (s : PSIScheduler P) (entry : PSIHistoryEntry P) : PSIScheduler P :=
  let h := s.history ++ [entry]
  { s with history := if h.length > s.config.historySize then h.tail else h }

/-- `update_metrics` at `now`, with the tracker's readings. -/
def updateMetrics [LinearOrder P] (s : PSIScheduler P) (now : Nat) (cpu memory io : P) : PSIScheduler P :=
  if now - s.lastUpdate < s.config.updateInterval then s
  else
    let severity := s.calculateSeverity (max (max cpu memory) io)
    let s := { s with metrics := ⟨cpu, memory, io⟩ }
    let s := s.recordPressureEvents severity
    let s := s.addHistoryEntry ⟨now, cpu, memory, io, severity⟩
    { s with lastUpdate := now }

/-- `reset` at `now`. -/
def reset [Zero P] (s : PSIScheduler P) (now : Nat) : PSIScheduler P :=
  { s with metrics := ⟨0, 0, 0⟩, history := [], pressureEvents := fun _ => 0, lastUpdate := now }

/-- `update_config`. -/
def updateConfig (s : PSIScheduler P) (config : PSIConfig P) : PSIScheduler P := { s with config := config }

/-- `set_enabled`. -/
def setEnabled (s : PSIScheduler P) (enabled : Bool) : PSIScheduler P :=
  { s with config := { s.config with enabled := enabled } }

/-- `get_current_severity`: the last entry's, or none. -/
def getCurrentSeverity (s : PSIScheduler P) : PSISeverity :=
  (s.history.getLast?.map PSIHistoryEntry.severity).getD .none

/-- `get_scheduling_hint`. -/
def getSchedulingHint (s : PSIScheduler P) : SchedulingHint :=
  match s.getCurrentSeverity with
  | .critical => .reduceLoad
  | .high => .limitNewTasks
  | .medium => .preferLightTasks
  | .low | .none => .normal

/-- `is_under_pressure`: the current severity is Medium or above. -/
def isUnderPressure (s : PSIScheduler P) : Bool :=
  match s.getCurrentSeverity with
  | .medium | .high | .critical => true
  | _ => false

/-- `is_critical_pressure`. -/
def isCriticalPressure (s : PSIScheduler P) : Bool :=
  match s.getCurrentSeverity with
  | .critical => true
  | _ => false

/-- `get_average_pressure`: each pressure summed from zero over the last `entries` entries, oldest first, and divided
by their number; zeros when there are none. -/
def getAveragePressure [Zero P] [Add P] [Div P] [NatCast P] (s : PSIScheduler P) (entries : Nat) : P × P × P :=
  let count := min entries s.history.length
  if count = 0 then (0, 0, 0)
  else
    let recentEntries := s.history.drop (s.history.length - count)
    let (cpuSum, memSum, ioSum) := recentEntries.foldl
      (fun (cpuAcc, memAcc, ioAcc) entry =>
        (cpuAcc + entry.cpuPressure, memAcc + entry.memoryPressure, ioAcc + entry.ioPressure)) (0, 0, 0)
    (cpuSum / (count : P), memSum / (count : P), ioSum / (count : P))

@[simp] theorem recordPressureEvents_history (s : PSIScheduler P) (v : PSISeverity) :
    (s.recordPressureEvents v).history = s.history := by
  unfold recordPressureEvents; split <;> rfl

@[simp] theorem recordPressureEvents_config (s : PSIScheduler P) (v : PSISeverity) :
    (s.recordPressureEvents v).config = s.config := by
  unfold recordPressureEvents; split <;> rfl

@[simp] theorem addHistoryEntry_config (s : PSIScheduler P) (e : PSIHistoryEntry P) :
    (s.addHistoryEntry e).config = s.config := rfl

@[simp] theorem updateMetrics_config [LinearOrder P] (s : PSIScheduler P) (now : Nat) (cpu memory io : P) :
    (s.updateMetrics now cpu memory io).config = s.config := by
  unfold updateMetrics; split <;> simp

end PSIScheduler

/-- An operation on the monitor. -/
inductive PSIOp (P : Type)
  | updateMetrics (now : Nat) (cpu memory io : P)
  | updateConfig (config : PSIConfig P)
  | setEnabled (enabled : Bool)
  | reset (now : Nat)

namespace PSIScheduler

/-- One operation. -/
def step [LinearOrder P] [Zero P] (s : PSIScheduler P) : PSIOp P → PSIScheduler P
  | .updateMetrics now cpu memory io => s.updateMetrics now cpu memory io
  | .updateConfig config => s.updateConfig config
  | .setEnabled enabled => s.setEnabled enabled
  | .reset now => s.reset now

/-- A run of operations. -/
def run [LinearOrder P] [Zero P] (s : PSIScheduler P) (ops : List (PSIOp P)) : PSIScheduler P := ops.foldl step s

end PSIScheduler

end LightKernel.Psi
