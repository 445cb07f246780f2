import Mathlib.Logic.Function.Basic

/-!
# The core scheduler: data model

The types of `core_scheduler.rs`: the state machine of the scheduler (`SchedulerState`), the policies
(`SchedPolicy`), the statistics (`SchedulerStats`) with `reset`, the decision (`ScheduleResult`), the configuration
with its defaults, and the record `CoreScheduler` of what the core's operations read and write.

The task table, the error type and the per-class runqueues live outside the source. A task is seen through the
fields the core reads and writes (`TaskEntry`, and the snapshot `Task` a picker returns); `TaskState` and the
error kinds follow the spec; each class runqueue is a list of task ids that only its own class touches.
-/

namespace LightKernel.Core

/-- `SchedulerState`. -/
inductive SchedulerState
  | uninitialized
  | initializing
  | running
  | suspended
  | stopping
  | stopped
  | error
  deriving DecidableEq, Repr

namespace SchedulerState

/-- `can_schedule`: only a running scheduler accepts work. -/
def canSchedule : SchedulerState → Bool
  | running => true
  | _ => false

/-- `is_stable`. -/
def isStable : SchedulerState → Bool
  | running | stopped => true
  | _ => false

end SchedulerState

/-- `SchedPolicy`. -/
inductive SchedPolicy
  | normal
  | fifo
  | roundRobin
  | batch
  | idle
  | deadline
  | interactive
  | background
  deriving DecidableEq, Repr

namespace SchedPolicy

/-- `priority_class`: the real-time policies rank above deadline, as in the dispatcher. -/
def priorityClass : SchedPolicy → UInt32
  | fifo | roundRobin => 100
  | deadline => 90
  | interactive => 80
  | normal => 50
  | batch => 30
  | background => 10
  | idle => 0

/-- `is_realtime`. -/
def isRealtime : SchedPolicy → Bool
  | fifo | roundRobin | deadline => true
  | _ => false

end SchedPolicy

/-- Modelled from the spec: `TaskState` of the task table (`Created, Runnable, Running, Blocked, Stopped, Dead`). -/
inductive TaskState
  | created
  | runnable
  | running
  | blocked
  | stopped
  | dead
  deriving DecidableEq, Repr

/-- Modelled from the spec: the errors of `KernelResult`. The four kinds the core raises itself, and the error of a
collaborator (a class scheduler, the task table, a driver) under an opaque code. -/
inductive KernelError
  | notRunning
  | taskNotFound
  | migrationNotAllowed
  | affinityViolation
  | collaborator (code : Nat)
  deriving DecidableEq, Repr

/-- `TaskId`. -/
abbrev TaskId := Nat

/-- `CpuId`. -/
abbrev CpuId := Nat

/-- What a class picker or `get_current_task` hands the dispatcher: a task's id and its state. -/
structure Task where
  id : TaskId
  state : TaskState
  deriving DecidableEq, Repr

/-- A task-table entry, with the fields the core reads (`sched_policy`, `state`) and writes (`set_state`,
`set_wake_time`, `set_last_run`). -/
structure TaskEntry where
  state : TaskState
  policy : SchedPolicy
  wakeTime : UInt64
  lastRun : UInt64
  deriving DecidableEq, Repr

/-- `ScheduleResult`. -/
inductive ScheduleResult
  | keepCurrent
  | switchTo (id : TaskId)
  | goIdle
  | rescheduleImmediate
  deriving DecidableEq, Repr

/-- `SchedulerStats`: the `AtomicU64` counters as `UInt64`, whose `fetch_add` wraps at `2^64`, and the `AtomicU32`
load as `UInt32`. -/
structure SchedulerStats where
  contextSwitches : UInt64 := 0
  preemptions : UInt64 := 0
  migrations : UInt64 := 0
  loadBalanceCalls : UInt64 := 0
  schedulerTicks : UInt64 := 0
  scheduleFailures : UInt64 := 0
  tasksCreated : UInt64 := 0
  tasksDestroyed : UInt64 := 0
  rtThrottled : UInt64 := 0
  deadlineMisses : UInt64 := 0
  cpuIdleTime : UInt64 := 0
  avgScheduleLatency : UInt64 := 0
  peakScheduleLatency : UInt64 := 0
  systemLoad : UInt32 := 0
  deriving DecidableEq, Repr

/-- `SchedulerStats::reset`: nine of the counters go to zero; the tick, task, idle-time and load counters stay. -/
def SchedulerStats.reset (s : SchedulerStats) : SchedulerStats :=
  { s with
    contextSwitches := 0
    preemptions := 0
    migrations := 0
    loadBalanceCalls := 0
    scheduleFailures := 0
    rtThrottled := 0
    deadlineMisses := 0
    avgScheduleLatency := 0
    peakScheduleLatency := 0 }

/-- `LoadBalanceConfig`, with its defaults. -/
structure LoadBalanceConfig where
  aggressiveBalance : Bool := false
  imbalanceThreshold : UInt32 := 25
  maxMigrationsPerBalance : UInt32 := 4
  balanceInterval : UInt64 := 100
  numaAware : Bool := true
  deriving DecidableEq, Repr

/-- `SchedulerConfig`, with its defaults. -/
structure SchedulerConfig where
  preemptionEnabled : Bool := true
  tickFrequency : UInt32 := 1000
  defaultTimeslice : UInt64 := 10000
  loadBalance : LoadBalanceConfig := {}
  powerAware : Bool := true
  rtBandwidthPercent : UInt32 := 95
  debugEnabled : Bool := false
  deriving DecidableEq, Repr

/-- The runqueues of the classes `wake_up_task` enqueues into; each is owned by its class scheduler. -/
structure ClassQueues where
  fair : List TaskId := []
  rt : List TaskId := []
  deadline : List TaskId := []
  idle : List TaskId := []
  deriving DecidableEq, Repr

/-- `CoreScheduler`: the core's own state, the task table it mutates, the class runqueues and the per-CPU
current task. -/
structure CoreScheduler where
  state : SchedulerState
  config : SchedulerConfig
  globalStats : SchedulerStats
  tickCounter : UInt64
  lastBalanceTime : UInt64
  emergencyStop : Bool
  initTimestamp : UInt64
  tasks : TaskId → TaskEntry
  queues : ClassQueues
  currentTask : CpuId → Option TaskId

/-- `CoreScheduler::with_config`: uninitialized, zeroed, over a given task table. -/
def CoreScheduler.withConfig (config : SchedulerConfig) (tasks : TaskId → TaskEntry) : CoreScheduler where
  state := .uninitialized
  config := config
  globalStats := {}
  tickCounter := 0
  lastBalanceTime := 0
  emergencyStop := false
  initTimestamp := 0
  tasks := tasks
  queues := {}
  currentTask := fun _ => none

/-- Modelled from the spec: `is_running` (`NotRunning` if scheduler state is not `Running`). -/
def CoreScheduler.isRunning (c : CoreScheduler) : Bool := c.state.canSchedule

@[simp] theorem CoreScheduler.isRunning_iff (c : CoreScheduler) : c.isRunning = true ↔ c.state = .running := by
  unfold CoreScheduler.isRunning SchedulerState.canSchedule
  split <;> simp_all

end LightKernel.Core
