import LightKernel.Core.Dispatch

/-!
# `schedule` and the context switch

`schedule` checks the scheduler state and the emergency flag, counts a tick, runs the collaborators' updates,
takes the dispatcher's decision (`makeSchedulingDecision`) and executes it. A switch validates, counts a context
switch, and then runs the preemption, notification and context-switch steps and installs the new task as the
CPU's current task. Every `?` of the source returns the error with the state as it stands: what was counted
before stays counted.

The counters are `AtomicU64`s: each `fetch_add(1)` is a `UInt64` addition, wrapping at `2^64`.
`update_scheduler_subsystems` and `maybe_load_balance` are not in the source; they are collaborators whose answers
stop `schedule` or let it go on, and they leave the scheduler as it is.

* `switchToTask_stats`: a switch counts one context switch exactly when `validate_task_switch` passes;
* `schedule_stats`: one `schedule` call counts at most one preemption and at most one context switch, and a call
  that returns `Ok` after counting a preemption has counted the context switch too;
* `schedule_ok_currentTask`: a call that returns `Ok` has taken a decision of the dispatcher and leaves on its CPU
  the task that decision names (`ScheduleEnv.installs`), and every other CPU's current task as it was.
-/

namespace LightKernel.Core

/-- The answers of the collaborators of `schedule` on the CPU it runs on: the class pickers and checks, the
task table, the idle class, and the steps of a context switch. -/
structure ScheduleEnv where
  cpu : CpuId
  now : UInt64
  emergencyShutdown : Except KernelError Unit
  updateSchedulerSubsystems : UInt64 → Except KernelError Unit
  maybeLoadBalance : UInt64 → Except KernelError Unit
  pickers : Pickers
  getById : TaskId → Option Task
  getIdleTask : CpuId → Except KernelError Task
  current : Option Task
  validateTaskSwitch : Option Task → Task → Except KernelError Unit
  handleTaskPreemption : Task → Except KernelError Unit
  notifyTaskSwitch : Option Task → Task → Except KernelError Unit
  performContextSwitch : Option Task → Task → Except KernelError Unit
  updatePerCpuCurrentTask : CpuId → TaskId → Except KernelError Unit
  onCpuSwitch : Task → CpuId → Except KernelError Unit
  requestReschedule : Except KernelError Unit

/-- A core operation's result together with the state it leaves, which stands also after an error. -/
abbrev CoreResult := Except KernelError Unit × CoreScheduler

namespace CoreScheduler

/-- `global_stats.context_switches.fetch_add(1)`. -/
def countContextSwitch (c : CoreScheduler) : CoreScheduler :=
  { c with globalStats := { c.globalStats with contextSwitches := c.globalStats.contextSwitches + 1 } }

/-- `tick_counter.fetch_add(1)` and `global_stats.scheduler_ticks.fetch_add(1)`. -/
def countTick (c : CoreScheduler) : CoreScheduler :=
  { c with
    tickCounter := c.tickCounter + 1
    globalStats := { c.globalStats with schedulerTicks := c.globalStats.schedulerTicks + 1 } }

/-- Modelled from the spec: `update_per_cpu_current_task` makes the task the CPU's current task. -/
def setCurrent (c : CoreScheduler) (cpu : CpuId) (id : TaskId) : CoreScheduler :=
  { c with currentTask := Function.update c.currentTask cpu (some id) }

/-- `set_last_run` on the task table. -/
def setLastRun (c : CoreScheduler) (id : TaskId) (now : UInt64) : CoreScheduler :=
  { c with tasks := Function.update c.tasks id { c.tasks id with lastRun := now } }

/-- Modelled from the spec: `emergency_shutdown` drains to idle and leaves the scheduler `Stopped`. -/
def emergencyStopped (c : CoreScheduler) : CoreScheduler := { c with state := .stopped }

@[simp] theorem countContextSwitch_stats (c : CoreScheduler) :
    c.countContextSwitch.globalStats = { c.globalStats with contextSwitches := c.globalStats.contextSwitches + 1 } :=
  rfl

@[simp] theorem countTick_stats (c : CoreScheduler) :
    c.countTick.globalStats = { c.globalStats with schedulerTicks := c.globalStats.schedulerTicks + 1 } := rfl

@[simp] theorem setCurrent_stats (c : CoreScheduler) (cpu : CpuId) (id : TaskId) :
    (c.setCurrent cpu id).globalStats = c.globalStats := rfl

@[simp] theorem setLastRun_stats (c : CoreScheduler) (id : TaskId) (now : UInt64) :
    (c.setLastRun id now).globalStats = c.globalStats := rfl

end CoreScheduler

open CoreScheduler

/-- The fallible steps of a switch after the context switch is counted: preemption handling, notification, the
context switch itself, and the per-CPU current task. -/
def switchPrelude (env : ScheduleEnv) (t : Task) : Except KernelError Unit := do
  match env.current with
  | some cur => env.handleTaskPreemption cur
  | none => pure ()
  env.notifyTaskSwitch env.current t
  env.performContextSwitch env.current t
  env.updatePerCpuCurrentTask env.cpu t.id

/-- The rest of a switch: the new task becomes current, then its accounting. -/
def switchSteps (env : ScheduleEnv) (t : Task) (c : CoreScheduler) : CoreResult :=
  match switchPrelude env t with
  | .error e => (.error e, c)
  | .ok () =>
    let c := c.setCurrent env.cpu t.id
    match env.onCpuSwitch t env.cpu with
    | .error e => (.error e, c)
    | .ok () => (.ok (), c.setLastRun t.id env.now)

/-- `switch_to_task`. -/
def switchToTask (env : ScheduleEnv) (t : Task) (c : CoreScheduler) : CoreResult :=
  match env.validateTaskSwitch env.current t with
  | .error e => (.error e, c)
  | .ok () => switchSteps env t c.countContextSwitch

/-- `execute_schedule_result`. -/
def executeScheduleResult (env : ScheduleEnv) (r : ScheduleResult) (c : CoreScheduler) : CoreResult :=
  match r with
  | .keepCurrent => (.ok (), c)
  | .switchTo id =>
    match env.getById id with
    | none => (.error .taskNotFound, c)
    | some t => switchToTask env t c
  | .goIdle =>
    match env.getIdleTask env.cpu with
    | .error e => (.error e, c)
    | .ok t => switchToTask env t c
  | .rescheduleImmediate => (env.requestReschedule, c)

/-- `schedule`. -/
def schedule (env : ScheduleEnv) (c : CoreScheduler) : CoreResult :=
  if !c.isRunning then (.error .notRunning, c)
  else if c.emergencyStop then (env.emergencyShutdown, c.emergencyStopped)
  else
    let tick := c.tickCounter
    let c := c.countTick
    let decision := do
      env.updateSchedulerSubsystems tick
      env.maybeLoadBalance tick
      makeSchedulingDecision env.pickers c.globalStats
    match decision with
    | .error e => (.error e, c)
    | .ok (r, st) => executeScheduleResult env r { c with globalStats := st }

/-- A scheduler that is not `Running` refuses to schedule and changes nothing. -/
theorem schedule_not_running {c : CoreScheduler} (h : c.state ≠ .running) (env : ScheduleEnv) :
    schedule env c = (.error .notRunning, c) := by
  have hr : c.isRunning = false := by cases hc : c.isRunning <;> simp_all
  simp [schedule, hr]

/-! ## What a call counts -/

section Counts

variable {env : ScheduleEnv} {t : Task} {c : CoreScheduler}

theorem switchSteps_stats : (switchSteps env t c).2.globalStats = c.globalStats := by
  unfold switchSteps
  split
  · rfl
  · split <;> rfl

/-- A switch counts a context switch exactly when `validate_task_switch` passes, and counts nothing else. -/
theorem switchToTask_stats : (switchToTask env t c).2.globalStats =
    match env.validateTaskSwitch env.current t with
    | .error _ => c.globalStats
    | .ok () => c.countContextSwitch.globalStats := by
  unfold switchToTask
  split <;> simp only [switchSteps_stats]

/-- Executing a decision counts at most one context switch, and nothing else. -/
theorem executeScheduleResult_stats (r : ScheduleResult) :
    (executeScheduleResult env r c).2.globalStats = c.globalStats ∨
      (executeScheduleResult env r c).2.globalStats = c.countContextSwitch.globalStats := by
  have hs : ∀ t, (switchToTask env t c).2.globalStats = c.globalStats ∨
      (switchToTask env t c).2.globalStats = c.countContextSwitch.globalStats := fun t => by
    rw [switchToTask_stats]; split <;> simp
  unfold executeScheduleResult
  repeat' split
  all_goals first | exact .inl rfl | exact hs _

/-- A switch that returns `Ok` has counted its context switch and made the task the CPU's current task; no other
CPU's current task changes. -/
theorem switchToTask_ok (h : (switchToTask env t c).1 = .ok ()) :
    (switchToTask env t c).2.globalStats = c.countContextSwitch.globalStats ∧
    (switchToTask env t c).2.currentTask = Function.update c.currentTask env.cpu (some t.id) := by
  unfold switchToTask at h ⊢
  split at h
  · cases h
  · next hv =>
    simp only [hv, switchSteps_stats, true_and]
    unfold switchSteps at h ⊢
    split at h
    · cases h
    · next hp => simp only [hp]; split <;> rfl

/-- A switch to a known task that returns `Ok` counts one context switch. -/
theorem executeScheduleResult_switchTo_ok {id : TaskId} (h : (executeScheduleResult env (.switchTo id) c).1 = .ok ()) :
    (executeScheduleResult env (.switchTo id) c).2.globalStats = c.countContextSwitch.globalStats := by
  unfold executeScheduleResult at h ⊢
  rcases ht : env.getById id with _ | t <;> simp only [ht] at h ⊢
  · cases h
  · exact (switchToTask_ok h).1

/-- The collaborators' updates before the decision pass it through only when the dispatcher decided. -/
theorem decision_ok {env : ScheduleEnv} {tick : UInt64} {st st' : SchedulerStats} {r : ScheduleResult}
    (hd : (do
      env.updateSchedulerSubsystems tick
      env.maybeLoadBalance tick
      makeSchedulingDecision env.pickers st) = Except.ok (r, st')) :
    makeSchedulingDecision env.pickers st = .ok (r, st') := by
  rcases h1 : env.updateSchedulerSubsystems tick with _ | _ <;>
    rcases h2 : env.maybeLoadBalance tick with _ | _ <;>
    simp only [h1, h2, bind, Except.bind] at hd <;> first | cases hd | exact hd

/-- What `schedule` can do: refuse, stop for an emergency, fail before a decision with the tick counted, or
execute the dispatcher's decision on the ticked state. -/
theorem schedule_cases (env : ScheduleEnv) (c : CoreScheduler) :
    schedule env c = (.error .notRunning, c) ∨ schedule env c = (env.emergencyShutdown, c.emergencyStopped) ∨
    (∃ e, schedule env c = (.error e, c.countTick)) ∨
    ∃ r st, makeSchedulingDecision env.pickers c.countTick.globalStats = .ok (r, st) ∧
      schedule env c = executeScheduleResult env r { c.countTick with globalStats := st } := by
  unfold schedule
  split
  · exact .inl rfl
  split
  · exact .inr (.inl rfl)
  dsimp only
  split
  · exact .inr (.inr (.inl ⟨_, rfl⟩))
  next r st hd => exact .inr (.inr (.inr ⟨r, st, decision_ok hd, rfl⟩))

/-- A running scheduler without an emergency stop counts a tick, then fails before a decision or executes the
dispatcher's decision on the ticked state. -/
theorem schedule_running {env : ScheduleEnv} {c : CoreScheduler} (hr : c.state = .running)
    (h : c.emergencyStop = false) :
    (∃ e, schedule env c = (.error e, c.countTick)) ∨
    ∃ r st, makeSchedulingDecision env.pickers c.countTick.globalStats = .ok (r, st) ∧
      schedule env c = executeScheduleResult env r { c.countTick with globalStats := st } := by
  simp only [schedule, (isRunning_iff c).mpr hr, h, Bool.not_true, Bool.false_eq_true, if_false]
  split
  · exact .inl ⟨_, rfl⟩
  · next r st hd => exact .inr ⟨r, st, decision_ok hd, rfl⟩

/-- **What one `schedule` counts**: at most one preemption and at most one context switch; when it returns `Ok`
after counting a preemption, it has counted the context switch too. -/
theorem schedule_stats (env : ScheduleEnv) (c : CoreScheduler) :
    ((schedule env c).2.globalStats.preemptions = c.globalStats.preemptions ∨
      (schedule env c).2.globalStats.preemptions = c.globalStats.preemptions + 1) ∧
    ((schedule env c).2.globalStats.contextSwitches = c.globalStats.contextSwitches ∨
      (schedule env c).2.globalStats.contextSwitches = c.globalStats.contextSwitches + 1) ∧
    ((schedule env c).1 = .ok () → (schedule env c).2.globalStats.preemptions = c.globalStats.preemptions ∨
      (schedule env c).2.globalStats.preemptions = c.globalStats.preemptions + 1 ∧
      (schedule env c).2.globalStats.contextSwitches = c.globalStats.contextSwitches + 1) := by
  rcases schedule_cases env c with h | h | ⟨e, h⟩ | ⟨r, st, hm, h⟩ <;> rw [h]
  · exact ⟨.inl rfl, .inl rfl, fun _ => .inl rfl⟩
  · exact ⟨.inl rfl, .inl rfl, fun _ => .inl rfl⟩
  · exact ⟨.inl rfl, .inl rfl, fun _ => .inl rfl⟩
  rcases makeSchedulingDecision_stats hm with rfl | ⟨rfl, t, rfl⟩
  · rcases @executeScheduleResult_stats env { c.countTick with globalStats := c.countTick.globalStats } r
      with hx | hx <;> rw [hx]
    · exact ⟨.inl rfl, .inl rfl, fun _ => .inl rfl⟩
    · exact ⟨.inl rfl, .inr rfl, fun _ => .inl rfl⟩
  · have hx := @executeScheduleResult_stats env
      { c.countTick with globalStats := c.countTick.globalStats.countPreemption } (.switchTo t)
    refine ⟨by rcases hx with hx | hx <;> rw [hx] <;> exact .inr rfl,
      by rcases hx with hx | hx <;> rw [hx] <;> first | exact .inl rfl | exact .inr rfl, fun hok => .inr ?_⟩
    rw [executeScheduleResult_switchTo_ok hok]
    exact ⟨rfl, rfl⟩

end Counts

/-! ## What a call installs -/

/-- The current task that executing decision `r` leaves on the CPU, from `current`: the same for `KeepCurrent` (and
for `RescheduleImmediate`, which switches nothing), the task the table gives for `SwitchTo`, and the CPU's idle task
for `GoIdle`; none when the table or the idle class gives no task. -/
def ScheduleEnv.installs (env : ScheduleEnv) (current : Option TaskId) : ScheduleResult → Option TaskId
  | .keepCurrent | .rescheduleImmediate => current
  | .switchTo id => (env.getById id).map Task.id
  | .goIdle =>
    match env.getIdleTask env.cpu with
    | .ok t => some t.id
    | .error _ => none

/-- Executing a decision that returns `Ok` installs the task it names on its CPU, and on no other. -/
theorem executeScheduleResult_currentTask {env : ScheduleEnv} {r : ScheduleResult} {c : CoreScheduler}
    (h : (executeScheduleResult env r c).1 = .ok ()) :
    (executeScheduleResult env r c).2.currentTask env.cpu = env.installs (c.currentTask env.cpu) r ∧
    ∀ cpu, cpu ≠ env.cpu → (executeScheduleResult env r c).2.currentTask cpu = c.currentTask cpu := by
  have hsw : ∀ t, (switchToTask env t c).1 = .ok () → (switchToTask env t c).2.currentTask env.cpu = some t.id ∧
      ∀ cpu, cpu ≠ env.cpu → (switchToTask env t c).2.currentTask cpu = c.currentTask cpu := fun t ht => by
    rw [(switchToTask_ok ht).2]
    exact ⟨by simp, fun _ hcpu => Function.update_noteq hcpu _ _⟩
  cases r with
  | keepCurrent | rescheduleImmediate => exact ⟨rfl, fun _ _ => rfl⟩
  | switchTo id =>
    unfold executeScheduleResult at h ⊢
    rcases ht : env.getById id with _ | t <;> simp only [ht] at h ⊢
    · cases h
    · simpa [ScheduleEnv.installs, ht] using hsw t h
  | goIdle =>
    unfold executeScheduleResult at h ⊢
    rcases hi : env.getIdleTask env.cpu with _ | t <;> simp only [hi] at h ⊢
    · cases h
    · simpa [ScheduleEnv.installs, hi] using hsw t h

/-- **A `schedule` that returns `Ok` runs the dispatcher's decision**: without an emergency stop, it has taken a
decision of the dispatcher on the ticked statistics, and leaves on its CPU the task that decision names: the current
task for `KeepCurrent`, the task the table gives for a `SwitchTo`, the idle task for `GoIdle`. No other CPU's
current task changes. -/
theorem schedule_ok_currentTask {env : ScheduleEnv} {c : CoreScheduler} (he : c.emergencyStop = false)
    (h : (schedule env c).1 = .ok ()) :
    ∃ r st, makeSchedulingDecision env.pickers c.countTick.globalStats = .ok (r, st) ∧
      (schedule env c).2.currentTask env.cpu = env.installs (c.currentTask env.cpu) r ∧
      ∀ cpu, cpu ≠ env.cpu → (schedule env c).2.currentTask cpu = c.currentTask cpu := by
  have hr : c.state = .running := by
    by_contra hr
    rw [schedule_not_running hr] at h
    cases h
  rcases @schedule_running env c hr he with ⟨e, hs⟩ | ⟨r, st, hm, hs⟩ <;> rw [hs] at h ⊢
  · cases h
  · exact ⟨r, st, hm, executeScheduleResult_currentTask h⟩

/-- A running scheduler whose CPU 0 runs task 0. -/
def runningOnZero : CoreScheduler :=
  { CoreScheduler.withConfig {} (fun _ => ⟨.running, .normal, 0, 0⟩) with
    state := .running
    currentTask := fun cpu => if cpu = 0 then some 0 else none }

/-- Collaborators under which the real-time class preempts task 0 for task 1, which the task table knows, and every
step of the switch succeeds. -/
def preemptKnownTask : ScheduleEnv where
  cpu := 0
  now := 0
  emergencyShutdown := .ok ()
  updateSchedulerSubsystems _ := .ok ()
  maybeLoadBalance _ := .ok ()
  pickers :=
    { current := some ⟨0, .running⟩
      stop := .ok none
      rt := .ok (some ⟨1, .runnable⟩)
      deadline := .ok none
      fair := .ok none
      shouldPreemptForRt := fun _ _ => .ok true
      shouldPreemptForDeadline := fun _ _ => .ok false
      shouldPreemptForFair := fun _ _ => .ok false }
  getById id := some ⟨id, .runnable⟩
  getIdleTask _ := .error (.collaborator 0)
  current := some ⟨0, .running⟩
  validateTaskSwitch _ _ := .ok ()
  handleTaskPreemption _ := .ok ()
  notifyTaskSwitch _ _ := .ok ()
  performContextSwitch _ _ := .ok ()
  updatePerCpuCurrentTask _ _ := .ok ()
  onCpuSwitch _ _ := .ok ()
  requestReschedule := .ok ()

/-- There the dispatcher preempts for task 1, which becomes CPU 0's current task. -/
theorem preempting_task_installed :
    runningOnZero.emergencyStop = false ∧ (schedule preemptKnownTask runningOnZero).1 = .ok () ∧
    ∃ r st, makeSchedulingDecision preemptKnownTask.pickers runningOnZero.countTick.globalStats = .ok (r, st) ∧
      (schedule preemptKnownTask runningOnZero).2.currentTask preemptKnownTask.cpu =
        preemptKnownTask.installs (runningOnZero.currentTask preemptKnownTask.cpu) r ∧
      ∀ cpu, cpu ≠ preemptKnownTask.cpu →
        (schedule preemptKnownTask runningOnZero).2.currentTask cpu = runningOnZero.currentTask cpu :=
  have he : runningOnZero.emergencyStop = false := rfl
  have h : (schedule preemptKnownTask runningOnZero).1 = .ok () := rfl
  ⟨he, h, schedule_ok_currentTask he h⟩

/-- There the decision is the switch to task 1, and task 1 is installed. -/
example : makeSchedulingDecision preemptKnownTask.pickers runningOnZero.countTick.globalStats =
      .ok (.switchTo 1, { schedulerTicks := 1, preemptions := 1 }) ∧
    (schedule preemptKnownTask runningOnZero).2.currentTask 0 = some 1 := ⟨rfl, rfl⟩

end LightKernel.Core
