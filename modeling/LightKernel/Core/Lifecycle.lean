import LightKernel.Core.Wakeup
import LightKernel.Core.Balance

/-!
# The scheduler's lifecycle and its runs

`init` sets `Initializing` whatever the state was, runs its ten fallible steps, and sets `Running` only after all of
them; the first failing step's error is returned with the scheduler left in `Initializing`, where `schedule` and
`wake_up_task` refuse all work. The scheduler as a state machine runs `init`, `schedule`, `wake_up_task`,
`load_balance`, `migrate_task` and the statistics reset (`CoreOp`, `CoreScheduler.run`). Only `init` sets the
state and nothing sets `emergency_stop`, so the state, the tick counters and the balance calls follow a small
machine over the operations alone (`CoreTally`), which the scheduler refines step by step (`step_tally`). The
counters are `UInt64`s, so the tally counts modulo `2^64`; the absent `update_scheduler_subsystems` and
`maybe_load_balance` are answers that change nothing (`ScheduleEnv`).

* `init_outcome`: what `init` returns and where it leaves the scheduler, from every state;
* `run_preemptionsMatched`: along runs whose `schedule` calls all return `Ok`, every counted preemption is matched
  by a counted context switch, as long as `context_switches` does not wrap;
* `created_run_state`, `created_tally`, `created_ticks_agree`: from creation, the state only ever is
  `Uninitialized`, `Initializing` or `Running`, the counters tally the calls made while `Running`, and
  `tick_counter` equals `scheduler_ticks`;
* `preemption_without_switch`: a counted preemption whose switch then fails leaves more preemptions than context
  switches.
-/

namespace LightKernel.Core

/-- The outcomes of `init`'s fallible steps, in the order it runs them. -/
structure InitSteps where
  validateSystemRequirements : Except KernelError Unit
  initCoreInfrastructure : Except KernelError Unit
  initCpuManagement : Except KernelError Unit
  initSchedulingPolicies : Except KernelError Unit
  initSynchronization : Except KernelError Unit
  initLoadTracking : Except KernelError Unit
  initAdvancedFeatures : Except KernelError Unit
  initDebugging : Except KernelError Unit
  initPerCpuData : Except KernelError Unit
  validateSchedulerState : Except KernelError Unit

/-- The steps one after the other, stopping at the first error. -/
def InitSteps.run (o : InitSteps) : Except KernelError Unit := do
  o.validateSystemRequirements
  o.initCoreInfrastructure
  o.initCpuManagement
  o.initSchedulingPolicies
  o.initSynchronization
  o.initLoadTracking
  o.initAdvancedFeatures
  o.initDebugging
  o.initPerCpuData
  o.validateSchedulerState

/-- Every step succeeds. -/
def InitSteps.allOk : InitSteps := ⟨.ok (), .ok (), .ok (), .ok (), .ok (), .ok (), .ok (), .ok (), .ok (), .ok ()⟩

/-- `init`, with the clock's time. -/
def init (now : UInt64) (o : InitSteps) (c : CoreScheduler) : CoreResult :=
  let c := { c with initTimestamp := now, state := .initializing }
  match o.run with
  | .error e => (.error e, c)
  | .ok () => (.ok (), { c with state := .running })

/-- **`init` from any state**: it returns its steps' outcome; after success the scheduler is `Running`, after a
failure it stays `Initializing`, where `schedule` and `wake_up_task` refuse all work. -/
theorem init_outcome (now : UInt64) (o : InitSteps) (c : CoreScheduler) :
    (init now o c).1 = o.run ∧
    (o.run = .ok () → (init now o c).2.state = .running) ∧
    ∀ e, o.run = .error e → (init now o c).2.state = .initializing ∧
      (∀ env, schedule env (init now o c).2 = (.error .notRunning, (init now o c).2)) ∧
      (∀ env id, wakeUpTask env id (init now o c).2 = (.error .notRunning, (init now o c).2)) := by
  refine ⟨by unfold init; split <;> simp_all, fun h => by simp [init, h], fun e h => ?_⟩
  have hs : (init now o c).2.state = .initializing := by simp [init, h]
  exact ⟨hs, schedule_not_running (by simp [hs]), wakeUpTask_not_running (by simp [hs])⟩

/-- `init` on a running scheduler succeeds again, and a failed first step leaves it `Initializing`. -/
theorem init_not_one_shot :
    (init 0 .allOk (runningCore {})).1 = .ok () ∧
    (init 0 { InitSteps.allOk with validateSystemRequirements := .error (.collaborator 0) }
      (CoreScheduler.withConfig {} fun _ => ⟨.created, .normal, 0, 0⟩)).2.state = .initializing :=
  ⟨rfl, rfl⟩

/-! ## Runs of the scheduler -/

/-- An operation on the scheduler, with its collaborators' answers. -/
inductive CoreOp
  | init (now : UInt64) (o : InitSteps)
  | schedule (env : ScheduleEnv)
  | wakeUpTask (env : WakeEnv) (id : TaskId)
  | loadBalance (now : UInt64) (migrate : Except KernelError Nat)
  | migrateTask (env : MigrateEnv) (targetCpu : CpuId)
  | resetStats

namespace CoreScheduler

/-- One operation. -/
def step (c : CoreScheduler) : CoreOp → CoreScheduler
  | .init now o => (LightKernel.Core.init now o c).2
  | .schedule env => (LightKernel.Core.schedule env c).2
  | .wakeUpTask env id => (LightKernel.Core.wakeUpTask env id c).2
  | .loadBalance now migrate => (LightKernel.Core.loadBalance now migrate c).2
  | .migrateTask env targetCpu => (LightKernel.Core.migrateTask env targetCpu c).2
  | .resetStats => { c with globalStats := c.globalStats.reset }

/-- A run of operations. -/
def run (c : CoreScheduler) (ops : List CoreOp) : CoreScheduler := ops.foldl step c

end CoreScheduler

/-! ## Counted preemptions along runs -/

/-- Every counted preemption is matched by a counted context switch. -/
def PreemptionsMatched (c : CoreScheduler) : Prop := c.globalStats.preemptions ≤ c.globalStats.contextSwitches

/-- The operation, where it is a `schedule`, returns `Ok` from `c`. -/
def CoreOp.ScheduleSucceeds : CoreOp → CoreScheduler → Prop
  | .schedule env, c => (LightKernel.Core.schedule env c).1 = .ok ()
  | _, _ => True

/-- Every `schedule` of the run returns `Ok` from the state it meets. -/
def CoreScheduler.SchedulesSucceed : CoreScheduler → List CoreOp → Prop
  | _, [] => True
  | c, op :: ops => op.ScheduleSucceeds c ∧ CoreScheduler.SchedulesSucceed (c.step op) ops

theorem init_stats (now : UInt64) (o : InitSteps) (c : CoreScheduler) : (init now o c).2.globalStats = c.globalStats := by
  unfold init; split <;> rfl

/-- What one operation counts of preemptions and context switches: a context switch or nothing, a preemption
together with its context switch, or a reset of both. -/
theorem step_counts (c : CoreScheduler) {op : CoreOp} (hs : op.ScheduleSucceeds c) :
    ((c.step op).globalStats.preemptions = c.globalStats.preemptions ∧
      ((c.step op).globalStats.contextSwitches = c.globalStats.contextSwitches ∨
        (c.step op).globalStats.contextSwitches = c.globalStats.contextSwitches + 1)) ∨
    ((c.step op).globalStats.preemptions = c.globalStats.preemptions + 1 ∧
      (c.step op).globalStats.contextSwitches = c.globalStats.contextSwitches + 1) ∨
    ((c.step op).globalStats.preemptions = 0 ∧ (c.step op).globalStats.contextSwitches = 0) := by
  cases op with
  | init now o =>
    have hst := init_stats now o c
    exact .inl ⟨congrArg SchedulerStats.preemptions hst, .inl (congrArg SchedulerStats.contextSwitches hst)⟩
  | schedule env =>
    obtain ⟨-, hcs, hok⟩ := schedule_stats env c
    rcases hok hs with hp | hp
    · exact .inl ⟨hp, hcs⟩
    · exact .inr (.inl hp)
  | wakeUpTask env id =>
    have hst := @wakeUpTask_stats c env id
    exact .inl ⟨congrArg SchedulerStats.preemptions hst, .inl (congrArg SchedulerStats.contextSwitches hst)⟩
  | loadBalance now migrate =>
    obtain ⟨hp, hc⟩ := loadBalance_counts now migrate c
    exact .inl ⟨hp, .inl hc⟩
  | migrateTask env cpu =>
    simp only [CoreScheduler.step]
    rcases hr : (migrateTask env cpu c).1 with e | _
    · rw [migrateTask_error hr]; exact .inl ⟨rfl, .inl rfl⟩
    · rw [(migrateTask_ok hr).2.2.2]; exact .inl ⟨rfl, .inl rfl⟩
  | resetStats => exact .inr (.inr ⟨rfl, rfl⟩)

/-- A step below the wrap of `context_switches` keeps every counted preemption matched, and counts at most one
context switch. -/
theorem step_preemptionsMatched {c : CoreScheduler} {op : CoreOp} (h : PreemptionsMatched c)
    (hs : op.ScheduleSucceeds c) (hb : c.globalStats.contextSwitches.toNat + 1 < 2 ^ 64) :
    PreemptionsMatched (c.step op) ∧
      (c.step op).globalStats.contextSwitches.toNat ≤ c.globalStats.contextSwitches.toNat + 1 := by
  unfold PreemptionsMatched at h ⊢
  rw [uint64_le_iff] at h ⊢
  have hcs := uint64_toNat_add_one_of_lt hb
  rcases step_counts c hs with ⟨hp, hc | hc⟩ | ⟨hp, hc⟩ | ⟨hp, hc⟩ <;> rw [hp, hc]
  · omega
  · rw [hcs]; omega
  · rw [hcs, uint64_toNat_add_one_of_lt (by omega)]; omega
  · simp

/-- **Runs whose `schedule` calls all return `Ok` keep every counted preemption matched** by a counted context
switch, as long as `context_switches` does not wrap: each operation counts at most one context switch, so a run of
`n` operations from below `2^64 - n` never reaches the wrap. A failing `schedule` may break it: the preemption it
counted before the switch failed stays counted. -/
theorem run_preemptionsMatched {c : CoreScheduler} {ops : List CoreOp} (h : PreemptionsMatched c)
    (hs : c.SchedulesSucceed ops) (hb : c.globalStats.contextSwitches.toNat + ops.length < 2 ^ 64) :
    PreemptionsMatched (c.run ops) := by
  induction ops generalizing c with
  | nil => exact h
  | cons op ops ih =>
    rw [List.length_cons] at hb
    obtain ⟨h', hle⟩ := step_preemptionsMatched h hs.1 (by omega)
    exact ih h' hs.2 (by omega)

/-- A preempting switch that succeeds, then a statistics reset, keep the preemptions matched. -/
theorem preemptions_matched_after_switch :
    PreemptionsMatched runningOnZero ∧
    runningOnZero.SchedulesSucceed [.schedule preemptKnownTask, .resetStats] ∧
    runningOnZero.globalStats.contextSwitches.toNat + [CoreOp.schedule preemptKnownTask, .resetStats].length <
      2 ^ 64 ∧
    PreemptionsMatched (runningOnZero.run [.schedule preemptKnownTask, .resetStats]) :=
  have h : PreemptionsMatched runningOnZero := UInt64.le_refl 0
  have hs : runningOnZero.SchedulesSucceed [.schedule preemptKnownTask, .resetStats] := ⟨rfl, trivial, trivial⟩
  have hb : runningOnZero.globalStats.contextSwitches.toNat +
      [CoreOp.schedule preemptKnownTask, .resetStats].length < 2 ^ 64 := by decide
  ⟨h, hs, hb, run_preemptionsMatched h hs hb⟩

/-! ## The lifecycle and the call counters along runs -/

/-- The scheduler state after an operation, as only `init` sets it: `Running` after an `init` whose steps all
succeed, `Initializing` after one that fails, and unchanged by every other operation. -/
def SchedulerState.after (st : SchedulerState) : CoreOp → SchedulerState
  | .init _ o => match o.run with
    | .ok () => .running
    | .error _ => .initializing
  | _ => st

/-- What runs of the scheduler tally: its state, `tick_counter`, and the statistics `scheduler_ticks` and
`load_balance_calls`, counters that wrap at `2^64` as the `AtomicU64`s do. -/
structure CoreTally where
  state : SchedulerState
  tickCounter : UInt64
  schedulerTicks : UInt64
  loadBalanceCalls : UInt64
  deriving DecidableEq, Repr

/-- The tally of a scheduler. -/
def CoreScheduler.tally (c : CoreScheduler) : CoreTally :=
  ⟨c.state, c.tickCounter, c.globalStats.schedulerTicks, c.globalStats.loadBalanceCalls⟩

/-- The tally after an operation: `init` moves the state; a `schedule` call made while `Running` counts a tick in
`tick_counter` and in `scheduler_ticks`; a `load_balance` call made while `Running` counts a call, also when it is
too soon to balance; the statistics reset clears `load_balance_calls` but not `scheduler_ticks`. -/
def CoreTally.next (t : CoreTally) : CoreOp → CoreTally
  | .init now o => { t with state := t.state.after (.init now o) }
  | .schedule _ =>
    if t.state = .running then { t with tickCounter := t.tickCounter + 1, schedulerTicks := t.schedulerTicks + 1 }
    else t
  | .loadBalance _ _ => if t.state = .running then { t with loadBalanceCalls := t.loadBalanceCalls + 1 } else t
  | .resetStats => { t with loadBalanceCalls := 0 }
  | .wakeUpTask _ _ | .migrateTask _ _ => t

theorem CoreTally.next_state (t : CoreTally) (op : CoreOp) : (t.next op).state = t.state.after op := by
  by_cases hr : t.state = .running <;> cases op <;> simp [CoreTally.next, SchedulerState.after, hr]

/-- The two tick counters move together. -/
theorem CoreTally.next_ticks {t : CoreTally} (h : t.tickCounter = t.schedulerTicks) (op : CoreOp) :
    (t.next op).tickCounter = (t.next op).schedulerTicks := by
  by_cases hr : t.state = .running <;> cases op <;> simp [CoreTally.next, hr, h]

/-- The dispatcher counts nothing but preemptions. -/
theorem makeSchedulingDecision_ticks {p : Pickers} {st st' : SchedulerStats} {r : ScheduleResult}
    (h : makeSchedulingDecision p st = .ok (r, st')) :
    st'.schedulerTicks = st.schedulerTicks ∧ st'.loadBalanceCalls = st.loadBalanceCalls := by
  rcases makeSchedulingDecision_stats h with rfl | ⟨rfl, -⟩ <;> exact ⟨rfl, rfl⟩

section Tally

variable {c : CoreScheduler}

theorem executeScheduleResult_tally (env : ScheduleEnv) (r : ScheduleResult) (c : CoreScheduler) :
    (executeScheduleResult env r c).2.tally = c.tally ∧
      (executeScheduleResult env r c).2.emergencyStop = c.emergencyStop := by
  unfold executeScheduleResult switchToTask switchSteps
  repeat' split
  all_goals exact ⟨rfl, rfl⟩

/-- Without an emergency stop, `schedule` counts a tick exactly when the scheduler is `Running`. -/
theorem schedule_tally (h : c.emergencyStop = false) (env : ScheduleEnv) :
    (schedule env c).2.tally = c.tally.next (.schedule env) ∧ (schedule env c).2.emergencyStop = false := by
  by_cases hr : c.state = .running
  · have hnext : c.tally.next (.schedule env) = c.countTick.tally := by
      show (if c.state = .running then _ else _) = _
      rw [if_pos hr]; rfl
    rw [hnext]
    rcases @schedule_running env c hr h with ⟨e, hs⟩ | ⟨r, st, hm, hs⟩ <;> rw [hs]
    · exact ⟨rfl, h⟩
    · obtain ⟨ht, he⟩ := executeScheduleResult_tally env r { c.countTick with globalStats := st }
      obtain ⟨h1, h2⟩ := makeSchedulingDecision_ticks hm
      refine ⟨ht.trans ?_, he.trans h⟩
      simp only [CoreScheduler.tally, h1, h2]
  · rw [schedule_not_running hr]
    exact ⟨by simp [CoreTally.next, CoreScheduler.tally, hr], h⟩

theorem wakeUpTask_tally (env : WakeEnv) (id : TaskId) :
    (wakeUpTask env id c).2.tally = c.tally ∧ (wakeUpTask env id c).2.emergencyStop = c.emergencyStop := by
  by_cases h : c.state = .running
  · rw [wakeUpTask_eq env id h]
    unfold enqueueInto
    split <;> exact ⟨rfl, rfl⟩
  · rw [wakeUpTask_not_running h]
    exact ⟨rfl, rfl⟩

/-- `load_balance` counts a call exactly when the scheduler is `Running`, before its interval check. -/
theorem loadBalance_tally (now : UInt64) (migrate : Except KernelError Nat) :
    (loadBalance now migrate c).2.tally = c.tally.next (.loadBalance now migrate) ∧
      (loadBalance now migrate c).2.emergencyStop = c.emergencyStop := by
  by_cases hr : c.state = .running
  · have hnext : c.tally.next (.loadBalance now migrate) = c.countBalanceCall.tally := by
      show (if c.state = .running then _ else _) = _
      rw [if_pos hr]; rfl
    simp only [loadBalance, (CoreScheduler.isRunning_iff c).mpr hr, Bool.not_true, Bool.false_eq_true, if_false, hnext]
    repeat' split
    all_goals exact ⟨rfl, rfl⟩
  · have hn : c.isRunning = false := Bool.eq_false_iff.mpr (mt (CoreScheduler.isRunning_iff c).mp hr)
    simp [loadBalance, hn, CoreTally.next, CoreScheduler.tally, hr]

theorem migrateTask_tally (env : MigrateEnv) (targetCpu : CpuId) :
    (migrateTask env targetCpu c).2.tally = c.tally ∧
      (migrateTask env targetCpu c).2.emergencyStop = c.emergencyStop := by
  unfold migrateTask
  repeat' split
  all_goals exact ⟨rfl, rfl⟩

/-- **The scheduler refines its tally**: without an emergency stop, one operation moves the state, the tick
counters and the balance calls as `CoreTally.next` says, and raises no emergency stop. -/
theorem step_tally (h : c.emergencyStop = false) (op : CoreOp) :
    (c.step op).tally = c.tally.next op ∧ (c.step op).emergencyStop = false := by
  cases op with
  | init now o =>
    show (init now o c).2.tally = _ ∧ (init now o c).2.emergencyStop = _
    cases hr : o.run <;> simp [init, SchedulerState.after, CoreTally.next, CoreScheduler.tally, hr, h]
  | schedule env => exact schedule_tally h env
  | wakeUpTask env task => exact (wakeUpTask_tally env task).imp (·.trans rfl) (·.trans h)
  | loadBalance now migrate => exact (loadBalance_tally now migrate).imp id (·.trans h)
  | migrateTask env cpu => exact (migrateTask_tally env cpu).imp (·.trans rfl) (·.trans h)
  | resetStats => exact ⟨rfl, h⟩

theorem run_tally (h : c.emergencyStop = false) (ops : List CoreOp) :
    (c.run ops).tally = ops.foldl CoreTally.next c.tally ∧ (c.run ops).emergencyStop = false := by
  induction ops generalizing c with
  | nil => exact ⟨rfl, h⟩
  | cons op ops ih =>
    obtain ⟨ht, he⟩ := step_tally h op
    obtain ⟨ht', he'⟩ := ih he
    exact ⟨ht'.trans (by rw [ht]; rfl), he'⟩

end Tally

theorem foldl_next_state (t : CoreTally) (ops : List CoreOp) :
    (ops.foldl CoreTally.next t).state = ops.foldl SchedulerState.after t.state := by
  induction ops generalizing t with
  | nil => rfl
  | cons op ops ih => exact (ih (t.next op)).trans (by rw [CoreTally.next_state]; rfl)

theorem foldl_next_ticks {t : CoreTally} (h : t.tickCounter = t.schedulerTicks) (ops : List CoreOp) :
    (ops.foldl CoreTally.next t).tickCounter = (ops.foldl CoreTally.next t).schedulerTicks := by
  induction ops generalizing t with
  | nil => exact h
  | cons op ops ih => exact ih (CoreTally.next_ticks h op)

/-- **The scheduler's lifecycle**: from creation, along every run of `init`, `schedule`, `wake_up_task`,
`load_balance`, `migrate_task` and the statistics reset, the scheduler is `Uninitialized` until the first `init`,
and afterwards `Running` when the last `init` succeeded and `Initializing` when it failed. Nothing sets
`emergency_stop`, so no run reaches `Suspended`, `Stopping`, `Stopped` or `Error`. -/
theorem created_run_state (config : SchedulerConfig) (tasks : TaskId → TaskEntry) (ops : List CoreOp) :
    ((CoreScheduler.withConfig config tasks).run ops).state = ops.foldl SchedulerState.after .uninitialized :=
  (congrArg CoreTally.state (@run_tally (.withConfig config tasks) rfl ops).1).trans (foldl_next_state _ ops)

/-- **The tick counters agree**: from creation, along every run, `tick_counter` equals `scheduler_ticks`, also
after statistics resets, which leave `scheduler_ticks`. -/
theorem created_ticks_agree (config : SchedulerConfig) (tasks : TaskId → TaskEntry) (ops : List CoreOp) :
    ((CoreScheduler.withConfig config tasks).run ops).tickCounter =
      ((CoreScheduler.withConfig config tasks).run ops).globalStats.schedulerTicks := by
  have ht := (@run_tally (.withConfig config tasks) rfl ops).1
  calc _ = (ops.foldl CoreTally.next ⟨.uninitialized, 0, 0, 0⟩).tickCounter := congrArg CoreTally.tickCounter ht
    _ = (ops.foldl CoreTally.next ⟨.uninitialized, 0, 0, 0⟩).schedulerTicks := foldl_next_ticks rfl ops
    _ = _ := (congrArg CoreTally.schedulerTicks ht).symm

/-- Collaborators under which the real-time class preempts a running current task but the task table no longer
knows the candidate. -/
def preemptForVanishedTask : ScheduleEnv where
  cpu := 0
  now := 0
  emergencyShutdown := .ok ()
  updateSchedulerSubsystems _ := .ok ()
  maybeLoadBalance _ := .ok ()
  pickers :=
    { current := some ⟨0, .running⟩
      stop := .ok none
      rt := .ok (some ⟨1, .runnable⟩)
      deadline := .ok none
      fair := .ok none
      shouldPreemptForRt := fun _ _ => .ok true
      shouldPreemptForDeadline := fun _ _ => .ok false
      shouldPreemptForFair := fun _ _ => .ok false }
  getById _ := none
  getIdleTask _ := .error (.collaborator 0)
  current := some ⟨0, .running⟩
  validateTaskSwitch _ _ := .ok ()
  handleTaskPreemption _ := .ok ()
  notifyTaskSwitch _ _ := .ok ()
  performContextSwitch _ _ := .ok ()
  updatePerCpuCurrentTask _ _ := .ok ()
  onCpuSwitch _ _ := .ok ()
  requestReschedule := .ok ()

/-- After `init` and one `schedule` whose preempting candidate is not found, one preemption is counted and no
context switch. -/
theorem preemption_without_switch :
    ((CoreScheduler.withConfig {} fun _ => ⟨.created, .normal, 0, 0⟩).run
      [.init 0 .allOk, .schedule preemptForVanishedTask]).globalStats.preemptions = 1 ∧
    ((CoreScheduler.withConfig {} fun _ => ⟨.created, .normal, 0, 0⟩).run
      [.init 0 .allOk, .schedule preemptForVanishedTask]).globalStats.contextSwitches = 0 :=
  ⟨rfl, rfl⟩

end LightKernel.Core
