import LightKernel.Core.Schedule
import LightKernel.Gate

/-!
# The periodic load-balance gate

`load_balance` reads the clock, loads `last_balance_time`, and balances only when `current_time - last_balance` is
at least `balance_interval * 1_000_000` nanoseconds; after a pass it stores its clock sample. The load, the check,
the pass and the store are separate steps, so calls on different CPUs interleave: `BalanceSystem` is the interval
gate of `Gate.lean` at `balanceHooks`. The arithmetic is `u64`'s, wrapping as in a release build. `migrate_task`
moves one task after `can_migrate_to` and the affinity allow it.

* `migrateTask_ok`, `migrateTask_error`: a migration that succeeds respects the affinity and is counted; one that
  fails changes nothing;
* `loadBalance_eq_call`: `load_balance` is the gate's sequential call, so one CPU running its five steps back to
  back is `loadBalance` (`Gate.GateSystem.serial_call_eq`);
* `serial_no_underflow`: schedules in which each call runs to its end before the next begins never underflow;
* `load_balance_gate_fails`: two CPUs balance at the same instant, a stale clock sample underflows the subtraction
  (`Gate.GateSystem.step_check_stale`), and at 100 Hz a pass follows another after 100 ms where the configured 100
  ticks are one second.
-/

namespace LightKernel.Core

/-- `balance_interval * 1_000_000`: the interval read as milliseconds, in nanoseconds. -/
def balanceIntervalNs (config : LoadBalanceConfig) : UInt64 := config.balanceInterval * 1000000

/-- `global_stats.load_balance_calls.fetch_add(1)`. -/
def CoreScheduler.countBalanceCall (c : CoreScheduler) : CoreScheduler :=
  { c with globalStats := { c.globalStats with loadBalanceCalls := c.globalStats.loadBalanceCalls + 1 } }

@[simp] theorem CoreScheduler.countBalanceCall_lastBalanceTime (c : CoreScheduler) :
    c.countBalanceCall.lastBalanceTime = c.lastBalanceTime := rfl

@[simp] theorem CoreScheduler.countBalanceCall_config (c : CoreScheduler) :
    c.countBalanceCall.config = c.config := rfl

/-- After a pass: `migrations.fetch_add(migrations as u64)` and `last_balance_time.store(current_time)`. -/
def CoreScheduler.recordBalance (c : CoreScheduler) (m : Nat) (now : UInt64) : CoreScheduler :=
  { c with
    globalStats := { c.globalStats with migrations := c.globalStats.migrations + UInt64.ofNat m }
    lastBalanceTime := now }

/-- `load_balance`, with the clock sample and the answer of `balance_load_intelligent` (a migration count). -/
def loadBalance (now : UInt64) (migrate : Except KernelError Nat) (c : CoreScheduler) : CoreResult :=
  if !c.isRunning then (.ok (), c)
  else
    let c := c.countBalanceCall
    if now - c.lastBalanceTime < balanceIntervalNs c.config.loadBalance then (.ok (), c)
    else
      match migrate with
      | .error e => (.error e, c)
      | .ok m => (.ok (), c.recordBalance m now)

/-- A call counts no preemption and no context switch. -/
theorem loadBalance_counts (now : UInt64) (migrate : Except KernelError Nat) (c : CoreScheduler) :
    (loadBalance now migrate c).2.globalStats.preemptions = c.globalStats.preemptions ∧
    (loadBalance now migrate c).2.globalStats.contextSwitches = c.globalStats.contextSwitches := by
  unfold loadBalance
  dsimp only
  repeat' split
  all_goals exact ⟨rfl, rfl⟩

/-! ## Moving one task -/

/-- The answers of `migrate_task`'s collaborators for one task: `can_migrate_to`, the CPUs of its `cpu_affinity`,
and the migration engine's `migrate_task_safe`. -/
structure MigrateEnv where
  canMigrateTo : CpuId → Except KernelError Bool
  cpuAffinity : List CpuId
  migrateTaskSafe : CpuId → Except KernelError Unit

/-- `global_stats.migrations.fetch_add(1)`. -/
def CoreScheduler.countMigration (c : CoreScheduler) : CoreScheduler :=
  { c with globalStats := { c.globalStats with migrations := c.globalStats.migrations + 1 } }

/-- `migrate_task`. It does not look at the scheduler's state. -/
def migrateTask (env : MigrateEnv) (targetCpu : CpuId) (c : CoreScheduler) : CoreResult :=
  match env.canMigrateTo targetCpu with
  | .error e => (.error e, c)
  | .ok false => (.error .migrationNotAllowed, c)
  | .ok true =>
    if !env.cpuAffinity.contains targetCpu then (.error .affinityViolation, c)
    else
      match env.migrateTaskSafe targetCpu with
      | .error e => (.error e, c)
      | .ok () => (.ok (), c.countMigration)

section Migrate

variable {env : MigrateEnv} {cpu : CpuId} {c : CoreScheduler}

/-- **A migration that returns `Ok` respects the affinity**: `can_migrate_to` allowed it, the target is in the
task's affinity, the migration engine moved the task, and one migration is counted. -/
theorem migrateTask_ok (h : (migrateTask env cpu c).1 = .ok ()) :
    env.canMigrateTo cpu = .ok true ∧ cpu ∈ env.cpuAffinity ∧ env.migrateTaskSafe cpu = .ok () ∧
      (migrateTask env cpu c).2 = c.countMigration := by
  unfold migrateTask at h ⊢
  rcases hm : env.canMigrateTo cpu with e | _ | _ <;> simp only [hm] at h
  · cases h
  · cases h
  by_cases ha : env.cpuAffinity.contains cpu = true <;> simp only [ha, Bool.not_true, Bool.not_false] at h
  · rcases hs : env.migrateTaskSafe cpu with e | _ <;> simp only [hs] at h
    · cases h
    · simp [ha, hs, List.elem_iff.mp ha]
  · cases h

/-- A rejected or failed migration changes nothing. -/
theorem migrateTask_error {e : KernelError} (h : (migrateTask env cpu c).1 = .error e) :
    (migrateTask env cpu c).2 = c := by
  unfold migrateTask at h ⊢
  repeat' split at h
  all_goals simp_all

end Migrate

/-! ## Interleaved calls -/

/-- `load_balance` as an interval gate: entered only while `Running`, counting a call; the stamp is
`last_balance_time` and the interval `balance_interval * 1_000_000`; the pass is `balance_load_intelligent`, whose
migration count the store adds to `migrations` as it stores the sample. -/
def balanceHooks : Gate.GateHooks CoreScheduler (Except KernelError Nat) Nat where
  enter c := c.isRunning
  onEnter c := c.countBalanceCall
  stamp c := c.lastBalanceTime
  interval c := balanceIntervalNs c.config.loadBalance
  act migrate _ c :=
    match migrate with
    | .error _ => none
    | .ok m => some (m, c)
  store m now c := c.recordBalance m now
  stamp_onEnter _ := rfl
  stamp_act {migrate} _ _ _ _ h := by
    cases migrate with
    | error e => cases h
    | ok m => cases h; rfl
  stamp_store _ _ _ := rfl

/-- **`load_balance` is the gate's sequential call.** -/
theorem loadBalance_eq_call (now : UInt64) (migrate : Except KernelError Nat) (c : CoreScheduler) :
    (loadBalance now migrate c).2 = balanceHooks.call migrate now c := by
  unfold loadBalance Gate.GateHooks.call
  dsimp only [balanceHooks]
  split
  · rfl
  split
  · rfl
  cases migrate <;> rfl

/-- CPUs running `load_balance` on one scheduler, one step of a call an atomic step. -/
abbrev BalanceSystem := Gate.GateSystem balanceHooks

open Gate Gate.GateSystem

/-- **Serial schedules never underflow**: when each call of `load_balance` runs to its end before the next
begins, every CPU is idle between calls and no check subtracts a later stamp from an earlier sample. -/
theorem BalanceSystem.serial_no_underflow {s : BalanceSystem} (hq : Quiescent s)
    (es : List (SerialEvent (Except KernelError Nat))) :
    Quiescent (s.run (es.flatMap SerialEvent.events)) ∧
      (s.run (es.flatMap SerialEvent.events)).underflows = s.underflows :=
  have h := serial_run (P := fun _ => True) (fun _ _ _ _ _ => trivial) hq trivial es
  ⟨h.1, h.2.2⟩

/-- A running scheduler with configuration `config` and no tasks of interest. -/
def runningCore (config : SchedulerConfig) : CoreScheduler :=
  { CoreScheduler.withConfig config (fun _ => ⟨.created, .normal, 0, 0⟩) with state := .running }

/-- Two CPUs balancing one after the other, 200 ms apart, log no underflow. -/
theorem serial_balances_no_underflow :
    Quiescent (initial balanceHooks (runningCore {}) 200000000) ∧
    Quiescent ((initial balanceHooks (runningCore {}) 200000000).run
      ([.call 0 (.ok 1), .tick 400000000, .call 1 (.ok 0)].flatMap SerialEvent.events)) ∧
    ((initial balanceHooks (runningCore {}) 200000000).run
      ([.call 0 (.ok 1), .tick 400000000, .call 1 (.ok 0)].flatMap SerialEvent.events)).underflows =
      (initial balanceHooks (runningCore {}) 200000000).underflows :=
  have hq : Quiescent (initial balanceHooks (runningCore {}) 200000000) := ⟨fun _ => rfl, by decide⟩
  ⟨hq, BalanceSystem.serial_no_underflow hq _⟩

/-- The gate at its failing inputs (the clock in nanoseconds, the default interval 100 ms): two CPUs that both
load the old stamp both balance at 200 ms; a CPU sampling the clock at 200 ms loads the stamp 400 ms another CPU
stored, underflows, and balances at 400 ms right after it; at 100 Hz, 100 ticks are one second but passes run
100 ms apart; and an interval of 18446744073709552 ticks wraps to 384 µs. -/
theorem load_balance_gate_fails :
    ((initial balanceHooks (runningCore {}) 200000000).run
      [.start 0, .start 1, .load 0, .load 1, .check 0, .check 1, .act 0 (.ok 0), .act 1 (.ok 0)]).passes =
      [200000000, 200000000] ∧
    ((initial balanceHooks (runningCore {}) 200000000).run
      ([.start 0, .tick 400000000] ++ call 1 (.ok 0) ++ [.load 0, .check 0, .act 0 (.ok 0)])).underflows =
      [(200000000, 400000000)] ∧
    ((initial balanceHooks (runningCore {}) 200000000).run
      ([.start 0, .tick 400000000] ++ call 1 (.ok 0) ++ [.load 0, .check 0, .act 0 (.ok 0)])).passes =
      [400000000, 400000000] ∧
    ((initial balanceHooks (runningCore { tickFrequency := 100 }) 200000000).run
      (call 0 (.ok 0) ++ [.tick 300000000] ++ call 0 (.ok 0))).passes = [200000000, 300000000] ∧
    balanceIntervalNs { balanceInterval := 18446744073709552 } = 384000 :=
  ⟨rfl, rfl, rfl, rfl, rfl⟩

end LightKernel.Core
