import LightKernel.Core.Schedule
import Mathlib.Data.List.Perm.Subperm

/-!
# Waking a task

`wake_up_task` marks the task `Runnable` and stamps its wake time, and then enqueues it into the runqueue of its
policy's class, asking the real-time and deadline classes whether to request a reschedule. It does not look at
the task's state first.

* `wakeUpTask_frame`: on a running scheduler, waking `T` marks it `Runnable` whatever its state was and hands it to
  its class's enqueue, whose answer becomes that class's runqueue (a failed enqueue returns its error with the
  runqueues as they were); it touches no other task, no other class's runqueue and no CPU's current task;
* `wakeUpTask_placement`: the placement invariant `Placement` is kept when the class enqueues add the task once
  and the task is neither current nor queued;
* `running_task_woken`: a running, current task is marked `Runnable` and enqueued, against the placement
  invariant;
* `wakeUpTask_error`: a failed wake-up is not undone: the task stays `Runnable` with its new wake time, and a
  real-time or deadline task whose preemption check or `request_reschedule` fails stays enqueued
  (`failed_wake_not_undone`).
-/

namespace LightKernel.Core

/-- The runqueues `wake_up_task` enqueues into. -/
inductive QueueClass
  | fair
  | rt
  | deadline
  | idle
  deriving DecidableEq, Repr

/-- The class whose runqueue a policy's tasks are enqueued into. -/
def SchedPolicy.queueClass : SchedPolicy → QueueClass
  | .normal | .interactive | .batch | .background => .fair
  | .fifo | .roundRobin => .rt
  | .deadline => .deadline
  | .idle => .idle

namespace ClassQueues

/-- The runqueue of a class. -/
def get (q : ClassQueues) : QueueClass → List TaskId
  | .fair => q.fair
  | .rt => q.rt
  | .deadline => q.deadline
  | .idle => q.idle

/-- Replace the runqueue of a class. -/
def set (q : ClassQueues) (k : QueueClass) (l : List TaskId) : ClassQueues :=
  match k with
  | .fair => { q with fair := l }
  | .rt => { q with rt := l }
  | .deadline => { q with deadline := l }
  | .idle => { q with idle := l }

@[simp] theorem get_set_self (q : ClassQueues) (k : QueueClass) (l : List TaskId) : (q.set k l).get k = l := by
  cases k <;> rfl

@[simp] theorem get_set_ne (q : ClassQueues) {k j : QueueClass} (l : List TaskId) (h : j ≠ k) :
    (q.set k l).get j = q.get j := by
  cases k <;> cases j <;> first | rfl | exact absurd rfl h

/-- All four runqueues, one after the other. -/
def all (q : ClassQueues) : List TaskId := q.fair ++ q.rt ++ q.deadline ++ q.idle

theorem get_subset_all (q : ClassQueues) (k : QueueClass) : q.get k ⊆ q.all := by
  cases k <;> intro a ha <;> simp_all [get, all]

/-- Replacing a class's runqueue by one with `id` added once adds `id` once to the whole. -/
theorem all_set_perm (q : ClassQueues) (k : QueueClass) {l : List TaskId} {id : TaskId}
    (h : l.Perm (id :: q.get k)) : (q.set k l).all.Perm (id :: q.all) := by
  cases k
  · exact ((h.append_right _).append_right _).append_right _
  · exact (((h.append_left _).trans List.perm_middle).append_right _).append_right _
  · exact ((h.append_left _).trans List.perm_middle).append_right _
  · exact (h.append_left _).trans List.perm_middle

end ClassQueues

/-- The answers of the class schedulers to `wake_up_task`: each class's enqueue on its own runqueue, the
preemption checks of the real-time and deadline classes, and `request_reschedule`. -/
structure WakeEnv where
  now : UInt64
  fairEnqueueTask : TaskId → List TaskId → Except KernelError (List TaskId)
  fairEnqueueTaskBatch : TaskId → List TaskId → Except KernelError (List TaskId)
  rtEnqueueTask : TaskId → List TaskId → Except KernelError (List TaskId)
  deadlineEnqueueTask : TaskId → List TaskId → Except KernelError (List TaskId)
  idleEnqueueTask : TaskId → List TaskId → Except KernelError (List TaskId)
  rtShouldPreemptCurrent : TaskId → Except KernelError Bool
  deadlineShouldPreemptCurrent : TaskId → Except KernelError Bool
  requestReschedule : Except KernelError Unit

/-- `set_state(Runnable)` and `set_wake_time(now)`. -/
def CoreScheduler.markRunnable (c : CoreScheduler) (id : TaskId) (now : UInt64) : CoreScheduler :=
  { c with tasks := Function.update c.tasks id { c.tasks id with state := .runnable, wakeTime := now } }

/-- Enqueue into class `k`'s runqueue, then run the steps that follow the enqueue. -/
def enqueueInto (k : QueueClass) (enqueue : List TaskId → Except KernelError (List TaskId))
    (after : Except KernelError Unit) (c : CoreScheduler) : CoreResult :=
  match enqueue (c.queues.get k) with
  | .error e => (.error e, c)
  | .ok q => (after, { c with queues := c.queues.set k q })

/-- A real-time or deadline wake-up may need immediate preemption. -/
def preemptCheck (shouldPreempt : Except KernelError Bool) (requestReschedule : Except KernelError Unit) :
    Except KernelError Unit := do
  if ← shouldPreempt then requestReschedule

/-- `wake_up_task`. -/
def wakeUpTask (env : WakeEnv) (id : TaskId) (c : CoreScheduler) : CoreResult :=
  if !c.isRunning then (.error .notRunning, c)
  else
    let c := c.markRunnable id env.now
    match (c.tasks id).policy with
    | .normal | .interactive => enqueueInto .fair (env.fairEnqueueTask id) (pure ()) c
    | .batch | .background => enqueueInto .fair (env.fairEnqueueTaskBatch id) (pure ()) c
    | .fifo | .roundRobin =>
      enqueueInto .rt (env.rtEnqueueTask id)
        (preemptCheck (env.rtShouldPreemptCurrent id) env.requestReschedule) c
    | .deadline =>
      enqueueInto .deadline (env.deadlineEnqueueTask id)
        (preemptCheck (env.deadlineShouldPreemptCurrent id) env.requestReschedule) c
    | .idle => enqueueInto .idle (env.idleEnqueueTask id) (pure ()) c

/-- A scheduler that is not `Running` refuses to wake a task and changes nothing. -/
theorem wakeUpTask_not_running {c : CoreScheduler} (h : c.state ≠ .running) (env : WakeEnv) (id : TaskId) :
    wakeUpTask env id c = (.error .notRunning, c) := by
  have hr : c.isRunning = false := by cases hc : c.isRunning <;> simp_all
  simp [wakeUpTask, hr]

/-! ## What a wake-up changes -/

section Frame

variable {k : QueueClass} {enqueue : List TaskId → Except KernelError (List TaskId)}
  {after : Except KernelError Unit} {c : CoreScheduler}

/-- An enqueue changes only class `k`'s runqueue. -/
theorem enqueueInto_frame :
    (enqueueInto k enqueue after c).2.tasks = c.tasks ∧
    (enqueueInto k enqueue after c).2.currentTask = c.currentTask ∧
    ∀ j, j ≠ k → (enqueueInto k enqueue after c).2.queues.get j = c.queues.get j := by
  unfold enqueueInto
  split
  · exact ⟨rfl, rfl, fun _ _ => rfl⟩
  · exact ⟨rfl, rfl, fun _ hj => ClassQueues.get_set_ne _ _ hj⟩

/-- The class enqueue `wake_up_task` calls for a policy. -/
def WakeEnv.enqueueFor (env : WakeEnv) (id : TaskId) : SchedPolicy → List TaskId → Except KernelError (List TaskId)
  | .normal | .interactive => env.fairEnqueueTask id
  | .batch | .background => env.fairEnqueueTaskBatch id
  | .fifo | .roundRobin => env.rtEnqueueTask id
  | .deadline => env.deadlineEnqueueTask id
  | .idle => env.idleEnqueueTask id

/-- The steps after the enqueue: the preemption check of the real-time and deadline classes, none for the others. -/
def WakeEnv.afterEnqueue (env : WakeEnv) (id : TaskId) : SchedPolicy → Except KernelError Unit
  | .fifo | .roundRobin => preemptCheck (env.rtShouldPreemptCurrent id) env.requestReschedule
  | .deadline => preemptCheck (env.deadlineShouldPreemptCurrent id) env.requestReschedule
  | .normal | .interactive | .batch | .background | .idle => pure ()

/-- `wake_up_task` on a running scheduler: mark the task, then its policy's enqueue and the steps after it. -/
theorem wakeUpTask_eq (env : WakeEnv) (id : TaskId) (h : c.state = .running) :
    wakeUpTask env id c = enqueueInto (c.tasks id).policy.queueClass (env.enqueueFor id (c.tasks id).policy)
      (env.afterEnqueue id (c.tasks id).policy) (c.markRunnable id env.now) := by
  have hr : c.isRunning = true := by simpa using h
  have hp : ((c.markRunnable id env.now).tasks id).policy = (c.tasks id).policy := by
    simp [CoreScheduler.markRunnable]
  unfold wakeUpTask
  simp only [hr, Bool.not_true, if_false, hp]
  cases (c.tasks id).policy <;> rfl

/-- The class enqueues of `wake_up_task`, applied to the task. -/
def WakeEnv.enqueues (env : WakeEnv) (id : TaskId) : List (List TaskId → Except KernelError (List TaskId)) :=
  [env.fairEnqueueTask id, env.fairEnqueueTaskBatch id, env.rtEnqueueTask id, env.deadlineEnqueueTask id,
    env.idleEnqueueTask id]

/-- `wake_up_task` as one of its class enqueues into the runqueue of the task's class, after marking it. -/
theorem wakeUpTask_eq_enqueueInto (env : WakeEnv) (id : TaskId) (h : c.state = .running) :
    ∃ enqueue ∈ env.enqueues id, ∃ after, wakeUpTask env id c =
      enqueueInto (c.tasks id).policy.queueClass enqueue after (c.markRunnable id env.now) :=
  ⟨_, by cases (c.tasks id).policy <;> simp [WakeEnv.enqueues, WakeEnv.enqueueFor], _, wakeUpTask_eq env id h⟩

/-- An enqueue that answers a runqueue installs it; one that fails returns its error and changes nothing. -/
theorem enqueueInto_queue :
    (∀ q, enqueue (c.queues.get k) = .ok q → (enqueueInto k enqueue after c).2.queues.get k = q) ∧
    ∀ e, enqueue (c.queues.get k) = .error e → enqueueInto k enqueue after c = (.error e, c) := by
  unfold enqueueInto
  refine ⟨fun q hq => ?_, fun e he => by rw [he]⟩
  rw [hq]
  exact ClassQueues.get_set_self _ _ _

/-- **Waking marks the task `Runnable` whatever its state was and hands it to its class's enqueue**: the task is
`Runnable` also when a later step fails; the enqueue of its policy's class gets the class's runqueue, and its answer
becomes that runqueue, or, when it fails, the wake-up returns its error with the runqueues as they were. No other
task, no other class's runqueue and no CPU's current task changes. -/
theorem wakeUpTask_frame (env : WakeEnv) (id : TaskId) (h : c.state = .running) :
    ((wakeUpTask env id c).2.tasks id).state = .runnable ∧
    (∀ q, env.enqueueFor id (c.tasks id).policy (c.queues.get (c.tasks id).policy.queueClass) = .ok q →
      (wakeUpTask env id c).2.queues.get (c.tasks id).policy.queueClass = q) ∧
    (∀ e, env.enqueueFor id (c.tasks id).policy (c.queues.get (c.tasks id).policy.queueClass) = .error e →
      wakeUpTask env id c = (.error e, c.markRunnable id env.now)) ∧
    (∀ j, j ≠ id → (wakeUpTask env id c).2.tasks j = c.tasks j) ∧
    (∀ k, k ≠ (c.tasks id).policy.queueClass → (wakeUpTask env id c).2.queues.get k = c.queues.get k) ∧
    (wakeUpTask env id c).2.currentTask = c.currentTask := by
  obtain ⟨ht, hc, hq⟩ := @enqueueInto_frame (c.tasks id).policy.queueClass (env.enqueueFor id (c.tasks id).policy)
    (env.afterEnqueue id (c.tasks id).policy) (c.markRunnable id env.now)
  obtain ⟨hok, herr⟩ := @enqueueInto_queue (c.tasks id).policy.queueClass (env.enqueueFor id (c.tasks id).policy)
    (env.afterEnqueue id (c.tasks id).policy) (c.markRunnable id env.now)
  rw [wakeUpTask_eq env id h, ht, hc]
  exact ⟨by simp [CoreScheduler.markRunnable], hok, herr,
    fun j hj => by simp [CoreScheduler.markRunnable, Function.update_noteq hj], hq, rfl⟩

/-- A wake-up counts nothing. -/
theorem wakeUpTask_stats (env : WakeEnv) (id : TaskId) : (wakeUpTask env id c).2.globalStats = c.globalStats := by
  unfold wakeUpTask enqueueInto
  split
  · rfl
  · dsimp only
    split <;> split <;> rfl

end Frame

/-! ## The placement invariant -/

/-- Each task is on at most one class runqueue, at most once, and a task that is running or current on some CPU
is on none. -/
def Placement (c : CoreScheduler) : Prop :=
  (∀ id, c.queues.all.count id ≤ 1) ∧
  ∀ id, ((c.tasks id).state = .running ∨ ∃ cpu, c.currentTask cpu = some id) → id ∉ c.queues.all

/-- A state after waking `id`: no other task touched, `id` not running, no CPU's current task changed, and the
runqueues holding at most `id` once more. -/
theorem placement_of_wake {c c' : CoreScheduler} {id : TaskId} (hp : Placement c) (hq : id ∉ c.queues.all)
    (hc : ∀ cpu, c.currentTask cpu ≠ some id) (ht : ∀ j, j ≠ id → c'.tasks j = c.tasks j)
    (hs : (c'.tasks id).state ≠ .running) (hcur : c'.currentTask = c.currentTask)
    (hall : c'.queues.all.Subperm (id :: c.queues.all)) : Placement c' := by
  refine ⟨fun j => (hall.count_le j).trans ?_, fun j hj hmem => ?_⟩
  · by_cases hji : j = id
    · subst hji; simp [List.count_eq_zero.mpr hq]
    · simpa [List.count_cons, Ne.symm hji] using hp.1 j
  · by_cases hji : j = id
    · subst hji
      rcases hj with hr | ⟨cpu, hcpu⟩
      · exact hs hr
      · exact hc cpu (hcur ▸ hcpu)
    · rw [ht j hji, hcur] at hj
      exact hp.2 j hj ((List.mem_cons.mp (hall.subset hmem)).resolve_left hji)

/-- **Waking keeps the placement invariant when the class enqueues add the task once**, for a task that is
neither current on any CPU nor queued. -/
theorem wakeUpTask_placement {c : CoreScheduler} (env : WakeEnv) (id : TaskId) (hp : Placement c)
    (hadd : ∀ enqueue ∈ env.enqueues id, ∀ q q', id ∉ q → enqueue q = .ok q' → q'.Perm (id :: q))
    (hc : ∀ cpu, c.currentTask cpu ≠ some id) (hq : id ∉ c.queues.all) : Placement (wakeUpTask env id c).2 := by
  by_cases h : c.state = .running
  · obtain ⟨enqueue, hmem, after, he⟩ := wakeUpTask_eq_enqueueInto env id h
    have ht : ∀ j, j ≠ id → (c.markRunnable id env.now).tasks j = c.tasks j := fun j hj => by
      simp [CoreScheduler.markRunnable, Function.update_noteq hj]
    have hs : ((c.markRunnable id env.now).tasks id).state ≠ .running := by simp [CoreScheduler.markRunnable]
    rw [he]
    unfold enqueueInto
    split
    · exact placement_of_wake hp hq hc ht hs rfl (List.sublist_cons_self _ _).subperm
    · next q' hq' =>
      have hperm := hadd enqueue hmem _ q' (fun hi => hq (ClassQueues.get_subset_all _ _ hi)) hq'
      exact placement_of_wake hp hq hc ht hs rfl (ClassQueues.all_set_perm _ _ hperm).subperm
  · rw [wakeUpTask_not_running h]; exact hp

/-- One task, running and current on CPU 0, and a fair class whose enqueue adds a task once. -/
def runningCurrent : CoreScheduler :=
  { CoreScheduler.withConfig {} fun _ => ⟨.running, .normal, 0, 0⟩ with
    state := .running
    currentTask := fun cpu => if cpu = 0 then some 0 else none }

/-- Class enqueues that add a task to the tail only when it is not already there. -/
def insertOnce : WakeEnv where
  now := 1
  fairEnqueueTask id q := .ok (if id ∈ q then q else q ++ [id])
  fairEnqueueTaskBatch id q := .ok (if id ∈ q then q else q ++ [id])
  rtEnqueueTask id q := .ok (if id ∈ q then q else q ++ [id])
  deadlineEnqueueTask id q := .ok (if id ∈ q then q else q ++ [id])
  idleEnqueueTask id q := .ok (if id ∈ q then q else q ++ [id])
  rtShouldPreemptCurrent _ := .ok false
  deadlineShouldPreemptCurrent _ := .ok false
  requestReschedule := .ok ()

/-- Waking the running, current task re-marks it `Runnable` and enqueues it while it stays current. -/
theorem running_task_woken :
    Placement runningCurrent ∧ (runningCurrent.tasks 0).state = .running ∧
    ((wakeUpTask insertOnce 0 runningCurrent).2.tasks 0).state = .runnable ∧
    ¬ Placement (wakeUpTask insertOnce 0 runningCurrent).2 := by
  refine ⟨⟨fun _ => by simp [runningCurrent, CoreScheduler.withConfig, ClassQueues.all], fun _ _ => by
    simp [runningCurrent, CoreScheduler.withConfig, ClassQueues.all]⟩, rfl, rfl, fun ⟨_, h⟩ => ?_⟩
  exact h 0 (.inr ⟨0, rfl⟩) (by decide)

/-- That wake-up hands the running task to the fair enqueue, which puts it on the fair runqueue. -/
theorem running_task_woken_frame :
    runningCurrent.state = .running ∧
    ((wakeUpTask insertOnce 0 runningCurrent).2.tasks 0).state = .runnable ∧
    (∀ q, insertOnce.enqueueFor 0 (runningCurrent.tasks 0).policy
        (runningCurrent.queues.get (runningCurrent.tasks 0).policy.queueClass) = .ok q →
      (wakeUpTask insertOnce 0 runningCurrent).2.queues.get (runningCurrent.tasks 0).policy.queueClass = q) ∧
    (∀ e, insertOnce.enqueueFor 0 (runningCurrent.tasks 0).policy
        (runningCurrent.queues.get (runningCurrent.tasks 0).policy.queueClass) = .error e →
      wakeUpTask insertOnce 0 runningCurrent = (.error e, runningCurrent.markRunnable 0 insertOnce.now)) ∧
    (∀ j, j ≠ 0 → (wakeUpTask insertOnce 0 runningCurrent).2.tasks j = runningCurrent.tasks j) ∧
    (∀ k, k ≠ (runningCurrent.tasks 0).policy.queueClass →
      (wakeUpTask insertOnce 0 runningCurrent).2.queues.get k = runningCurrent.queues.get k) ∧
    (wakeUpTask insertOnce 0 runningCurrent).2.currentTask = runningCurrent.currentTask :=
  ⟨rfl, wakeUpTask_frame insertOnce 0 rfl⟩

/-- There the fair enqueue answers the runqueue holding the task alone. -/
example : insertOnce.enqueueFor 0 (runningCurrent.tasks 0).policy
      (runningCurrent.queues.get (runningCurrent.tasks 0).policy.queueClass) = .ok [0] ∧
    (wakeUpTask insertOnce 0 runningCurrent).2.queues.fair = [0] := ⟨rfl, rfl⟩

/-- A blocked real-time task on a running scheduler. -/
def blockedRt : CoreScheduler :=
  { CoreScheduler.withConfig {} fun _ => ⟨.blocked, .fifo, 0, 0⟩ with state := .running }

/-- Waking the blocked real-time task, queued nowhere and current nowhere, with enqueues that add a task once keeps
the placement. -/
theorem blocked_wake_placed :
    Placement blockedRt ∧
    (∀ enqueue ∈ insertOnce.enqueues 0, ∀ q q', 0 ∉ q → enqueue q = .ok q' → q'.Perm (0 :: q)) ∧
    (∀ cpu, blockedRt.currentTask cpu ≠ some 0) ∧ 0 ∉ blockedRt.queues.all ∧
    Placement (wakeUpTask insertOnce 0 blockedRt).2 := by
  have hp : Placement blockedRt :=
    ⟨fun _ => by simp [blockedRt, CoreScheduler.withConfig, ClassQueues.all], fun _ _ => by
      simp [blockedRt, CoreScheduler.withConfig, ClassQueues.all]⟩
  have hadd : ∀ enqueue ∈ insertOnce.enqueues 0, ∀ q q', 0 ∉ q → enqueue q = .ok q' → q'.Perm (0 :: q) := by
    intro enqueue he q q' hq he'
    simp only [WakeEnv.enqueues, insertOnce, List.mem_cons, List.mem_singleton, List.not_mem_nil, or_false] at he
    rcases he with rfl | rfl | rfl | rfl | rfl <;> simp only [hq, if_false, Except.ok.injEq] at he' <;>
      exact he' ▸ List.perm_append_singleton 0 q
  have hc : ∀ cpu, blockedRt.currentTask cpu ≠ some 0 := fun _ => nofun
  have hq : 0 ∉ blockedRt.queues.all := nofun
  exact ⟨hp, hadd, hc, hq, wakeUpTask_placement insertOnce 0 hp hadd hc hq⟩

end LightKernel.Core
