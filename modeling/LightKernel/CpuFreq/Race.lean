import LightKernel.CpuFreq.Runs
import LightKernel.CpuIdle.Basic
import LightKernel.Gate

/-!
# Concurrent calls into the power-management modules

`set_frequency` loads `LAST_FREQ_CHANGE`, checks the rate limit, calls the driver, and only then stores its clock
sample; the drivers' initialisations load `INITIALIZED` and store it only after installing a driver. Every caller
of `set_frequency` (`scale_frequency_intelligent`, `restore_default_frequency`, `shutdown`, the mode setters) enters
it the same way, so `FreqSystem`, the interval gate of `Gate.lean` at `freqHooks`, runs `set_frequency` on several
CPUs at once, one event an atomic step.

* `setFrequency_eq_call`: `set_frequency` is the gate's sequential call, so one CPU alone is the sequential
  `setFrequency` (`Gate.GateSystem.serial_call_eq`);
* `serial_rateLimited`: schedules in which each call runs to its end before the next begins keep the rate limit;
* `rate_limit_races`: two CPUs both change the frequency at the same instant, and a stale clock sample underflows
  (`Gate.GateSystem.step_check_stale`);
* `drivers_installed_twice`: two concurrent initialisations both install a driver, in either module.
-/

namespace LightKernel.CpuFreq

open CpuFreqState

/-- `set_frequency` as an interval gate: entered only while `INITIALIZED` is set; the stamp is `LAST_FREQ_CHANGE`
and the interval `FREQ_CHANGE_MIN_INTERVAL_US`; the action, given the requested frequency and the driver's answers,
is the range, availability and thermal checks followed by the driver's `set_frequency`; the store is that of
`LAST_FREQ_CHANGE`. -/
def freqHooks : Gate.GateHooks CpuFreqState (UInt64 × FreqDriver) Unit where
  enter s := s.initialized
  onEnter s := s
  stamp s := s.lastFreqChange
  interval _ := freqChangeMinIntervalUs
  act request now s :=
    match s.validateFrequency request.2 request.1, request.2.setFrequency request.1 with
    | .ok (), .ok () => some ((), s.issue (.setFrequency request.1 now))
    | _, _ => none
  store _ now s := { s with lastFreqChange := now }
  stamp_onEnter _ := rfl
  stamp_act h := by
    dsimp only at h
    split at h
    · cases h; rfl
    · cases h
  stamp_store _ _ _ := rfl

/-- **`set_frequency` is the gate's sequential call.** -/
theorem setFrequency_eq_call (d : FreqDriver) (now frequency : UInt64) (s : CpuFreqState) :
    (s.setFrequency d now frequency).2 = freqHooks.call (frequency, d) now s := by
  unfold setFrequency changeFrequency Gate.GateHooks.call
  dsimp only [freqHooks]
  cases hi : s.initialized
  · simp [ensureInitialized, hi, bind, Except.bind]
  by_cases hg : now - s.lastFreqChange < freqChangeMinIntervalUs
  · simp [ensureInitialized, rateLimit, hi, hg, bind, Except.bind]
  rcases hv : s.validateFrequency d frequency with e | _ <;> rcases hd : d.setFrequency frequency with e' | _ <;>
    simp [ensureInitialized, rateLimit, hi, hg, hv, hd, bind, Except.bind]

/-- CPUs running `set_frequency` on the module, one step of a call an atomic step. -/
abbrev FreqSystem := Gate.GateSystem freqHooks

open Gate Gate.GateSystem

/-- The sequential call keeps the rate limit from a stamp not after its sample. -/
theorem call_rateLimited (request : UInt64 × FreqDriver) {now : UInt64} {s : CpuFreqState}
    (hle : s.lastFreqChange ≤ now) (hs : s.RateLimited) : (freqHooks.call request now s).RateLimited := by
  rw [← setFrequency_eq_call]
  exact hs.of_changesAt setFrequency_changesAt fun _ hn => Option.mem_some_iff.mp hn ▸ hle

/-- **Serial schedules keep the rate limit**: when each call of `set_frequency` runs to its end before the next
begins, from a quiescent system whose module keeps the rate limit, the changes the driver accepts stay
`FREQ_CHANGE_MIN_INTERVAL_US` apart and every CPU is idle between calls. -/
theorem serial_rateLimited {s : FreqSystem} (hq : Quiescent s) (hr : s.shared.RateLimited)
    (es : List (SerialEvent (UInt64 × FreqDriver))) :
    Quiescent (s.run (es.flatMap SerialEvent.events)) ∧ (s.run (es.flatMap SerialEvent.events)).shared.RateLimited :=
  have h := serial_run (P := RateLimited) (fun request _ _ hle hs => call_rateLimited request hle hs) hq hr es
  ⟨h.1, h.2.1⟩

/-- A driver that offers 1 GHz, reports no temperature, and accepts every change. -/
def oneGigahertz : FreqDriver where
  currentFrequency := .ok 800000000
  availableFrequencies := .ok [1000000000]
  thermalInfo := .error (.driver 0)
  defaultFrequency := .ok 1000000000
  setFrequency _ := .ok ()
  setGovernor _ := .ok ()
  shutdown := .ok ()

/-- Two CPUs that change the frequency one after the other, 20 ms apart, keep the rate limit. -/
theorem serial_changes_rateLimited :
    Quiescent (initial freqHooks (CpuFreqState.initial.initWithConfig (.ok ())).2 20000) ∧
    (initial freqHooks (CpuFreqState.initial.initWithConfig (.ok ())).2 20000).shared.RateLimited ∧
    Quiescent ((initial freqHooks (CpuFreqState.initial.initWithConfig (.ok ())).2 20000).run
      ([.call 0 (1000000000, oneGigahertz), .tick 40000, .call 1 (1000000000, oneGigahertz)].flatMap
        SerialEvent.events)) ∧
    ((initial freqHooks (CpuFreqState.initial.initWithConfig (.ok ())).2 20000).run
      ([.call 0 (1000000000, oneGigahertz), .tick 40000, .call 1 (1000000000, oneGigahertz)].flatMap
        SerialEvent.events)).shared.RateLimited :=
  have hq : Quiescent (initial freqHooks (CpuFreqState.initial.initWithConfig (.ok ())).2 20000) :=
    ⟨fun _ => rfl, by decide⟩
  have hr : (initial freqHooks (CpuFreqState.initial.initWithConfig (.ok ())).2 20000).shared.RateLimited :=
    ⟨List.chain'_nil, nofun⟩
  ⟨hq, hr, serial_rateLimited hq hr _⟩

/-- Calls at 20 ms and 40 ms after initialisation keep the rate limit. -/
theorem sorted_calls_rateLimited :
    (([.initWithConfig (.ok ()), .setFrequency oneGigahertz 20000 1000000000, .setGovernor oneGigahertz .performance,
        .scaleFrequencyIntelligent oneGigahertz 40000 50 1000] : List FreqOp).filterMap FreqOp.time?).Pairwise
        (· ≤ ·) ∧
    CpuFreqState.RateLimited (CpuFreqState.initial.run [.initWithConfig (.ok ()),
      .setFrequency oneGigahertz 20000 1000000000, .setGovernor oneGigahertz .performance,
      .scaleFrequencyIntelligent oneGigahertz 40000 50 1000]) :=
  have hs : (([.initWithConfig (.ok ()), .setFrequency oneGigahertz 20000 1000000000,
      .setGovernor oneGigahertz .performance, .scaleFrequencyIntelligent oneGigahertz 40000 50 1000] : List FreqOp).filterMap
        FreqOp.time?).Pairwise (· ≤ ·) := by decide
  ⟨hs, CpuFreqState.initial_run_rateLimited hs⟩

/-- The rate limit at its failing inputs (the clock in µs, the module just initialised): two CPUs that both load
the initial stamp both change the frequency at 20 ms; a CPU that sampled the clock at 20 ms loads the stamp 40 ms
another CPU stored, underflows, and changes the frequency again at 40 ms. -/
theorem rate_limit_races :
    ((initial freqHooks (CpuFreqState.initial.initWithConfig (.ok ())).2 20000).run
      [.start 0, .start 1, .load 0, .load 1, .check 0, .check 1,
        .act 0 (1000000000, oneGigahertz), .act 1 (1000000000, oneGigahertz)]).shared.changeTimes = [20000, 20000] ∧
    ((initial freqHooks (CpuFreqState.initial.initWithConfig (.ok ())).2 20000).run
      ([.start 0, .tick 40000] ++ call 1 (1000000000, oneGigahertz) ++
        [.load 0, .check 0, .act 0 (1000000000, oneGigahertz)])).underflows = [(20000, 40000)] ∧
    ((initial freqHooks (CpuFreqState.initial.initWithConfig (.ok ())).2 20000).run
      ([.start 0, .tick 40000] ++ call 1 (1000000000, oneGigahertz) ++
        [.load 0, .check 0, .act 0 (1000000000, oneGigahertz)])).shared.changeTimes = [40000, 40000] :=
  ⟨rfl, rfl, rfl⟩

/-- Two callers that both load `INITIALIZED` before either stores it both create and install a driver, in the
frequency module and in the idle module alike. -/
theorem drivers_installed_twice :
    ((⟨CpuFreqState.initial, fun _ => .idle⟩ : Driver.InitSystem CpuFreqState).run CpuFreqState.hooks
      ([.load 0, .load 1, .create 0 (.ok ()), .create 1 (.ok ()), .install 0, .install 1, .store 0, .store 1] :
        List (Driver.InitEvent CpuFreqImplError))).module.commands = [.setImpl, .setImpl] ∧
    ((⟨CpuIdle.CpuIdleState.initial, fun _ => .idle⟩ : Driver.InitSystem CpuIdle.CpuIdleState).run
      CpuIdle.CpuIdleState.hooks
      ([.load 0, .load 1, .create 0 (.ok ()), .create 1 (.ok ()), .install 0, .install 1, .store 0, .store 1] :
        List (Driver.InitEvent CpuIdle.CpuIdleImplError))).module.commands = [.setImpl, .setImpl] :=
  ⟨rfl, rfl⟩

end LightKernel.CpuFreq
