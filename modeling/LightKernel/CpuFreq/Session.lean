import LightKernel.CpuFreq.Runs
import Mathlib.Logic.Relation

/-!
# The driver's sessions

The frequency module changes its state only by commands the driver accepts, each in its turn (`Accepts`): a driver
is installed (`CpuFreq::set_impl`) only while none is; frequencies and governors go to it only while one is, and a
frequency only once `set_frequency` has checked it against `MIN_SAFE_FREQUENCY..=MAX_SAFE_FREQUENCY`; a driver
`shutdown` that succeeds ends the session. Every call is a sequence of such commands (`step_accepts`):
`scale_frequency_intelligent`, the mode setters, `restore_default_frequency` and `shutdown` all reach the driver's
`set_frequency` through `set_frequency`.

* `session`: where a log of accepted commands leaves the driver, from none installed; `none` once a command came out
  of turn;
* `run_inSession`: from the start, along every run, the accepted commands follow the sessions and `INITIALIZED` says
  whether a driver is installed;
* `run_safeFrequencies`: every frequency the driver accepted lies in the safe range.
-/

namespace LightKernel.CpuFreq

open Relation

/-- The driver after one more accepted command: installed (`true`) or not (`false`); `none` for a command out of
turn. -/
def FreqCommand.next : FreqCommand → Bool → Option Bool
  | .setImpl, false => some true
  | .setFrequency _ _, true | .setGovernor _, true => some true
  | .shutdown, true => some false
  | _, _ => none

/-- Where a log of accepted commands leaves the driver, from none installed. -/
def session (cs : List FreqCommand) : Option Bool := cs.foldlM (fun b c => c.next b) false

theorem session_append (cs : List FreqCommand) (c : FreqCommand) :
    session (cs ++ [c]) = (session cs).bind c.next := by
  simp only [session, List.foldlM_append, List.foldlM_cons, List.foldlM_nil]
  cases cs.foldlM (fun b c => c.next b) false <;> simp [Option.bind_eq_bind]

namespace CpuFreqState

/-- One command the driver accepts, in its turn, and the module state it leaves. -/
inductive Accepts : CpuFreqState → CpuFreqState → Prop
  | setImpl {s : CpuFreqState} (h : s.initialized = false) :
      Accepts s { s.issue .setImpl with initialized := true }
  | setFrequency {s : CpuFreqState} {frequency : UInt64} (now : UInt64) (h : s.initialized = true)
      (hmin : minSafeFrequency ≤ frequency) (hmax : frequency ≤ maxSafeFrequency) :
      Accepts s { s.issue (.setFrequency frequency now) with lastFreqChange := now }
  | setGovernor {s : CpuFreqState} (governor : Governor) (h : s.initialized = true) :
      Accepts s (s.issue (.setGovernor governor))
  | shutdown {s : CpuFreqState} (h : s.initialized = true) :
      Accepts s { s.issue .shutdown with initialized := false }

/-- A property that every accepted command keeps holds after every sequence of them. -/
theorem accepts_preserves {P : CpuFreqState → Prop} (hP : ∀ {s s'}, Accepts s s' → P s → P s')
    {s s' : CpuFreqState} (h : ReflTransGen Accepts s s') (hs : P s) : P s' := by
  induction h with
  | refl => exact hs
  | tail _ hab ih => exact hP hab ih

section Calls

variable {s : CpuFreqState} {d : FreqDriver} {now frequency : UInt64}

/-- The range check of `set_frequency`, passed. -/
theorem validateFrequency_range (h : s.validateFrequency d frequency = .ok ()) :
    minSafeFrequency ≤ frequency ∧ frequency ≤ maxSafeFrequency := by
  unfold validateFrequency at h
  by_cases hr : (frequency < minSafeFrequency || frequency > maxSafeFrequency) = true
  · simp only [hr, if_true] at h; cases h
  · simp only [Bool.or_eq_true, decide_eq_true_eq, gt_iff_lt, not_or, uint64_lt_iff] at hr
    exact ⟨uint64_le_iff.mpr (by omega), uint64_le_iff.mpr (by omega)⟩

/-- What a `set_frequency` that reaches the driver has checked. -/
theorem setFrequency_checks
    (h : (do s.ensureInitialized; rateLimit now s.lastFreqChange; s.validateFrequency d frequency) = .ok ()) :
    s.initialized = true ∧ minSafeFrequency ≤ frequency ∧ frequency ≤ maxSafeFrequency := by
  rcases h1 : s.ensureInitialized with _ | _ <;> rcases h2 : rateLimit now s.lastFreqChange with _ | _ <;>
    simp only [h1, h2, bind, Except.bind] at h <;> try cases h
  refine ⟨?_, validateFrequency_range h⟩
  unfold ensureInitialized at h1; split at h1
  · assumption
  · cases h1

theorem setFrequency_accepts : ReflTransGen Accepts s (s.setFrequency d now frequency).2 := by
  unfold setFrequency
  split
  · exact .refl
  · next h =>
    obtain ⟨hi, hmin, hmax⟩ := setFrequency_checks h
    unfold changeFrequency
    split
    · exact .refl
    · exact .single (.setFrequency now hi hmin hmax)

@[simp] theorem setFrequency_initialized : (s.setFrequency d now frequency).2.initialized = s.initialized := by
  unfold setFrequency; split
  · rfl
  · exact changeFrequency_initialized d now frequency s

theorem restoreDefaultFrequency_accepts : ReflTransGen Accepts s (s.restoreDefaultFrequency d now).2 := by
  unfold restoreDefaultFrequency; split
  · exact .refl
  · exact setFrequency_accepts

@[simp] theorem restoreDefaultFrequency_initialized :
    (s.restoreDefaultFrequency d now).2.initialized = s.initialized := by
  unfold restoreDefaultFrequency; split
  · rfl
  · exact setFrequency_initialized

theorem setGovernor_accepts (governor : Governor) : ReflTransGen Accepts s (s.setGovernor d governor).2 := by
  unfold setGovernor; split
  · exact .refl
  · next h =>
    have hi : s.initialized = true := by
      unfold ensureInitialized at h; split at h
      · assumption
      · cases h
    exact .single (.setGovernor governor hi)

@[simp] theorem setGovernor_initialized (governor : Governor) :
    (s.setGovernor d governor).2.initialized = s.initialized := by
  unfold setGovernor; split <;> rfl

theorem initWithConfig_accepts (created : Except CpuFreqImplError Unit) :
    ReflTransGen Accepts s (s.initWithConfig created).2 := by
  unfold initWithConfig
  rcases Driver.initOnce_cases hooks created s with h | ⟨hclear, h⟩
  · rw [h]
  · rw [h]; exact .single (.setImpl hclear)

theorem setTarget_accepts (target : CpuFreqState → Except CpuFreqImplError UInt64) :
    ReflTransGen Accepts s (setTarget target d now s).2 := by
  unfold setTarget; split
  · exact .refl
  · exact setFrequency_accepts

theorem setMode_accepts {governor : Governor} {next : CpuFreqState → FreqResult Unit}
    (hnext : ∀ s, ReflTransGen Accepts s (next s).2) : ReflTransGen Accepts s (s.setMode d governor next).2 := by
  have hg := @setGovernor_accepts s d governor
  unfold setMode
  split
  · next h => rw [h] at hg; exact hg
  · next h => rw [h] at hg; exact hg.trans (hnext _)

/-- `shutdown` restores the default and the conservative governor while the driver is installed, then ends the
session if the driver's `shutdown` succeeds. -/
theorem shutdown_accepts : ReflTransGen Accepts s (s.shutdown d now).2 := by
  unfold shutdown
  split
  · exact .refl
  · next hi =>
    have h : ReflTransGen Accepts s ((s.restoreDefaultFrequency d now).2.setGovernor d .conservative).2 :=
      restoreDefaultFrequency_accepts.trans (setGovernor_accepts _)
    have hi' : ((s.restoreDefaultFrequency d now).2.setGovernor d .conservative).2.initialized = true := by
      simpa using hi
    dsimp only
    split
    · exact h
    · exact h.tail (.shutdown hi')

theorem scaleFrequencyIntelligent_accepts {cpuLoad : UInt32} {targetLatency : UInt64} :
    ReflTransGen Accepts s (((s.scaleFrequencyIntelligent d now cpuLoad targetLatency).map Prod.snd).getD s) := by
  rcases @scaleFrequencyIntelligent_state s d now cpuLoad targetLatency with h | ⟨f, h⟩
  · rw [h]
  · rw [h]; exact setFrequency_accepts

end Calls

/-- **Every call is a sequence of accepted commands.** -/
theorem step_accepts (s : CpuFreqState) (op : FreqOp) : ReflTransGen Accepts s (s.step op) := by
  cases op with
  | initWithConfig created => exact initWithConfig_accepts created
  | setFrequency d now frequency => exact setFrequency_accepts
  | restoreDefaultFrequency d now => exact restoreDefaultFrequency_accepts
  | setGovernor d governor => exact setGovernor_accepts governor
  | shutdown d now => exact shutdown_accepts
  | setPerformanceMode d now => exact setMode_accepts fun _ => setTarget_accepts _
  | setPowersaveMode d now => exact setMode_accepts fun _ => setTarget_accepts _
  | setBalancedMode d now => exact setMode_accepts fun _ => restoreDefaultFrequency_accepts
  | scaleFrequencyIntelligent d now cpuLoad targetLatency => exact scaleFrequencyIntelligent_accepts

theorem run_accepts (s : CpuFreqState) (ops : List FreqOp) : ReflTransGen Accepts s (s.run ops) := by
  induction ops generalizing s with
  | nil => exact .refl
  | cons op ops ih => exact (step_accepts s op).trans (ih _)

/-! ## Invariants of the accepted commands -/

/-- The accepted commands follow the driver's sessions, and `INITIALIZED` says whether a driver is installed. -/
def InSession (s : CpuFreqState) : Prop := session s.commands = some s.initialized

/-- Every frequency the driver accepted lies in `MIN_SAFE_FREQUENCY..=MAX_SAFE_FREQUENCY`. -/
def SafeFrequencies (s : CpuFreqState) : Prop :=
  ∀ frequency time, FreqCommand.setFrequency frequency time ∈ s.commands →
    minSafeFrequency ≤ frequency ∧ frequency ≤ maxSafeFrequency

theorem Accepts.inSession {s s' : CpuFreqState} (h : Accepts s s') (hs : InSession s) : InSession s' := by
  unfold InSession at hs ⊢
  cases h with
  | setImpl h => simp [issue, session_append, hs, h, FreqCommand.next]
  | setFrequency now h => simp [issue, session_append, hs, h, FreqCommand.next]
  | setGovernor governor h => simp [issue, session_append, hs, h, FreqCommand.next]
  | shutdown h => simp [issue, session_append, hs, h, FreqCommand.next]

theorem Accepts.safeFrequencies {s s' : CpuFreqState} (h : Accepts s s') (hs : SafeFrequencies s) :
    SafeFrequencies s' := by
  intro f t hf
  cases h with
  | setFrequency now _ hmin hmax =>
    rcases List.mem_append.mp hf with hf | hf
    · exact hs f t hf
    · cases List.mem_singleton.mp hf; exact ⟨hmin, hmax⟩
  | setImpl _ | setGovernor _ _ | shutdown _ =>
    rcases List.mem_append.mp hf with hf | hf
    · exact hs f t hf
    · cases List.mem_singleton.mp hf

/-- **The driver is used only within its sessions**: from the start, along every run of the module's calls, a
driver is installed only while none is, is sent frequencies and governors only while it is installed, and is shut
down only then; `INITIALIZED` is set exactly while a driver is installed. -/
theorem run_inSession (ops : List FreqOp) : InSession (initial.run ops) :=
  accepts_preserves Accepts.inSession (run_accepts initial ops) rfl

/-- **The driver only ever runs at safe frequencies**: from the start, along every run of the module's calls, every
frequency the driver accepted lies in `MIN_SAFE_FREQUENCY..=MAX_SAFE_FREQUENCY`, also those set by
`scale_frequency_intelligent`, the mode setters, `restore_default_frequency` and `shutdown`. -/
theorem run_safeFrequencies (ops : List FreqOp) : SafeFrequencies (initial.run ops) :=
  accepts_preserves Accepts.safeFrequencies (run_accepts initial ops) nofun

end CpuFreqState

end LightKernel.CpuFreq
