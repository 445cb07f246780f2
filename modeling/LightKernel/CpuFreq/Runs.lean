import LightKernel.CpuFreq.Scaling

/-!
# Runs of the frequency module

The module as a state machine over its calls that change state (`FreqOp`, `CpuFreqState.run`), each with the
driver's answers and the microsecond clock's time. `scale_frequency_intelligent` panics, when it does, before it
writes anything, so such a call leaves the module as it was. Every call reaches the driver's `set_frequency` only
through `set_frequency`, at most once, and only past the rate limit; so when the calls follow one another with a
clock that never goes back, the changes the driver accepts are `FREQ_CHANGE_MIN_INTERVAL_US` apart.

* `step_changesAt`: what one call can do to the accepted changes and `LAST_FREQ_CHANGE`;
* `run_rateLimited`: along a run at non-decreasing times, successive accepted changes are at least
  `FREQ_CHANGE_MIN_INTERVAL_US` apart.
-/

namespace LightKernel.CpuFreq

/-- A call of the module that can change its state, with the driver's answers and the clock's time. -/
inductive FreqOp
  | initWithConfig (created : Except CpuFreqImplError Unit)
  | setFrequency (d : FreqDriver) (now frequency : UInt64)
  | restoreDefaultFrequency (d : FreqDriver) (now : UInt64)
  | setGovernor (d : FreqDriver) (governor : Governor)
  | shutdown (d : FreqDriver) (now : UInt64)
  | setPerformanceMode (d : FreqDriver) (now : UInt64)
  | setPowersaveMode (d : FreqDriver) (now : UInt64)
  | setBalancedMode (d : FreqDriver) (now : UInt64)
  | scaleFrequencyIntelligent (d : FreqDriver) (now : UInt64) (cpuLoad : UInt32) (targetLatency : UInt64)

/-- The clock's time a call reads, if it reads the clock. -/
def FreqOp.time? : FreqOp → Option UInt64
  | .setFrequency _ now _ | .restoreDefaultFrequency _ now | .shutdown _ now | .setPerformanceMode _ now
  | .setPowersaveMode _ now | .setBalancedMode _ now | .scaleFrequencyIntelligent _ now _ _ => some now
  | .initWithConfig _ | .setGovernor _ _ => none

namespace CpuFreqState

/-- One call. -/
def step (s : CpuFreqState) : FreqOp → CpuFreqState
  | .initWithConfig created => (s.initWithConfig created).2
  | .setFrequency d now frequency => (s.setFrequency d now frequency).2
  | .restoreDefaultFrequency d now => (s.restoreDefaultFrequency d now).2
  | .setGovernor d governor => (s.setGovernor d governor).2
  | .shutdown d now => (s.shutdown d now).2
  | .setPerformanceMode d now => (s.setPerformanceMode d now).2
  | .setPowersaveMode d now => (s.setPowersaveMode d now).2
  | .setBalancedMode d now => (s.setBalancedMode d now).2
  | .scaleFrequencyIntelligent d now cpuLoad targetLatency =>
    ((s.scaleFrequencyIntelligent d now cpuLoad targetLatency).map Prod.snd).getD s

/-- A run of calls. -/
def run (s : CpuFreqState) (ops : List FreqOp) : CpuFreqState := ops.foldl step s

/-! ## What one call does to the accepted changes -/

/-- The accepted changes and `LAST_FREQ_CHANGE` are as before. -/
def Keeps (s s' : CpuFreqState) : Prop := s'.changeTimes = s.changeTimes ∧ s'.lastFreqChange = s.lastFreqChange

/-- As before, or one more change at the call's time `now`, which passed the rate limit against the stored
stamp, and `now` stored. -/
def ChangesAt (s s' : CpuFreqState) (time : Option UInt64) : Prop :=
  Keeps s s' ∨ ∃ now, time = some now ∧ rateLimit now s.lastFreqChange = .ok () ∧
    s'.changeTimes = s.changeTimes ++ [now] ∧ s'.lastFreqChange = now

section Changes

variable {s s' s₁ s₂ : CpuFreqState} {time : Option UInt64} {d : FreqDriver} {now frequency : UInt64}

theorem Keeps.trans_changesAt (h₁ : Keeps s s₁) (h₂ : ChangesAt s₁ s₂ time) : ChangesAt s s₂ time := by
  obtain ⟨hc, hl⟩ := h₁
  rcases h₂ with ⟨hc', hl'⟩ | ⟨now, ht, hr, hc', hl'⟩
  · exact .inl ⟨hc'.trans hc, hl'.trans hl⟩
  · exact .inr ⟨now, ht, hl ▸ hr, by rw [hc', hc], hl'⟩

theorem ChangesAt.trans_keeps (h₁ : ChangesAt s s₁ time) (h₂ : Keeps s₁ s₂) : ChangesAt s s₂ time := by
  obtain ⟨hc, hl⟩ := h₂
  rcases h₁ with ⟨hc', hl'⟩ | ⟨now, ht, hr, hc', hl'⟩
  · exact .inl ⟨hc.trans hc', hl.trans hl'⟩
  · exact .inr ⟨now, ht, hr, hc.trans hc', hl.trans hl'⟩

/-- A command other than a frequency change leaves the changes alone. -/
theorem keeps_issue {c : FreqCommand} (hc : ∀ f t, c ≠ .setFrequency f t) : Keeps s (s.issue c) :=
  ⟨by cases c <;> simp_all [changeTimes, issue], rfl⟩

theorem initWithConfig_keeps (created : Except CpuFreqImplError Unit) : Keeps s (s.initWithConfig created).2 := by
  unfold initWithConfig Driver.initOnce
  split
  · exact ⟨rfl, rfl⟩
  · split
    · exact ⟨rfl, rfl⟩
    · exact keeps_issue (by simp)

theorem setGovernor_keeps (governor : Governor) : Keeps s (s.setGovernor d governor).2 := by
  unfold setGovernor
  split
  · exact ⟨rfl, rfl⟩
  · exact keeps_issue (by simp)

/-- `set_frequency` changes the frequency only past the rate limit, and then stores its clock sample. -/
theorem setFrequency_changesAt : ChangesAt s (s.setFrequency d now frequency).2 (some now) := by
  unfold setFrequency
  split
  · exact .inl ⟨rfl, rfl⟩
  · next h =>
    have hr : rateLimit now s.lastFreqChange = .ok () := by
      rcases h1 : s.ensureInitialized with _ | _ <;> rcases h2 : rateLimit now s.lastFreqChange with _ | _ <;>
        simp only [h1, h2, bind, Except.bind] at h <;> first | cases h | rfl
    unfold changeFrequency
    split
    · exact .inl ⟨rfl, rfl⟩
    · exact .inr ⟨now, rfl, hr, by simp [changeTimes, issue], rfl⟩

theorem restoreDefaultFrequency_changesAt : ChangesAt s (s.restoreDefaultFrequency d now).2 (some now) := by
  unfold restoreDefaultFrequency
  split
  · exact .inl ⟨rfl, rfl⟩
  · exact setFrequency_changesAt

theorem setTarget_changesAt (target : CpuFreqState → Except CpuFreqImplError UInt64) :
    ChangesAt s (setTarget target d now s).2 (some now) := by
  unfold setTarget
  split
  · exact .inl ⟨rfl, rfl⟩
  · exact setFrequency_changesAt

/-- A mode setter changes the frequency only in the step after `set_governor`. -/
theorem setMode_changesAt {governor : Governor} {next : CpuFreqState → FreqResult Unit}
    (hnext : ∀ s, ChangesAt s (next s).2 time) : ChangesAt s (s.setMode d governor next).2 time := by
  have hg := @setGovernor_keeps s d governor
  unfold setMode
  split
  · next h => rw [h] at hg; exact .inl hg
  · next h => rw [h] at hg; exact hg.trans_changesAt (hnext _)

/-- `scale_frequency_intelligent` leaves the module as it was, or as its one `set_frequency` left it. -/
theorem scaleFrequencyIntelligent_state {cpuLoad : UInt32} {targetLatency : UInt64} :
    ((s.scaleFrequencyIntelligent d now cpuLoad targetLatency).map Prod.snd).getD s = s ∨
      ∃ f, ((s.scaleFrequencyIntelligent d now cpuLoad targetLatency).map Prod.snd).getD s =
        (s.setFrequency d now f).2 := by
  unfold scaleFrequencyIntelligent
  split
  · exact .inl rfl
  · cases selectedFrequency _ cpuLoad targetLatency with
    | none => exact .inl rfl
    | some f =>
      simp only [Option.map_some', Option.getD_some]
      split
      · refine .inr ⟨f, ?_⟩
        split <;> simp_all
      · exact .inl rfl

theorem scaleFrequencyIntelligent_changesAt {cpuLoad : UInt32} {targetLatency : UInt64} :
    ChangesAt s (((s.scaleFrequencyIntelligent d now cpuLoad targetLatency).map Prod.snd).getD s) (some now) := by
  rcases @scaleFrequencyIntelligent_state s d now cpuLoad targetLatency with h | ⟨f, h⟩ <;> rw [h]
  · exact .inl ⟨rfl, rfl⟩
  · exact setFrequency_changesAt

theorem shutdown_changesAt : ChangesAt s (s.shutdown d now).2 (some now) := by
  unfold shutdown
  split
  · exact .inl ⟨rfl, rfl⟩
  · have h : ChangesAt s ((s.restoreDefaultFrequency d now).2.setGovernor d .conservative).2 (some now) :=
      restoreDefaultFrequency_changesAt.trans_keeps (setGovernor_keeps _)
    dsimp only
    split
    · exact h
    · exact h.trans_keeps (keeps_issue (by simp))

/-- **What one call can do**: nothing to the changes, or one change at its time past the rate limit. -/
theorem step_changesAt (op : FreqOp) : ChangesAt s (s.step op) op.time? := by
  cases op with
  | initWithConfig created => exact .inl (initWithConfig_keeps created)
  | setFrequency d now frequency => exact setFrequency_changesAt
  | restoreDefaultFrequency d now => exact restoreDefaultFrequency_changesAt
  | setGovernor d governor => exact .inl (setGovernor_keeps governor)
  | shutdown d now => exact shutdown_changesAt
  | setPerformanceMode d now => exact setMode_changesAt fun _ => setTarget_changesAt _
  | setPowersaveMode d now => exact setMode_changesAt fun _ => setTarget_changesAt _
  | setBalancedMode d now => exact setMode_changesAt fun _ => restoreDefaultFrequency_changesAt
  | scaleFrequencyIntelligent d now cpuLoad targetLatency => exact scaleFrequencyIntelligent_changesAt

theorem ChangesAt.lastFreqChange_le {t : UInt64} (h : ChangesAt s s' time) (h₁ : s.lastFreqChange ≤ t)
    (h₂ : ∀ now ∈ time, now ≤ t) : s'.lastFreqChange ≤ t := by
  rcases h with ⟨-, hl⟩ | ⟨now, rfl, -, -, hl⟩
  · rwa [hl]
  · rw [hl]; exact h₂ now rfl

end Changes

/-! ## The rate limit along runs -/

/-- The accepted changes are at least `FREQ_CHANGE_MIN_INTERVAL_US` apart, and the last of them is the one
stored in `LAST_FREQ_CHANGE`. -/
structure RateLimited (s : CpuFreqState) : Prop where
  spaced : Spaced freqChangeMinIntervalUs.toNat s.changeTimes
  last : ∀ t ∈ s.changeTimes.getLast?, t = s.lastFreqChange

theorem initial_rateLimited : RateLimited initial := ⟨List.chain'_nil, by simp [initial, changeTimes]⟩

/-- One call keeps the rate limit when its time is not before the stored stamp. -/
theorem RateLimited.of_changesAt {s s' : CpuFreqState} {time : Option UInt64} (hs : RateLimited s)
    (hc : ChangesAt s s' time) (ht : ∀ now ∈ time, s.lastFreqChange ≤ now) : RateLimited s' := by
  rcases hc with ⟨hc, hl⟩ | ⟨now, rfl, hr, hc, hl⟩
  · exact ⟨hc ▸ hs.spaced, by rw [hc, hl]; exact hs.last⟩
  · have hg : ¬ now - s.lastFreqChange < freqChangeMinIntervalUs := by
      unfold rateLimit at hr; split at hr
      · cases hr
      · assumption
    exact ⟨hc ▸ spaced_append_of_gate hs.spaced hs.last (ht now rfl) hg, by simp [hc, hl]⟩

/-- **The rate limit holds along every run of calls at non-decreasing times** that are not before the stored
stamp: successive changes the driver accepts are at least `FREQ_CHANGE_MIN_INTERVAL_US` apart. -/
theorem run_rateLimited {s : CpuFreqState} {ops : List FreqOp} (hs : RateLimited s)
    (hsorted : (ops.filterMap FreqOp.time?).Pairwise (· ≤ ·))
    (hlast : ∀ t ∈ ops.filterMap FreqOp.time?, s.lastFreqChange ≤ t) : RateLimited (s.run ops) := by
  induction ops generalizing s with
  | nil => exact hs
  | cons op ops ih =>
    have hc := step_changesAt (s := s) op
    rw [List.filterMap_cons] at hsorted hlast
    cases hop : op.time? with
    | none =>
      rw [hop] at hc hsorted hlast
      exact ih (hs.of_changesAt hc nofun) hsorted fun t ht => hc.lastFreqChange_le (hlast t ht) nofun
    | some now =>
      rw [hop] at hc hsorted hlast
      simp only [List.pairwise_cons, List.mem_cons, forall_eq_or_imp] at hsorted hlast
      exact ih (hs.of_changesAt hc fun _ h => Option.mem_some_iff.mp h ▸ hlast.1) hsorted.2
        fun t ht => hc.lastFreqChange_le (hlast.2 t ht) fun _ h => Option.mem_some_iff.mp h ▸ hsorted.1 t ht

/-- From the module as it starts, every run of calls at non-decreasing times keeps the rate limit. -/
theorem initial_run_rateLimited {ops : List FreqOp} (hsorted : (ops.filterMap FreqOp.time?).Pairwise (· ≤ ·)) :
    RateLimited (initial.run ops) :=
  run_rateLimited initial_rateLimited hsorted fun t _ => uint64_le_iff.mpr (by simp [initial])

end CpuFreqState

end LightKernel.CpuFreq
