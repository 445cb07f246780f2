import LightKernel.CpuFreq.Basic
import LightKernel.CpuFreq.Binary64
import LightKernel.Clock

/-!
# Load-driven frequency scaling

`scale_frequency_intelligent(cpu_load, target_latency)` picks a target from the driver's available frequencies: the
highest above 80 % load, the lowest below 20 %, and otherwise the available frequency whose truncated `f64` distance
to the proportional target `min + (max - min) * load / 100` is least, the first such in the driver's order
(`min_by_key`). Below 1 ms of target latency it then takes the least available frequency at or above the target, and
finally asks `set_frequency` for it unless it is the current one. The `unwrap`s panic on an empty list: a panic is
`none`.

* `minByKey_firstMin`: `min_by_key` returns the first element whose key is least;
* `selectedFrequency_eq`: the latency step never moves a target, since the target is available;
* `scaleFrequencyIntelligent_eq_none_iff`: the call panics exactly when the driver offers no frequency
  (`empty_list_panics`);
* `scaling_not_monotone`: near `2^63` Hz a higher load can select a lower frequency.
-/

namespace LightKernel.CpuFreq

/-- `Iterator::min_by_key`: the first element whose key is least. -/
def minByKey {α : Type} (key : α → UInt64) : List α → Option α
  | [] => none
  | a :: l => some (l.foldl (fun best x => if key x < key best then x else best) a)

/-- The key of `min_by_key`: `(freq as f64 - target).abs() as u64`. -/
def distanceKey (target : F64) (freq : UInt64) : UInt64 := (F64.sub (F64.ofNat freq.toNat) target).abs.toU64

/-- The proportional target of a medium load: `min_freq as f64 + (max_freq - min_freq) as f64 * scale_factor`, with
`scale_factor = cpu_load as f64 / 100.0`. -/
def proportionalTarget (minFreq maxFreq : UInt64) (cpuLoad : UInt32) : F64 :=
  let scaleFactor := F64.div (F64.ofNat cpuLoad.toNat) (F64.ofNat 100)
  F64.add (F64.ofNat minFreq.toNat) (F64.mul (F64.ofNat (maxFreq - minFreq).toNat) scaleFactor)

/-- `target_freq`; `none` where the code unwraps an empty list. -/
def targetFrequency (available : List UInt64) (cpuLoad : UInt32) : Option UInt64 :=
  if cpuLoad > 80 then available.max?
  else if cpuLoad < 20 then available.min?
  else do
    let minFreq ← available.min?
    let maxFreq ← available.max?
    minByKey (distanceKey (proportionalTarget minFreq maxFreq cpuLoad)) available

/-- `latency_adjusted_freq`: below 1 ms of target latency, the least available frequency at or above the target. -/
def latencyAdjusted (available : List UInt64) (targetLatency targetFreq : UInt64) : UInt64 :=
  if targetLatency < 1000 then ((available.filter fun f => f ≥ targetFreq).min?).getD targetFreq else targetFreq

/-- The frequency `scale_frequency_intelligent` selects, before `set_frequency`. -/
def selectedFrequency (available : List UInt64) (cpuLoad : UInt32) (targetLatency : UInt64) : Option UInt64 :=
  (targetFrequency available cpuLoad).map (latencyAdjusted available targetLatency)

/-! ## The selection -/

theorem uint64_max_eq_or (a b : UInt64) : max a b = a ∨ max a b = b := by
  show (if a ≤ b then b else a) = a ∨ (if a ≤ b then b else a) = b
  split <;> simp

theorem uint64_min_eq_or (a b : UInt64) : min a b = a ∨ min a b = b := by
  show (if a ≤ b then a else b) = a ∨ (if a ≤ b then a else b) = b
  split <;> simp

theorem uint64_le_min_iff (a b c : UInt64) : a ≤ min b c ↔ a ≤ b ∧ a ≤ c := by
  show a ≤ (if b ≤ c then b else c) ↔ _
  split <;> simp only [uint64_le_iff] at * <;> omega

theorem uint64_max_le_iff (a b c : UInt64) : max b c ≤ a ↔ b ≤ a ∧ c ≤ a := by
  show (if b ≤ c then c else b) ≤ a ↔ _
  split <;> simp only [uint64_le_iff] at * <;> omega

/-- The fold of `min_by_key` keeps one of the elements it saw. -/
theorem foldl_minByKey_mem {α : Type} (key : α → UInt64) (l : List α) (best : α) :
    l.foldl (fun best x => if key x < key best then x else best) best ∈ best :: l := by
  induction l generalizing best with
  | nil => exact List.mem_singleton_self _
  | cons x l ih =>
    rw [List.foldl_cons]
    split
    · exact List.mem_cons_of_mem _ (ih x)
    · rcases List.mem_cons.mp (ih best) with h | h
      · rw [h]; exact List.mem_cons_self _ _
      · exact List.mem_cons_of_mem _ (List.mem_cons_of_mem _ h)

theorem minByKey_mem {α : Type} {key : α → UInt64} {l : List α} {x : α} (h : minByKey key l = some x) : x ∈ l := by
  cases l with
  | nil => cases h
  | cons a l => exact Option.some_inj.mp h ▸ foldl_minByKey_mem key l a

/-- `x` is the first element of `l` whose key is least: every key is at least `x`'s, and every earlier one larger. -/
structure FirstMin {α : Type} [DecidableEq α] (key : α → UInt64) (l : List α) (x : α) : Prop where
  mem : x ∈ l
  le : ∀ y ∈ l, key x ≤ key y
  lt_of_before : ∀ y ∈ l, l.indexOf y < l.indexOf x → key x < key y

/-- The fold of `min_by_key` ends on the first minimum of the elements it saw: a later element replaces the best
only with a smaller key, so the positions of the elements already seen never move. -/
theorem foldl_minByKey_firstMin {α : Type} [DecidableEq α] (key : α → UInt64) (best : α) (l : List α) :
    FirstMin key (best :: l) (l.foldl (fun best x => if key x < key best then x else best) best) := by
  induction l using List.reverseRecOn with
  | nil => exact ⟨List.mem_singleton_self _, by simp [uint64_le_iff], by simp⟩
  | append_singleton l x ih =>
    rw [List.foldl_append, List.foldl_cons, List.foldl_nil, ← List.cons_append]
    generalize l.foldl (fun best x => if key x < key best then x else best) best = r at ih
    have hidx : ∀ y ∈ best :: l, (best :: l ++ [x]).indexOf y = (best :: l).indexOf y := fun y hy =>
      List.indexOf_append_of_mem hy
    split
    · next hlt =>
      have hlt' : ∀ y ∈ best :: l, key x < key y := fun y hy => by
        have := ih.le y hy
        simp only [uint64_le_iff, uint64_lt_iff] at *; omega
      refine ⟨List.mem_append_right _ (List.mem_singleton_self x), fun y hy => ?_, fun y hy hb => ?_⟩
      · rcases List.mem_append.mp hy with hy | hy
        · exact uint64_le_iff.mpr (Nat.le_of_lt (uint64_lt_iff.mp (hlt' y hy)))
        · rw [List.mem_singleton.mp hy]; exact UInt64.le_refl (key x)
      · rcases List.mem_append.mp hy with hy | hy
        · exact hlt' y hy
        · rw [List.mem_singleton.mp hy] at hb; exact absurd hb (Nat.lt_irrefl _)
    · next hge =>
      refine ⟨List.mem_append_left _ ih.mem, fun y hy => ?_, fun y hy hb => ?_⟩
      · rcases List.mem_append.mp hy with hy | hy
        · exact ih.le y hy
        · rw [List.mem_singleton.mp hy]; simpa only [uint64_le_iff, uint64_lt_iff, Nat.not_lt] using hge
      · rw [hidx r ih.mem] at hb
        by_cases hy' : y ∈ best :: l
        · exact ih.lt_of_before y hy' (hidx y hy' ▸ hb)
        · rw [List.indexOf_append_of_not_mem hy'] at hb
          have := List.indexOf_lt_length.mpr ih.mem
          omega

/-- **`min_by_key` returns the first minimum.** -/
theorem minByKey_firstMin {α : Type} [DecidableEq α] {key : α → UInt64} {l : List α} {x : α}
    (h : minByKey key l = some x) : FirstMin key l x := by
  cases l with
  | nil => cases h
  | cons a l => exact Option.some_inj.mp h ▸ foldl_minByKey_firstMin key a l

/-- Two first minima of one list, under keys that each rank the other's choice no worse, are one element. -/
theorem FirstMin.eq_of_ties {α : Type} [DecidableEq α] {key₁ key₂ : α → UInt64} {l : List α} {a b : α}
    (ha : FirstMin key₁ l a) (hb : FirstMin key₂ l b) (h₁ : key₁ b ≤ key₁ a) (h₂ : key₂ a ≤ key₂ b) : a = b := by
  rcases Nat.lt_trichotomy (l.indexOf b) (l.indexOf a) with h | h | h
  · have := ha.lt_of_before b hb.mem h
    simp only [uint64_le_iff, uint64_lt_iff] at *; omega
  · exact (List.indexOf_inj ha.mem hb.mem).mp h.symm
  · have := hb.lt_of_before a ha.mem h
    simp only [uint64_le_iff, uint64_lt_iff] at *; omega

/-- The target is an available frequency, and exists exactly when some frequency is available. -/
theorem targetFrequency_mem {available : List UInt64} {cpuLoad : UInt32} {f : UInt64}
    (h : targetFrequency available cpuLoad = some f) : f ∈ available := by
  unfold targetFrequency at h
  split at h
  · exact List.max?_mem uint64_max_eq_or h
  split at h
  · exact List.min?_mem uint64_min_eq_or h
  simp only [Option.bind_eq_bind, Option.bind_eq_some] at h
  obtain ⟨_, _, _, _, h⟩ := h
  exact minByKey_mem h

/-- Between 20 % and 80 % load the target is the first available frequency nearest the proportional target. -/
theorem targetFrequency_medium {available : List UInt64} {cpuLoad : UInt32} {minFreq maxFreq : UInt64}
    (h80 : ¬ cpuLoad > 80) (h20 : ¬ cpuLoad < 20) (hm : available.min? = some minFreq)
    (hM : available.max? = some maxFreq) :
    targetFrequency available cpuLoad = minByKey (distanceKey (proportionalTarget minFreq maxFreq cpuLoad)) available := by
  simp only [targetFrequency, h80, h20, hm, hM, if_false, Option.bind_eq_bind, Option.some_bind]

theorem targetFrequency_eq_none_iff {available : List UInt64} {cpuLoad : UInt32} :
    targetFrequency available cpuLoad = none ↔ available = [] := by
  cases available with
  | nil => simp [targetFrequency, minByKey]
  | cons a l =>
    simp only [targetFrequency, List.max?, List.min?, minByKey, Option.bind_eq_bind, Option.some_bind, reduceCtorEq,
      iff_false]
    split <;> [simp; split <;> simp]

/-- Below 1 ms of target latency the least available frequency at or above an available target is the target. -/
theorem latencyAdjusted_of_mem {available : List UInt64} {targetFreq : UInt64} (targetLatency : UInt64)
    (h : targetFreq ∈ available) : latencyAdjusted available targetLatency targetFreq = targetFreq := by
  unfold latencyAdjusted
  split
  · have hin : targetFreq ∈ available.filter fun f => f ≥ targetFreq := List.mem_filter.mpr ⟨h, by simp⟩
    obtain ⟨m, hm⟩ := Option.ne_none_iff_exists'.mp (mt List.min?_eq_none_iff.mp (List.ne_nil_of_mem hin))
    have hge : targetFreq ≤ m := by simpa using (List.mem_filter.mp (List.min?_mem uint64_min_eq_or hm)).2
    have hle : m ≤ targetFreq := ((List.le_min?_iff uint64_le_min_iff hm).mp (UInt64.le_refl m)) _ hin
    rw [hm, Option.getD_some]
    exact UInt64.toNat.inj (Nat.le_antisymm (uint64_le_iff.mp hle) (uint64_le_iff.mp hge))
  · rfl

/-- The selection is the target, an available frequency. -/
theorem selectedFrequency_eq {available : List UInt64} {cpuLoad : UInt32} (targetLatency : UInt64) :
    selectedFrequency available cpuLoad targetLatency = targetFrequency available cpuLoad := by
  unfold selectedFrequency
  cases h : targetFrequency available cpuLoad with
  | none => rfl
  | some f => exact congrArg some (latencyAdjusted_of_mem targetLatency (targetFrequency_mem h))

/-- On 0 Hz, 256 Hz and `2^63` Hz, 20 % load selects 256 Hz and 40 % load selects 0 Hz: at 40 % the target lies
near `0.4 * 2^63`, where `f64` spacing is 512 and `target - 256` rounds back to the target, so both low frequencies
tie and the first wins. -/
theorem scaling_not_monotone :
    selectedFrequency [0, 256, 9223372036854775808] 20 1000 = some 256 ∧
    selectedFrequency [0, 256, 9223372036854775808] 40 1000 = some 0 := by
  set_option exponentiation.threshold 5000 in decide

namespace CpuFreqState

/-- The reads of `scale_frequency_intelligent` before it scales: `ensure_initialized`, the load check,
`get_available_frequencies` and `get_current_frequency`. -/
def scaleReads (d : FreqDriver) (cpuLoad : UInt32) (s : CpuFreqState) :
    Except CpuFreqImplError (List UInt64 × UInt64) := do
  s.ensureInitialized
  if cpuLoad > 100 then throw .invalidParameter
  let available ← s.getAvailableFrequencies d
  let currentFreq ← s.getCurrentFrequency d
  pure (available, currentFreq)

/-- `scale_frequency_intelligent` at the clock's time `now`; `none` where it panics. -/
def scaleFrequencyIntelligent (d : FreqDriver) (now : UInt64) (cpuLoad : UInt32) (targetLatency : UInt64)
    (s : CpuFreqState) : Option (FreqResult UInt64) :=
  match s.scaleReads d cpuLoad with
  | .error e => some (.error e, s)
  | .ok (available, currentFreq) =>
    (selectedFrequency available cpuLoad targetLatency).map fun freq =>
      if freq != currentFreq then
        match s.setFrequency d now freq with
        | (.error e, s) => (.error e, s)
        | (.ok (), s) => (.ok freq, s)
      else (.ok freq, s)

theorem scaleReads_eq_ok {d : FreqDriver} {cpuLoad : UInt32} {s : CpuFreqState} {available : List UInt64}
    {currentFreq : UInt64} :
    s.scaleReads d cpuLoad = .ok (available, currentFreq) ↔ s.initialized = true ∧ ¬ cpuLoad > 100 ∧
      d.availableFrequencies = .ok available ∧ d.currentFrequency = .ok currentFreq := by
  unfold scaleReads getAvailableFrequencies getCurrentFrequency ensureInitialized
  cases s.initialized
  · simp [bind, Except.bind]
  by_cases hl : cpuLoad > 100
  · simp [hl, bind, Except.bind, throw, throwThe, MonadExceptOf.throw]
  simp only [hl, if_false, if_true, bind, Except.bind, pure, Except.pure, true_and, not_false_eq_true]
  cases d.availableFrequencies <;> cases d.currentFrequency <;> simp

/-- A load above 100 % is refused on an initialised module. -/
theorem scaleFrequencyIntelligent_invalidParameter {d : FreqDriver} {now : UInt64} {cpuLoad : UInt32}
    {targetLatency : UInt64} {s : CpuFreqState} (hs : s.initialized = true) (hl : cpuLoad > 100) :
    s.scaleFrequencyIntelligent d now cpuLoad targetLatency = some (.error .invalidParameter, s) := by
  simp [scaleFrequencyIntelligent, scaleReads, ensureInitialized, hs, hl, bind, Except.bind, throw, throwThe,
    MonadExceptOf.throw]

/-- The call panics exactly when the reads succeed and the driver offers no frequency. -/
theorem scaleFrequencyIntelligent_eq_none_iff {d : FreqDriver} {now : UInt64} {cpuLoad : UInt32}
    {targetLatency : UInt64} {s : CpuFreqState} :
    s.scaleFrequencyIntelligent d now cpuLoad targetLatency = none ↔
      ∃ currentFreq, s.scaleReads d cpuLoad = .ok ([], currentFreq) := by
  unfold scaleFrequencyIntelligent
  rcases h : s.scaleReads d cpuLoad with e | ⟨available, currentFreq⟩
  · simp
  · simp only [Option.map_eq_none', selectedFrequency_eq, targetFrequency_eq_none_iff, Except.ok.injEq,
      Prod.mk.injEq, exists_and_left, exists_eq', and_true]

/-- A frequency the call returns is one the driver offered. -/
theorem scaleFrequencyIntelligent_ok_mem {d : FreqDriver} {now : UInt64} {cpuLoad : UInt32}
    {targetLatency : UInt64} {s s' : CpuFreqState} {f : UInt64}
    (h : s.scaleFrequencyIntelligent d now cpuLoad targetLatency = some (.ok f, s')) :
    ∃ available, d.availableFrequencies = .ok available ∧ f ∈ available := by
  unfold scaleFrequencyIntelligent at h
  rcases hr : s.scaleReads d cpuLoad with e | ⟨available, currentFreq⟩ <;> rw [hr] at h
  · cases h
  · obtain ⟨f', hf', he⟩ := Option.map_eq_some'.mp h
    have hf : f' = f := by
      split at he
      · split at he <;> simp_all
      · simp_all
    rw [selectedFrequency_eq] at hf'
    exact ⟨available, (scaleReads_eq_ok.mp hr).2.2.1, hf ▸ targetFrequency_mem hf'⟩

end CpuFreqState

/-- A driver that offers no frequency. -/
def emptyDriver : FreqDriver :=
  ⟨.ok 1000000000, .ok [], .ok ⟨40⟩, .ok 1000000000, fun _ => .ok (), fun _ => .ok (), .ok ()⟩

/-- With no frequency offered, scaling at 50 % load on an initialised module panics. -/
theorem empty_list_panics :
    (CpuFreqState.mk true 0 [.setImpl]).scaleFrequencyIntelligent emptyDriver 20000 50 5000 = none := rfl

end LightKernel.CpuFreq
