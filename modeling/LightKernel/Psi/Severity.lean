import LightKernel.Psi.Basic
import Mathlib.Data.Rat.Defs
import Mathlib.Algebra.Order.Ring.Rat

/-!
# Severities and hints of the PSI monitor

`calculate_severity` tests the thresholds from the highest level down, so the severity of a pressure is the highest
level whose threshold the pressure reaches, whether the thresholds are ordered or not (`IsBucket`,
`calculateSeverity_isBucket`). Reaching a threshold is upward closed, so the severity is monotone in the pressure,
and `get_scheduling_hint` maps severities to hints monotonically.

* `updateMetrics_eq_record`: a sample that passes the interval is recorded with the severity of its largest reading;
* `record_getSchedulingHint`: while it is in the history, the hint is that severity's;
* `recorded_severity_bucketed`: recorded severities are buckets, and larger readings record a severity and yield a
  hint at least as high;
* `updateMetrics_setEnabled`: `update_metrics` never reads `enabled`, so a disabled monitor keeps recording
  (`disabled_monitor_records`).
-/

namespace LightKernel.Psi

variable {P : Type}

/-- The order of the severities. -/
def PSISeverity.rank : PSISeverity → Nat
  | .none => 0
  | .low => 1
  | .medium => 2
  | .high => 3
  | .critical => 4

/-- The order of the hints: `Normal < PreferLightTasks < LimitNewTasks < ReduceLoad`. -/
def SchedulingHint.rank : SchedulingHint → Nat
  | .normal => 0
  | .preferLightTasks => 1
  | .limitNewTasks => 2
  | .reduceLoad => 3

/-- The hint `get_scheduling_hint` gives for a current severity. -/
def SchedulingHint.ofSeverity : PSISeverity → SchedulingHint
  | .critical => .reduceLoad
  | .high => .limitNewTasks
  | .medium => .preferLightTasks
  | .low | .none => .normal

/-- The threshold of a level; `None` has none. -/
def PSIThresholds.threshold (t : PSIThresholds P) : PSISeverity → Option P
  | .none => none
  | .low => some t.low
  | .medium => some t.medium
  | .high => some t.high
  | .critical => some t.critical

/-- `v` is the highest level whose threshold is at most `p`, or `None` when no threshold is. -/
def IsBucket [LinearOrder P] (t : PSIThresholds P) (p : P) (v : PSISeverity) : Prop :=
  (v = .none ∨ ∃ x ∈ t.threshold v, x ≤ p) ∧ ∀ w, ∀ x ∈ t.threshold w, x ≤ p → w.rank ≤ v.rank

theorem PSISeverity.rank_injective {v w : PSISeverity} (h : v.rank = w.rank) : v = w := by
  cases v <;> cases w <;> first | rfl | cases h

theorem SchedulingHint.ofSeverity_mono {v w : PSISeverity} (h : v.rank ≤ w.rank) :
    (ofSeverity v).rank ≤ (ofSeverity w).rank := by
  cases v <;> cases w <;> simp_all [ofSeverity, rank, PSISeverity.rank]

section Bucket

variable [LinearOrder P] {t : PSIThresholds P} {p q : P} {v w : PSISeverity}

/-- A bucket is at least as high as the bucket of a smaller pressure. -/
theorem IsBucket.mono (hv : IsBucket t p v) (hw : IsBucket t q w) (hpq : p ≤ q) : v.rank ≤ w.rank := by
  rcases hv.1 with rfl | ⟨x, hx, hxp⟩
  · exact Nat.zero_le _
  · exact hw.2 v x hx (hxp.trans hpq)

theorem IsBucket.unique (hv : IsBucket t p v) (hw : IsBucket t p w) : v = w :=
  PSISeverity.rank_injective (Nat.le_antisymm (hv.mono hw le_rfl) (hw.mono hv le_rfl))

/-- **`calculate_severity` buckets**: it returns the highest level whose threshold the pressure reaches. -/
theorem calculateSeverity_isBucket (s : PSIScheduler P) (p : P) :
    IsBucket s.config.thresholds p (s.calculateSeverity p) := by
  unfold PSIScheduler.calculateSeverity
  dsimp only
  split_ifs with h1 h2 h3 h4 <;>
    refine ⟨by simp_all [PSIThresholds.threshold], fun w x hx hxp => ?_⟩ <;>
    cases w <;> simp only [PSIThresholds.threshold, Option.mem_def, Option.some.injEq, reduceCtorEq] at hx <;>
    subst hx <;> simp_all [PSISeverity.rank]

end Bucket

namespace PSIScheduler

/-- The recording branch of `update_metrics` at `now`, with the severity it computed. -/
def record (s : PSIScheduler P) (now : Nat) (cpu memory io : P) (severity : PSISeverity) : PSIScheduler P :=
  { (({ s with metrics := ⟨cpu, memory, io⟩ }.recordPressureEvents severity).addHistoryEntry
      ⟨now, cpu, memory, io, severity⟩) with lastUpdate := now }

/-- A sample that passes the interval is recorded with the severity of its largest reading. -/
theorem updateMetrics_eq_record [LinearOrder P] {s : PSIScheduler P} {now : Nat}
    (h : s.config.updateInterval ≤ now - s.lastUpdate) (cpu memory io : P) :
    s.updateMetrics now cpu memory io = s.record now cpu memory io (s.calculateSeverity (max (max cpu memory) io)) := by
  unfold updateMetrics
  rw [if_neg (Nat.not_lt.mpr h)]
  rfl

/-- The last entry after recording is the new one, unless the history is then empty. -/
theorem record_getLast? (s : PSIScheduler P) (now : Nat) (cpu memory io : P) (v : PSISeverity) :
    ∀ e ∈ (s.record now cpu memory io v).history.getLast?, e = ⟨now, cpu, memory, io, v⟩ := by
  simp only [record, addHistoryEntry, recordPressureEvents_history, recordPressureEvents_config]
  split
  · cases s.history with
    | nil => simp
    | cons a h => simp [List.getLast?_append]
  · simp [List.getLast?_append]

theorem getSchedulingHint_eq (s : PSIScheduler P) :
    s.getSchedulingHint = .ofSeverity s.getCurrentSeverity := by
  unfold getSchedulingHint
  split <;> simp_all [SchedulingHint.ofSeverity]

/-- While the recorded sample is in the history, the hint is its severity's. -/
theorem record_getSchedulingHint {s : PSIScheduler P} {now : Nat} {cpu memory io : P} {v : PSISeverity}
    (h : (s.record now cpu memory io v).history ≠ []) :
    (s.record now cpu memory io v).getSchedulingHint = .ofSeverity v := by
  obtain ⟨e, he⟩ := Option.ne_none_iff_exists'.mp (mt List.getLast?_eq_none_iff.mp h)
  rw [getSchedulingHint_eq, getCurrentSeverity, he, record_getLast? s now cpu memory io v e he]
  rfl

/-- `update_metrics` at `now` records the readings with the severity `v`, the bucket of their largest under the
monitor's thresholds, and while the sample is in the history the hint is `v`'s. -/
def RecordsBucket [LinearOrder P] (s : PSIScheduler P) (now : Nat) (cpu memory io : P) (v : PSISeverity) : Prop :=
  s.updateMetrics now cpu memory io = s.record now cpu memory io v ∧
  IsBucket s.config.thresholds (max (max cpu memory) io) v ∧
  ((s.updateMetrics now cpu memory io).history ≠ [] →
    (s.updateMetrics now cpu memory io).getSchedulingHint = .ofSeverity v)

theorem recordsBucket [LinearOrder P] {s : PSIScheduler P} {now : Nat}
    (h : s.config.updateInterval ≤ now - s.lastUpdate) (cpu memory io : P) :
    RecordsBucket s now cpu memory io (s.calculateSeverity (max (max cpu memory) io)) := by
  rw [RecordsBucket, updateMetrics_eq_record h]
  exact ⟨rfl, calculateSeverity_isBucket s _, record_getSchedulingHint⟩

/-- **Recorded severities are buckets, and monotone**: under the same thresholds, two samples that pass the
interval record the buckets of their largest readings, and when each reading of the second is at least the first's,
its severity and the hint it yields are at least the first's. -/
theorem recorded_severity_bucketed [LinearOrder P] (s₁ s₂ : PSIScheduler P) (now₁ now₂ : Nat)
    (cpu₁ memory₁ io₁ cpu₂ memory₂ io₂ : P) (h₁ : s₁.config.updateInterval ≤ now₁ - s₁.lastUpdate)
    (h₂ : s₂.config.updateInterval ≤ now₂ - s₂.lastUpdate) (ht : s₂.config.thresholds = s₁.config.thresholds)
    (hc : cpu₁ ≤ cpu₂) (hm : memory₁ ≤ memory₂) (hi : io₁ ≤ io₂) :
    ∃ v₁ v₂, RecordsBucket s₁ now₁ cpu₁ memory₁ io₁ v₁ ∧ RecordsBucket s₂ now₂ cpu₂ memory₂ io₂ v₂ ∧
      v₁.rank ≤ v₂.rank ∧ (SchedulingHint.ofSeverity v₁).rank ≤ (SchedulingHint.ofSeverity v₂).rank := by
  have r₁ := recordsBucket h₁ cpu₁ memory₁ io₁
  have r₂ := recordsBucket h₂ cpu₂ memory₂ io₂
  have hle : max (max cpu₁ memory₁) io₁ ≤ max (max cpu₂ memory₂) io₂ := max_le_max (max_le_max hc hm) hi
  have hv := r₁.2.1.mono (ht ▸ r₂.2.1) hle
  exact ⟨_, _, r₁, r₂, hv, SchedulingHint.ofSeverity_mono hv⟩

/-- `update_metrics` never reads `enabled`: it commutes with `set_enabled`. -/
theorem updateMetrics_setEnabled [LinearOrder P] (s : PSIScheduler P) (enabled : Bool) (now : Nat)
    (cpu memory io : P) :
    (s.setEnabled enabled).updateMetrics now cpu memory io = (s.updateMetrics now cpu memory io).setEnabled enabled := by
  have hs : (s.setEnabled enabled).calculateSeverity = s.calculateSeverity := rfl
  unfold updateMetrics
  rw [hs]
  show (if now - s.lastUpdate < s.config.updateInterval then _ else _) = _
  split
  · rfl
  · dsimp only
    generalize s.calculateSeverity (max (max cpu memory) io) = v
    cases v <;> rfl

end PSIScheduler

/-- A monitor with the default thresholds and interval. -/
def defaultMonitor : PSIScheduler ℚ := .withConfig .default 0

/-- Two samples at 100 ms, the second with every reading at least the first's. -/
theorem default_samples_ordered :
    defaultMonitor.config.updateInterval ≤ 100000000 - defaultMonitor.lastUpdate ∧ (5 : ℚ) ≤ 20 ∧ (45 : ℚ) ≤ 80 ∧
    (15 : ℚ) ≤ 15 ∧ ∃ v₁ v₂, defaultMonitor.RecordsBucket 100000000 5 45 15 v₁ ∧
      defaultMonitor.RecordsBucket 100000000 20 80 15 v₂ ∧ v₁.rank ≤ v₂.rank ∧
      (SchedulingHint.ofSeverity v₁).rank ≤ (SchedulingHint.ofSeverity v₂).rank :=
  ⟨by decide, by decide, by decide, le_rfl,
    PSIScheduler.recorded_severity_bucketed _ _ _ _ _ _ _ _ _ _ (by decide) (by decide) rfl (by decide)
      (by decide) le_rfl⟩

/-- A monitor created with monitoring disabled. -/
def disabledMonitor : PSIScheduler ℚ := .withConfig { PSIConfig.default with enabled := false } 0

/-- The disabled monitor records a sample at 100 ms, and its hint moves from `Normal` to `ReduceLoad`. -/
theorem disabled_monitor_records :
    disabledMonitor.config.enabled = false ∧ disabledMonitor.getSchedulingHint = .normal ∧
    (disabledMonitor.updateMetrics 100000000 95 0 0).history.length = 1 ∧
    (disabledMonitor.updateMetrics 100000000 95 0 0).getSchedulingHint = .reduceLoad :=
  ⟨rfl, rfl, rfl, rfl⟩

end LightKernel.Psi
