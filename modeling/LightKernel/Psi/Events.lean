import LightKernel.Psi.History
import LightKernel.Clock
import Mathlib.Data.List.Infix

/-!
# What the PSI monitor reports about the samples it recorded

`record_pressure_events` counts each recorded sample of severity Medium, High or Critical under its level, with a
`u64 += 1` that wraps at `2^64` in a release build, and `reset` clears the counters together with the history.
`add_history_entry` appends and drops only the oldest entry, so whatever `history_size` is and however
`update_config` changes it, the history is a suffix of the samples recorded since the last reset (`Tracks`). The
readers then report on those samples:

* `created_events_counted`: along every run from creation, each counter of `pressure_events` is the number of samples
  of its level recorded since the last reset, modulo `2^64`, and the history is a suffix of those samples;
* `created_history_window`: with `history_size` kept at `n`, the history is the last `n` of those samples;
* `created_current_severity`: with `history_size` kept at `n ≥ 1`, `get_current_severity`, and with it
  `get_scheduling_hint`, `is_under_pressure` and `is_critical_pressure`, reads the latest sample recorded since
  the last reset, and None when there is none;
* `created_average_pressure`: with `history_size` kept at `n`, `get_average_pressure(k)` averages the last
  `min k n` samples recorded since the last reset.
-/

namespace LightKernel.Psi

variable {P : Type}

/-- The severity that a key of `pressure_events` counts. -/
def PressureType.severity : PressureType → PSISeverity
  | .critical => .critical
  | .high => .high
  | .medium => .medium

/-- The number of entries of `l` whose severity is the one `k` counts. -/
def countLevel (l : List (PSIHistoryEntry P)) (k : PressureType) : Nat := l.countP (·.severity = k.severity)

@[simp] theorem countLevel_nil (k : PressureType) : countLevel ([] : List (PSIHistoryEntry P)) k = 0 := rfl

theorem countLevel_append_singleton (l : List (PSIHistoryEntry P)) (e : PSIHistoryEntry P) (k : PressureType) :
    countLevel (l ++ [e]) k = countLevel l k + if e.severity = k.severity then 1 else 0 := by
  simp [countLevel, List.countP_append, List.countP_singleton]

/-- The sums of the three pressures over `es`, added from zero oldest first, as `get_average_pressure` folds. -/
def sumPressures [Zero P] [Add P] (es : List (PSIHistoryEntry P)) : P × P × P :=
  es.foldl (fun (cpuAcc, memAcc, ioAcc) entry =>
    (cpuAcc + entry.cpuPressure, memAcc + entry.memoryPressure, ioAcc + entry.ioPressure)) (0, 0, 0)

/-- The mean of each pressure over `es`, and zeros for no entry. -/
def meanPressures [Zero P] [Add P] [Div P] [NatCast P] (es : List (PSIHistoryEntry P)) : P × P × P :=
  if es.length = 0 then (0, 0, 0)
  else
    let (cpuSum, memSum, ioSum) := sumPressures es
    (cpuSum / (es.length : P), memSum / (es.length : P), ioSum / (es.length : P))

/-- The window of the last `n` elements of the window of the last `m` is the window of the last `min n m`. -/
theorem lastN_lastN {α : Type} (l : List α) (m n : Nat) : lastN (lastN l m) n = lastN l (min n m) := by
  simp only [lastN, List.length_drop, List.drop_drop]
  congr 1
  omega

theorem getLast?_lastN {α : Type} (l : List α) {n : Nat} (hn : 0 < n) : (lastN l n).getLast? = l.getLast? := by
  rw [lastN, List.getLast?_drop]
  split
  · next h => rw [List.getLast?_eq_none_iff.mpr (List.length_eq_zero.mp (by omega))]
  · rfl

namespace PSIScheduler

/-- `record_pressure_events` adds one to the counter of the recorded severity's level and to no other. -/
theorem recordPressureEvents_pressureEvents (s : PSIScheduler P) (v : PSISeverity) (k : PressureType) :
    (s.recordPressureEvents v).pressureEvents k =
      if v = k.severity then s.pressureEvents k + 1 else s.pressureEvents k := by
  cases v <;> cases k <;> rfl

/-- `get_average_pressure(k)` is the mean over the last `k` entries of the history. -/
theorem getAveragePressure_eq [Zero P] [Add P] [Div P] [NatCast P] (s : PSIScheduler P) (k : Nat) :
    s.getAveragePressure k = meanPressures (lastN s.history k) := by
  have hlen : (lastN s.history k).length = min k s.history.length := by rw [length_lastN, Nat.min_comm]
  have hdrop : lastN s.history k = s.history.drop (s.history.length - min k s.history.length) := by
    rw [lastN]; congr 1; omega
  rw [meanPressures, hlen, hdrop]
  rfl

/-! ## The history and the counters against the samples recorded since the last reset -/

/-- The history is a suffix of the samples `l` recorded since the last reset, and each counter holds the number of
samples of its level in `l`, modulo `2^64`. -/
structure Tracks (s : PSIScheduler P) (l : List (PSIHistoryEntry P)) : Prop where
  suffix : s.history <:+ l
  events : ∀ k, s.pressureEvents k = UInt64.ofNat (countLevel l k)

section Tracks

variable {s : PSIScheduler P} {l : List (PSIHistoryEntry P)}

theorem withConfig_tracks [Zero P] (config : PSIConfig P) (now : Nat) : Tracks (withConfig config now) [] :=
  ⟨List.suffix_refl [], fun _ => rfl⟩

theorem addHistoryEntry_suffix (h : s.history <:+ l) (e : PSIHistoryEntry P) :
    (s.addHistoryEntry e).history <:+ l ++ [e] := by
  obtain ⟨t, ht⟩ := h
  have happ : s.history ++ [e] <:+ l ++ [e] := ⟨t, by rw [← ht, List.append_assoc]⟩
  simp only [addHistoryEntry]
  split
  · exact (List.tail_suffix _).trans happ
  · exact happ

/-- **Recording keeps the tracking**: the sample joins the history's end and is counted under its level. -/
theorem updateMetrics_tracks [LinearOrder P] (h : Tracks s l) (now : Nat) (cpu memory io : P) :
    Tracks (s.updateMetrics now cpu memory io) (s.trace l (.updateMetrics now cpu memory io)) := by
  unfold updateMetrics trace
  by_cases hlt : now - s.lastUpdate < s.config.updateInterval
  · simp only [hlt, if_true]; exact h
  · simp only [hlt, if_false]
    have hs : (({ s with metrics := ⟨cpu, memory, io⟩ } : PSIScheduler P).recordPressureEvents
        (s.calculateSeverity (max (max cpu memory) io))).history <:+ l := by
      rw [recordPressureEvents_history]; exact h.suffix
    refine ⟨addHistoryEntry_suffix hs _, fun k => ?_⟩
    simp only [addHistoryEntry, recordPressureEvents_pressureEvents, countLevel_append_singleton, h.events k]
    split
    · exact (uint64_ofNat_add_one _).symm
    · rfl

theorem step_tracks [LinearOrder P] [Zero P] (h : Tracks s l) (op : PSIOp P) : Tracks (s.step op) (s.trace l op) := by
  cases op with
  | updateMetrics now cpu memory io => exact updateMetrics_tracks h now cpu memory io
  | updateConfig config => exact ⟨h.suffix, h.events⟩
  | setEnabled enabled => exact ⟨h.suffix, h.events⟩
  | reset now => exact ⟨List.suffix_refl [], fun _ => rfl⟩

theorem run_tracks [LinearOrder P] [Zero P] (h : Tracks s l) (ops : List (PSIOp P)) :
    Tracks (s.run ops) (s.traceRun l ops) := by
  induction ops generalizing s l with
  | nil => exact h
  | cons op ops ih => exact ih (step_tracks h op)

end Tracks

theorem run_historySize [LinearOrder P] [Zero P] {s : PSIScheduler P} {ops : List (PSIOp P)}
    (hops : ∀ op ∈ ops, KeepsSize s.config.historySize op) : (s.run ops).config.historySize = s.config.historySize := by
  induction ops generalizing s with
  | nil => rfl
  | cons op ops ih =>
    have hn := step_historySize (hops op (List.mem_cons_self _ _))
    exact (ih fun o ho => hn ▸ hops o (List.mem_cons_of_mem _ ho)).trans hn

end PSIScheduler

open PSIScheduler

/-- **The counters count the recorded samples**: along every run from creation, whatever `history_size` is and
however it changes, each counter of `pressure_events` is the number of samples of its level recorded since the last
reset, modulo `2^64`, and the history is a suffix of those samples. -/
theorem created_events_counted [LinearOrder P] [Zero P] (config : PSIConfig P) (now : Nat) (ops : List (PSIOp P)) :
    ((withConfig config now).run ops).history <:+ (withConfig config now).traceRun [] ops ∧
      ∀ k, ((withConfig config now).run ops).pressureEvents k =
        UInt64.ofNat (countLevel ((withConfig config now).traceRun [] ops) k) :=
  let h := run_tracks (withConfig_tracks config now) ops
  ⟨h.suffix, h.events⟩

/-- From creation, along a run that keeps `history_size` at `n`, the history is the window of the last `n` samples
recorded since the last reset. -/
theorem created_window [LinearOrder P] [Zero P] {config : PSIConfig P} {now : Nat} {ops : List (PSIOp P)}
    (hops : ∀ op ∈ ops, KeepsSize config.historySize op) :
    ((withConfig config now).run ops).history = lastN ((withConfig config now).traceRun [] ops) config.historySize := by
  have hn : ((withConfig config now).run ops).config.historySize = config.historySize := run_historySize hops
  have hw : Window ((withConfig config now).run ops) ((withConfig config now).traceRun [] ops) :=
    run_window (by simp [Window, withConfig, lastN]) ops hops
  rw [← hn]
  exact hw

/-- **The history is the window of the latest samples**: from creation, along every run that keeps `history_size` at
`n`, the history is the last `n` samples recorded since the last reset, oldest first, and never longer than `n`. -/
theorem created_history_window [LinearOrder P] [Zero P] {config : PSIConfig P} {now : Nat} {ops : List (PSIOp P)}
    (hops : ∀ op ∈ ops, KeepsSize config.historySize op) :
    ((withConfig config now).run ops).history = lastN ((withConfig config now).traceRun [] ops) config.historySize ∧
      ((withConfig config now).run ops).history.length ≤ config.historySize := by
  rw [created_window hops, length_lastN]
  exact ⟨rfl, Nat.min_le_right _ _⟩

/-- Three samples, a reset and two more under a history of two. -/
theorem history_window_kept :
    (∀ op ∈ [PSIOp.updateMetrics 100000000 (10 : ℚ) 20 30, .updateMetrics 200000000 40 50 60, .reset 250000000,
      .updateMetrics 400000000 70 80 90, .updateMetrics 500000000 5 5 5], KeepsSize (keeping 2).historySize op) ∧
    ((withConfig (keeping 2) 0).run [.updateMetrics 100000000 10 20 30, .updateMetrics 200000000 40 50 60,
        .reset 250000000, .updateMetrics 400000000 70 80 90, .updateMetrics 500000000 5 5 5]).history =
      lastN ((withConfig (keeping 2) 0).traceRun [] [.updateMetrics 100000000 10 20 30,
        .updateMetrics 200000000 40 50 60, .reset 250000000, .updateMetrics 400000000 70 80 90,
        .updateMetrics 500000000 5 5 5]) (keeping 2).historySize ∧
    ((withConfig (keeping 2) 0).run [.updateMetrics 100000000 10 20 30, .updateMetrics 200000000 40 50 60,
        .reset 250000000, .updateMetrics 400000000 70 80 90, .updateMetrics 500000000 5 5 5]).history.length ≤
      (keeping 2).historySize := by
  have hops : ∀ op ∈ [PSIOp.updateMetrics 100000000 (10 : ℚ) 20 30, .updateMetrics 200000000 40 50 60,
      .reset 250000000, .updateMetrics 400000000 70 80 90, .updateMetrics 500000000 5 5 5],
      KeepsSize (keeping 2).historySize op := by simp [KeepsSize]
  exact ⟨hops, created_history_window hops⟩

/-- **The current severity is the latest sample's**: from creation, along every run that keeps `history_size` at a
positive `n`, `get_current_severity` is the severity of the last sample recorded since the last reset, and None
when there is none. -/
theorem created_current_severity [LinearOrder P] [Zero P] {config : PSIConfig P} {now : Nat}
    {ops : List (PSIOp P)} (hops : ∀ op ∈ ops, KeepsSize config.historySize op) (hn : 0 < config.historySize) :
    ((withConfig config now).run ops).getCurrentSeverity =
      (((withConfig config now).traceRun [] ops).getLast?.map PSIHistoryEntry.severity).getD .none := by
  rw [getCurrentSeverity, created_window hops, getLast?_lastN _ hn]

/-- A critical sample kept in a history of two, across an `update_config` that keeps the size. -/
theorem current_severity_kept :
    (∀ op ∈ [.updateMetrics 100000000 95 5 5, .updateConfig (keeping 2)], KeepsSize (keeping 2).historySize op) ∧
      0 < (keeping 2).historySize ∧
      ((withConfig (keeping 2) 0).run [.updateMetrics 100000000 95 5 5, .updateConfig (keeping 2)]).getCurrentSeverity =
        (((withConfig (keeping 2) 0).traceRun [] [.updateMetrics 100000000 95 5 5, .updateConfig (keeping 2)]).getLast?.map
          PSIHistoryEntry.severity).getD .none := by
  have hops : ∀ op ∈ [PSIOp.updateMetrics 100000000 95 5 5, .updateConfig (keeping 2)],
      KeepsSize (keeping 2).historySize op := by simp [KeepsSize]
  exact ⟨hops, by decide, created_current_severity hops (by decide)⟩

/-- **The average is over the latest samples**: from creation, along every run that keeps `history_size` at `n`,
`get_average_pressure(k)` is the mean over the last `min k n` samples recorded since the last reset. -/
theorem created_average_pressure [LinearOrder P] [Zero P] [Add P] [Div P] [NatCast P] {config : PSIConfig P}
    {now : Nat} {ops : List (PSIOp P)} (hops : ∀ op ∈ ops, KeepsSize config.historySize op) (k : Nat) :
    ((withConfig config now).run ops).getAveragePressure k =
      meanPressures (lastN ((withConfig config now).traceRun [] ops) (min k config.historySize)) := by
  rw [getAveragePressure_eq, created_window hops, lastN_lastN]

/-- Three samples under a history of two: the average over the last five entries is over the last two samples. -/
theorem average_pressure_kept :
    (∀ op ∈ [PSIOp.updateMetrics 100000000 (10 : ℚ) 20 30, .updateMetrics 200000000 40 50 60,
      .updateMetrics 300000000 70 80 90], KeepsSize (keeping 2).historySize op) ∧
      ((withConfig (keeping 2) 0).run [.updateMetrics 100000000 10 20 30, .updateMetrics 200000000 40 50 60,
          .updateMetrics 300000000 70 80 90]).getAveragePressure 5 =
        meanPressures (lastN ((withConfig (keeping 2) 0).traceRun [] [.updateMetrics 100000000 10 20 30,
          .updateMetrics 200000000 40 50 60, .updateMetrics 300000000 70 80 90]) (min 5 (keeping 2).historySize)) := by
  have hops : ∀ op ∈ [PSIOp.updateMetrics 100000000 (10 : ℚ) 20 30, .updateMetrics 200000000 40 50 60,
      .updateMetrics 300000000 70 80 90], KeepsSize (keeping 2).historySize op := by simp [KeepsSize]
  exact ⟨hops, created_average_pressure hops 5⟩

end LightKernel.Psi
