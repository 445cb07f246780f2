import LightKernel.Psi.Severity
import Mathlib.Data.List.Chain

/-!
# Timestamps of the PSI history

`update_metrics` records a sample only when `now.duration_since(last_update)` has reached the update interval, stamps
it `now` and stores `now` in `last_update`; `reset` empties the history and restarts `last_update`. So along any
run whose `update_metrics` calls come at non-decreasing instants, the last entry carries `last_update`, and each
entry lies at least the interval in force when it was recorded after the one before it. The interval may change
between samples, so the run is annotated: `stamp` keeps, beside each entry of the history, the interval under which
it was recorded, and drops entries exactly as `add_history_entry` does.

* `step_stampsInv`: one operation keeps `StampsInv` when the sample, if any, is no older than the last entry;
* `samples_spaced`: from creation, every run at non-decreasing sample times keeps it.
-/

namespace LightKernel.Psi

variable {P : Type}

/-- The instant of an `update_metrics` call. -/
def PSIOp.updateTime? : PSIOp P → Option Nat
  | .updateMetrics now _ _ _ => some now
  | .updateConfig _ | .setEnabled _ | .reset _ => none

/-- A history entry with the update interval in force when it was recorded. -/
abbrev Stamped (P : Type) := PSIHistoryEntry P × Nat

/-- Successive entries at least the later one's interval apart. -/
def Spaced (g : List (Stamped P)) : Prop := g.Chain' fun a b => a.1.timestamp + b.2 ≤ b.1.timestamp

namespace PSIScheduler

/-- The annotated history after one more operation. -/
def stamp [LinearOrder P] (s : PSIScheduler P) (g : List (Stamped P)) : PSIOp P → List (Stamped P)
  | .updateMetrics now cpu memory io =>
    if now - s.lastUpdate < s.config.updateInterval then g
    else
      let g := g ++ [(⟨now, cpu, memory, io, s.calculateSeverity (max (max cpu memory) io)⟩, s.config.updateInterval)]
      if g.length > s.config.historySize then g.tail else g
  | .reset _ => []
  | .updateConfig _ | .setEnabled _ => g

/-- The annotated history after a run. -/
def stampRun [LinearOrder P] [Zero P] : PSIScheduler P → List (Stamped P) → List (PSIOp P) → List (Stamped P)
  | _, g, [] => g
  | s, g, op :: ops => stampRun (s.step op) (s.stamp g op) ops

/-- The annotation is the history, spaced by the recording intervals, and the last entry carries `last_update`. -/
structure StampsInv (s : PSIScheduler P) (g : List (Stamped P)) : Prop where
  history : g.map Prod.fst = s.history
  spaced : Spaced g
  last : ∀ e ∈ s.history.getLast?, e.timestamp = s.lastUpdate

section Step

variable {s : PSIScheduler P} {g : List (Stamped P)}

/-- Appending a sample that passed the interval against a last entry no later than it keeps the spacing. -/
theorem spaced_append {now : Nat} {x : Stamped P} (h : StampsInv s g) (hx : x.1.timestamp = now)
    (hi : x.2 = s.config.updateInterval) (hpass : ¬ now - s.lastUpdate < s.config.updateInterval)
    (hle : ∀ e ∈ s.history.getLast?, e.timestamp ≤ now) : Spaced (g ++ [x]) := by
  unfold Spaced
  rw [List.chain'_append]
  refine ⟨h.spaced, List.chain'_singleton _, fun a ha b hb => ?_⟩
  cases List.mem_singleton.mp (by simpa using hb)
  have hlast : a.1 ∈ s.history.getLast? := by
    rw [← h.history, List.getLast?_map]; exact Option.mem_map_of_mem _ ha
  have h1 := h.last a.1 hlast
  have h2 := hle a.1 hlast
  omega

theorem updateMetrics_stampsInv [LinearOrder P] (h : StampsInv s g) {now : Nat} (cpu memory io : P)
    (hle : ∀ e ∈ s.history.getLast?, e.timestamp ≤ now) :
    StampsInv (s.updateMetrics now cpu memory io) (s.stamp g (.updateMetrics now cpu memory io)) := by
  by_cases hpass : now - s.lastUpdate < s.config.updateInterval
  · simp only [updateMetrics, stamp, hpass, if_true]
    exact h
  · rw [updateMetrics_eq_record (Nat.le_of_not_lt hpass)]
    simp only [stamp, hpass, if_false]
    generalize s.calculateSeverity (max (max cpu memory) io) = v
    have hs : Spaced (g ++ [((⟨now, cpu, memory, io, v⟩ : PSIHistoryEntry P), s.config.updateInterval)]) :=
      spaced_append h rfl rfl hpass hle
    have hm : (g ++ [((⟨now, cpu, memory, io, v⟩ : PSIHistoryEntry P), s.config.updateInterval)]).map Prod.fst =
        s.history ++ [⟨now, cpu, memory, io, v⟩] := by
      rw [List.map_append, h.history]; rfl
    refine ⟨?_, ?_, fun e he => ?_⟩
    · simp only [record, addHistoryEntry, recordPressureEvents_history, recordPressureEvents_config]
      rw [← hm, List.length_map]
      split <;> simp [List.map_tail]
    · split
      · exact hs.tail
      · exact hs
    · rw [record_getLast? s now cpu memory io v e he]
      rfl

theorem step_stampsInv [LinearOrder P] [Zero P] (h : StampsInv s g) {op : PSIOp P}
    (hle : ∀ now ∈ op.updateTime?, ∀ e ∈ s.history.getLast?, e.timestamp ≤ now) :
    StampsInv (s.step op) (s.stamp g op) := by
  cases op with
  | updateMetrics now cpu memory io => exact updateMetrics_stampsInv h cpu memory io (hle now rfl)
  | updateConfig config => exact ⟨h.history, h.spaced, h.last⟩
  | setEnabled enabled => exact ⟨h.history, h.spaced, h.last⟩
  | reset now => exact ⟨rfl, List.chain'_nil, fun e he => by simp [step, reset] at he⟩

/-- After one operation the last entry is the sample just recorded, or one that was there before. -/
theorem step_last_le [LinearOrder P] [Zero P] {op : PSIOp P} {T : List Nat}
    (hs : ∀ e ∈ s.history.getLast?, ∀ t ∈ T, e.timestamp ≤ t) (ht : ∀ now ∈ op.updateTime?, ∀ t ∈ T, now ≤ t) :
    ∀ e ∈ (s.step op).history.getLast?, ∀ t ∈ T, e.timestamp ≤ t := by
  cases op with
  | updateMetrics now cpu memory io =>
    intro e he
    by_cases hpass : now - s.lastUpdate < s.config.updateInterval
    · simp only [step, updateMetrics, hpass, if_true] at he
      exact hs e he
    · simp only [step, updateMetrics_eq_record (Nat.le_of_not_lt hpass)] at he
      rw [record_getLast? s now cpu memory io _ e he]
      exact ht now rfl
  | updateConfig config => exact hs
  | setEnabled enabled => exact hs
  | reset now => intro e he; simp [step, reset] at he

end Step

/-- **Stamps over a run**: when the samples come at non-decreasing instants, none earlier than the last entry,
every run keeps `StampsInv`. -/
theorem run_stampsInv [LinearOrder P] [Zero P] {s : PSIScheduler P} {g : List (Stamped P)} (h : StampsInv s g)
    (ops : List (PSIOp P)) (hmono : (ops.filterMap PSIOp.updateTime?).Pairwise (· ≤ ·))
    (hstart : ∀ e ∈ s.history.getLast?, ∀ t ∈ ops.filterMap PSIOp.updateTime?, e.timestamp ≤ t) :
    StampsInv (s.run ops) (s.stampRun g ops) := by
  induction ops generalizing s g with
  | nil => exact h
  | cons op ops ih =>
    rw [List.filterMap_cons] at hmono hstart
    rcases hop : op.updateTime? with _ | now <;> simp only [hop] at hmono hstart
    · have hnone : ∀ n ∈ op.updateTime?, False := by simp [hop]
      exact ih (step_stampsInv h fun n hn => (hnone n hn).elim) hmono
        (step_last_le hstart fun n hn => (hnone n hn).elim)
    · have hnow : ∀ n ∈ op.updateTime?, n = now := by simp [hop]
      exact ih (step_stampsInv h fun n hn e he => hnow n hn ▸ hstart e he now (List.mem_cons_self _ _)) hmono.of_cons
        (step_last_le (fun e he t ht => hstart e he t (List.mem_cons_of_mem _ ht))
          fun n hn t ht => hnow n hn ▸ List.rel_of_pairwise_cons hmono ht)

/-- **PSI samples are spaced by the update interval**: from creation, along every run of `update_metrics` at
non-decreasing instants, `update_config`, `set_enabled` and `reset`, the annotated history is the history, its last
entry carries `last_update`, and each entry lies at least its recording interval after the one before it. -/
theorem samples_spaced [LinearOrder P] [Zero P] (config : PSIConfig P) (created : Nat) (ops : List (PSIOp P))
    (hmono : (ops.filterMap PSIOp.updateTime?).Pairwise (· ≤ ·)) :
    StampsInv ((withConfig config created).run ops) ((withConfig config created).stampRun [] ops) :=
  run_stampsInv ⟨rfl, List.chain'_nil, fun e he => by simp [withConfig] at he⟩ ops hmono
    fun e he => by simp [withConfig] at he

end PSIScheduler

/-- Samples at 100, 200 and 350 ms with the interval raised to 150 ms in between, a reset, and one more sample. -/
theorem samples_spaced_default :
    (([.updateMetrics 100000000 5 5 5, .updateMetrics 200000000 40 5 5,
        .updateConfig { PSIConfig.default with updateInterval := 150000000 }, .updateMetrics 350000000 95 5 5,
        .reset 400000000, .updateMetrics 600000000 5 5 5] : List (PSIOp ℚ)).filterMap PSIOp.updateTime?).Pairwise
        (· ≤ ·) ∧
    PSIScheduler.StampsInv (defaultMonitor.run [.updateMetrics 100000000 5 5 5, .updateMetrics 200000000 40 5 5,
        .updateConfig { PSIConfig.default with updateInterval := 150000000 }, .updateMetrics 350000000 95 5 5,
        .reset 400000000, .updateMetrics 600000000 5 5 5])
      (defaultMonitor.stampRun [] [.updateMetrics 100000000 5 5 5, .updateMetrics 200000000 40 5 5,
        .updateConfig { PSIConfig.default with updateInterval := 150000000 }, .updateMetrics 350000000 95 5 5,
        .reset 400000000, .updateMetrics 600000000 5 5 5]) :=
  ⟨by decide, PSIScheduler.samples_spaced _ _ _ (by decide)⟩

end LightKernel.Psi
