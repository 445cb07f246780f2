import LightKernel.Psi.Basic
import Mathlib.Data.Rat.Defs
import Mathlib.Algebra.Order.Ring.Rat

/-!
# The PSI history as a sliding window

With a fixed `history_size`, the history is the last `history_size` samples recorded since the last reset, oldest
first (`Window`): recording a sample slides the window (`addHistoryEntry_window`, `updateMetrics_window`), a reset
empties it, and `set_enabled` keeps it. `add_history_entry` drops at most one entry, so after `update_config`
lowers `history_size` below the history's length the bound is never re-established
(`history_outgrows_lowered_size`).
-/

namespace LightKernel.Psi

variable {P : Type} {α : Type}

/-- The `n` most recent elements of `l`, oldest first. -/
def lastN (l : List α) (n : Nat) : List α := l.drop (l.length - n)

@[simp] theorem length_lastN (l : List α) (n : Nat) : (lastN l n).length = min l.length n := by
  simp only [lastN, List.length_drop]; omega

/-- Appending to a window of `l` and dropping one element when it grows past `n` gives the window of `l ++ [e]`. -/
theorem lastN_append (l : List α) (e : α) (n : Nat) :
    (if (lastN l n ++ [e]).length > n then (lastN l n ++ [e]).tail else lastN l n ++ [e]) = lastN (l ++ [e]) n := by
  have hk : l.length - n ≤ l.length := Nat.sub_le _ _
  have happ : lastN l n ++ [e] = (l ++ [e]).drop (l.length - n) := (List.drop_append_of_le_length hk).symm
  rw [happ]
  simp only [lastN, List.length_drop, List.length_append, List.length_singleton]
  split
  · rw [← List.drop_one, List.drop_drop]; congr 1; omega
  · congr 1; omega

namespace PSIScheduler

/-- The history is the window of the samples `l` recorded since the last reset. -/
def Window (s : PSIScheduler P) (l : List (PSIHistoryEntry P)) : Prop := s.history = lastN l s.config.historySize

variable {s : PSIScheduler P} {l : List (PSIHistoryEntry P)}

theorem Window.length_le (h : Window s l) : s.history.length ≤ s.config.historySize := by
  rw [h, length_lastN]; exact Nat.min_le_right _ _

theorem addHistoryEntry_window (h : Window s l) (e : PSIHistoryEntry P) :
    Window (s.addHistoryEntry e) (l ++ [e]) := by
  unfold Window at h ⊢
  simp only [addHistoryEntry]
  rw [h]
  exact lastN_append l e _

/-- **Recording slides the window**; a call within the update interval records nothing. -/
theorem updateMetrics_window [LinearOrder P] (h : Window s l) (now : Nat) (cpu memory io : P) :
    Window (s.updateMetrics now cpu memory io)
      (if now - s.lastUpdate < s.config.updateInterval then l
       else l ++ [⟨now, cpu, memory, io, s.calculateSeverity (max (max cpu memory) io)⟩]) := by
  unfold updateMetrics
  split
  · exact h
  · have hr : Window ({ s with metrics := ⟨cpu, memory, io⟩ }.recordPressureEvents
        (s.calculateSeverity (max (max cpu memory) io))) l := by
      simp only [Window, recordPressureEvents_history, recordPressureEvents_config]; exact h
    exact addHistoryEntry_window hr _

theorem reset_window [Zero P] (now : Nat) : Window (s.reset now) [] := by
  simp [Window, reset, lastN]

theorem setEnabled_window (h : Window s l) (enabled : Bool) : Window (s.setEnabled enabled) l := h

theorem updateConfig_window (h : Window s l) {config : PSIConfig P} (hn : config.historySize = s.config.historySize) :
    Window (s.updateConfig config) l := by
  simp only [Window, updateConfig, hn]; exact h

/-- The samples recorded since the last reset, after one more operation. -/
def trace [LinearOrder P] (s : PSIScheduler P) (l : List (PSIHistoryEntry P)) : PSIOp P → List (PSIHistoryEntry P)
  | .updateMetrics now cpu memory io =>
    if now - s.lastUpdate < s.config.updateInterval then l
    else l ++ [⟨now, cpu, memory, io, s.calculateSeverity (max (max cpu memory) io)⟩]
  | .reset _ => []
  | _ => l

/-- The samples recorded since the last reset, after a run. -/
def traceRun [LinearOrder P] [Zero P] : PSIScheduler P → List (PSIHistoryEntry P) → List (PSIOp P) →
    List (PSIHistoryEntry P)
  | _, l, [] => l
  | s, l, op :: ops => traceRun (s.step op) (s.trace l op) ops

/-- An operation that leaves `history_size` at `n`. -/
def KeepsSize (n : Nat) : PSIOp P → Prop
  | .updateConfig config => config.historySize = n
  | _ => True

theorem step_historySize [LinearOrder P] [Zero P] {op : PSIOp P} (hop : KeepsSize s.config.historySize op) :
    (s.step op).config.historySize = s.config.historySize := by
  cases op with
  | updateMetrics now cpu memory io => simp [step]
  | updateConfig config => exact hop
  | setEnabled enabled => rfl
  | reset now => rfl

theorem step_window [LinearOrder P] [Zero P] (h : Window s l) {op : PSIOp P}
    (hop : KeepsSize s.config.historySize op) : Window (s.step op) (s.trace l op) := by
  cases op with
  | updateMetrics now cpu memory io => exact updateMetrics_window h now cpu memory io
  | updateConfig config => exact updateConfig_window h hop
  | setEnabled enabled => exact setEnabled_window h enabled
  | reset now => exact reset_window now

/-- **The window law over a run** that keeps `history_size`: the history is the last `history_size` samples
recorded since the last reset, and never longer than `history_size`. -/
theorem run_window [LinearOrder P] [Zero P] (h : Window s l) (ops : List (PSIOp P))
    (hops : ∀ op ∈ ops, KeepsSize s.config.historySize op) : Window (s.run ops) (s.traceRun l ops) := by
  induction ops generalizing s l with
  | nil => exact h
  | cons op ops ih =>
    have hop := hops op (List.mem_cons_self _ _)
    have hn := step_historySize hop
    exact ih (step_window h hop) fun o ho => hn ▸ hops o (List.mem_cons_of_mem _ ho)

end PSIScheduler

/-- A configuration of the default thresholds and interval, keeping `n` entries. -/
def keeping (n : Nat) : PSIConfig ℚ := { PSIConfig.default with historySize := n }

/-- Two samples kept with `history_size` 2; after lowering it to 1, a third sample leaves two entries. -/
theorem history_outgrows_lowered_size :
    ((PSIScheduler.withConfig (keeping 2) 0).run
      [.updateMetrics 100000000 5 5 5, .updateMetrics 200000000 5 5 5, .updateConfig (keeping 1),
        .updateMetrics 300000000 5 5 5]).history.length = 2 ∧
    ((PSIScheduler.withConfig (keeping 2) 0).run
      [.updateMetrics 100000000 5 5 5, .updateMetrics 200000000 5 5 5, .updateConfig (keeping 1),
        .updateMetrics 300000000 5 5 5]).config.historySize = 1 := by
  constructor <;> rfl

end LightKernel.Psi
