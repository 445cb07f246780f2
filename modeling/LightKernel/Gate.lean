import LightKernel.Clock
import Mathlib.Logic.Function.Basic

/-!
# Interval gates run on several CPUs at once

`load_balance` and `set_frequency` share one shape. A call enters (the scheduler's state check,
`ensure_initialized`) and samples the clock, loads the stamp of the last action, refuses while
`now - last < interval`, acts (balances, or has the driver change the frequency), and only then stores its sample
as the new stamp. The load, the check, the action and the store are separate steps, so calls on different CPUs
interleave. `GateHooks` are the parts in which the two calls differ, with the laws the lemmas below need;
`GateSystem` runs calls on any number of CPUs, one event an atomic step, and logs the clock at each action and each
check that subtracted a later stamp from an earlier sample.

* `serial_call_eq`: one CPU running its five steps back to back is the sequential call `GateHooks.call`;
* `serial_run`: in schedules where each call runs to its end before the next begins, every CPU is idle between
  calls, no check underflows, and every invariant that the sequential call keeps is kept;
* `step_check_stale`: a clock sample older than the loaded stamp underflows and passes the gate.
-/

namespace LightKernel.Gate

/-- The parts of a gated call over a shared state `σ`: who may enter and what entering does, the stamp and the
interval, the action with its collaborators' answers `ι` (`none` when it fails, or its result `β` and the state it
leaves), and the store of the sample. Entering and acting leave the stamp; storing sets it. -/
structure GateHooks (σ ι β : Type) where
  enter : σ → Bool
  onEnter : σ → σ
  stamp : σ → UInt64
  interval : σ → UInt64
  act : ι → UInt64 → σ → Option (β × σ)
  store : β → UInt64 → σ → σ
  stamp_onEnter : ∀ s, stamp (onEnter s) = stamp s
  stamp_act : ∀ {i now s b s'}, act i now s = some (b, s') → stamp s' = stamp s
  stamp_store : ∀ b now s, stamp (store b now s) = now

variable {σ ι β : Type}

/-- The sequential call with the clock sample `now`. -/
def GateHooks.call (h : GateHooks σ ι β) (i : ι) (now : UInt64) (s : σ) : σ :=
  if !h.enter s then s
  else
    let s := h.onEnter s
    if now - h.stamp s < h.interval s then s
    else
      match h.act i now s with
      | none => s
      | some (b, s') => h.store b now s'

/-- A call leaves the stamp, or stores its sample. -/
theorem GateHooks.call_stamp (h : GateHooks σ ι β) (i : ι) (now : UInt64) (s : σ) :
    h.stamp (h.call i now s) = h.stamp s ∨ h.stamp (h.call i now s) = now := by
  unfold GateHooks.call
  split
  · exact .inl rfl
  dsimp only
  split
  · exact .inl (h.stamp_onEnter s)
  split
  · exact .inl (h.stamp_onEnter s)
  · exact .inr (h.stamp_store _ _ _)

/-- Where one CPU is in a call, with the locals it holds. -/
inductive GatePc (β : Type)
  | idle
  | sampled (now : UInt64)
  | loaded (now last : UInt64)
  | passed (now : UInt64)
  | acted (now : UInt64) (b : β)
  deriving DecidableEq, Repr

/-- One atomic step: the clock moves (never back), or a CPU takes its next step of a call: entering it with its
clock sample, the load, the check, the action with its collaborators' answers, and the store. -/
inductive GateEvent (ι : Type)
  | tick (t : UInt64)
  | start (cpu : Nat)
  | load (cpu : Nat)
  | check (cpu : Nat)
  | act (cpu : Nat) (i : ι)
  | store (cpu : Nat)

/-- The shared state, the clock, each CPU's place in a call, and the logs of the clock at each action and of each
check that subtracted a later stamp from an earlier sample. -/
structure GateSystem (h : GateHooks σ ι β) where
  shared : σ
  clock : UInt64
  pc : Nat → GatePc β
  passes : List UInt64
  underflows : List (UInt64 × UInt64)

namespace GateSystem

variable {h : GateHooks σ ι β}

/-- The system at `s` with every CPU idle and the clock at `now`. -/
def initial (h : GateHooks σ ι β) (s : σ) (now : UInt64) : GateSystem h := ⟨s, now, fun _ => .idle, [], []⟩

/-- Move CPU `cpu` to `p`. -/
def goto (s : GateSystem h) (cpu : Nat) (p : GatePc β) : GateSystem h := { s with pc := Function.update s.pc cpu p }

/-- Replace the shared state. -/
def withShared (s : GateSystem h) (x : σ) : GateSystem h := { s with shared := x }

/-- Log a check whose sample `now` is older than the loaded stamp `last`. -/
def logUnderflow (s : GateSystem h) (now last : UInt64) : GateSystem h :=
  if now < last then { s with underflows := s.underflows ++ [(now, last)] } else s

/-- Log an action at the current clock. -/
def logPass (s : GateSystem h) : GateSystem h := { s with passes := s.passes ++ [s.clock] }

/-- One step. A CPU's event that does not match its place changes nothing. -/
def step (s : GateSystem h) : GateEvent ι → GateSystem h
  | .tick t => { s with clock := max s.clock t }
  | .start cpu =>
    match s.pc cpu with
    | .idle => if h.enter s.shared then (s.goto cpu (.sampled s.clock)).withShared (h.onEnter s.shared) else s
    | _ => s
  | .load cpu =>
    match s.pc cpu with
    | .sampled now => s.goto cpu (.loaded now (h.stamp s.shared))
    | _ => s
  | .check cpu =>
    match s.pc cpu with
    | .loaded now last =>
      (s.logUnderflow now last).goto cpu (if now - last < h.interval s.shared then .idle else .passed now)
    | _ => s
  | .act cpu i =>
    match s.pc cpu with
    | .passed now =>
      match h.act i s.clock s.shared with
      | none => s.logPass.goto cpu .idle
      | some (b, x) => (s.logPass.goto cpu (.acted now b)).withShared x
    | _ => s
  | .store cpu =>
    match s.pc cpu with
    | .acted now b => (s.goto cpu .idle).withShared (h.store b now s.shared)
    | _ => s

/-- A run of events. -/
def run (s : GateSystem h) (es : List (GateEvent ι)) : GateSystem h := es.foldl step s

/-- The five steps of one call on `cpu`. -/
def call (cpu : Nat) (i : ι) : List (GateEvent ι) := [.start cpu, .load cpu, .check cpu, .act cpu i, .store cpu]

section Steps

variable {s : GateSystem h} {cpu : Nat} {p : GatePc β} {x : σ} {now last : UInt64}

@[simp] theorem withShared_shared : (s.withShared x).shared = x := rfl
@[simp] theorem withShared_clock : (s.withShared x).clock = s.clock := rfl
@[simp] theorem withShared_pc : (s.withShared x).pc = s.pc := rfl
@[simp] theorem withShared_underflows : (s.withShared x).underflows = s.underflows := rfl

@[simp] theorem goto_shared : (s.goto cpu p).shared = s.shared := rfl
@[simp] theorem goto_clock : (s.goto cpu p).clock = s.clock := rfl
@[simp] theorem goto_pc : (s.goto cpu p).pc = Function.update s.pc cpu p := rfl
@[simp] theorem goto_underflows : (s.goto cpu p).underflows = s.underflows := rfl
@[simp] theorem logUnderflow_shared : (s.logUnderflow now last).shared = s.shared := by
  unfold logUnderflow; split <;> rfl
@[simp] theorem logUnderflow_clock : (s.logUnderflow now last).clock = s.clock := by
  unfold logUnderflow; split <;> rfl
@[simp] theorem logUnderflow_pc : (s.logUnderflow now last).pc = s.pc := by
  unfold logUnderflow; split <;> rfl
@[simp] theorem logUnderflow_underflows : (s.logUnderflow now last).underflows =
    if now < last then s.underflows ++ [(now, last)] else s.underflows := by
  unfold logUnderflow; split <;> rfl
@[simp] theorem logPass_shared : s.logPass.shared = s.shared := rfl
@[simp] theorem logPass_clock : s.logPass.clock = s.clock := rfl
@[simp] theorem logPass_pc : s.logPass.pc = s.pc := rfl
@[simp] theorem logPass_underflows : s.logPass.underflows = s.underflows := rfl

/-- A load, check, action or store event of an idle CPU changes nothing. -/
theorem step_idle (h0 : s.pc cpu = .idle) (e : GateEvent ι)
    (he : e = .load cpu ∨ e = .check cpu ∨ (∃ i, e = .act cpu i) ∨ e = .store cpu) : s.step e = s := by
  rcases he with rfl | rfl | ⟨i, rfl⟩ | rfl <;> simp [step, h0]

theorem step_start (h0 : s.pc cpu = .idle) (he : h.enter s.shared = true) :
    s.step (.start cpu) = (s.goto cpu (.sampled s.clock)).withShared (h.onEnter s.shared) := by
  simp [step, h0, he]

theorem step_load (now : UInt64) (hp : s.pc cpu = .sampled now) :
    s.step (.load cpu) = s.goto cpu (.loaded now (h.stamp s.shared)) := by
  simp [step, hp]

theorem step_check (now last : UInt64) (hp : s.pc cpu = .loaded now last) :
    s.step (.check cpu) = (s.logUnderflow now last).goto cpu
      (if now - last < h.interval s.shared then .idle else .passed now) := by
  simp [step, hp]

theorem step_act (now : UInt64) (hp : s.pc cpu = .passed now) (i : ι) :
    s.step (.act cpu i) =
      match h.act i s.clock s.shared with
      | none => s.logPass.goto cpu .idle
      | some (b, x) => (s.logPass.goto cpu (.acted now b)).withShared x := by
  simp only [step, hp]

theorem step_store (now : UInt64) (b : β) (hp : s.pc cpu = .acted now b) :
    s.step (.store cpu) = (s.goto cpu .idle).withShared (h.store b now s.shared) := by
  simp [step, hp]

/-- **A stale sample passes the gate**: a CPU whose clock sample is older than the stamp it loaded (by less than
the wrap minus the interval) passes the check, and the underflow is logged. -/
theorem step_check_stale (hp : s.pc cpu = .loaded now last) (hlt : now < last)
    (hi : (h.interval s.shared).toNat + (last.toNat - now.toNat) ≤ 2 ^ 64) :
    (s.step (.check cpu)).pc cpu = .passed now ∧ (now, last) ∈ (s.step (.check cpu)).underflows := by
  rw [step_check now last hp, if_neg (gate_passes_of_stale hlt hi)]
  simp [hlt]

end Steps

/-- **One CPU alone is the sequential call**: from an idle CPU, its five steps back to back leave the shared state
as one `GateHooks.call` at the clock's time does, the clock and every CPU where they were, and log no underflow
when the stored stamp is not after the clock. -/
theorem serial_call_eq {s : GateSystem h} {cpu : Nat} (h0 : s.pc cpu = .idle) (i : ι) :
    (s.run (call cpu i)).shared = h.call i s.clock s.shared ∧ (s.run (call cpu i)).clock = s.clock ∧
    (s.run (call cpu i)).pc = s.pc ∧
    (h.stamp s.shared ≤ s.clock → (s.run (call cpu i)).underflows = s.underflows) := by
  have hpc : Function.update s.pc cpu .idle = s.pc := by rw [← h0, Function.update_eq_self]
  simp only [run, call, List.foldl_cons, List.foldl_nil]
  by_cases he : h.enter s.shared = true
  · have hu : h.stamp s.shared ≤ s.clock → ¬ s.clock < h.stamp (h.onEnter s.shared) := fun hle hlt =>
      absurd hle (UInt64.not_le.mpr (h.stamp_onEnter s.shared ▸ hlt))
    rw [step_start h0 he, step_load s.clock (by simp), step_check s.clock (h.stamp (h.onEnter s.shared)) (by simp)]
    simp only [withShared_shared, goto_shared]
    by_cases hg : s.clock - h.stamp (h.onEnter s.shared) < h.interval (h.onEnter s.shared)
    · rw [if_pos hg, step_idle (by simp) _ (.inr (.inr (.inl ⟨_, rfl⟩))),
        step_idle (by simp) _ (.inr (.inr (.inr rfl)))]
      exact ⟨by simp [GateHooks.call, he, hg], by simp, by simp [hpc], fun hle => by simp [hu hle]⟩
    · rw [if_neg hg, step_act s.clock (by simp)]
      simp only [logUnderflow_shared, logUnderflow_clock, goto_shared, goto_clock, withShared_shared, withShared_clock]
      rcases ha : h.act i s.clock (h.onEnter s.shared) with _ | ⟨b, x⟩ <;> dsimp only
      · rw [step_idle (by simp) _ (.inr (.inr (.inr rfl)))]
        exact ⟨by simp [GateHooks.call, he, hg, ha], by simp, by simp [hpc], fun hle => by simp [hu hle]⟩
      · rw [step_store s.clock b (by simp)]
        exact ⟨by simp [GateHooks.call, he, hg, ha], by simp, by simp [hpc], fun hle => by simp [hu hle]⟩
  · have hs : s.step (.start cpu) = s := by simp [step, h0, he]
    rw [hs, step_idle h0 _ (.inl rfl), step_idle h0 _ (.inr (.inl rfl)),
      step_idle h0 _ (.inr (.inr (.inl ⟨_, rfl⟩))), step_idle h0 _ (.inr (.inr (.inr rfl)))]
    exact ⟨by simp [GateHooks.call, he], rfl, rfl, fun _ => rfl⟩

/-! ## Serial schedules -/

/-- A step of a serial schedule: the clock moves, or one CPU runs a whole call. -/
inductive SerialEvent (ι : Type)
  | tick (t : UInt64)
  | call (cpu : Nat) (i : ι)

/-- The atomic steps of a serial step. -/
def SerialEvent.events : SerialEvent ι → List (GateEvent ι)
  | .tick t => [.tick t]
  | .call cpu i => GateSystem.call cpu i

/-- Between calls: every CPU idle, and the stored stamp not after the clock. -/
structure Quiescent (s : GateSystem h) : Prop where
  idle : ∀ cpu, s.pc cpu = .idle
  stamp_le : h.stamp s.shared ≤ s.clock

section Serial

variable {P : σ → Prop}

/-- A serial step keeps the system quiescent, logs no underflow, and keeps every invariant `P` of the shared state
that the sequential call keeps from a stamp not after its sample. -/
theorem Quiescent.serialStep (hP : ∀ i now s, h.stamp s ≤ now → P s → P (h.call i now s)) {s : GateSystem h}
    (hq : Quiescent s) (hs : P s.shared) (e : SerialEvent ι) :
    Quiescent (s.run e.events) ∧ P (s.run e.events).shared ∧ (s.run e.events).underflows = s.underflows := by
  cases e with
  | tick t => exact ⟨⟨hq.idle, UInt64.le_trans hq.stamp_le (uint64_le_max_left _ _)⟩, hs, rfl⟩
  | call cpu i =>
    simp only [SerialEvent.events]
    obtain ⟨hsh, hc, hp, hu⟩ := serial_call_eq (hq.idle cpu) i
    refine ⟨⟨fun c => hp ▸ hq.idle c, ?_⟩, hsh ▸ hP i s.clock s.shared hq.stamp_le hs, hu hq.stamp_le⟩
    rw [hsh, hc]
    rcases h.call_stamp i s.clock s.shared with hst | hst <;> rw [hst]
    · exact hq.stamp_le
    · exact UInt64.le_refl _

/-- **Serial schedules are safe**: when each call runs to its end before the next begins, every CPU is idle between
calls, no check subtracts a later stamp from an earlier sample, and every invariant that the sequential call keeps
holds throughout. -/
theorem serial_run (hP : ∀ i now s, h.stamp s ≤ now → P s → P (h.call i now s)) {s : GateSystem h}
    (hq : Quiescent s) (hs : P s.shared) (es : List (SerialEvent ι)) :
    Quiescent (s.run (es.flatMap SerialEvent.events)) ∧ P (s.run (es.flatMap SerialEvent.events)).shared ∧
      (s.run (es.flatMap SerialEvent.events)).underflows = s.underflows := by
  induction es generalizing s with
  | nil => exact ⟨hq, hs, rfl⟩
  | cons e es ih =>
    rw [List.flatMap_cons, run, List.foldl_append]
    obtain ⟨hq', hs', hu⟩ := hq.serialStep hP hs e
    obtain ⟨hq'', hs'', hu'⟩ := ih hq' hs'
    exact ⟨hq'', hs'', hu'.trans hu⟩

end Serial

end GateSystem

end LightKernel.Gate
