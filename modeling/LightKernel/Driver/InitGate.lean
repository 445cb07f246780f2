import Mathlib.Logic.Function.Basic

/-!
# The drivers' one-shot initialisation

`cpufreq::init_with_config` and `cpuidle::init` share one shape: load `INITIALIZED` and return if it is set;
otherwise create the driver (which may fail), install it with `set_impl`, and store `INITIALIZED`. `initOnce` is
that shape over a module's state; `InitSystem` runs it on several CPUs at once, the load, the creation, the
installation and the store being separate steps.

* `serial_init_eq_initOnce`: one caller alone is `initOnce`;
* `serial_inits_install_once`: calls that each run to their end before the next begins install a driver at most
  once.
-/

namespace LightKernel.Driver

variable {σ ε : Type}

/-- A module's state as the initialisation sees it: the flag, the installation of a driver, and the store of the
flag. -/
structure InitHooks (σ : Type) where
  initialized : σ → Bool
  setImpl : σ → σ
  markInitialized : σ → σ

/-- The one-shot initialisation, with the outcome of the driver's creation. -/
def initOnce (h : InitHooks σ) (created : Except ε Unit) (s : σ) : Except ε Unit × σ :=
  if h.initialized s then (.ok (), s)
  else
    match created with
    | .error e => (.error e, s)
    | .ok () => (.ok (), h.markInitialized (h.setImpl s))

/-- Where one caller is in the initialisation. -/
inductive InitPc
  | idle
  | sawClear
  | created
  | installed
  deriving DecidableEq, Repr

/-- One atomic step of one caller. -/
inductive InitEvent (ε : Type)
  | load (cpu : Nat)
  | create (cpu : Nat) (created : Except ε Unit)
  | install (cpu : Nat)
  | store (cpu : Nat)

/-- The module and each caller's place. -/
structure InitSystem (σ : Type) where
  module : σ
  pc : Nat → InitPc

namespace InitSystem

/-- Move caller `cpu` to `p`. -/
def goto (s : InitSystem σ) (cpu : Nat) (p : InitPc) : InitSystem σ := { s with pc := Function.update s.pc cpu p }

/-- One step. An event that does not match the caller's place changes nothing. -/
def step (h : InitHooks σ) (s : InitSystem σ) : InitEvent ε → InitSystem σ
  | .load cpu =>
    match s.pc cpu with
    | .idle => if h.initialized s.module then s else s.goto cpu .sawClear
    | _ => s
  | .create cpu created =>
    match s.pc cpu, created with
    | .sawClear, .ok () => s.goto cpu .created
    | .sawClear, .error _ => s.goto cpu .idle
    | _, _ => s
  | .install cpu =>
    match s.pc cpu with
    | .created => { s.goto cpu .installed with module := h.setImpl s.module }
    | _ => s
  | .store cpu =>
    match s.pc cpu with
    | .installed => { s.goto cpu .idle with module := h.markInitialized s.module }
    | _ => s

/-- A run of events. -/
def run (h : InitHooks σ) (s : InitSystem σ) (es : List (InitEvent ε)) : InitSystem σ := es.foldl (step h) s

/-- The four steps of one call on `cpu`. -/
def call (cpu : Nat) (created : Except ε Unit) : List (InitEvent ε) :=
  [.load cpu, .create cpu created, .install cpu, .store cpu]

end InitSystem

/-- The calls of a serial schedule, one after the other. -/
def InitSystem.serial (calls : List (Nat × Except ε Unit)) : List (InitEvent ε) :=
  calls.flatMap fun c => InitSystem.call c.1 c.2

/-- The initialisation leaves the module as it was, or installs a driver on a module whose flag was clear and sets
the flag. -/
theorem initOnce_cases (h : InitHooks σ) (created : Except ε Unit) (m : σ) :
    (initOnce h created m).2 = m ∨
      (h.initialized m = false ∧ (initOnce h created m).2 = h.markInitialized (h.setImpl m)) := by
  unfold initOnce
  split
  · exact .inl rfl
  · next hi =>
    split
    · exact .inl rfl
    · exact .inr ⟨by simpa using hi, rfl⟩

/-- **One caller alone is `initOnce`**, and leaves every caller where it was. -/
theorem serial_init_eq_initOnce (h : InitHooks σ) (s : InitSystem σ) {cpu : Nat} (h0 : s.pc cpu = .idle)
    (created : Except ε Unit) : (s.run h (InitSystem.call cpu created)).module = (initOnce h created s.module).2 ∧
      (s.run h (InitSystem.call cpu created)).pc = s.pc := by
  have hpc : Function.update s.pc cpu .idle = s.pc := by rw [← h0, Function.update_eq_self]
  simp only [InitSystem.run, InitSystem.call, List.foldl_cons, List.foldl_nil, initOnce]
  by_cases hi : h.initialized s.module = true
  · simp [InitSystem.step, h0, hi]
  · cases created <;> simp [InitSystem.step, InitSystem.goto, h0, hi, hpc]

/-- **Serial initialisations install at most once**: when each call runs to its end before the next begins and
the stored flag reads back as set, a list of calls from idle callers leaves the module as it was, or installs one
driver on a module whose flag was clear. -/
theorem serial_inits_install_once (h : InitHooks σ) (hm : ∀ m, h.initialized (h.markInitialized m) = true)
    {s : InitSystem σ} (hidle : ∀ cpu, s.pc cpu = .idle) (calls : List (Nat × Except ε Unit)) :
    (∀ cpu, (s.run h (InitSystem.serial calls)).pc cpu = .idle) ∧
    ((s.run h (InitSystem.serial calls)).module = s.module ∨
      (h.initialized s.module = false ∧
        (s.run h (InitSystem.serial calls)).module = h.markInitialized (h.setImpl s.module))) := by
  induction calls generalizing s with
  | nil => exact ⟨hidle, .inl rfl⟩
  | cons c calls ih =>
    obtain ⟨hmod, hpc⟩ := serial_init_eq_initOnce h s (hidle c.1) c.2
    rw [InitSystem.serial, List.flatMap_cons, InitSystem.run, List.foldl_append]
    obtain ⟨hidle', hrest⟩ := ih (s := s.run h (InitSystem.call c.1 c.2)) (fun cpu => hpc ▸ hidle cpu)
    refine ⟨hidle', ?_⟩
    rw [hmod] at hrest
    rcases initOnce_cases h c.2 s.module with h1 | ⟨hclear, h1⟩ <;> rw [h1] at hrest
    · exact hrest
    · rcases hrest with hrest | ⟨hset, -⟩
      · exact .inr ⟨hclear, hrest⟩
      · rw [hm] at hset; cases hset

/-- A module whose state is its flag and the number of drivers installed so far. -/
def countingHooks : InitHooks (Bool × Nat) := ⟨Prod.fst, fun m => (m.1, m.2 + 1), fun m => (true, m.2)⟩

/-- Three serial calls from two CPUs on a clear module install one driver. -/
theorem serial_inits_counted :
    (∀ m, countingHooks.initialized (countingHooks.markInitialized m) = true) ∧
    (∀ cpu, (⟨(false, 0), fun _ => .idle⟩ : InitSystem (Bool × Nat)).pc cpu = .idle) ∧
    (∀ cpu, ((⟨(false, 0), fun _ => .idle⟩ : InitSystem (Bool × Nat)).run countingHooks
      (InitSystem.serial ([(0, .ok ()), (1, .ok ()), (0, .ok ())] : List (Nat × Except Unit Unit)))).pc cpu = .idle) ∧
    (((⟨(false, 0), fun _ => .idle⟩ : InitSystem (Bool × Nat)).run countingHooks
      (InitSystem.serial ([(0, .ok ()), (1, .ok ()), (0, .ok ())] : List (Nat × Except Unit Unit)))).module =
        (⟨(false, 0), fun _ => .idle⟩ : InitSystem (Bool × Nat)).module ∨
      (countingHooks.initialized (⟨(false, 0), fun _ => .idle⟩ : InitSystem (Bool × Nat)).module = false ∧
        ((⟨(false, 0), fun _ => .idle⟩ : InitSystem (Bool × Nat)).run countingHooks
          (InitSystem.serial ([(0, .ok ()), (1, .ok ()), (0, .ok ())] : List (Nat × Except Unit Unit)))).module =
          countingHooks.markInitialized
            (countingHooks.setImpl (⟨(false, 0), fun _ => .idle⟩ : InitSystem (Bool × Nat)).module))) :=
  have hm : ∀ m, countingHooks.initialized (countingHooks.markInitialized m) = true := fun _ => rfl
  have hidle : ∀ cpu, (⟨(false, 0), fun _ => .idle⟩ : InitSystem (Bool × Nat)).pc cpu = .idle := fun _ => rfl
  ⟨hm, hidle, serial_inits_install_once countingHooks hm hidle _⟩

end LightKernel.Driver
