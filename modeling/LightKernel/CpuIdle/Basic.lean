import LightKernel.Driver.InitGate
import Mathlib.Data.List.Basic

/-!
# CPU idle states

`cpuidle.rs`: a module-wide `INITIALIZED` flag in front of an idle driver (`CpuIdleImpl`, not in the source). The
driver is a collaborator: each call sees its answers (`IdleDriver`), and the module's state is the flag and the
list of what it asked the driver to do (`IdleCommand`). The getters change nothing and are not part of the runs.

* `setIdleState_validated`: `set_idle_state` hands the driver only states in `MIN_IDLE_STATE..=MAX_IDLE_STATE` that
  the driver lists as available;
* `run_validatedOrDefault`: along every run, the driver is handed validated states or its own default;
* `restore_passes_unchecked_state`: `restore_default_idle_state` hands it the driver's default unchecked, also
  during `shutdown`.
-/

namespace LightKernel.CpuIdle

/-- Modelled from the spec: `CpuIdleImplError`, the kinds the module raises and a driver's own failures. -/
inductive CpuIdleImplError
  | notInitialized
  | invalidState
  | unsupportedState
  | driver (code : Nat)
  deriving DecidableEq, Repr

/-- `MIN_IDLE_STATE`. -/
def minIdleState : UInt64 := 0

/-- `MAX_IDLE_STATE`. -/
def maxIdleState : UInt64 := 7

/-- The answers of the idle driver at one call. -/
structure IdleDriver where
  currentIdleState : Except CpuIdleImplError UInt64
  availableIdleStates : Except CpuIdleImplError (List UInt64)
  defaultIdleState : Except CpuIdleImplError UInt64
  setIdleState : UInt64 → Except CpuIdleImplError Unit
  isSupported : Except CpuIdleImplError Bool
  shutdown : Except CpuIdleImplError Unit

/-- What the module asks of the driver. A `set_idle_state` is logged with the driver's answers at that call. -/
inductive IdleCommand
  | setImpl
  | setIdleState (state : UInt64) (driver : IdleDriver)
  | shutdown

/-- The module's state: `INITIALIZED` and the commands issued so far. -/
structure CpuIdleState where
  initialized : Bool
  commands : List IdleCommand

/-- A call's result and the state it leaves. -/
abbrev IdleResult (α : Type) := Except CpuIdleImplError α × CpuIdleState

namespace CpuIdleState

/-- Log a command. -/
def issue (s : CpuIdleState) (c : IdleCommand) : CpuIdleState := { s with commands := s.commands ++ [c] }

/-- `ensure_initialized`. -/
def ensureInitialized (s : CpuIdleState) : Except CpuIdleImplError Unit :=
  if s.initialized then .ok () else .error .notInitialized

/-- The module's `INITIALIZED`, `CpuIdle::set_impl` and the store of the flag. -/
def hooks : Driver.InitHooks CpuIdleState :=
  ⟨fun s => s.initialized, fun s => s.issue .setImpl, fun s => { s with initialized := true }⟩

/-- `init`, with the outcome of `CpuIdleImpl::new`. -/
def init (created : Except CpuIdleImplError Unit) (s : CpuIdleState) : IdleResult Unit :=
  Driver.initOnce hooks created s

/-- `get_available_idle_states`. -/
def getAvailableIdleStates (d : IdleDriver) (s : CpuIdleState) : Except CpuIdleImplError (List UInt64) := do
  s.ensureInitialized
  d.availableIdleStates

/-- The checks of `set_idle_state` before it calls the driver. -/
def checkIdleState (d : IdleDriver) (s : CpuIdleState) (state : UInt64) : Except CpuIdleImplError Unit := do
  s.ensureInitialized
  if state < minIdleState || state > maxIdleState then throw .invalidState
  let available ← s.getAvailableIdleStates d
  if !available.contains state then throw .unsupportedState

/-- `set_idle_state`. -/
def setIdleState (d : IdleDriver) (state : UInt64) (s : CpuIdleState) : IdleResult Unit :=
  match s.checkIdleState d state with
  | .error e => (.error e, s)
  | .ok () => (d.setIdleState state, s.issue (.setIdleState state d))

/-- `restore_default_idle_state`. -/
def restoreDefaultIdleState (d : IdleDriver) (s : CpuIdleState) : IdleResult Unit :=
  match (do s.ensureInitialized; d.defaultIdleState : Except CpuIdleImplError UInt64) with
  | .error e => (.error e, s)
  | .ok state => (d.setIdleState state, s.issue (.setIdleState state d))

/-- `shutdown`: restore the default (its failure only logged), then shut the driver down. -/
def shutdown (d : IdleDriver) (s : CpuIdleState) : IdleResult Unit :=
  if !s.initialized then (.ok (), s)
  else
    let s := (s.restoreDefaultIdleState d).2
    match d.shutdown with
    | .error e => (.error e, s.issue .shutdown)
    | .ok () => (.ok (), { s.issue .shutdown with initialized := false })

end CpuIdleState

/-- A call of the module that can change its state, with the driver's answers. -/
inductive IdleOp
  | init (created : Except CpuIdleImplError Unit)
  | setIdleState (d : IdleDriver) (state : UInt64)
  | restoreDefaultIdleState (d : IdleDriver)
  | shutdown (d : IdleDriver)

namespace CpuIdleState

/-- One call. -/
def step (s : CpuIdleState) : IdleOp → CpuIdleState
  | .init created => (s.init created).2
  | .setIdleState d state => (s.setIdleState d state).2
  | .restoreDefaultIdleState d => (s.restoreDefaultIdleState d).2
  | .shutdown d => (s.shutdown d).2

/-- A run of calls. -/
def run (s : CpuIdleState) (ops : List IdleOp) : CpuIdleState := ops.foldl step s

/-- The module before `init`. -/
def initial : CpuIdleState := ⟨false, []⟩

end CpuIdleState

/-- A state handed to the driver lies in `MIN_IDLE_STATE..=MAX_IDLE_STATE` and is listed by the driver as
available. -/
def Validated : IdleCommand → Prop
  | .setIdleState state d => minIdleState ≤ state ∧ state ≤ maxIdleState ∧
      ∀ l, d.availableIdleStates = .ok l → state ∈ l
  | _ => True

namespace CpuIdleState

variable {d : IdleDriver} {s : CpuIdleState} {state : UInt64}

theorem checkIdleState_ok (h : s.checkIdleState d state = .ok ()) :
    Validated (.setIdleState state d) := by
  unfold checkIdleState getAvailableIdleStates ensureInitialized at h
  by_cases hi : s.initialized <;> simp only [hi, if_true, if_false] at h
  · by_cases hr : state < minIdleState || state > maxIdleState
    · simp [hr, bind, Except.bind, throw, throwThe, MonadExceptOf.throw, Except.pure, pure] at h
    · rcases ha : d.availableIdleStates with e | l <;>
        simp [hr, ha, bind, Except.bind, throw, throwThe, MonadExceptOf.throw, pure, Except.pure] at h
      simp only [Bool.or_eq_true, decide_eq_true_eq, not_or] at hr
      exact ⟨UInt64.not_lt.mp hr.1, UInt64.not_lt.mp hr.2, fun l' hl => by
        rw [ha] at hl; cases hl; simpa using h⟩
  · cases h

/-- **`set_idle_state` validates** what it hands the driver. -/
theorem setIdleState_validated (c : IdleCommand) (hc : c ∈ (s.setIdleState d state).2.commands) :
    c ∈ s.commands ∨ Validated c := by
  unfold setIdleState at hc
  split at hc
  · exact .inl hc
  · rcases List.mem_append.mp hc with h | h
    · exact .inl h
    · rw [List.mem_singleton.mp h]; exact .inr (checkIdleState_ok ‹_›)

/-- The calls that reach the driver's `set_idle_state` only through `set_idle_state`. -/
def ValidatingOp : IdleOp → Prop
  | .init _ | .setIdleState _ _ => True
  | _ => False

theorem init_commands {created : Except CpuIdleImplError Unit} (c : IdleCommand)
    (hc : c ∈ (s.init created).2.commands) : c ∈ s.commands ∨ c = .setImpl := by
  simp only [init, Driver.initOnce] at hc
  split at hc
  · exact .inl hc
  · split at hc
    · exact .inl hc
    · exact (List.mem_append.mp hc).imp_right List.mem_singleton.mp

/-- `restore_default_idle_state` hands the driver its own default, unchecked. -/
theorem restoreDefaultIdleState_commands (c : IdleCommand) (hc : c ∈ (s.restoreDefaultIdleState d).2.commands) :
    c ∈ s.commands ∨ ∃ state, c = .setIdleState state d ∧ d.defaultIdleState = .ok state := by
  unfold restoreDefaultIdleState at hc
  split at hc
  · exact .inl hc
  · next state h =>
    refine (List.mem_append.mp hc).imp_right fun hc => ⟨state, List.mem_singleton.mp hc, ?_⟩
    rcases hi : s.ensureInitialized with _ | _ <;> simp only [hi, bind, Except.bind] at h
    · cases h
    · exact h

theorem shutdown_commands (c : IdleCommand) (hc : c ∈ (s.shutdown d).2.commands) :
    c ∈ s.commands ∨ c ∈ (s.restoreDefaultIdleState d).2.commands ∨ c = .shutdown := by
  unfold shutdown at hc
  split at hc
  · exact .inl hc
  · dsimp only at hc
    split at hc <;> exact .inr ((List.mem_append.mp hc).imp_right List.mem_singleton.mp)

theorem step_validated {op : IdleOp} (hop : ValidatingOp op) (h : ∀ c ∈ s.commands, Validated c) :
    ∀ c ∈ (s.step op).commands, Validated c := by
  intro c hc
  cases op with
  | init created =>
    rcases init_commands c hc with hc | rfl
    exacts [h c hc, trivial]
  | setIdleState d state => exact (setIdleState_validated c hc).elim (h c) id
  | restoreDefaultIdleState d => exact hop.elim
  | shutdown d => exact hop.elim

/-- Runs that set idle states only through `set_idle_state` hand the driver only validated states. -/
theorem run_validated {ops : List IdleOp} (hops : ∀ op ∈ ops, ValidatingOp op)
    (h : ∀ c ∈ s.commands, Validated c) : ∀ c ∈ (s.run ops).commands, Validated c := by
  induction ops generalizing s with
  | nil => exact h
  | cons op ops ih =>
    exact ih (fun o ho => hops o (List.mem_cons_of_mem _ ho))
      (step_validated (hops op (List.mem_cons_self _ _)) h)

end CpuIdleState

/-- A state handed to the driver is validated, or is the driver's own default. -/
def ValidatedOrDefault : IdleCommand → Prop
  | .setIdleState state d => Validated (.setIdleState state d) ∨ d.defaultIdleState = .ok state
  | _ => True

theorem ValidatedOrDefault.of_validated {c : IdleCommand} (h : Validated c) : ValidatedOrDefault c := by
  cases c with
  | setIdleState state d => exact .inl h
  | setImpl => trivial
  | shutdown => trivial

namespace CpuIdleState

variable {s : CpuIdleState}

theorem step_validatedOrDefault (op : IdleOp) (h : ∀ c ∈ s.commands, ValidatedOrDefault c) :
    ∀ c ∈ (s.step op).commands, ValidatedOrDefault c := by
  have hrestore : ∀ d c, c ∈ (s.restoreDefaultIdleState d).2.commands → ValidatedOrDefault c := fun d c hc =>
    (restoreDefaultIdleState_commands c hc).elim (h c) fun ⟨_, hc, hd⟩ => hc ▸ .inr hd
  intro c hc
  cases op with
  | init created =>
    rcases init_commands c hc with hc | rfl
    exacts [h c hc, trivial]
  | setIdleState d state => exact (setIdleState_validated c hc).elim (h c) .of_validated
  | restoreDefaultIdleState d => exact hrestore d c hc
  | shutdown d =>
    rcases shutdown_commands c hc with hc | hc | rfl
    exacts [h c hc, hrestore d c hc, trivial]

/-- **Along every run, the driver is handed only validated states or its own default**: the one unchecked path is
`restore_default_idle_state`, on its own or inside `shutdown`. -/
theorem run_validatedOrDefault {ops : List IdleOp} (h : ∀ c ∈ s.commands, ValidatedOrDefault c) :
    ∀ c ∈ (s.run ops).commands, ValidatedOrDefault c := by
  induction ops generalizing s with
  | nil => exact h
  | cons op ops ih => exact ih (step_validatedOrDefault op h)

end CpuIdleState

open CpuIdleState

/-- A driver whose default idle state is 9, listing states 0 to 3. -/
def defaultNine : IdleDriver where
  currentIdleState := .ok 0
  availableIdleStates := .ok [0, 1, 2, 3]
  defaultIdleState := .ok 9
  setIdleState _ := .ok ()
  isSupported := .ok true
  shutdown := .ok ()

/-- After `init`, both `restore_default_idle_state` and `shutdown` hand the driver state 9, outside `0..=7` and
not listed as available. -/
theorem restore_passes_unchecked_state :
    ¬ (∀ c ∈ (initial.run [.init (.ok ()), .restoreDefaultIdleState defaultNine]).commands, Validated c) ∧
    ¬ (∀ c ∈ (initial.run [.init (.ok ()), .shutdown defaultNine]).commands, Validated c) := by
  have h1 : (initial.run [.init (.ok ()), .restoreDefaultIdleState defaultNine]).commands =
      [.setImpl, .setIdleState 9 defaultNine] := rfl
  have h2 : (initial.run [.init (.ok ()), .shutdown defaultNine]).commands =
      [.setImpl, .setIdleState 9 defaultNine, .shutdown] := rfl
  have hv : ¬ Validated (.setIdleState 9 defaultNine) := fun ⟨_, h, _⟩ => absurd h (by decide)
  exact ⟨fun h => hv (h _ (by rw [h1]; simp)), fun h => hv (h _ (by rw [h2]; simp))⟩

/-- That driver, after `init`, `set_idle_state`, `restore_default_idle_state` and `shutdown`, is handed validated
states or its default. -/
theorem default_nine_validatedOrDefault :
    (∀ c ∈ initial.commands, ValidatedOrDefault c) ∧
    ∀ c ∈ (initial.run [.init (.ok ()), .setIdleState defaultNine 2, .restoreDefaultIdleState defaultNine,
      .shutdown defaultNine]).commands, ValidatedOrDefault c :=
  have h : ∀ c ∈ initial.commands, ValidatedOrDefault c := fun _ hc => absurd hc (List.not_mem_nil _)
  ⟨h, run_validatedOrDefault h⟩

end LightKernel.CpuIdle
