import LightKernel.Core.Lifecycle
import LightKernel.Psi.History
import LightKernel.Psi.Stamps
import LightKernel.CpuFreq.Race
import LightKernel.CpuFreq.Calls
import LightKernel.CpuFreq.Monotone
import LightKernel.CpuFreq.Session
import LightKernel.Psi.Events
import LightKernel.CpuIdle.Session
