import KernelProbe.Probe.Concurrency
import KernelProbe.Probe.Identity
import KernelProbe.Probe.Lifecycle
import KernelProbe.Probe.Memory
import KernelProbe.Probe.Output
import KernelProbe.Probe.Uname
import KernelProbe.Session.Battery
import KernelProbe.Session.Config

/-!
# The standard battery

All probe groups in their fixed order, set up for a configuration. The lifecycle group comes last,
because a success of its last probe may end the process.
-/

namespace KernelProbe

namespace Battery

/-- All probe groups for a configuration whose two requests are at hand. -/
def ofRequests (c : HarnessConfig) (missing existing : ExecRequest) : Battery where
  groups := [
    Output.group c.outputFd,
    Identity.group c.tlsSlots c.threadIdModel,
    Files.group,
    Memory.group c.mapLengths c.pageSize,
    Concurrency.group c.waitTimeout c.joinTimeout,
    Uname.group,
    Lifecycle.group missing existing c.execModel]
  filter := c.filter
  execModel := c.execModel

/-- All probe groups for a configuration, unless the configuration is refused. -/
def standard (c : HarnessConfig) : Except HarnessError Battery :=
  match c.requests with
  | .ok (missing, existing) => .ok (ofRequests c missing existing)
  | .error e => .error e

end Battery

end KernelProbe
