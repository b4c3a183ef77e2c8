/-!
# Probe filters

A `ProbeFilter` names the probes and groups that may run. A name stands for a group or a probe.
-/

namespace KernelProbe

/-- Which probes may run. -/
structure ProbeFilter where
  /-- If there are any, only these probes and groups may run. -/
  only : List String := []
  /-- These probes and groups never run. -/
  skip : List String := []
deriving DecidableEq, Repr

/-- Whether a list of names holds the group or the probe. -/
def ProbeFilter.names (names : List String) (group probe : String) : Bool :=
  names.any fun n => n == group || n == probe

/-- Whether the filter lets a probe of a group run. -/
def ProbeFilter.allows (f : ProbeFilter) (group probe : String) : Bool :=
  (f.only.isEmpty || names f.only group probe) && !names f.skip group probe

end KernelProbe
