import KernelProbe.Probe.Basic

/-!
# The system identification probe

`uname`: every field goes into the evidence, and the name of the system must not be empty.
-/

namespace KernelProbe.Uname

/-- The group's name. -/
def groupName : String := "system"

/-- Ask for the identification of the kernel. -/
def probe : Probe Unit UtsName where
  spec := ⟨"uname", [.uname], false⟩
  invoke := Step.call .uname
  check uts := do
    uts.fields.forM fun (field, value) => Judge.note field value
    if uts.sysname.isEmpty then
      Judge.refute "sysname is empty" (some (.ok 0))

/-- The system group. -/
def group : Group where
  Context := Unit
  name := groupName
  start := ()
  trials := [probe.trial]

end KernelProbe.Uname
