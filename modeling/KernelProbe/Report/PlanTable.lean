import KernelProbe.Report.TextLog
import KernelProbe.Session.Battery

/-!
# The printed plan

A battery's plan as a heading and a table of its probes.
-/

namespace KernelProbe.Battery

/-- The row of a plan entry. -/
def planRow (e : PlanEntry) : List String :=
  [e.group, e.spec.name, TextLog.syscallList e.spec.syscalls, if e.enabled then "yes" else "no"]

/-- The plan in print. -/
def planText (color : Bool) (b : Battery) : String :=
  let table : Text.Table := ⟨["group", "probe", "syscalls", "enabled"], b.plan.map planRow⟩
  Text.Style.cyanBold.paint color "Probe plan" ++ "\n" ++ table.render ++ "\n"

end KernelProbe.Battery
