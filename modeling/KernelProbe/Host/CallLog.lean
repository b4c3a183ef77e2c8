import KernelProbe.Program.Execution

/-!
# The log of kernel calls

Every call to the host is logged with what it left in the return register; the execution of a
program is logged before it is tried, because a success never comes back.
-/

namespace KernelProbe

/-- What a successful call leaves in the return register. -/
def Call.register : (c : Call) → c.Value → Int64
  | .write .., n => n.toInt64
  | .writev .., n => n.toInt64
  | .setThreadArea _, _ => 0
  | .openFile .., fd => fd.toInt64
  | .openAt .., fd => fd.toInt64
  | .read .., data => data.count.toInt64
  | .close _, _ => 0
  | .brk _, stop => stop.toInt64
  | .mmap _, region => region.base.toInt64
  | .mincore .., _ => 0
  | .munmap _, _ => 0
  | .gettid, tid => tid.toInt64
  | .getpid, pid => pid.toInt64
  | .futexWait .., n => n
  | .futexWake .., n => n
  | .clone .., tid => tid.toInt64
  | .uname, _ => 0
  | .schedYield, _ => 0
  | .execve _, n => n

namespace CallLog

/-- The target of these log events. -/
def target : String := "sysprobe_infra_system::raw_kernel"

/-- An event about a call. -/
def event (message : String) (fields : List (String × LogValue)) : LogEvent :=
  { level := .debug, target, message, fields }

/-- A call came back with a value in the return register. -/
def returned (c : Call) (ret : Int64) : LogEvent :=
  event "syscall returned" [("syscall", .text c.syscall.name), ("ret", .int ret.toInt)]

/-- What is logged before a call. -/
def announced : Call → List LogEvent
  | .execve request =>
    [event "execve"
      [("path", .text request.path.text), ("argc", .int request.argv.length)]]
  | _ => []

/-- What is logged when a call has come back. -/
def answered (c : Call) (r : Returned c.Value) : List LogEvent :=
  match c, r with
  | .execve _, .value _ => []
  | .setThreadArea d, .value slot =>
    [returned (.setThreadArea d) 0,
     event "set_thread_area assigned slot" [("entry_number", .int slot.toNat)]]
  | c, .value a => [returned c (c.register a)]
  | c, .failed e => [returned c e.ret]
  | _, .panicked _ => []

/-- The process ends with a status. -/
def ending (status : Int32) : LogEvent := event "exit_group" [("status", .int status.toInt)]

end CallLog

/-- The log events that belong to a question and its answer. -/
def Entry.allLogs (e : Entry) : List LogEvent :=
  match e with
  | ⟨.call c, reply⟩ => CallLog.announced c ++ CallLog.answered c reply.returned
  | ⟨.log event, _⟩ => [event]
  | _ => []

/-- The log of a run on the host, calls included. -/
def Journal.allLogs (j : Journal) : List LogEvent := j.flatMap Entry.allLogs

end KernelProbe
