import KernelProbe.Codec.Encode
import KernelProbe.Kernel.Scripted
import KernelProbe.Session.Config

/-!
# Calls and settings as JSON

The JSON form of what a test of the battery looks at: the calls that were made, the state of the
mock kernel, the verdicts in full, and the configuration.
-/

namespace KernelProbe

namespace Json

/-- Bytes as a text, or as a list of numbers if they are not UTF-8. -/
def ofBytes (bytes : List UInt8) : Json :=
  match Text.decode bytes with
  | some s => .string s
  | none => .array (bytes.map fun b => .nat b.toNat)

/-- A list of values. -/
def list {α : Type} (f : α → Json) (items : List α) : Json := .array (items.map f)

/-- A signed word. -/
def int32 (i : Int32) : Json := .int i.toInt

/-- A signed long word. -/
def int64 (i : Int64) : Json := .int i.toInt

/-- A word. -/
def uint32 (w : UInt32) : Json := .nat w.toNat

/-- A long word. -/
def uint64 (w : UInt64) : Json := .nat w.toNat

end Json

/-- A duration as its seconds and the nanoseconds beyond them. -/
def Duration.toJson (d : Duration) : Json := .list .nat [d.seconds, d.subsecond]

/-- A raw return value with the number and the name of its error. -/
def RawReturn.toJson (r : RawReturn) : Json :=
  .object [("ret", .int64 r.ret), ("errno", Json.ofOption (fun e => .nat e.code) r.errno),
    ("errno_name", Json.ofOption (fun e => .string e.name) r.errno)]

/-- An outcome together with what it says of itself. -/
def Outcome.inFull (o : Outcome) : Json :=
  .object [("json", o.toJson), ("verdict", .string o.verdict),
    ("is", .list .bool [o.isPass, o.isFail, o.isSkipped]),
    ("diagnosis", Json.ofOption (fun d => .string d.text) o.diagnosis?)]

/-- The arguments of a call, the buffers that it only fills as their lengths. -/
def Call.arguments : Call → List Json
  | .write fd bytes => [.int32 fd, .ofBytes bytes]
  | .writev fd parts => [.int32 fd, .list .ofBytes parts]
  | .setThreadArea d => [d.entryNumber, d.baseAddr, d.limit, d.flags].map .uint32
  | .openFile path flags mode => [.string path.text, .int32 flags, .uint32 mode]
  | .openAt dirfd path flags mode =>
    [.int32 dirfd, .string path.text, .int32 flags, .uint32 mode]
  | .read fd capacity => [.int32 fd, .nat capacity]
  | .close fd => [.int32 fd]
  | .brk addr => [.uint64 addr]
  | .mmap request => [.uint64 request.length, .int32 request.protection, .int32 request.flags]
  | .mincore region capacity => [.uint64 region.base, .uint64 region.length, .nat capacity]
  | .munmap region => [.uint64 region.base, .uint64 region.length]
  | .futexWait word expected timeout => [.uint32 word, .uint32 expected, .bool timeout.isSome]
  | .futexWake word count => [.uint32 word, .int32 count]
  | .clone stack word status => [.uint64 stack.size, .uint32 word, .int32 status]
  | .execve request =>
    [.string request.path.text, .list (.string ·.text) request.argv,
      .list (.string ·.text) request.envp]
  | .gettid | .getpid | .uname | .schedYield => []

/-- A call as its kind and its arguments. -/
def Call.toJson (c : Call) : Json := .array (.string c.kind :: c.arguments)

/-- The calls of a run. -/
def Journal.toJson (j : Journal) : Json := .list Call.toJson j.calls

/-- What the mock kernel saw, unless it broke down. -/
def MockKernel.toJson (m : MockKernel) : Json :=
  if m.poisoned then .string "poisoned"
  else .object
    [("calls", .list Syscall.toJson m.calls), ("written", .ofBytes m.written),
     ("unmapped", .list .uint64 m.unmapped), ("closed_fds", .list .int32 m.closedFds),
     ("exec_paths", .list .string m.execPaths)]

/-- A configuration with every setting. -/
def HarnessConfig.toJson (c : HarnessConfig) : Json :=
  .object
    [("exec_model", c.execModel.toJson), ("exec_target", .string c.execTarget),
     ("exec_argv", .list .string c.execArgv), ("exec_envp", .list .string c.execEnvp),
     ("missing_exec_path", .string c.missingExecPath),
     ("thread_id_model", c.threadIdModel.toJson), ("map_lengths", .list .uint64 c.mapLengths),
     ("page_size", .uint64 c.pageSize), ("wait_timeout", c.waitTimeout.toJson),
     ("join_timeout", c.joinTimeout.toJson),
     ("tls_slots", .list .uint32 [c.tlsSlots.lo, c.tlsSlots.hi]),
     ("output_fd", .int32 c.outputFd), ("only", .list .string c.filter.only),
     ("skip", .list .string c.filter.skip)]

end KernelProbe
