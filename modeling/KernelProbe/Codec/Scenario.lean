import KernelProbe.Codec.Reader
import KernelProbe.Kernel.Scripted
import KernelProbe.Probe.Scripted
import KernelProbe.Report.Event
import KernelProbe.Session.Config

/-!
# Scenarios

The JSON form of what a test of the battery is set up with: a configuration, a kernel with its
script, errors that are to arise, scripted probes, and report events. Whatever a description leaves
out has its usual value.
-/

namespace KernelProbe.Read

/-! ## Errors -/

/-- What a probe observed, if anything. -/
def observed (j : Json) : Read (Option RawReturn) := fieldIf j "observed" rawReturn

/-- An error of a probe. -/
def probeError (j : Json) : Read ProbeError := do
  let message := field j "message" text
  match ← field j "variant" text with
  | "setup" => return .setup (← message) none
  | "setup_syscall" => return .setupCall (← message) (← field j "cause" syscallError)
  | "assertion" => return .assertion (← message) (← observed j)
  | "unexpected" => return .unexpected (← field j "cause" syscallError)
  | "panicked" => return .panicked (← message)
  | _ => throw .malformed

/-- An error of a run; that of a zero byte needs a text with one. -/
def harnessError (j : Json) : Read HarnessError := do
  let message := field j "message" text
  match ← field j "variant" text with
  | "probe" => return .probe (← field j "cause" probeError)
  | "config" => return .config (← message)
  | "io" => return .output (← message)
  | "serialization" => return .serialization (← message)
  | "syscall" => return .syscall (← field j "cause" syscallError)
  | "nul" => match CText.of? (← message) with
    | .error e => return .ofNul e
    | .ok _ => throw .malformed
  | _ => throw .malformed

/-! ## Configurations -/

/-- A range of slots as its two ends. -/
def slots (j : Json) : Read SlotRange := do
  match ← items uint32 j with
  | [lo, hi] => return ⟨lo, hi⟩
  | _ => throw .malformed

/-- Change one setting. -/
def setting (c : HarnessConfig) : String × Json → Read HarnessConfig
  | (_, .null) => return c
  | ("exec_model", j) => return { c with execModel := ← decoded (ExecModel.ofJson? j) }
  | ("exec_target", j) => return { c with execTarget := ← text j }
  | ("exec_argv", j) => return { c with execArgv := ← texts j }
  | ("exec_envp", j) => return { c with execEnvp := ← texts j }
  | ("missing_exec_path", j) => return { c with missingExecPath := ← text j }
  | ("thread_id_model", j) => return { c with threadIdModel := ← decoded (ThreadIdModel.ofJson? j) }
  | ("map_lengths", j) => return { c with mapLengths := ← items uint64 j }
  | ("page_size", j) => return { c with pageSize := ← uint64 j }
  | ("wait_timeout", j) => return { c with waitTimeout := ← duration j }
  | ("join_timeout", j) => return { c with joinTimeout := ← duration j }
  | ("tls_slots", j) => return { c with tlsSlots := ← slots j }
  | ("output_fd", j) => return { c with outputFd := ← int32 j }
  | ("only", j) => return { c with filter.only := ← texts j }
  | ("skip", j) => return { c with filter.skip := ← texts j }
  | _ => throw .malformed

/-- The configuration of a description. -/
def config (j : Json) : Read HarnessConfig :=
  fieldOr j "config" (fun c => do (← shaped c.fields?).foldlM setting {}) {}

/-- The filter of a description. -/
def filter (j : Json) : Read ProbeFilter :=
  return ⟨← fieldOr j "only" texts [], ← fieldOr j "skip" texts []⟩

/-! ## Kernels -/

/-- An identification; what is left out is empty. -/
def identification (j : Json) : Read UtsName := do
  let part name := fieldOr j name text ""
  return ⟨← part "sysname", ← part "nodename", ← part "release", ← part "version",
    ← part "machine", ← part "domainname"⟩

/-- A value that a call is made to give. -/
def scriptValue : Json → Read ScriptValue
  | .object fields => return .uts (← identification (.object fields))
  | .array bs => return .bytes (← shaped (bs.mapM byte?))
  | j => return .int (j.int?.getD 0)

/-- What a prepared reply does. -/
def scriptAction (j : Json) : Read ScriptAction := do
  if let some message ← fieldIf j "panic" text then return .panic message
  if let some e ← fieldIf j "err" errno then return .fail e (← fieldOr j "ret" int64 (-1))
  if ← fieldOr j "default" flag false then return .passThrough
  return .succeed (← fieldOr j "ok" scriptValue (.int 0))

/-- A prepared reply. -/
def scriptedReply (j : Json) : Read ScriptedReply := do
  let store ← fieldIf j "store" uint32
  let word ← fieldIf j "word" uint32
  return { action := ← scriptAction j, store, word }

/-- A script with the replies of a description behind its own. -/
def script (s : Script) (j : Json) : Read Script := do
  (← shaped j.fields?).foldlM (fun s (kind, q) => return s.add kind (← items scriptedReply q)) s

/-- The error numbers of the calls that fail. -/
def failures (j : Json) : Read (List (Syscall × Errno)) := do
  (← shaped j.fields?).mapM fun (name, code) => return (← syscall (.string name), ← errno code)

/-- A mock kernel. -/
def mockKernel (j : Json) : Read MockKernel := do
  let m : MockKernel := {}
  return { m with
    failures := ← fieldOr j "failing" failures []
    unsupported := ← fieldOr j "unsupported" syscalls []
    panicOn := ← fieldIf j "panic_on" syscall
    tlsSlot := ← fieldOr j "tls_slot" uint32 m.tlsSlot
    pid := ← fieldOr j "pid" int32 m.pid
    tid := ← fieldOr j "tid" int32 m.tid
    nextMapBase := ← fieldOr j "map_base" uint64 m.nextMapBase
    mincoreEntries := ← fieldIf j "mincore_entries" uint64
    childExits := ← fieldOr j "child_exit" flag true
    execReturn := ← fieldOr j "exec_return" int64 0
    dropFdsOnExec := ← fieldOr j "drop_fds" flag false }

/-- The kernel of a description. -/
def kernel (j : Json) : Read ScriptedKernel :=
  let read (k : Json) : Read ScriptedKernel :=
    return { mock := ← mockKernel k, script := ← fieldOr k "script" (script []) [] }
  fieldOr j "kernel" read {}

/-! ## Probes and events -/

/-- What a scripted probe does in a phase. -/
def act (j : Json) : Read Scripted.Act := do
  if let some m ← fieldIf j "panic" text then return .panic (.text m)
  if let some _ := j.field? "panic_int" then return .panic .other
  if let some m ← fieldIf j "setup" text then return .fail (.setup m none)
  if let some m ← fieldIf j "assertion" text then return .fail (.assertion m (← observed j))
  if let some m ← fieldIf j "panicked" text then return .fail (.panicked m)
  if let some e ← fieldIf j "unexpected" syscallError then return .fail (.unexpected e)
  if let some _ := j.field? "call" then return .askPid
  return .pass

/-- The identity of a probe. -/
def spec (j : Json) : Read ProbeSpec :=
  return ⟨← field j "name" text, ← field j "syscalls" syscalls,
    ← fieldOr j "may_not_return" flag false⟩

/-- A scripted probe. -/
def scriptedProbe (j : Json) : Read Scripted.ProbeScript :=
  return {
    spec := ← spec j
    setup := ← fieldOr j "setup" act .pass
    invoke := ← fieldOr j "invoke" act .pass
    check := ← fieldOr j "check" act .pass
    cleanup := ← fieldOr j "cleanup" act .pass
    evidence := ← fieldOr j "evidence" pairs [] }

/-- A report event as its kind and what it tells. -/
def reportEvent : Json → Read ReportEvent
  | .array [.string kind, v] => do
    match kind with
    | "begin_run" => return .beginRun ⟨← field v "run_id" text, ← field v "started_at" int64,
        ← decoded (ExecModel.ofJson? (← field v "exec_model" value))⟩
    | "begin_group" => return .beginGroup (← text v)
    | "begin_probe" => return .beginProbe (← field v "group" text) (← spec v)
    | "record" => return .record (← decoded (ProbeRecord.ofJson? 0 v))
    | "checkpoint" => return .checkpoint (← decoded (RunSummary.ofJson? v))
    | "finish" => return .finish (← decoded (RunSummary.ofJson? v))
    | _ => throw .malformed
  | _ => throw .malformed

end KernelProbe.Read
