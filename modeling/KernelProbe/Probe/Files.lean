import KernelProbe.Probe.Basic

/-!
# File probes

`open` and `openat` of the null device, a `read` that must find the end of the file, and `close` of
every descriptor that the group opened. The group keeps the descriptors that are to be closed, and
apart from them the one that is read from; its teardown closes what is left.
-/

namespace KernelProbe.Files

/-- The group's name. -/
def groupName : String := "files"

/-- The path of the null device. -/
def nullDevice : CText := ⟨"/dev/null", by decide⟩

/-- The flag that makes a missing file. -/
def createFlag : Int32 := 0x40

/-- The mode of a file that is made. -/
def createMode : UInt32 := 0o666

/-- The directory descriptor that stands for the working directory. -/
def workingDirectory : Int32 := -100

/-- The directory descriptor of the openat probe, which names no directory; an absolute path must
make the kernel ignore it. -/
def bogusDirectory : Int32 := 42

/-- What the file probes share. -/
structure Context where
  /-- Descriptors that are to be closed, in the order in which they were opened. -/
  fds : List Int32 := []
  /-- The descriptor that the read probe reads from. -/
  readFd : Option Int32 := none
deriving DecidableEq, Repr

namespace Context

/-- Keep a descriptor to be closed later. -/
def keep (fd : Int32) (c : Context) : Context := { c with fds := c.fds ++ [fd] }

end Context

/-- A descriptor must not be negative. -/
def checkDescriptor (fd : Int32) : Judge Context Unit := do
  Judge.noteInt "fd" fd.toInt
  if fd < 0 then
    Judge.refute ("descriptor " ++ Text.integer fd.toInt ++ " is negative")
      (some (.ok fd.toInt64))

/-- Open a path. -/
def openProbe (path : CText) : Probe Context Int32 where
  spec := ⟨"open", [.openFile], false⟩
  setup := do
    unless ← Step.supports .openFile do
      Step.fail (.setup "open is not part of this architecture's syscall ABI" none)
  invoke := Step.call (.openFile path createFlag createMode)
  check fd := do
    Judge.update (·.keep fd)
    checkDescriptor fd
    Judge.update fun c => { c with readFd := some fd }

/-- Open an absolute path relative to `dirfd`, which the kernel must ignore. -/
def openAtProbe (dirfd : Int32) (path : CText) : Probe Context Int32 where
  spec := ⟨"openat", [.openAt], false⟩
  invoke := do
    match ← Step.attempt (.openAt dirfd path createFlag createMode) with
    | .ok fd => return fd
    | .error e =>
      if e.errno = .ebadf then
        Step.fail (.assertion ("dirfd " ++ Text.integer dirfd.toInt
          ++ " was consulted for an absolute path") (some e.raw))
      else Step.fail (.unexpected e)
  check fd := do
    Judge.update (·.keep fd)
    Judge.noteInt "dirfd" dirfd.toInt
    checkDescriptor fd

/-- Read from the null device, which must be at its end; the probe opens `path` if no descriptor is
at hand. -/
def readProbe (path : CText) : Probe Context UInt64 where
  spec := ⟨"read", [.read], false⟩
  setup := do
    if (← get).readFd.isNone then
      let fd ← Step.need "open read target" (.openAt workingDirectory path 0 0)
      modify fun c => { c.keep fd with readFd := some fd }
  invoke := do
    match (← get).readFd with
    | none => Step.fail (.setup "no descriptor to read from" none)
    | some fd => return (← Step.call (.read fd 2)).count
  check n := do
    Judge.noteNat "bytes_read" n.toNat
    if n != 0 then
      Judge.refute ("expected end-of-file, got " ++ Text.decimal n.toNat ++ " bytes")
        (some (.ok n.toInt64))

/-- Close descriptors in turn up to the first failure. A descriptor is gone, and out of the context,
even if closing it fails. -/
def closeAll : List Int32 → Step Context Unit
  | [] => pure ()
  | fd :: rest => do
    modify fun c => { c with fds := c.fds.dropLast }
    Step.call (.close fd)
    closeAll rest

/-- Close every descriptor that the group opened, the last one first. -/
def closeProbe : Probe Context (List Int32) where
  spec := ⟨"close", [.close], false⟩
  setup := do
    if (← get).fds.isEmpty then
      Step.fail (.setup "no descriptors were opened" none)
  invoke := do
    let fds := (← get).fds.reverse
    closeAll fds
    modify fun c => { c with readFd := none }
    return fds
  check closed :=
    Judge.note "closed" (",".intercalate (closed.map fun fd => Text.integer fd.toInt))

/-- Close the descriptors that are left, the first one first; failures are logged. -/
def closeLeftover : List Int32 → Step Context Unit
  | [] => pure ()
  | fd :: rest => do
    if let .error e ← Step.attempt (.close fd) then
      Step.log
        { level := .warn, target := "sysprobe_core::application::groups::files",
          message := "Failed to close leftover descriptor",
          fields := [("fd", .int fd.toInt), ("error", .text e.message)] }
    closeLeftover rest

/-- Close whatever the probes left open. -/
def teardown : Step Context Unit := do
  let fds := (← get).fds
  modify fun c => { c with fds := [] }
  closeLeftover fds

/-- The file group. -/
def group : Group where
  Context := Context
  name := groupName
  start := {}
  trials := [(openProbe nullDevice).trial, (openAtProbe bogusDirectory nullDevice).trial,
    (readProbe nullDevice).trial, closeProbe.trial]
  teardown := teardown

end KernelProbe.Files
