import KernelProbe.Host.AddressSpace
import KernelProbe.Host.Loading
import KernelProbe.Program.Execution

/-!
# The host machine

A 64-bit machine with one process, as far as its answers are the same on every such host: files,
mappings, futexes and children. Which numbers it picks for ids and addresses means nothing. A child
is gone as soon as anybody looks; an `execve` that succeeds puts another program in the place of the
process, which then asks nothing more.
-/

namespace KernelProbe.Host

/-- The state of the machine. -/
structure Machine where
  /-- The files. -/
  storage : Storage
  /-- The mappings. -/
  space : AddressSpace := {}
  /-- The process id, which is the id of its first thread too. -/
  pid : Int32 := 4000
  /-- How many children there were. -/
  children : Nat := 0
  /-- The time, in nanoseconds. -/
  now : Nat := 1000 * Duration.nanosPerSecond
  /-- The program that has taken the place of the process. -/
  loaded : Option Loaded := none
deriving DecidableEq, Repr

namespace Machine

/-- The programs that every host has. -/
def programs : List (String × Image) :=
  [("true", .exits 0), ("false", .exits 1), ("echo", .echo)]

/-- The directories that every host has. -/
def directories : List Place :=
  [["bin"], ["dev"], ["etc"], ["home"], ["lib"], ["mnt"], ["opt"], ["proc"], ["root"], ["run"],
   ["sbin"], ["srv"], ["sys"], ["tmp"], ["usr"], ["usr", "bin"], ["usr", "lib"], ["usr", "local"],
   ["usr", "sbin"], ["usr", "share"], ["var"], ["var", "lib"], ["var", "log"], ["var", "tmp"]]

/-- The nodes that every host has. -/
def tree : FileTree where
  nodes :=
    directories.map (·, .directory)
    ++ [(["dev", "null"], .device .null), (["dev", "zero"], .device .zero),
        (["etc", "passwd"], .file {}), (["etc", "group"], .file {}), (["etc", "hosts"], .file {})]
    ++ programs.flatMap fun (name, image) =>
      let file := Node.file { executable := true, image := some image }
      [(["bin", name], file), (["usr", "bin", name], file)]

/-- The open files that a process starts with. -/
def streams : List (Int32 × OpenFile) :=
  [(0, ⟨.stream, true, false, false, 0⟩), (1, ⟨.stream, false, true, false, 0⟩),
   (2, ⟨.stream, false, true, false, 0⟩)]

/-- The machine at the start of a process. -/
def start : Machine := { storage := ⟨tree, streams⟩ }

/-- The machine with one more directory. -/
def withDirectory (place : Place) (m : Machine) : Machine :=
  { m with storage.tree := m.storage.tree.put place .directory }

/-- How the machine is called. -/
def identification : UtsName :=
  ⟨"Linux", "host", "6.8.0", "#1 SMP", "x86_64", "(none)"⟩

/-- The greatest number of seconds of a timeout. -/
def maxSeconds : Nat := 0x7fffffffffffffff

/-- Whether a call is part of the ABI. -/
def supports (s : Syscall) : Bool := s != .setThreadArea

/-- Wait on a word: a timeout that is none and a word that has changed are refused at once; nobody
ever wakes the waiter, so that a timeout passes and a wait without one is broken off. -/
def wait (m : Machine) (word expected : UInt32) : Option Duration → Except Errno Int64 × Machine
  | some timeout =>
    if maxSeconds < timeout.seconds then (.error .einval, m)
    else if word ≠ expected then (.error .eagain, m)
    else (.error .etimedout, { m with now := m.now + timeout.nanos })
  | none => (.error (if word ≠ expected then .eagain else .eintr), m)

/-- Answer with a value or an error and leave a part of the machine as the call left it. -/
def settle {α σ : Type} (m : Machine) (name : Syscall) (keep : σ → Machine) :
    Except Errno (α × σ) → Reply α × Machine
  | .ok (a, part) => (.value a, keep part)
  | .error e => (.failed (.of name e), m)

/-- Make a call. -/
def call (m : Machine) : (c : Call) → Reply c.Value × Machine
  | .write fd bytes =>
    m.settle .write (fun storage => { m with storage })
      ((m.storage.write fd bytes).map fun (n, s) => (UInt64.ofNat n, s))
  | .writev fd parts =>
    m.settle .writev (fun storage => { m with storage })
      ((m.storage.writeParts fd parts).map fun (n, s) => (UInt64.ofNat n, s))
  | .setThreadArea _ => (.failed (.of .setThreadArea .enosys), m)
  | .openFile path flags mode =>
    m.settle .openFile (fun storage => { m with storage })
      (m.storage.openAt Storage.atWorkingDirectory path.text flags mode)
  | .openAt dirfd path flags mode =>
    m.settle .openAt (fun storage => { m with storage })
      (m.storage.openAt dirfd path.text flags mode)
  | .read fd capacity =>
    m.settle .read (fun storage => { m with storage })
      ((m.storage.read fd capacity).map fun (bytes, s) => (⟨UInt64.ofNat bytes.length, bytes⟩, s))
  | .close fd =>
    m.settle .close (fun storage => { m with storage }) ((m.storage.close fd).map ((), ·))
  | .brk addr =>
    let (stop, space) := m.space.moveBreak addr.toNat
    (.value (UInt64.ofNat stop), { m with space })
  | .mmap request =>
    m.settle .mmap (fun space => { m with space })
      ((m.space.map request.length.toNat).map fun (base, s) =>
        (.ofRequest (UInt64.ofNat base) request, s))
  | .mincore region _ =>
    m.settle .mincore (fun () => m)
      ((m.space.residency region.base.toNat region.length.toNat).map (·, ()))
  | .munmap region =>
    m.settle .munmap (fun space => { m with space })
      ((m.space.unmap region.base.toNat region.length.toNat).map ((), ·))
  | .gettid => (.value m.pid, m)
  | .getpid => (.value m.pid, m)
  | .futexWait word expected timeout =>
    let (result, m) := m.wait word expected timeout
    m.settle .futex id (result.map (·, m))
  | .futexWake .. => (.value 0, m)
  | .clone .. =>
    let children := m.children + 1
    let tid := m.pid + Int32.ofNat children
    (⟨some tid.toUInt32, .value tid⟩, { m with children })
  | .uname => (.value identification, m)
  | .schedYield => (.value (), m)
  | .execve request =>
    m.settle .execve (fun loaded => { m with loaded := some loaded })
      ((m.storage.load request.path.text (request.argv.map (·.text))
        (request.envp.map (·.text))).map (0, ·))

theorem settle_cases {α σ : Type} (m : Machine) (name : Syscall) (keep : σ → Machine)
    (answer : Except Errno (α × σ)) :
    (∃ v, (m.settle name keep answer).1.returned = .value v) ∨
      ∃ e, (m.settle name keep answer).1.returned = .failed (.of name e) := by
  rcases answer with e | ⟨a, part⟩
  · exact .inr ⟨e, rfl⟩
  · exact .inl ⟨a, rfl⟩

/-- A call gives a value, or fails under its own name; none gives up. -/
theorem call_cases (m : Machine) (c : Call) :
    (∃ v, (m.call c).1.returned = .value v) ∨
      ∃ e, (m.call c).1.returned = .failed (.of c.syscall e) := by
  cases c <;> first | exact settle_cases .. | exact .inl ⟨_, rfl⟩ | exact .inr ⟨_, rfl⟩

/-- How long a reading of the clock takes, in nanoseconds. -/
def tick : Nat := 50

/-- The machine as a kernel that answers programs; the word of a child reads 0, because the child is
gone. -/
def kernel : Kernel Machine where
  supports s m := (.ok (supports s), m)
  call c m := m.call c
  clock m := (⟨m.now⟩, { m with now := m.now + tick })
  load _ m := (0, m)

/-- Whether the process is still the one that was started. -/
def goesOn (m : Machine) : Bool := m.loaded.isNone

/-- The part of an exit status that the parent of a process sees. -/
def seenStatus (status : Int32) : UInt8 := status.toUInt32.toUInt8

end Machine

end KernelProbe.Host
