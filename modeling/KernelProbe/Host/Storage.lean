import KernelProbe.Host.FileTree

/-!
# Open files

A descriptor stands for an open file: a place in the tree, or one of the standard streams, with the
rights and the offset of this opening. Two openings of one file share its contents and nothing else.
The lowest free number is handed out.
-/

namespace KernelProbe.Host

/-- What a descriptor reads from and writes to. -/
inductive Source where
  /-- A standard stream, which takes every write and has nothing to read. -/
  | stream
  /-- The node at a place. -/
  | node (place : Place)
deriving DecidableEq, Repr

/-- An open file. -/
structure OpenFile where
  /-- What it is open on. -/
  source : Source
  /-- Whether it may be read. -/
  readable : Bool
  /-- Whether it may be written. -/
  writable : Bool
  /-- Whether every write goes to the end. -/
  append : Bool := false
  /-- Where the next read or write starts. -/
  offset : Nat := 0
deriving DecidableEq, Repr

/-- A file tree and the descriptors into it. -/
structure Storage where
  /-- The tree. -/
  tree : FileTree
  /-- The open files by their numbers. -/
  descriptors : List (Int32 × OpenFile)
deriving DecidableEq, Repr

namespace Storage

/-- The directory that relative paths start from. -/
def workingDirectory : Place := ["root"]

/-- The number that stands for the working directory. -/
def atWorkingDirectory : Int32 := -100

/-- The greatest number of parts of one write. -/
def maxParts : Nat := 1024

/-- The open file of a number. -/
def file (s : Storage) (fd : Int32) : Except Errno OpenFile :=
  match s.descriptors.lookup fd with
  | some f => .ok f
  | none => .error .ebadf

/-- Put an open file under a number. -/
def update (s : Storage) (fd : Int32) (f : OpenFile) : Storage :=
  { s with descriptors := s.descriptors.map fun d => if d.1 == fd then (fd, f) else d }

/-- The lowest number that is free. -/
def lowestFree (s : Storage) : Int32 :=
  let numbers := (List.range (s.descriptors.length + 1)).map Int32.ofNat
  (numbers.find? fun fd => (s.descriptors.lookup fd).isNone).getD 0

/-- Where a path starts that is given together with the number of a directory. -/
def start (s : Storage) (dirfd : Int32) (p : Path) : Except Errno Place :=
  if p.absolute then .ok []
  else if dirfd = atWorkingDirectory then .ok workingDirectory
  else do
    match (← s.file dirfd).source with
    | .node place => return place
    | .stream => throw .enotdir

/-- Open a path, relative to a directory. -/
def openAt (s : Storage) (dirfd : Int32) (path : String) (flags : Int32) (mode : UInt32) :
    Except Errno (Int32 × Storage) := do
  let p ← Path.ofText path
  let f := OpenFlags.ofBits flags
  let (place, tree) ← s.tree.openAt (← s.start dirfd p) p f (mode &&& 0o111 != 0)
  let opened : OpenFile :=
    { source := .node place, readable := f.readable, writable := f.writable, append := f.append }
  let fd := s.lowestFree
  return (fd, ⟨tree, (fd, opened) :: s.descriptors⟩)

/-- Close a descriptor. -/
def close (s : Storage) (fd : Int32) : Except Errno Storage := do
  let _ ← s.file fd
  return { s with descriptors := s.descriptors.filter (·.1 != fd) }

/-- Read at most `capacity` bytes. -/
def read (s : Storage) (fd : Int32) (capacity : Nat) : Except Errno (List UInt8 × Storage) := do
  let f ← s.file fd
  if !f.readable then throw .ebadf
  match f.source with
  | .stream => return ([], s)
  | .node place =>
    match s.tree.node? place with
    | some (.file file) =>
      let bytes := (file.bytes.drop f.offset).take capacity
      return (bytes, s.update fd { f with offset := f.offset + bytes.length })
    | some (.device .null) => return ([], s)
    | some (.device .zero) => return (List.replicate capacity 0, s)
    | _ => throw .eisdir

/-- The contents after bytes have been written at an offset; a gap before it reads as zeros. -/
def overwrite (contents : List UInt8) (offset : Nat) (bytes : List UInt8) : List UInt8 :=
  contents.take offset ++ List.replicate (offset - contents.length) 0 ++ bytes
    ++ contents.drop (offset + bytes.length)

/-- Write bytes, all of them. -/
def write (s : Storage) (fd : Int32) (bytes : List UInt8) : Except Errno (Nat × Storage) := do
  let f ← s.file fd
  if !f.writable then throw .ebadf
  match f.source with
  | .stream => return (bytes.length, s)
  | .node place =>
    match s.tree.node? place with
    | some (.file file) =>
      if bytes.isEmpty then return (0, s)
      let offset := if f.append then file.bytes.length else f.offset
      let tree := s.tree.put place (.file { file with bytes := overwrite file.bytes offset bytes })
      return (bytes.length, { s with tree }.update fd { f with offset := offset + bytes.length })
    | _ => return (bytes.length, s)

/-- Write several byte strings one after another. -/
def writeParts (s : Storage) (fd : Int32) (parts : List (List UInt8)) :
    Except Errno (Nat × Storage) := do
  let _ ← s.file fd
  if maxParts < parts.length then throw .einval
  s.write fd parts.flatten

/-- Whether a place is open for writing. -/
def isBusy (s : Storage) (place : Place) : Bool :=
  s.descriptors.any fun d => d.2.writable && d.2.source == .node place

end Storage

end KernelProbe.Host
