import KernelProbe.Host.Path

/-!
# The file tree

Directories, regular files and devices by their places. `FileTree.resolve` follows names from a
place, `FileTree.openAt` finds or creates what a path names and checks it against what the opener
wants. The errors come in the order in which a kernel meets them: those on the way before those at
the end.
-/

namespace KernelProbe.Host

/-- The names from the root to a node. -/
abbrev Place := List String

/-- A device without contents. -/
inductive Device where
  /-- It swallows what is written and is at its end at once. -/
  | null
  /-- It swallows what is written and reads as zero bytes without end. -/
  | zero
deriving DecidableEq, Repr

/-- What an executable file does when it is executed. -/
inductive Image where
  /-- It ends at once with a status. -/
  | exits (status : UInt8)
  /-- It writes its arguments on a line. -/
  | echo
deriving DecidableEq, Repr

/-- A regular file. -/
structure RegularFile where
  /-- Its contents. -/
  bytes : List UInt8 := []
  /-- Whether anyone may execute it. -/
  executable : Bool := false
  /-- What it does, if it is a program for this machine. -/
  image : Option Image := none
deriving DecidableEq, Repr

/-- What a place holds. -/
inductive Node where
  /-- A directory. -/
  | directory
  /-- A regular file. -/
  | file (f : RegularFile)
  /-- A device. -/
  | device (d : Device)
deriving DecidableEq, Repr

/-- How a file is to be opened. -/
structure OpenFlags where
  /-- For reading. -/
  readable : Bool
  /-- For writing. -/
  writable : Bool
  /-- Create a file that is missing. -/
  create : Bool
  /-- Refuse what is there, if creating. -/
  exclusive : Bool
  /-- Empty a regular file. -/
  truncate : Bool
  /-- Write at the end. -/
  append : Bool
  /-- Refuse all but directories. -/
  directory : Bool
deriving DecidableEq, Repr

namespace OpenFlags

/-- The names of flags with their bits. -/
def bits : List (String × Int32) :=
  [("rdonly", 0), ("wronly", 1), ("rdwr", 2), ("creat", 0x40), ("excl", 0x80), ("trunc", 0x200),
   ("append", 0x400), ("directory", 0x10000)]

/-- The flags that a word of bits holds. Its two lowest bits are 0 for reading, 1 for writing and 2
for both. -/
def ofBits (word : Int32) : OpenFlags :=
  let has (bit : Int32) : Bool := word &&& bit != 0
  let access := word &&& 3
  { readable := access == 0 || access == 2
    writable := access == 1 || access == 2
    create := has 0x40
    exclusive := has 0x80
    truncate := has 0x200
    append := has 0x400
    directory := has 0x10000 }

/-- Whether the opener wants to change what is there. -/
def changes (f : OpenFlags) : Bool := f.writable || f.truncate || !f.readable

end OpenFlags

/-- The nodes below the root by their places. -/
structure FileTree where
  /-- Every node but the root. -/
  nodes : List (Place × Node)
deriving DecidableEq, Repr

namespace FileTree

/-- The node at a place; the root is a directory. -/
def node? (t : FileTree) (place : Place) : Option Node :=
  if place.isEmpty then some .directory else t.nodes.lookup place

/-- Whether a place is a directory. -/
def isDirectory (t : FileTree) (place : Place) : Bool := t.node? place == some .directory

/-- Put a node at a place. -/
def put (t : FileTree) (place : Place) (node : Node) : FileTree := ⟨(place, node) :: t.nodes⟩

/-- Go from a place to what it holds under a name. -/
def descend (t : FileTree) (here : Place) (name : String) : Except Errno Place :=
  if !t.isDirectory here then .error .enotdir
  else if name = "." then .ok here
  else if name = ".." then .ok here.dropLast
  else if Path.maxNameBytes < name.utf8ByteSize then .error .enametoolong
  else if (t.node? (here ++ [name])).isNone then .error .enoent
  else .ok (here ++ [name])

/-- Follow names from a place. -/
def resolve (t : FileTree) (here : Place) (names : List String) : Except Errno Place :=
  names.foldlM t.descend here

/-- The place that a path names. -/
def locate (t : FileTree) (here : Place) (p : Path) : Except Errno Place := do
  let place ← t.resolve here p.names
  if p.asDirectory && !t.isDirectory place then throw .enotdir
  return place

/-- Open what is at a place. -/
def openExisting (t : FileTree) (place : Place) (asDirectory : Bool) (f : OpenFlags) :
    Except Errno FileTree := do
  if f.create && f.exclusive then throw .eexist
  if f.create && t.isDirectory place then throw .eisdir
  if (f.directory || asDirectory) && !t.isDirectory place then throw .enotdir
  if f.changes && t.isDirectory place then throw .eisdir
  match t.node? place with
  | some (.file file) =>
    return if f.truncate then t.put place (.file { file with bytes := [] }) else t
  | _ => return t

/-- Open what a path names, seen from a place, and create it if it is missing and the flags say
so. -/
def openAt (t : FileTree) (here : Place) (p : Path) (f : OpenFlags) (executable : Bool) :
    Except Errno (Place × FileTree) := do
  let parent ← t.resolve here p.names.dropLast
  match p.names.getLast? with
  | none => return (parent, ← t.openExisting parent p.asDirectory f)
  | some name =>
    if f.create && p.asDirectory && t.isDirectory parent && name != "." && name != ".." then
      throw .eisdir
    match t.descend parent name with
    | .ok place => return (place, ← t.openExisting place p.asDirectory f)
    | .error e =>
      if e = .enoent && f.create then
        return (parent ++ [name], t.put (parent ++ [name]) (.file { executable }))
      else throw e

end FileTree

end KernelProbe.Host
