import KernelProbe.Host.Echo
import KernelProbe.Host.Storage

/-!
# Loading programs

What `execve` finds at a path: a program for this machine, or a text that begins with the mark `#!`
and names the program that is to read it. An interpreter may be such a text itself, but not without
end. Only the head of a text is looked at, and a name that may go on behind it is not trusted.
-/

namespace KernelProbe.Host

/-- A program that has taken the place of the caller, with its arguments. -/
structure Loaded where
  /-- What it does. -/
  image : Image
  /-- Its arguments, its own name first. -/
  argv : List String
deriving DecidableEq, Repr

namespace Loaded

/-- The status that the program ends with. -/
def status (l : Loaded) : UInt8 :=
  match l.image with
  | .exits status => status
  | .echo => 0

/-- What the program writes to its standard output. -/
def output (l : Loaded) : List UInt8 :=
  match l.image with
  | .exits _ => []
  | .echo => Echo.output l.argv.tail

end Loaded

namespace Storage

/-- How many programs are looked at in turn before the loader gives up. -/
def maxRounds : Nat := 6

/-- How many bytes of a text are searched for its interpreter. -/
def headLength : Nat := 256

/-- Whether a byte is a blank or a tab. -/
def isBlank (b : UInt8) : Bool := b == 32 || b == 9

/-- Whether a byte ends the name of an interpreter: a blank, a tab or a zero byte. -/
def isNameEnd (b : UInt8) : Bool := isBlank b || b == 0

/-- The bytes without the blanks behind them. -/
def trimEnd (bytes : List UInt8) : List UInt8 := (bytes.reverse.dropWhile isBlank).reverse

/-- The line that names an interpreter, out of the head of a text behind its mark, filled up with
zero bytes. Without a line break in front of the first zero byte it is the whole head but the last
byte, unless that may cut a name short. -/
def interpreterLine? (head : List UInt8) : Option (List UInt8) :=
  match (head.takeWhile (· != 0)).span (· != 10) with
  | (line, _ :: _) => some line
  | (_, []) => if (head.dropWhile isBlank).any isNameEnd then some head.dropLast else none

/-- The interpreter that a text names in its first line, with the rest of that line as an
argument. -/
def interpreter? (bytes : List UInt8) : Option (String × Option String) :=
  match (bytes.take headLength).rightpad headLength 0 with
  | 35 :: 33 :: head => do
    let (name, rest) := ((trimEnd (← interpreterLine? head)).dropWhile isBlank).span (!isNameEnd ·)
    match name, rest with
    | [], [] => none
    | name, b :: rest =>
      if isBlank b then
        return (Text.decodeLossy name,
          some (Text.decodeLossy ((rest.dropWhile isBlank).takeWhile (· != 0))))
      else return (Text.decodeLossy name, none)
    | name, [] => return (Text.decodeLossy name, none)
  | _ => none

/-- The regular file that a path names, if it may be executed. -/
def executable (s : Storage) (path : Path) : Except Errno RegularFile := do
  let place ← s.tree.locate (← s.start atWorkingDirectory path) path
  match s.tree.node? place with
  | some (.file file) =>
    if !file.executable then throw .eacces
    if s.isBusy place then throw .etxtbsy
    return file
  | _ => throw .eacces

/-- The path of an interpreter; an empty name is the working directory. -/
def interpreterPath (name : String) : Except Errno Path :=
  if name.isEmpty then .ok ⟨false, [], true⟩ else Path.ofText name

/-- Load a program that has been found; at most `rounds` more may be looked at. -/
def loadFile (s : Storage) (path : String) (file : RegularFile) (argv : List String) :
    Nat → Except Errno Loaded
  | 0 => .error .eloop
  | rounds + 1 =>
    match file.image, interpreter? file.bytes with
    | some image, _ => return ⟨image, argv⟩
    | none, some (name, argument) => do
      let interpreter ← s.executable (← interpreterPath name)
      s.loadFile name interpreter (name :: argument.toList ++ path :: argv.tail) rounds
    | none, none => throw .enoexec

/-- The greatest number of bytes of an argument or a setting of the environment. -/
def maxArgumentBytes : Nat := 131071

/-- Load the program of a path. -/
def load (s : Storage) (path : String) (argv envp : List String) : Except Errno Loaded := do
  let file ← s.executable (← Path.ofText path)
  if (argv ++ envp).any fun text => maxArgumentBytes < text.utf8ByteSize then throw .e2big
  s.loadFile path file argv maxRounds

end Storage

end KernelProbe.Host
