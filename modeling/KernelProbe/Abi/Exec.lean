import KernelProbe.Abi.SyscallError
import KernelProbe.Text.Utf8

/-!
# Program execution

`CText` is text that the kernel can read up to a zero byte, so it holds none of its own. An
`ExecRequest` is the path, arguments and environment of `execve` in that form; `ExecRequest.of?`
refuses a text with a zero byte and says where it stands.
-/

namespace KernelProbe

/-- Text without a zero character. -/
structure CText where
  /-- The text. -/
  text : String
  /-- No zero character would end the text early. -/
  noNul : '\x00' ∉ text.toList
deriving DecidableEq

instance : Repr CText := ⟨fun t _ => repr t.text⟩

/-- A text holds a zero byte at this byte position. -/
structure NulError where
  /-- Bytes in front of the first zero byte. -/
  position : Nat
deriving DecidableEq, Repr

/-- The error in words. -/
def NulError.message (e : NulError) : String :=
  "nul byte found in provided data at position: " ++ Text.decimal e.position

namespace CText

/-- A text as the kernel reads it, or the position of its first zero byte. -/
def of? (text : String) : Except NulError CText :=
  if h : '\x00' ∈ text.toList then
    .error ⟨((text.toList.takeWhile (· != '\x00')).map (·.utf8Size)).foldr (· + ·) 0⟩
  else .ok ⟨text, h⟩

/-- The bytes of the text with the zero byte that ends it. -/
def bytes (t : CText) : List UInt8 := Text.encode t.text ++ [0]

end CText

/-- What a successful `execve` does on the kernel under test. -/
inductive ExecModel where
  /-- The caller's image is replaced and the call never returns. -/
  | replace
  /-- A new process is made and the caller goes on. -/
  | spawn
deriving DecidableEq, Repr

namespace ExecModel

/-- The name of the model. -/
def name : ExecModel → String
  | replace => "replace"
  | spawn => "spawn"

/-- Every model. -/
def all : List ExecModel := [.replace, .spawn]

/-- The model of a name. -/
def ofName? (name : String) : Option ExecModel := all.find? (·.name == name)

end ExecModel

/-- The arguments of `execve`. -/
structure ExecRequest where
  /-- The program's path. -/
  path : CText
  /-- The argument vector. -/
  argv : List CText
  /-- The environment. -/
  envp : List CText
deriving DecidableEq, Repr

/-- The request for a path, arguments and environment; the first text with a zero byte, in that
order, refuses it. -/
def ExecRequest.of? (path : String) (argv envp : List String) : Except NulError ExecRequest := do
  return ⟨← CText.of? path, ← argv.mapM CText.of?, ← envp.mapM CText.of?⟩

/-- The identification of a kernel. -/
structure UtsName where
  /-- The name of the operating system. -/
  sysname : String := ""
  /-- The name of the machine on its network. -/
  nodename : String := ""
  /-- The release of the kernel. -/
  release : String := ""
  /-- The version of the kernel. -/
  version : String := ""
  /-- The kind of hardware. -/
  machine : String := ""
  /-- The name of the network. -/
  domainname : String := ""
deriving DecidableEq, Repr

/-- The fields with their names, in the order in which the kernel stores them. -/
def UtsName.fields (u : UtsName) : List (String × String) :=
  [("sysname", u.sysname), ("nodename", u.nodename), ("release", u.release),
   ("version", u.version), ("machine", u.machine), ("domainname", u.domainname)]

end KernelProbe
