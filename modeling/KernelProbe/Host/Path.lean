import KernelProbe.Abi.Errno
import KernelProbe.Text.Split

/-!
# Paths

A `Path` is a path text cut at its slashes. The empty text and a text longer than the kernel takes
are no paths; how long a single name may be shows only when it is looked up.
-/

namespace KernelProbe.Host

/-- A path text cut at its slashes. -/
structure Path where
  /-- Whether it starts at the root. -/
  absolute : Bool
  /-- The names on the way. -/
  names : List String
  /-- Whether a slash at the end asks for a directory. -/
  asDirectory : Bool
deriving DecidableEq, Repr

namespace Path

/-- The greatest number of bytes of a path text. -/
def maxBytes : Nat := 4095

/-- The greatest number of bytes of a name. -/
def maxNameBytes : Nat := 255

/-- The path that a text spells. -/
def ofText (text : String) : Except Errno Path :=
  let chars := text.toList
  if chars.isEmpty then .error .enoent
  else if maxBytes < text.utf8ByteSize then .error .enametoolong
  else .ok {
    absolute := chars.head? == some '/'
    names := ((Text.splitOn '/' chars).filter (!·.isEmpty)).map String.ofList
    asDirectory := chars.getLast? == some '/' }

end Path

end KernelProbe.Host
