/-!
# Stamps of runs

A run is stamped with its name and the time when it starts. Its name is made of 122 random bits in
the usual form of thirty-two hexadecimal digits in five parts; the first digit of the third part
tells the version, 4, and that of the fourth part the variant.
-/

namespace KernelProbe

/-- The name of a run and when it started. -/
structure RunStamp where
  /-- The name. -/
  runId : String
  /-- The start, in milliseconds since 1970. -/
  startedAt : Int64
deriving DecidableEq, Repr

namespace RunId

/-- The lower-case hexadecimal digits of a byte. -/
def byteDigits (b : UInt8) : List Char :=
  [Nat.digitChar (b.toNat / 16), Nat.digitChar (b.toNat % 16)]

/-- The version and variant marks of the byte at a place. -/
def mark (place : Nat) (b : UInt8) : UInt8 :=
  if place = 6 then b &&& 0x0F ||| 0x40
  else if place = 8 then b &&& 0x3F ||| 0x80
  else b

/-- The name made of sixteen random bytes. -/
def ofBytes (bytes : List UInt8) : String :=
  String.ofList (bytes.zipIdx.flatMap fun (b, place) =>
    (if place ∈ [4, 6, 8, 10] then ['-'] else []) ++ byteDigits (mark place b))

end RunId

end KernelProbe
