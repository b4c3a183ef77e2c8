import KernelProbe.Probe.Basic
import KernelProbe.Text.Utf8

/-!
# Output probes

`write` of one buffer and `writev` of several; the kernel must take every byte.
-/

namespace KernelProbe.Output

/-- The group's name. -/
def groupName : String := "output"

/-- What the write probe writes. -/
def message : List UInt8 := Text.encode "sysprobe: write\n"

/-- What the gathered write writes, part by part. -/
def parts : List (List UInt8) := ["hello ", "world!", "hello ", "\n"].map Text.encode

/-- A write must take `expected` bytes. -/
def checkLength (expected : Nat) (written : UInt64) : Judge Unit Unit := do
  Judge.noteNat "bytes_written" written.toNat
  if written.toNat != expected then
    Judge.refute ("short write: " ++ Text.decimal written.toNat ++ " of " ++ Text.decimal expected
      ++ " bytes") (some (.ok written.toInt64))

/-- Write one buffer. -/
def writeProbe (fd : Int32) : Probe Unit UInt64 where
  spec := ⟨"write", [.write], false⟩
  invoke := Step.call (.write fd message)
  check := checkLength message.length

/-- Write several buffers with one call. -/
def writevProbe (fd : Int32) : Probe Unit UInt64 where
  spec := ⟨"writev", [.writev], false⟩
  invoke := Step.call (.writev fd parts)
  check written := do
    Judge.noteNat "iovecs" parts.length
    checkLength ((parts.map List.length).foldr (· + ·) 0) written

/-- The output group, writing to the descriptor `fd`. -/
def group (fd : Int32) : Group where
  Context := Unit
  name := groupName
  start := ()
  trials := [(writeProbe fd).trial, (writevProbe fd).trial]

end KernelProbe.Output
