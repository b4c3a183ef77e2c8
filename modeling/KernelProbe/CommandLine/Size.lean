import KernelProbe.Text.Number

/-!
# Sizes on the command line

A size is a decimal number, or a hexadecimal one behind `0x` or `0X`; one plus sign may stand in
front of the digits. `parseSize` reads a size below 2^64 or tells what is wrong at the first place
where something is.
-/

namespace KernelProbe

/-- Read a size. -/
def parseSize (s : String) : Except NumberError UInt64 :=
  match s.toList with
  | '0' :: 'x' :: digits | '0' :: 'X' :: digits => parseNumber 16 digits
  | digits => parseNumber 10 digits

/-- What is wrong with a size, in words. -/
def sizeMessage (s : String) (e : NumberError) : String :=
  "invalid size '" ++ s ++ "': " ++ e.message

end KernelProbe
