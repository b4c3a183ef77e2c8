/-!
# Numerals

How numbers are written: `decimal` and `integer` in base ten, `hex` in base sixteen with the mark
`0x`, and `wordHex` for a signed word, whose hexadecimal form shows its two's complement bits.
-/

namespace KernelProbe.Text

/-- The decimal text of `n`. -/
def decimal (n : Nat) : String := String.ofList (Nat.toDigits 10 n)

/-- The decimal text of an integer, with a minus sign in front of a negative one. -/
def integer (i : Int) : String :=
  if i < 0 then "-" ++ decimal i.natAbs else decimal i.natAbs

/-- The hexadecimal text of `n`: `0x` and lower-case digits. -/
def hex (n : Nat) : String := "0x" ++ String.ofList (Nat.toDigits 16 n)

/-- The hexadecimal text of the two's complement bits of a signed word. -/
def wordHex (w : Int64) : String := hex w.toUInt64.toNat

/-- `n` in decimal, padded with zeros on the left to at least `width` digits. -/
def zeroPadded (width n : Nat) : String :=
  let digits := Nat.toDigits 10 n
  String.ofList (List.replicate (width - digits.length) '0' ++ digits)

@[simp] theorem toList_decimal (n : Nat) : (decimal n).toList = Nat.toDigits 10 n := by
  simp [decimal]

@[simp] theorem toList_hex (n : Nat) : (hex n).toList = '0' :: 'x' :: Nat.toDigits 16 n := by
  simp [hex]

end KernelProbe.Text
