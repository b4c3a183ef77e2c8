/-!
# Reading numbers

`parseNumber` reads an unsigned number of 64 bits in a radix of at most sixteen, or tells what is
wrong at the first place where something is.
-/

namespace KernelProbe

/-- Why a text is no number. -/
inductive NumberError where
  /-- There are no digits at all. -/
  | empty
  /-- Something is no digit. -/
  | invalidDigit
  /-- The number does not fit. -/
  | tooLarge
deriving DecidableEq, Repr

/-- The error in words. -/
def NumberError.message : NumberError → String
  | empty => "cannot parse integer from empty string"
  | invalidDigit => "invalid digit found in string"
  | tooLarge => "number too large to fit in target type"

/-- The value of a digit of either case in a radix of at most sixteen. -/
def digitValue? (radix : Nat) (c : Char) : Option Nat :=
  let n := c.toNat
  let value :=
    if '0'.toNat ≤ n ∧ n ≤ '9'.toNat then n - '0'.toNat
    else if 'a'.toNat ≤ n ∧ n ≤ 'f'.toNat then n - 'a'.toNat + 10
    else if 'A'.toNat ≤ n ∧ n ≤ 'F'.toNat then n - 'A'.toNat + 10
    else radix
  if value < radix then some value else none

/-- Read digits behind the number `acc`; the number must stay below 2^64 all the way. -/
def parseDigits (radix acc : Nat) : List Char → Except NumberError Nat
  | [] => .ok acc
  | c :: rest =>
    match digitValue? radix c with
    | none => .error .invalidDigit
    | some digit =>
      let next := acc * radix + digit
      if next < UInt64.size then parseDigits radix next rest else .error .tooLarge

/-- Read an unsigned number of 64 bits in a radix, with an optional plus sign. -/
def parseNumber (radix : Nat) (s : List Char) : Except NumberError UInt64 :=
  match s with
  | [] => .error .empty
  | ['+'] => .error .invalidDigit
  | '+' :: digits => (parseDigits radix 0 digits).map UInt64.ofNat
  | digits => (parseDigits radix 0 digits).map UInt64.ofNat

end KernelProbe
