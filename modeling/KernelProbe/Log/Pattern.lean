import KernelProbe.Log.Pattern.Reader
import KernelProbe.Log.Pattern.Support

/-!
# Patterns

The value that a log filter asks of a field is a truth value, a number or a regular expression. The
values are never compared here, because the program opens no spans whose fields they are about, but
a filter with a value that is none of these is refused as a whole. `Pattern.isValid` tells whether a
text may stand there.
-/

namespace KernelProbe.Pattern

/-- Whether a text is a regular expression that can be matched. -/
def isRegular (text : List Char) : Bool := (Expression.ofText? text).any Expression.isSupported

/-- Whether a text is an exponent: a mark, a sign at most, and digits. -/
def isExponent : List Char → Bool
  | [] => true
  | mark :: rest =>
    let digits := match rest with
      | '+' :: digits | '-' :: digits => digits
      | _ => rest
    (mark == 'e' || mark == 'E') && !digits.isEmpty && digits.all Char.isDigit

/-- Whether a text is an unsigned number, with a fraction and an exponent or without. -/
def isDecimal (text : List Char) : Bool :=
  let rest := text.dropWhile Char.isDigit
  let fraction := match rest with
    | '.' :: rest => rest.takeWhile Char.isDigit
    | _ => []
  let rest := match rest with
    | '.' :: rest => rest.dropWhile Char.isDigit
    | _ => rest
  (!(text.takeWhile Char.isDigit).isEmpty || !fraction.isEmpty) && isExponent rest

/-- The names of numbers that have no digits. -/
def numberNames : List String := ["inf", "infinity", "nan"]

/-- Whether a text may be asked of a field. A number is a regular expression too, unless it starts
with a plus sign. -/
def isValid (text : List Char) : Bool :=
  match text with
  | '+' :: rest => isDecimal rest || numberNames.contains (String.ofList rest).toLower
  | _ => isRegular text

end KernelProbe.Pattern
