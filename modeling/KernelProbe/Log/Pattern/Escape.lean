import KernelProbe.Log.Pattern.Syntax
import KernelProbe.Text.Alphabet

/-!
# Escapes in regular expressions

What a backslash and the characters behind it stand for: a character, a set of characters, or a
place between characters. With free spacing, blanks and comments may stand between the characters of
an expression, also between the digits of an escape.
-/

namespace KernelProbe.Pattern

/-! ## Free spacing -/

/-- A text without the blanks and comments at its start; a comment goes to the end of the line. -/
def skipSpace (inComment : Bool) : List Char → List Char
  | [] => []
  | c :: rest =>
    if inComment then skipSpace (c != '\n') rest
    else if Text.isBlank c then skipSpace false rest
    else if c = '#' then skipSpace true rest
    else c :: rest

/-- A text at its next character that means something. -/
def skip (freeSpacing : Bool) (text : List Char) : List Char :=
  if freeSpacing then skipSpace false text else text

/-! ## Escapes -/

/-- The value of a hexadecimal digit. -/
def hexDigit? (c : Char) : Option Nat :=
  if '0' ≤ c ∧ c ≤ '9' then some (c.toNat - '0'.toNat)
  else if 'a' ≤ c ∧ c ≤ 'f' then some (c.toNat - 'a'.toNat + 10)
  else if 'A' ≤ c ∧ c ≤ 'F' then some (c.toNat - 'A'.toNat + 10)
  else none

/-- Read a number of hexadecimal digits behind the digits that are worth `value`. -/
def readHex (freeSpacing : Bool) (value : Nat) : Nat → List Char → Option (Nat × List Char)
  | 0, text => some (value, text)
  | _ + 1, [] => none
  | more + 1, c :: rest =>
    match hexDigit? c with
    | none => none
    | some digit => readHex freeSpacing (16 * value + digit) more (skip freeSpacing rest)

/-- Read a character that is given by its number in a number of digits; two digits give a byte. -/
def readCodePoint (freeSpacing : Bool) (digits : Nat) (text : List Char) :
    Option (Expression × List Char) := do
  let (value, rest) ← readHex freeSpacing 0 digits (skip freeSpacing text)
  if value.isValidChar then return (.character (Char.ofNat value) (digits == 2), rest) else none

/-- Read the letter of a property; its name in braces is never closed. -/
def readProperty (freeSpacing : Bool) (text : List Char) : Option (Expression × List Char) :=
  match skip freeSpacing text with
  | [] | '\\' :: _ | '\x7b' :: _ => none
  | _ :: rest => some (.oneOf .property, skip freeSpacing rest)

/-- What a letter or another character behind a backslash stands for, if it needs nothing more. -/
def escaped? (c : Char) : Option Expression :=
  match c with
  | 'd' | 's' | 'w' => some (.oneOf (.kind false))
  | 'D' | 'S' | 'W' => some (.oneOf (.kind true))
  | 'a' => some (.character '\x07' false)
  | 'f' => some (.character '\x0c' false)
  | 't' => some (.character '\t' false)
  | 'n' => some (.character '\n' false)
  | 'r' => some (.character '\r' false)
  | 'v' => some (.character '\x0b' false)
  | 'A' | 'z' => some .anchor
  | 'b' | 'B' | '<' | '>' => some .wordEdge
  | _ => if c.toNat < 128 ∧ !c.isAlphanum then some (.character c false) else none

/-- Read what stands behind a backslash. An edge of a word in front of a brace would be one of
several, named in the braces; they are never closed. -/
def readEscape (freeSpacing : Bool) (text : List Char) : Option (Expression × List Char) :=
  match text with
  | [] => none
  | 'x' :: rest => readCodePoint freeSpacing 2 rest
  | 'u' :: rest => readCodePoint freeSpacing 4 rest
  | 'U' :: rest => readCodePoint freeSpacing 8 rest
  | 'p' :: rest | 'P' :: rest => readProperty freeSpacing rest
  | 'b' :: '\x7b' :: _ => none
  | c :: rest => (escaped? c).map (·, rest)

end KernelProbe.Pattern
