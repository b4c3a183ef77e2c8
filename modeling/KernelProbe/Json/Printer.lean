import KernelProbe.Json.Basic
import KernelProbe.Text.Numeral

/-!
# Writing JSON

`Json.render` writes a value on one line without blanks. In a string only the quote, the backslash
and the control characters below the blank are escaped.
-/

namespace KernelProbe.Json

/-- A lower-case hexadecimal digit. -/
def hexDigit (n : Nat) : Char := Nat.digitChar n

/-- A character as it stands in a string literal. -/
def escapeChar (c : Char) : List Char :=
  if c = '"' then ['\\', '"']
  else if c = '\\' then ['\\', '\\']
  else if c = '\x08' then ['\\', 'b']
  else if c = '\x0c' then ['\\', 'f']
  else if c = '\n' then ['\\', 'n']
  else if c = '\r' then ['\\', 'r']
  else if c = '\t' then ['\\', 't']
  else if c.toNat < 0x20 then
    ['\\', 'u', '0', '0', hexDigit (c.toNat / 16), hexDigit (c.toNat % 16)]
  else [c]

/-- A string literal. -/
def quote (s : String) : List Char := '"' :: (s.toList.flatMap escapeChar ++ ['"'])

/-- A number as it is written. -/
def renderNumber : JsonNumber → List Char
  | .integer i => (Text.integer i).toList
  | .real negative digits exponent =>
    (if negative then ['-'] else []) ++ (Text.decimal digits).toList ++ 'e' ::
      (Text.integer exponent).toList

mutual

/-- The characters of a value. -/
def chars : Json → List Char
  | null => ['n', 'u', 'l', 'l']
  | bool true => ['t', 'r', 'u', 'e']
  | bool false => ['f', 'a', 'l', 's', 'e']
  | number n => renderNumber n
  | string s => quote s
  | unreadable => ['"', '"']
  | array items => '[' :: (itemChars items ++ [']'])
  | object fields => '\x7b' :: (fieldChars fields ++ ['\x7d'])

/-- The characters of items with commas between them. -/
def itemChars : List Json → List Char
  | [] => []
  | [item] => chars item
  | item :: rest => chars item ++ ',' :: itemChars rest

/-- The characters of fields with commas between them. -/
def fieldChars : List (String × Json) → List Char
  | [] => []
  | [(name, value)] => quote name ++ ':' :: chars value
  | (name, value) :: rest => quote name ++ ':' :: (chars value ++ ',' :: fieldChars rest)

end

/-- The value on one line. -/
def render (j : Json) : String := String.ofList j.chars

end KernelProbe.Json
