import KernelProbe.Json.Basic

/-!
# Reading JSON

`Json.parse?` reads a text that holds one value and nothing else but blanks. The parser works on a
list of characters and hands back what it did not use; its fuel is bounded by the length of the
text, because every value takes at least one character.
-/

namespace KernelProbe.Json

/-- A blank between tokens. -/
def isBlank (c : Char) : Bool := c == ' ' || c == '\n' || c == '\t' || c == '\r'

/-- Drop the blanks in front. -/
def skipBlanks (s : List Char) : List Char := s.dropWhile isBlank

/-- The value of a hexadecimal digit of either case. -/
def hexValue? (c : Char) : Option Nat :=
  if '0' ≤ c ∧ c ≤ '9' then some (c.toNat - '0'.toNat)
  else if 'a' ≤ c ∧ c ≤ 'f' then some (c.toNat - 'a'.toNat + 10)
  else if 'A' ≤ c ∧ c ≤ 'F' then some (c.toNat - 'A'.toNat + 10)
  else none

/-- The number of four hexadecimal digits. -/
def hex4? (a b c d : Char) : Option Nat := do
  return (((← hexValue? a) * 16 + (← hexValue? b)) * 16 + (← hexValue? c)) * 16 + (← hexValue? d)

/-- What a string literal spells so far. -/
structure Literal where
  /-- The characters in reverse; none once half a surrogate pair has been met. -/
  chars : Option (List Char) := some []
  /-- The first half of a surrogate pair that waits for its second. -/
  pending : Option Nat := none

namespace Literal

/-- Add a character; a waiting half of a pair stays half. -/
def push (c : Char) (l : Literal) : Literal :=
  ⟨if l.pending.isSome then none else l.chars.map (c :: ·), none⟩

/-- Add a unit of sixteen bits: a character, or half of a surrogate pair. -/
def pushUnit (n : Nat) (l : Literal) : Literal :=
  if 0xD800 ≤ n ∧ n < 0xDC00 then
    ⟨if l.pending.isSome then none else l.chars, some n⟩
  else if 0xDC00 ≤ n ∧ n < 0xE000 then
    match l.pending with
    | some high =>
      ⟨l.chars.map (Char.ofNat (0x10000 + (high - 0xD800) * 0x400 + (n - 0xDC00)) :: ·), none⟩
    | none => ⟨none, none⟩
  else l.push (Char.ofNat n)

/-- The text that the literal spells, unless it has half a surrogate pair. -/
def text? (l : Literal) : Option String :=
  if l.pending.isSome then none else l.chars.map fun cs => String.ofList cs.reverse

end Literal

/-- The character of a one-letter escape. -/
def escape? (c : Char) : Option Char :=
  if c = '"' then some '"' else if c = '\\' then some '\\' else if c = '/' then some '/'
  else if c = 'b' then some '\x08' else if c = 'f' then some '\x0c' else if c = 'n' then some '\n'
  else if c = 'r' then some '\r' else if c = 't' then some '\t' else none

/-- Read the rest of a string literal behind its opening quote. -/
def literal (l : Literal) : List Char → Option (Literal × List Char)
  | [] => none
  | '"' :: rest => some (l, rest)
  | '\\' :: 'u' :: a :: b :: c :: d :: rest =>
    match hex4? a b c d with
    | none => none
    | some n => literal (l.pushUnit n) rest
  | '\\' :: c :: rest =>
    match escape? c with
    | some e => literal (l.push e) rest
    | none => none
  | c :: rest => if c.toNat < 0x20 ∨ c = '\\' then none else literal (l.push c) rest

/-- The value of a string literal. -/
def ofLiteral (l : Literal) : Json :=
  match l.text? with
  | some s => .string s
  | none => .unreadable

/-- The value of a decimal digit. -/
def digitValue (c : Char) : Nat := c.toNat - '0'.toNat

/-- The number that decimal digits spell. -/
def digitsValue (digits : List Char) : Nat := digits.foldl (fun n c => n * 10 + digitValue c) 0

/-- Put digits behind a number as long as it fits a word, and give the digits that are left over. -/
def accumulate (n : Nat) : List Char → Nat × List Char
  | [] => (n, [])
  | c :: rest =>
    let next := n * 10 + digitValue c
    if next < UInt64.size then accumulate next rest else (n, c :: rest)

/-- The exponent of a number, if there is one, and what follows. -/
def exponent? (s : List Char) : Option (Option Int × List Char) :=
  match s with
  | 'e' :: rest | 'E' :: rest =>
    let (negative, rest) := match rest with
      | '-' :: rest => (true, rest)
      | '+' :: rest => (false, rest)
      | _ => (false, rest)
    let digits := rest.takeWhile Char.isDigit
    if digits.isEmpty then none
    else
      let n : Int := digitsValue digits
      some (some (if negative then -n else n), rest.dropWhile Char.isDigit)
  | _ => some (none, s)

/-- The fraction of a number, if there is one, and what follows. -/
def fraction? (s : List Char) : Option (Option (List Char) × List Char) :=
  match s with
  | '.' :: rest =>
    let digits := rest.takeWhile Char.isDigit
    if digits.isEmpty then none else some (some digits, rest.dropWhile Char.isDigit)
  | _ => some (none, s)

/-- The number that an integer literal spells: an integer if it fits a word. -/
def ofDigits (negative : Bool) (digits : List Char) : JsonNumber :=
  let (n, left) := accumulate 0 digits
  if left ≠ [] then .real negative n left.length
  else if !negative then .integer n
  else if n = 0 ∨ 0x8000000000000000 < n then .real true n 0
  else .integer (-(n : Int))

/-- The number with a fraction or an exponent. Digits that do not fit a word only count as powers of
ten in front of the point, and for nothing behind it. -/
def ofParts (negative : Bool) (digits fraction : List Char) (exponent : Int) : JsonNumber :=
  let (n, left) := accumulate 0 digits
  let (n, unread) := accumulate n fraction
  .real negative n (left.length - (fraction.length - unread.length) + exponent)

/-- Read a number: no superfluous zero in front, and digits on both sides of a point. -/
def number? (s : List Char) : Option (JsonNumber × List Char) := do
  let (negative, s) := match s with
    | '-' :: rest => (true, rest)
    | _ => (false, s)
  let digits := s.takeWhile Char.isDigit
  if digits.isEmpty ∨ (digits.head? = some '0' ∧ digits.length ≠ 1) then none
  let (fraction, s) ← fraction? (s.dropWhile Char.isDigit)
  let (exponent, s) ← exponent? s
  match fraction, exponent with
  | none, none => return (ofDigits negative digits, s)
  | _, _ => return (ofParts negative digits (fraction.getD []) (exponent.getD 0), s)

mutual

/-- Read a value, with blanks in front allowed. -/
def parseValue : Nat → List Char → Option (Json × List Char)
  | 0, _ => none
  | fuel + 1, s =>
    match skipBlanks s with
    | 'n' :: 'u' :: 'l' :: 'l' :: rest => some (.null, rest)
    | 't' :: 'r' :: 'u' :: 'e' :: rest => some (.bool true, rest)
    | 'f' :: 'a' :: 'l' :: 's' :: 'e' :: rest => some (.bool false, rest)
    | '"' :: rest => do
      let (l, rest) ← literal {} rest
      return (ofLiteral l, rest)
    | '[' :: rest =>
      match skipBlanks rest with
      | ']' :: rest => some (.array [], rest)
      | _ => do
        let (items, rest) ← parseItems fuel rest
        return (.array items, rest)
    | '\x7b' :: rest =>
      match skipBlanks rest with
      | '\x7d' :: rest => some (.object [], rest)
      | _ => do
        let (fields, rest) ← parseFields fuel rest
        return ((fields.map Json.object).getD .unreadable, rest)
    | s => do
      let (n, rest) ← number? s
      return (.number n, rest)

/-- Read one or more items and the bracket that ends them. -/
def parseItems : Nat → List Char → Option (List Json × List Char)
  | 0, _ => none
  | fuel + 1, s => do
    let (item, rest) ← parseValue fuel s
    match skipBlanks rest with
    | ']' :: rest => return ([item], rest)
    | ',' :: rest =>
      let (items, rest) ← parseItems fuel rest
      return (item :: items, rest)
    | _ => none

/-- Read one or more fields and the brace that ends them; no fields if a name spells no text. -/
def parseFields : Nat → List Char → Option (Option (List (String × Json)) × List Char)
  | 0, _ => none
  | fuel + 1, s =>
    match skipBlanks s with
    | '"' :: rest => do
      let (name, rest) ← literal {} rest
      match skipBlanks rest with
      | ':' :: rest =>
        let (value, rest) ← parseValue fuel rest
        let field := name.text?.map (·, value)
        match skipBlanks rest with
        | '\x7d' :: rest => return (field.map ([·]), rest)
        | ',' :: rest =>
          let (fields, rest) ← parseFields fuel rest
          return (field.bind fun field => fields.map (field :: ·), rest)
        | _ => none
      | _ => none
    | _ => none

end

/-- Read a text that holds one value. -/
def parse? (s : String) : Option Json := do
  let (value, rest) ← parseValue (2 * s.toList.length + 2) s.toList
  if (skipBlanks rest).isEmpty then return value else none

end KernelProbe.Json
