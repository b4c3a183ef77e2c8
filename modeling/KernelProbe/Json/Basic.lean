/-!
# JSON values

A `Json` value keeps the fields of an object in order, repeated names included. A number is an
integer if it is written as one and fits a word of 64 bits, signed or unsigned; `-0` is not, because
no integer has that form. A string literal
with half a surrogate pair is no text, but it can still be skipped, and so can an object with such
a name; both read as a value of its own.
-/

namespace KernelProbe

/-- A number as it is written. -/
inductive JsonNumber where
  /-- A number without fraction, exponent or the form `-0` that fits a word. -/
  | integer (i : Int)
  /-- Any other number: a sign, the leading digits without the point as far as they fit a word, and
  the power of ten that they are multiplied by. -/
  | real (negative : Bool) (significand : Nat) (exponent : Int)
deriving DecidableEq, Repr

/-- A JSON value. -/
inductive Json where
  /-- The value `null`. -/
  | null
  /-- A truth value. -/
  | bool (b : Bool)
  /-- A number. -/
  | number (n : JsonNumber)
  /-- A text. -/
  | string (s : String)
  /-- A string literal that spells no text, or an object with a name that spells none. -/
  | unreadable
  /-- A list of values. -/
  | array (items : List Json)
  /-- Named values in order. -/
  | object (fields : List (String × Json))
deriving Repr

namespace Json

/-- An integer as a value. -/
def int (i : Int) : Json := .number (.integer i)

/-- A natural number as a value. -/
def nat (n : Nat) : Json := .int n

/-- A value or `null`. -/
def ofOption {α : Type} (f : α → Json) : Option α → Json
  | none => .null
  | some a => f a

/-- Whether the value is `null`. -/
def isNull : Json → Bool
  | null => true
  | _ => false

/-- The first field of a name in an object; `null` counts as missing. -/
def field? (name : String) : Json → Option Json
  | object fields => match fields.lookup name with
    | some .null => none
    | found => found
  | _ => none

/-- The text, if the value is one. -/
def text? : Json → Option String
  | string s => some s
  | _ => none

/-- The integer, if the value is one. -/
def int? : Json → Option Int
  | number (.integer i) => some i
  | _ => none

/-- The truth value, if the value is one. -/
def bool? : Json → Option Bool
  | bool b => some b
  | _ => none

/-- The items, if the value is an array. -/
def items? : Json → Option (List Json)
  | array items => some items
  | _ => none

/-- The fields, if the value is an object. -/
def fields? : Json → Option (List (String × Json))
  | object fields => some fields
  | _ => none

end Json

end KernelProbe
