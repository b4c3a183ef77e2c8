import KernelProbe.Log.Pattern.Syntax

/-!
# What can be matched

Expressions are matched by a machine that reads the bytes of well-formed text. It has no tables of
properties of characters and none of letter cases, so everything that needs one is refused while
characters are those of Unicode; while they are bytes, everything is refused that might hold of a
part of a character. `Expression.isSupported` tells what is left.
-/

namespace KernelProbe.Pattern

/-- The flags that decide what can be matched. -/
structure Mode where
  /-- Whether letters stand for both of their cases. -/
  caseInsensitive : Bool := false
  /-- Whether characters are those of Unicode, and no bytes. -/
  unicode : Bool := true
deriving DecidableEq, Repr

/-- The flags behind a change. -/
def Mode.changed (mode : Mode) (change : FlagChange) : Mode :=
  { caseInsensitive := change.apply .caseInsensitive mode.caseInsensitive
    unicode := change.apply .unicode mode.unicode }

/-- Whether a character is one byte. -/
def isOneByte (c : Char) : Bool := c.toNat < 128

namespace CharSet

/-- Whether single characters can be looked up: their other cases are not known in Unicode, and as
bytes they must be whole characters. -/
def allows (mode : Mode) (greatest : Char) : Bool :=
  if mode.unicode then !mode.caseInsensitive else isOneByte greatest

mutual

/-- Whether a set can be matched. As bytes, all other characters of a set include parts of longer
ones. -/
def isSupported (mode : Mode) : CharSet → Bool
  | empty => true
  | character c => allows mode c
  | range _ last => allows mode last
  | named negated => if mode.unicode then !mode.caseInsensitive else !negated
  | kind negated => !mode.unicode && !negated
  | property => false
  | bracketed negated set => (mode.unicode || !negated) && set.isSupported mode
  | union sets => areSupported mode sets
  | combined left right => left.isSupported mode && right.isSupported mode

/-- Whether sets can all be matched. -/
def areSupported (mode : Mode) : List CharSet → Bool
  | [] => true
  | set :: sets => set.isSupported mode && areSupported mode sets

end

end CharSet

namespace Expression

/-- How deeply an expression may be nested. -/
def nestingLimit : Nat := 250

mutual

/-- The flags behind an expression, if it can be matched. A group ends with the flags that it began
with; a branch of a choice begins with those at the end of the one before it. -/
def flagsAfter (mode : Mode) : Expression → Option Mode
  | empty | anchor => some mode
  | flags change => some (mode.changed change)
  | character c asByte =>
    let fits := if mode.unicode then !mode.caseInsensitive else !asByte || isOneByte c
    if fits then some mode else none
  | any => if mode.unicode then some mode else none
  | wordEdge => if mode.unicode then none else some mode
  | oneOf set => if set.isSupported mode then some mode else none
  | repeated part => part.flagsAfter mode
  | group change part => (part.flagsAfter (mode.changed change)).map fun _ => mode
  | sequence parts => flagsAfterAll mode parts
  | choice branches => flagsAfterAll mode branches

/-- The flags behind expressions that are read one after another, if all can be matched. -/
def flagsAfterAll (mode : Mode) : List Expression → Option Mode
  | [] => some mode
  | part :: parts =>
    match part.flagsAfter mode with
    | none => none
    | some mode => flagsAfterAll mode parts

end

/-- Whether an expression can be matched. -/
def isSupported (e : Expression) : Bool := e.nesting ≤ nestingLimit && (e.flagsAfter {}).isSome

end Expression

end KernelProbe.Pattern
