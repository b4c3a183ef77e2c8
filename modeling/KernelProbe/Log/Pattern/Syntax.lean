/-!
# Regular expressions

What a regular expression is made of, as far as it tells whether the expression can be matched: an
`Expression` is built from characters, sets of characters and places between characters, a
`CharSet` from characters, ranges and other sets. How often a part is repeated, and which operation
joins two sets, is not kept.

Both know how deeply they are nested: everything that holds other parts is one level deeper than the
deepest of them.
-/

namespace KernelProbe.Pattern

/-! ## Flags -/

/-- A flag of a regular expression. -/
inductive Flag where
  /-- Letters stand for both of their cases. -/
  | caseInsensitive
  /-- Anchors hold at every line. -/
  | multiLine
  /-- The dot stands for line breaks too. -/
  | dotAll
  /-- Repetitions are lazy unless they say otherwise. -/
  | swapGreed
  /-- Characters are those of Unicode, and no bytes. -/
  | unicode
  /-- A carriage return belongs to a line break. -/
  | carriageReturn
  /-- Blanks and comments mean nothing. -/
  | freeSpacing
deriving DecidableEq, Repr

/-- The flag of a letter. -/
def Flag.ofLetter? : Char → Option Flag
  | 'i' => some caseInsensitive
  | 'm' => some multiLine
  | 's' => some dotAll
  | 'U' => some swapGreed
  | 'u' => some unicode
  | 'R' => some carriageReturn
  | 'x' => some freeSpacing
  | _ => none

/-- Flags to set and flags to clear. -/
structure FlagChange where
  /-- The flags to set. -/
  set : List Flag := []
  /-- The flags to clear. -/
  cleared : List Flag := []
deriving DecidableEq, Repr

namespace FlagChange

/-- Whether a flag is mentioned. -/
def mentions (change : FlagChange) (flag : Flag) : Bool :=
  change.set.contains flag || change.cleared.contains flag

/-- Mention one more flag. -/
def add (change : FlagChange) (negated : Bool) (flag : Flag) : FlagChange :=
  if negated then { change with cleared := change.cleared ++ [flag] }
  else { change with set := change.set ++ [flag] }

/-- What becomes of a flag. -/
def apply (change : FlagChange) (flag : Flag) (before : Bool) : Bool :=
  if change.set.contains flag then true
  else if change.cleared.contains flag then false
  else before

end FlagChange

/-! ## Sets of characters -/

/-- A set of characters. -/
inductive CharSet where
  /-- No character. -/
  | empty
  /-- One character. -/
  | character (c : Char)
  /-- The characters from one to another. -/
  | range (first last : Char)
  /-- A class of the first 128 characters that has a name, or all other characters. -/
  | named (negated : Bool)
  /-- The digits, the blanks or the characters of words, or all other characters. -/
  | kind (negated : Bool)
  /-- The characters with a property. -/
  | property
  /-- A set in brackets, or all other characters. -/
  | bracketed (negated : Bool) (set : CharSet)
  /-- The characters of all sets. -/
  | union (sets : List CharSet)
  /-- The characters that an operation picks from two sets. -/
  | combined (left right : CharSet)
deriving Repr

namespace CharSet

/-- The union of sets. -/
def ofList : List CharSet → CharSet
  | [] => empty
  | [set] => set
  | sets => union sets

/-- A set joined to the left operand of an operation, if there is one. -/
def joined (left : Option CharSet) (right : CharSet) : CharSet :=
  match left with
  | none => right
  | some left => combined left right

mutual

/-- How deeply a set is nested. -/
def nesting : CharSet → Nat
  | bracketed _ set => set.nesting + 1
  | union sets => deepest sets + 1
  | combined left right => max left.nesting right.nesting + 1
  | _ => 0

/-- How deeply the deepest of some sets is nested. -/
def deepest : List CharSet → Nat
  | [] => 0
  | set :: sets => max set.nesting (deepest sets)

end

end CharSet

/-! ## Expressions -/

/-- A regular expression. -/
inductive Expression where
  /-- Nothing. -/
  | empty
  /-- A change of flags up to the end of the group. -/
  | flags (change : FlagChange)
  /-- One character, or one byte that is written with two digits. -/
  | character (c : Char) (asByte : Bool)
  /-- Any character. -/
  | any
  /-- A character of a set. -/
  | oneOf (set : CharSet)
  /-- An end of the text or of a line. -/
  | anchor
  /-- An edge of a word. -/
  | wordEdge
  /-- A part several times. -/
  | repeated (part : Expression)
  /-- A part in parentheses, with flags of its own. -/
  | group (change : FlagChange) (part : Expression)
  /-- Parts one after another. -/
  | sequence (parts : List Expression)
  /-- One of several branches. -/
  | choice (branches : List Expression)
deriving Repr

namespace Expression

/-- Parts one after another, one of which is no sequence. -/
def ofParts : List Expression → Expression
  | [] => empty
  | [part] => part
  | parts => sequence parts

/-- One of several branches, one of which is no choice. -/
def ofBranches : List Expression → Expression
  | [branch] => branch
  | branches => choice branches

/-- The expression as a set of characters, if it may stand in brackets. -/
def set? : Expression → Option CharSet
  | character c _ => some (.character c)
  | oneOf set => some set
  | _ => none

/-- The expression as a character, if it may be the end of a range. -/
def character? : Expression → Option Char
  | character c _ => some c
  | _ => none

mutual

/-- How deeply an expression is nested. -/
def nesting : Expression → Nat
  | oneOf set => set.nesting
  | repeated part => part.nesting + 1
  | group _ part => part.nesting + 1
  | sequence parts => deepest parts + 1
  | choice branches => deepest branches + 1
  | _ => 0

/-- How deeply the deepest of some expressions is nested. -/
def deepest : List Expression → Nat
  | [] => 0
  | part :: parts => max part.nesting (deepest parts)

end

end Expression

end KernelProbe.Pattern
