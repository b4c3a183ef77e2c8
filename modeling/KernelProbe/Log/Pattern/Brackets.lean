import KernelProbe.Log.Pattern.Escape

/-!
# Sets in brackets

The reader of sets of characters: `readSet?` reads behind an opening bracket up to the one that
closes it. A closing bracket in front of everything else stands for itself, and so do hyphens there;
a hyphen between two characters makes a range. Sets may hold sets, and two equal marks join what
stands on either side of them by an operation.
-/

namespace KernelProbe.Pattern

/-- What may come next in a set. -/
inductive SetPlace where
  /-- The first item. -/
  | first
  /-- An item behind nothing but hyphens. -/
  | hyphens
  /-- Any other item. -/
  | inside
deriving DecidableEq, Repr

/-- A bracket that is still open, and what stands in front of it. -/
structure OpenSet where
  /-- Whether the set holds all other characters. -/
  negated : Bool
  /-- The left operand of the operation that it is part of. -/
  left : Option CharSet := none
  /-- The items in front of it, the last one first. -/
  items : List CharSet := []

/-- How far sets have been read. -/
structure SetDraft where
  /-- The innermost open bracket. -/
  current : OpenSet
  /-- The brackets around it, the innermost first. -/
  around : List OpenSet := []
  /-- The left operand of the operation whose right operand is being read. -/
  left : Option CharSet := none
  /-- The items that have been read, the last one first. -/
  items : List CharSet := []
  /-- What may come next. -/
  place : SetPlace := .first

namespace SetDraft

/-- One more item. -/
def add (d : SetDraft) (item : CharSet) : SetDraft :=
  { d with items := item :: d.items, place := .inside }

/-- What has been read within the innermost brackets. -/
def content (d : SetDraft) : CharSet := .joined d.left (.ofList d.items.reverse)

/-- Make what has been read the left operand of an operation. -/
def operate (d : SetDraft) : SetDraft :=
  { d with left := some d.content, items := [], place := .inside }

/-- Open a bracket. -/
def enter (d : SetDraft) (negated : Bool) : SetDraft :=
  { current := ⟨negated, d.left, d.items⟩, around := d.current :: d.around }

/-- Close the innermost bracket: there is one around it, or the whole set has been read. -/
def close (d : SetDraft) : SetDraft ⊕ CharSet :=
  let set := CharSet.bracketed d.current.negated d.content
  match d.around with
  | [] => .inr set
  | outer :: around =>
    .inl ⟨outer, around, d.current.left, set :: d.current.items, .inside⟩

end SetDraft

/-- The first character behind the blanks; a single comment mark is taken for a blank as well. -/
def peekSpace (marked : Bool) : List Char → Option Char
  | [] => none
  | c :: rest =>
    if Text.isBlank c then peekSpace marked rest
    else if c = '#' ∧ !marked then peekSpace true rest
    else some c

/-- Whether a hyphen in front of a text stands for itself. -/
def isLoneHyphen (freeSpacing : Bool) (text : List Char) : Bool :=
  let next := if freeSpacing then peekSpace false text else text.head?
  next == some ']' || next == some '-'

/-- Read a character or an escape. -/
def readSetPart (freeSpacing : Bool) (c : Char) (rest : List Char) :
    Option (Expression × List Char) :=
  if c = '\\' then readEscape freeSpacing rest else some (.character c false, rest)

/-- Read one item or a range. -/
def readSetItem (freeSpacing : Bool) (c : Char) (rest : List Char) :
    Option (CharSet × List Char) := do
  let (part, rest) ← readSetPart freeSpacing c rest
  match skip freeSpacing rest with
  | '-' :: behind =>
    if isLoneHyphen freeSpacing behind then return (← part.set?, '-' :: behind)
    match skip freeSpacing behind with
    | [] => none
    | c :: rest =>
      let (last, rest) ← readSetPart freeSpacing c rest
      let (first, last) := (← part.character?, ← last.character?)
      if first ≤ last then return (.range first last, rest) else none
  | rest => return (← part.set?, rest)

/-- The classes that have names. -/
def classNames : List String :=
  ["alnum", "alpha", "ascii", "blank", "cntrl", "digit", "graph", "lower", "print", "punct",
   "space", "upper", "word", "xdigit"]

/-- Read the rest of a named class, such as `[:alpha:]`, behind its bracket. -/
def readNamed? : List Char → Option (CharSet × List Char)
  | ':' :: rest =>
    let (negated, rest) := match rest with
      | '^' :: rest => (true, rest)
      | _ => (false, rest)
    match rest.dropWhile (· != ':') with
    | ':' :: ']' :: behind =>
      if classNames.contains (String.ofList (rest.takeWhile (· != ':'))) then
        some (.named negated, behind)
      else none
    | _ => none
  | _ => none

/-- Read whether all other characters are meant. -/
def readNegation (freeSpacing : Bool) (text : List Char) : Bool × List Char :=
  match skip freeSpacing text with
  | '^' :: rest => (true, rest)
  | rest => (false, rest)

/-- Read what comes next in a set; the whole set if that is the end of it. -/
def SetDraft.step (freeSpacing : Bool) (d : SetDraft) (c : Char) (rest : List Char) :
    Option ((SetDraft ⊕ CharSet) × List Char) :=
  if d.place = .first ∧ c = ']' then some (.inl (d.add (.character c)), rest)
  else if d.place ≠ .inside ∧ c = '-' then
    some (.inl { d.add (.character c) with place := .hyphens }, rest)
  else match c, rest with
    | '[', _ =>
      match readNamed? rest with
      | some (set, rest) => some (.inl (d.add set), rest)
      | none =>
        let (negated, rest) := readNegation freeSpacing rest
        some (.inl (d.enter negated), rest)
    | ']', _ => some (d.close, rest)
    | '&', '&' :: rest | '-', '-' :: rest | '~', '~' :: rest => some (.inl d.operate, rest)
    | _, _ => (readSetItem freeSpacing c rest).map fun (set, rest) => (.inl (d.add set), rest)

/-- Read on in a set of at most `fuel` items and marks. -/
def SetDraft.finish? (freeSpacing : Bool) :
    Nat → SetDraft → List Char → Option (CharSet × List Char)
  | 0, _, _ => none
  | fuel + 1, d, text =>
    match skip freeSpacing text with
    | [] => none
    | c :: rest =>
      match d.step freeSpacing c rest with
      | none => none
      | some (.inr set, rest) => some (set, rest)
      | some (.inl d, rest) => finish? freeSpacing fuel d rest

/-- Read a set behind its opening bracket. Every item and mark takes a character at least. -/
def readSet? (freeSpacing : Bool) (text : List Char) : Option (CharSet × List Char) :=
  let (negated, rest) := readNegation freeSpacing text
  SetDraft.finish? freeSpacing rest.length { current := { negated } } rest

end KernelProbe.Pattern
