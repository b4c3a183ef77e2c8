import KernelProbe.Log.Pattern.Brackets

/-!
# Reading regular expressions

`Expression.ofText?` reads a regular expression: branches with bars between them, each made of parts
one after another, some of them in parentheses or repeated. The text holds no closing brace, so no
counted repetition ever comes to its end.
-/

namespace KernelProbe.Pattern

/-- A group that is still open, and what stands in front of it. -/
structure OpenGroup where
  /-- The flags that it changes. -/
  change : FlagChange := {}
  /-- Whether spacing is free around it. -/
  freeSpacing : Bool
  /-- The parts in front of it, the last one first. -/
  parts : List Expression
  /-- The branches in front of it, the last one first. -/
  branches : List Expression

/-- How far an expression has been read. -/
structure Draft where
  /-- Whether spacing is free. -/
  freeSpacing : Bool := false
  /-- The names of groups. -/
  names : List (List Char) := []
  /-- The groups that are still open, the innermost first. -/
  groups : List OpenGroup := []
  /-- The parts of the branch that is being read, the last one first. -/
  parts : List Expression := []
  /-- The branches of the group that is being read, the last one first. -/
  branches : List Expression := []

namespace Draft

/-- One more part. -/
def add (d : Draft) (part : Expression) : Draft := { d with parts := part :: d.parts }

/-- Begin another branch. -/
def branch (d : Draft) : Draft :=
  { d with parts := [], branches := .ofParts d.parts.reverse :: d.branches }

/-- What has been read within the innermost parentheses. -/
def content (d : Draft) : Expression := .ofBranches d.branch.branches.reverse

/-- Open a group. -/
def enter (d : Draft) (change : FlagChange) : Draft :=
  { d with
    groups := ⟨change, d.freeSpacing, d.parts, d.branches⟩ :: d.groups
    freeSpacing := change.apply .freeSpacing d.freeSpacing
    parts := []
    branches := [] }

/-- Close the innermost group. -/
def close (d : Draft) : Option Draft :=
  match d.groups with
  | [] => none
  | g :: groups =>
    some { d with
      groups, freeSpacing := g.freeSpacing, branches := g.branches
      parts := .group g.change d.content :: g.parts }

/-- Repeat the last part. -/
def repeatLast (d : Draft) : Option Draft :=
  match d.parts with
  | [] | .flags _ :: _ => none
  | part :: parts => some { d with parts := .repeated part :: parts }

/-- Change flags up to the end of the group. -/
def changeFlags (d : Draft) (change : FlagChange) : Draft :=
  { d.add (.flags change) with freeSpacing := change.apply .freeSpacing d.freeSpacing }

end Draft

/-- Read flags up to a colon or a closing parenthesis. A hyphen negates the flags behind it; it
stands at most once, and not at the end. -/
def readFlags (change : FlagChange) (negated dangling : Bool) :
    List Char → Option (FlagChange × Char × List Char)
  | [] => none
  | c :: rest =>
    if c = ':' ∨ c = ')' then if dangling then none else some (change, c, rest)
    else if c = '-' then if negated then none else readFlags change true true rest
    else match Flag.ofLetter? c with
      | none => none
      | some flag =>
        if change.mentions flag then none
        else readFlags (change.add negated flag) negated false rest

/-- Whether a text is the name of a group. -/
def isGroupName : List Char → Bool
  | [] => false
  | c :: rest =>
    (c == '_' || Text.isLetter c)
      && rest.all fun c => ['_', '.', '[', ']'].contains c || Text.isAlphanumeric c

namespace Draft

/-- Read the name of a group, which no other group has. -/
def readName (d : Draft) (text : List Char) : Option (Draft × List Char) :=
  let name := text.takeWhile (· != '>')
  match text.dropWhile (· != '>') with
  | [] => none
  | _ :: rest =>
    if isGroupName name && !d.names.contains name then
      some ({ d.enter {} with names := name :: d.names }, rest)
    else none

/-- Read what stands behind an opening parenthesis. Nothing is known of what lies around a place, so
looking ahead or back is refused. -/
def readGroup (d : Draft) (text : List Char) : Option (Draft × List Char) :=
  match skip d.freeSpacing text with
  | '?' :: '=' :: _ | '?' :: '!' :: _ | '?' :: '<' :: '=' :: _ | '?' :: '<' :: '!' :: _ => none
  | '?' :: 'P' :: '<' :: rest | '?' :: '<' :: rest => d.readName rest
  | '?' :: rest =>
    match readFlags {} false false rest with
    | none => none
    | some (change, ':', rest) => some (d.enter change, rest)
    | some (change, _, rest) => if change = {} then none else some (d.changeFlags change, rest)
  | rest => some (d.enter {}, rest)

/-- Read what comes next. A question mark behind a repetition makes it lazy. -/
def step (d : Draft) (c : Char) (rest : List Char) : Option (Draft × List Char) :=
  match c with
  | '(' => d.readGroup rest
  | ')' => d.close.map (·, rest)
  | '|' => some (d.branch, rest)
  | '[' => (readSet? d.freeSpacing rest).map fun (set, rest) => (d.add (.oneOf set), rest)
  | '?' | '*' | '+' => d.repeatLast.map (·, if rest.head? = some '?' then rest.tail else rest)
  | '\x7b' => none
  | '\\' => (readEscape d.freeSpacing rest).map fun (part, rest) => (d.add part, rest)
  | '.' => some (d.add .any, rest)
  | '^' | '$' => some (d.add .anchor, rest)
  | _ => some (d.add (.character c false), rest)

/-- Read on in an expression of at most `fuel` parts and marks. -/
def finish? : Nat → Draft → List Char → Option Expression
  | fuel, d, text =>
    match skip d.freeSpacing text with
    | [] => if d.groups.isEmpty then some d.content else none
    | c :: rest =>
      match fuel, d.step c rest with
      | fuel + 1, some (d, rest) => finish? fuel d rest
      | _, _ => none

end Draft

/-- The expression that a text spells. Every part and mark of it takes a character at least. -/
def Expression.ofText? (text : List Char) : Option Expression :=
  Draft.finish? text.length {} text

end KernelProbe.Pattern
