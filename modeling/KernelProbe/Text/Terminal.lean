import KernelProbe.Text.Utf8

/-!
# Text for terminals

What a terminal is sent holds characters to show and, between them, control sequences that change
how or where they are shown. `Terminal.plain` keeps what is shown: it leaves out the sequences and
every other control character but tabs, line breaks, form feeds and carriage returns.

A sequence begins with an escape character; what follows tells its kind and so where it ends. A
cancel or substitute character breaks off every sequence, an escape character begins a new one.
-/

namespace KernelProbe.Text.Terminal

/-- What the characters that come next are part of. -/
inductive Mode where
  /-- Text to show. -/
  | ground
  /-- A sequence of which only the escape character has come. -/
  | escape
  /-- A short sequence, behind its first mark. -/
  | marks
  /-- A command with its parameters. -/
  | command
  /-- The first character of the head of a string for the device. -/
  | deviceHead
  /-- The parameters in the head of a string for the device. -/
  | deviceParameters
  /-- The marks behind them. -/
  | deviceMarks
  /-- A string that the terminal does not show. -/
  | string
  /-- A string for the window, such as its title. -/
  | title
deriving DecidableEq, Repr

namespace Mode

/-- Whether a character is a mark that may stand in front of the end of a sequence. -/
def isMark (c : Char) : Bool := ' ' ≤ c && c ≤ '/'

/-- Whether a character ends a string: the byte `9c`, the string terminator, is in its encoding. -/
def endsString (c : Char) : Bool := (String.utf8EncodeChar c).contains 0x9c

/-- What follows the escape character and another one. -/
def afterEscape (c : Char) : Mode :=
  if isMark c then marks
  else match c with
    | '[' => command
    | ']' => title
    | 'P' => deviceHead
    | 'X' | '^' | '_' => string
    | _ => if '0' ≤ c ∧ c ≤ '~' then ground else escape

/-- What the characters behind one are part of. -/
def next (m : Mode) (c : Char) : Mode :=
  if c = '\x1b' then escape
  else if c = '\x18' ∨ c = '\x1a' then ground
  else match m with
    | ground => ground
    | escape => afterEscape c
    | marks => if '0' ≤ c ∧ c ≤ '~' then ground else marks
    | command => if '@' ≤ c ∧ c ≤ '~' then ground else command
    | deviceHead =>
      if isMark c then deviceMarks
      else if '0' ≤ c ∧ c ≤ '?' then deviceParameters
      else if '@' ≤ c ∧ c ≤ '~' then string
      else deviceHead
    | deviceParameters =>
      if isMark c then deviceMarks
      else if '<' ≤ c ∧ c ≤ '~' then string
      else deviceParameters
    | deviceMarks => if '0' ≤ c ∧ c ≤ '~' then string else deviceMarks
    | string => if endsString c then ground else string
    | title => if c = '\x07' then ground else title

/-- Whether a character is shown. Line breaks and the like are carried out, and so shown, also in
the midst of a sequence. -/
def shows (m : Mode) (c : Char) : Bool :=
  let moves := c == '\t' || c == '\n' || c == '\x0c' || c == '\r'
  match m with
  | ground => moves || (' ' ≤ c && c != '\x7f')
  | escape | marks | command => moves
  | _ => false

end Mode

/-- The characters that are shown. While they follow one another, they are all taken as text, even
in the midst of a sequence; it goes on behind the next control character. -/
def shown (m : Mode) (showing : Bool) : List Char → List Char
  | [] => []
  | c :: rest =>
    if showing && Mode.ground.shows c then
      c :: shown (if c.toNat < 128 then m else .ground) true rest
    else if m.shows c then c :: shown (m.next c) true rest
    else shown (m.next c) false rest

/-- A text without control sequences. -/
def plain (text : String) : String := String.ofList (shown .ground false text.toList)

end KernelProbe.Text.Terminal
