import KernelProbe.Text.Utf8

/-!
# The echo program

What `echo` writes for its arguments: the arguments with blanks between them, and a line break. In
front of them flags may ask it to leave out the line break or to read escapes, such as `\n` for a
line break; an argument that is not made of such flags alone is one to be written. `Echo.output` is
the whole of it.
-/

namespace KernelProbe.Host.Echo

/-! ## Flags -/

/-- What the flags ask for. -/
structure Flags where
  /-- Whether a line break ends the output. -/
  lineBreak : Bool := true
  /-- Whether a backslash begins an escape. -/
  escapes : Bool := false
deriving DecidableEq, Repr

/-- Follow one flag. -/
def Flags.follow (flags : Flags) (flag : Char) : Flags :=
  if flag = 'n' then { flags with lineBreak := false }
  else { flags with escapes := flag == 'e' }

/-- Follow the flags in front of the arguments, and give the arguments that are left. -/
def Flags.read (flags : Flags) : List String → Flags × List String
  | [] => (flags, [])
  | arg :: rest =>
    match arg.toList with
    | '-' :: c :: letters =>
      if (c :: letters).all (['n', 'e', 'E'].contains ·) then
        read ((c :: letters).foldl follow flags) rest
      else (flags, arg :: rest)
    | _ => (flags, arg :: rest)

/-! ## Escapes -/

/-- How far an escape has been read. -/
inductive Escape where
  /-- There is none. -/
  | none
  /-- A backslash has been read. -/
  | begun
  /-- A backslash and an `x` have been read. -/
  | hex
  /-- At most `more` digits of a byte are still to come. -/
  | byte (radix : Nat) (value : UInt8) (more : Nat)
deriving DecidableEq, Repr

/-- The value of a digit of a radix of at most sixteen. -/
def digit? (radix : Nat) (c : Char) : Option UInt8 :=
  let value :=
    if '0' ≤ c ∧ c ≤ '9' then c.toNat - '0'.toNat
    else if 'a' ≤ c ∧ c ≤ 'f' then c.toNat - 'a'.toNat + 10
    else if 'A' ≤ c ∧ c ≤ 'F' then c.toNat - 'A'.toNat + 10
    else radix
  if value < radix then some (UInt8.ofNat value) else Option.none

/-- The byte of an escape of one letter. -/
def letter? (c : Char) : Option UInt8 :=
  [('a', 7), ('b', 8), ('e', 27), ('f', 12), ('n', 10), ('r', 13), ('t', 9), ('v', 11),
   ('\\', 92)].lookup c

/-- What is written for an escape that is broken off. -/
def Escape.rest : Escape → List UInt8
  | none => []
  | begun => [92]
  | hex => [92, 120]
  | byte _ value _ => [value]

/-- Read a character that belongs to no escape, or begins one. -/
def Escape.start (c : Char) : List UInt8 × Escape :=
  if c = '\\' then ([], begun) else (String.utf8EncodeChar c, none)

/-- Read a character behind a backslash; nothing at all is written from the escape `c` on. -/
def Escape.name (c : Char) : Option (List UInt8 × Escape) :=
  match letter? c, digit? 8 c with
  | some b, _ => some ([b], none)
  | _, some d => some ([], byte 8 d (if d = 0 then 3 else 2))
  | _, _ =>
    if c = 'c' then Option.none
    else if c = 'x' then some ([], hex)
    else some (92 :: String.utf8EncodeChar c, none)

/-- Read a character: what is written, and how far an escape has been read then. -/
def Escape.step (c : Char) : Escape → Option (List UInt8 × Escape)
  | none => some (start c)
  | begun => name c
  | hex =>
    match digit? 16 c with
    | some d => some ([], byte 16 d 1)
    | _ => let (bytes, escape) := start c; some (hex.rest ++ bytes, escape)
  | byte radix value more =>
    match digit? radix c, more with
    | some d, more + 1 => some ([], byte radix (value * UInt8.ofNat radix + d) more)
    | _, _ => let (bytes, escape) := start c; some (value :: bytes, escape)

/-- Write a text with escapes, and tell whether more may follow it. -/
def unescape (escape : Escape) : List Char → List UInt8 × Bool
  | [] => (escape.rest, true)
  | c :: rest =>
    match escape.step c with
    | some (bytes, escape) =>
      let (more, goesOn) := unescape escape rest
      (bytes ++ more, goesOn)
    | _ => ([], false)

/-! ## The output -/

/-- Write an argument, and tell whether more may follow it. -/
def argument (flags : Flags) (arg : String) : List UInt8 × Bool :=
  if flags.escapes then unescape .none arg.toList else (Text.encode arg, true)

/-- Write arguments with blanks between them, and what the flags say behind them. -/
def arguments (flags : Flags) : List String → List UInt8
  | [] => if flags.lineBreak then [10] else []
  | arg :: rest =>
    match argument flags arg with
    | (bytes, true) => bytes ++ (if rest.isEmpty then [] else [32]) ++ arguments flags rest
    | (bytes, false) => bytes

/-- What `echo` writes for its arguments. -/
def output (args : List String) : List UInt8 :=
  let (flags, args) := Flags.read {} args
  arguments flags args

end KernelProbe.Host.Echo
