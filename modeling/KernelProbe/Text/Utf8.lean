/-!
# UTF-8 that may be ill-formed

`encode` writes text as bytes. `decodeUnit` reads one unit from the front of a byte string: a
character, or a maximal ill-formed part. `units` reads all of them; `decode` accepts a byte string
only if every unit is a character, and `decodeLossy` writes U+FFFD for each ill-formed part.
`field` reads a fixed-size field that a zero byte ends.
-/

namespace KernelProbe.Text

/-- The UTF-8 bytes of a text. -/
def encode (s : String) : List UInt8 := s.toList.flatMap String.utf8EncodeChar

/-- What a lead byte announces: its own payload bits, the bounds of the byte after it, and how many
bytes follow. -/
structure Lead where
  /-- The payload bits of the lead byte itself. -/
  payload : Nat
  /-- Least value of the first continuation byte. -/
  low : UInt8
  /-- Greatest value of the first continuation byte. -/
  high : UInt8
  /-- Number of continuation bytes. -/
  more : Nat

/-- The lead bytes of well-formed sequences of two to four bytes; the bounds shut out overlong
forms, surrogates and values above U+10FFFF. -/
def Lead.of? (b : UInt8) : Option Lead :=
  let n := b.toNat
  if 0xC2 ≤ n ∧ n ≤ 0xDF then some ⟨n - 0xC0, 0x80, 0xBF, 1⟩
  else if n = 0xE0 then some ⟨0, 0xA0, 0xBF, 2⟩
  else if n = 0xED then some ⟨13, 0x80, 0x9F, 2⟩
  else if 0xE1 ≤ n ∧ n ≤ 0xEF then some ⟨n - 0xE0, 0x80, 0xBF, 2⟩
  else if n = 0xF0 then some ⟨0, 0x90, 0xBF, 3⟩
  else if 0xF1 ≤ n ∧ n ≤ 0xF3 then some ⟨n - 0xF0, 0x80, 0xBF, 3⟩
  else if n = 0xF4 then some ⟨4, 0x80, 0x8F, 3⟩
  else none

/-- Read `more` continuation bytes after the value `acc`; at the first byte out of bounds the bytes
read so far are one ill-formed part and that byte is left. -/
def continuation (acc : Nat) (low high : UInt8) :
    Nat → List UInt8 → Option Char × List UInt8
  | 0, rest => (some (Char.ofNat acc), rest)
  | _ + 1, [] => (none, [])
  | more + 1, b :: rest =>
    if low ≤ b ∧ b ≤ high then
      continuation (acc * 64 + (b.toNat - 0x80)) 0x80 0xBF more rest
    else (none, b :: rest)

/-- The unit that starts with the byte `b`, and what follows it. -/
def decodeUnit (b : UInt8) (rest : List UInt8) : Option Char × List UInt8 :=
  if b < 0x80 then (some (Char.ofNat b.toNat), rest)
  else match Lead.of? b with
    | none => (none, rest)
    | some lead => continuation lead.payload lead.low lead.high lead.more rest

theorem length_continuation_le (acc : Nat) (low high : UInt8) (more : Nat) (rest : List UInt8) :
    (continuation acc low high more rest).2.length ≤ rest.length := by
  fun_induction continuation acc low high more rest <;> simp_all
  omega

theorem length_decodeUnit_le (b : UInt8) (rest : List UInt8) :
    (decodeUnit b rest).2.length ≤ rest.length := by
  unfold decodeUnit
  split
  · simp
  · split
    · simp
    · exact length_continuation_le ..

/-- The units of a byte string in order: a character each, or `none` for an ill-formed part. -/
def units : List UInt8 → List (Option Char)
  | [] => []
  | b :: rest => (decodeUnit b rest).1 :: units (decodeUnit b rest).2
termination_by bytes => bytes.length
decreasing_by
  have := length_decodeUnit_le b rest
  simp only [List.length_cons]
  omega

/-- The text that a well-formed byte string spells. -/
def decode (bytes : List UInt8) : Option String :=
  ((units bytes).mapM id).map String.ofList

/-- The text of a byte string, with U+FFFD in place of each ill-formed part. -/
def decodeLossy (bytes : List UInt8) : String :=
  String.ofList ((units bytes).map (·.getD '\uFFFD'))

/-- The text of a fixed-size field: what stands before the first zero byte. -/
def field (bytes : List UInt8) : String := decodeLossy (bytes.takeWhile (· != 0))

end KernelProbe.Text
