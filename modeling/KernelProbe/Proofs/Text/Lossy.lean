import Mathlib.Data.List.Infix
import Mathlib.Data.List.TakeWhile
import Mathlib.Tactic.SplitIfs
import KernelProbe.Proofs.Text.Utf8

/-!
# Bytes that may be no text

`Cut bytes pieces` cuts a byte string into stretches of characters, each as long as can be, and
ill-formed parts. An ill-formed part (`Broken`) is where no character starts: the longest start of a
character there is, or a single byte if none starts with it. Every byte string has a cut
(`exists_cut`), and what is read off it is what the pieces of any cut say (`Cut.decodeLossy_eq`).

A field is what stands before its first zero byte, with its stretches kept and one U+FFFD for each
ill-formed part (`field_text`).
-/

namespace KernelProbe.Text

/-! ## Well-formed sequences -/

/-- So many continuation bytes, the first of which lies between the bounds. -/
inductive Tail : UInt8 → UInt8 → Nat → List UInt8 → Prop
  | nil {low high : UInt8} : Tail low high 0 []
  | cons {low high b : UInt8} {more : Nat} {xs : List UInt8} (hlow : low ≤ b) (hhigh : b ≤ high)
      (tail : Tail 0x80 0xBF more xs) : Tail low high (more + 1) (b :: xs)

/-- The value that the payload bits of continuation bytes make up with those before them. -/
def payload (acc : Nat) (xs : List UInt8) : Nat :=
  xs.foldl (fun acc b => acc * 64 + (b.toNat - 0x80)) acc

theorem payload_cons (acc : Nat) (b : UInt8) (xs : List UInt8) :
    payload acc (b :: xs) = payload (acc * 64 + (b.toNat - 0x80)) xs :=
  List.foldl_cons ..

variable {b x y z low high : UInt8} {c : Char} {lead : Lead} {acc more : Nat}
  {xs rest left bytes : List UInt8}

theorem tail_zero : Tail low high 0 xs ↔ xs = [] := by
  constructor
  · rintro ⟨⟩
    rfl
  · rintro rfl
    exact .nil

theorem tail_succ : Tail low high (more + 1) xs ↔ ∃ b ys, xs = b :: ys ∧
    (low.toNat ≤ b.toNat ∧ b.toNat ≤ high.toNat) ∧ Tail 0x80 0xBF more ys := by
  constructor
  · rintro (- | ⟨hlow, hhigh, tail⟩)
    exact ⟨_, _, rfl, ⟨UInt8.le_iff_toNat_le.mp hlow, UInt8.le_iff_toNat_le.mp hhigh⟩, tail⟩
  · rintro ⟨b, ys, rfl, ⟨hlow, hhigh⟩, tail⟩
    exact .cons (UInt8.le_iff_toNat_le.mpr hlow) (UInt8.le_iff_toNat_le.mpr hhigh) tail

theorem exists_tail (hle : low ≤ high) (more : Nat) : ∃ xs, Tail low high more xs := by
  induction more generalizing low high with
  | zero => exact ⟨[], .nil⟩
  | succ more ih =>
    obtain ⟨xs, hxs⟩ := @ih 0x80 0xBF (by decide)
    exact ⟨low :: xs, .cons (UInt8.le_refl low) hle hxs⟩

/-- The lead bytes by the number of bytes that follow them. -/
theorem Lead.of?_eq (b : UInt8) :
    Lead.of? b =
      if 0xC2 ≤ b.toNat ∧ b.toNat ≤ 0xDF then some ⟨b.toNat - 0xC0, 0x80, 0xBF, 1⟩
      else if 0xE0 ≤ b.toNat ∧ b.toNat ≤ 0xEF then
        some ⟨b.toNat - 0xE0, if b.toNat = 0xE0 then 0xA0 else 0x80,
          if b.toNat = 0xED then 0x9F else 0xBF, 2⟩
      else if 0xF0 ≤ b.toNat ∧ b.toNat ≤ 0xF4 then
        some ⟨b.toNat - 0xF0, if b.toNat = 0xF0 then 0x90 else 0x80,
          if b.toNat = 0xF4 then 0x8F else 0xBF, 3⟩
      else none := by
  unfold Lead.of?
  dsimp only
  split_ifs <;> first | omega | simp_all

theorem low_le_high (h : Lead.of? b = some lead) : lead.low ≤ lead.high := by
  rw [UInt8.le_iff_toNat_le]
  unfold Lead.of? at h
  dsimp only at h
  split_ifs at h <;> rw [← Option.some.inj h] <;> exact Nat.le_of_ble_eq_true rfl

theorem toNat_ofNat {n : Nat} (h : n.isValidChar) : (Char.ofNat n).toNat = n := by
  rw [Char.ofNat, dif_pos h]
  rfl

/-- A character of one byte. -/
theorem utf8EncodeChar_one (hb : b < 0x80) : String.utf8EncodeChar (Char.ofNat b.toNat) = [b] := by
  simp only [UInt8.lt_iff_toNat_lt, UInt8.reduceToNat] at hb
  have hval : (Char.ofNat b.toNat).val.toNat = b.toNat := toNat_ofNat (.inl (by omega))
  unfold String.utf8EncodeChar
  dsimp only
  rw [hval, if_pos (by omega), UInt8.ofNat_toNat]

/-- A character of two bytes. -/
theorem utf8EncodeChar_two (hb : 0xC2 ≤ b.toNat ∧ b.toNat ≤ 0xDF)
    (hx : 0x80 ≤ x.toNat ∧ x.toNat ≤ 0xBF)
    (hc : c.toNat = (b.toNat - 0xC0) * 64 + (x.toNat - 0x80)) :
    String.utf8EncodeChar c = [b, x] := by
  have hval : c.val.toNat = (b.toNat - 0xC0) * 64 + (x.toNat - 0x80) := hc
  unfold String.utf8EncodeChar
  dsimp only
  rw [if_neg (by omega), if_pos (by omega)]
  simp only [List.cons.injEq, and_true, ← UInt8.toNat_inj, UInt8.toNat_ofNat']
  omega

/-- A character of three bytes: none of those that two bytes would do for. -/
theorem utf8EncodeChar_three (hb : 0xE0 ≤ b.toNat ∧ b.toNat ≤ 0xEF)
    (hx : 0x80 ≤ x.toNat ∧ x.toNat ≤ 0xBF) (hy : 0x80 ≤ y.toNat ∧ y.toNat ≤ 0xBF)
    (hshort : b.toNat = 0xE0 → 0xA0 ≤ x.toNat)
    (hc : c.toNat = ((b.toNat - 0xE0) * 64 + (x.toNat - 0x80)) * 64 + (y.toNat - 0x80)) :
    String.utf8EncodeChar c = [b, x, y] := by
  have hval : c.val.toNat =
      ((b.toNat - 0xE0) * 64 + (x.toNat - 0x80)) * 64 + (y.toNat - 0x80) := hc
  unfold String.utf8EncodeChar
  dsimp only
  rw [if_neg (by omega), if_neg (by omega), if_pos (by omega)]
  simp only [List.cons.injEq, and_true, ← UInt8.toNat_inj, UInt8.toNat_ofNat']
  omega

/-- A character of four bytes: none of those that three bytes would do for. -/
theorem utf8EncodeChar_four (hb : 0xF0 ≤ b.toNat ∧ b.toNat ≤ 0xF4)
    (hx : 0x80 ≤ x.toNat ∧ x.toNat ≤ 0xBF) (hy : 0x80 ≤ y.toNat ∧ y.toNat ≤ 0xBF)
    (hz : 0x80 ≤ z.toNat ∧ z.toNat ≤ 0xBF) (hshort : b.toNat = 0xF0 → 0x90 ≤ x.toNat)
    (hc : c.toNat = (((b.toNat - 0xF0) * 64 + (x.toNat - 0x80)) * 64 + (y.toNat - 0x80)) * 64 +
      (z.toNat - 0x80)) :
    String.utf8EncodeChar c = [b, x, y, z] := by
  have hval : c.val.toNat = (((b.toNat - 0xF0) * 64 + (x.toNat - 0x80)) * 64 +
    (y.toNat - 0x80)) * 64 + (z.toNat - 0x80) := hc
  unfold String.utf8EncodeChar
  dsimp only
  rw [if_neg (by omega), if_neg (by omega), if_neg (by omega)]
  simp only [List.cons.injEq, and_true, ← UInt8.toNat_inj, UInt8.toNat_ofNat']
  omega

/-- A lead byte and the continuation bytes that it announces are a character. -/
theorem utf8EncodeChar_tail (hlead : Lead.of? b = some lead)
    (htail : Tail lead.low lead.high lead.more xs) :
    String.utf8EncodeChar (Char.ofNat (payload lead.payload xs)) = b :: xs := by
  rw [Lead.of?_eq] at hlead
  split at hlead
  next hb =>
    obtain rfl := Option.some.inj hlead
    simp only [tail_succ, tail_zero, UInt8.reduceToNat] at htail
    obtain ⟨x, _, rfl, hx, rfl⟩ := htail
    refine utf8EncodeChar_two hb hx (toNat_ofNat ?_)
    simp only [payload, List.foldl_cons, List.foldl_nil, Nat.isValidChar]
    omega
  split at hlead
  next hb =>
    obtain rfl := Option.some.inj hlead
    simp only [tail_succ, tail_zero, apply_ite UInt8.toNat, UInt8.reduceToNat] at htail
    obtain ⟨x, _, rfl, hx, y, _, rfl, hy, rfl⟩ := htail
    have hx : (0x80 ≤ x.toNat ∧ x.toNat ≤ 0xBF) ∧ (b.toNat = 0xE0 → 0xA0 ≤ x.toNat) ∧
        (b.toNat = 0xED → x.toNat ≤ 0x9F) := by
      split_ifs at hx <;> omega
    refine utf8EncodeChar_three hb hx.1 hy hx.2.1 (toNat_ofNat ?_)
    simp only [payload, List.foldl_cons, List.foldl_nil, Nat.isValidChar]
    omega
  split at hlead
  next hb =>
    obtain rfl := Option.some.inj hlead
    simp only [tail_succ, tail_zero, apply_ite UInt8.toNat, UInt8.reduceToNat] at htail
    obtain ⟨x, _, rfl, hx, y, _, rfl, hy, z, _, rfl, hz, rfl⟩ := htail
    have hx : (0x80 ≤ x.toNat ∧ x.toNat ≤ 0xBF) ∧ (b.toNat = 0xF0 → 0x90 ≤ x.toNat) ∧
        (b.toNat = 0xF4 → x.toNat ≤ 0x8F) := by
      split_ifs at hx <;> omega
    refine utf8EncodeChar_four hb hx.1 hy hz hx.2.1 (toNat_ofNat ?_)
    simp only [payload, List.foldl_cons, List.foldl_nil, Nat.isValidChar]
    omega
  cases hlead

/-- A character of ASCII is one byte; any other is a lead byte and the continuation bytes that it
announces. -/
theorem exists_lead (h : String.utf8EncodeChar c = b :: xs) :
    b < 0x80 ∧ xs = [] ∧ c.toNat = b.toNat ∨
      ¬b < 0x80 ∧ ∃ lead, Lead.of? b = some lead ∧ Tail lead.low lead.high lead.more xs ∧
        c.toNat = payload lead.payload xs := by
  have hvalid : c.val.toNat < 0xD800 ∨ 0xDFFF < c.val.toNat ∧ c.val.toNat < 0x110000 := c.valid
  rw [show c.toNat = c.val.toNat from rfl]
  simp only [UInt8.lt_iff_toNat_lt, UInt8.reduceToNat, Lead.of?_eq]
  unfold String.utf8EncodeChar at h
  dsimp only at h
  generalize c.val.toNat = n at h hvalid ⊢
  split_ifs at h with hone htwo hthree <;> cases h <;>
    simp only [UInt8.toNat_ofNat', payload, List.foldl_cons, List.foldl_nil]
  · exact .inl ⟨by omega, trivial, by omega⟩
  · refine .inr ⟨by omega, _, if_pos (by omega), ?_, by dsimp only; omega⟩
    simp only [tail_succ, tail_zero, UInt8.reduceToNat]
    refine ⟨_, _, rfl, ?_, rfl⟩
    simp only [UInt8.toNat_ofNat']
    omega
  · refine .inr ⟨by omega, _, (if_neg (by omega)).trans (if_pos (by omega)), ?_,
      by dsimp only; omega⟩
    simp only [tail_succ, tail_zero, apply_ite UInt8.toNat, UInt8.reduceToNat]
    refine ⟨_, _, rfl, ?_, _, _, rfl, ?_, rfl⟩ <;> simp only [UInt8.toNat_ofNat']
    · split_ifs <;> omega
    · omega
  · refine .inr ⟨by omega, _,
      (if_neg (by omega)).trans ((if_neg (by omega)).trans (if_pos (by omega))), ?_,
      by dsimp only; omega⟩
    simp only [tail_succ, tail_zero, apply_ite UInt8.toNat, UInt8.reduceToNat]
    refine ⟨_, _, rfl, ?_, _, _, rfl, ?_, _, _, rfl, ?_, rfl⟩ <;> simp only [UInt8.toNat_ofNat']
    · split_ifs <;> omega
    · omega
    · omega

/-! ## One unit -/

/-- The bytes can be followed by others so that they are as many continuation bytes as there should
be. -/
def Start (low high : UInt8) (more : Nat) (xs : List UInt8) : Prop :=
  ∃ ys, Tail low high more (xs ++ ys)

theorem start_cons :
    Start low high (more + 1) (b :: xs) ↔ (low ≤ b ∧ b ≤ high) ∧ Start 0x80 0xBF more xs := by
  constructor
  · rintro ⟨ys, - | ⟨hlow, hhigh, tail⟩⟩
    exact ⟨⟨hlow, hhigh⟩, ys, tail⟩
  · rintro ⟨⟨hlow, hhigh⟩, ys, tail⟩
    exact ⟨ys, .cons hlow hhigh tail⟩

theorem continuation_tail (h : Tail low high more xs) :
    continuation acc low high more (xs ++ rest) = (some (Char.ofNat (payload acc xs)), rest) := by
  induction h generalizing acc with
  | nil => rfl
  | cons hlow hhigh _ ih =>
    rw [List.cons_append, continuation, if_pos ⟨hlow, hhigh⟩, ih, payload_cons]

/-- A character is read off all the continuation bytes. -/
theorem continuation_eq_some (h : continuation acc low high more bytes = (some c, rest)) :
    ∃ xs, bytes = xs ++ rest ∧ Tail low high more xs ∧ c = Char.ofNat (payload acc xs) := by
  fun_induction continuation acc low high more bytes with
  | case1 acc low high bytes =>
    cases h
    exact ⟨[], rfl, .nil, rfl⟩
  | case2 => cases h
  | case3 acc low high more b bytes hb ih =>
    obtain ⟨xs, rfl, tail, rfl⟩ := ih h
    exact ⟨b :: xs, rfl, .cons hb.1 hb.2 tail, by rw [payload_cons]⟩
  | case4 => cases h

/-- An ill-formed part goes as far as there are continuation bytes. -/
theorem continuation_eq_none (hle : low ≤ high)
    (h : continuation acc low high more bytes = (none, rest)) :
    ∃ xs, bytes = xs ++ rest ∧ Start low high more xs ∧
      ∀ b ys, rest = b :: ys → ¬Start low high more (xs ++ [b]) := by
  fun_induction continuation acc low high more bytes with
  | case1 => cases h
  | case2 acc low high more =>
    cases h
    exact ⟨[], rfl, exists_tail hle _, fun b ys h => by cases h⟩
  | case3 acc low high more b bytes hb ih =>
    obtain ⟨xs, rfl, start, hstop⟩ := ih (by decide) h
    refine ⟨b :: xs, rfl, start_cons.mpr ⟨hb, start⟩, fun b ys h hstart => ?_⟩
    exact hstop b ys h (start_cons.mp hstart).2
  | case4 acc low high more b bytes hb =>
    cases h
    refine ⟨[], rfl, exists_tail hle _, fun b ys h hstart => hb ?_⟩
    cases h
    exact (start_cons.mp hstart).1

/-- A character starts with the bytes. -/
def BeginsChar (bytes : List UInt8) : Prop := ∃ c, bytes <+: String.utf8EncodeChar c

/-- An ill-formed part with the bytes behind it: no character stands here, and the part is the
longest start of a character there is, or a single byte that no character starts with. -/
structure Broken (part rest : List UInt8) : Prop where
  ne_nil : part ≠ []
  illFormed : ∀ c, ¬String.utf8EncodeChar c <+: part ++ rest
  begins : BeginsChar part ∨ ∃ b, part = [b]
  longest : ∀ more, more <+: rest → BeginsChar (part ++ more) → more = []

/-- The unit of a character is the character. -/
theorem decodeUnit_char (h : String.utf8EncodeChar c = b :: xs) :
    decodeUnit b (xs ++ rest) = (some c, rest) := by
  rcases exists_lead h with ⟨hb, rfl, hc⟩ | ⟨hb, lead, hlead, htail, hc⟩
  · rw [decodeUnit, if_pos hb, ← hc, Char.ofNat_toNat, List.nil_append]
  · rw [decodeUnit, if_neg hb, hlead]
    dsimp only
    rw [continuation_tail htail, ← hc, Char.ofNat_toNat]

theorem decodeUnit_some (h : decodeUnit b bytes = (some c, rest)) :
    b :: bytes = String.utf8EncodeChar c ++ rest := by
  unfold decodeUnit at h
  split at h
  next hb =>
    cases h
    rw [utf8EncodeChar_one hb, List.singleton_append]
  next =>
    split at h
    next => cases h
    next lead hlead =>
      obtain ⟨xs, rfl, htail, rfl⟩ := continuation_eq_some h
      rw [utf8EncodeChar_tail hlead htail, List.cons_append]

/-- The bytes with which a character starts, by its lead byte. -/
theorem beginsChar_cons (hb : ¬b < 0x80) : BeginsChar (b :: xs) ↔
    ∃ lead, Lead.of? b = some lead ∧ Start lead.low lead.high lead.more xs := by
  constructor
  · rintro ⟨c, tail, hc⟩
    rcases exists_lead hc.symm with ⟨hb', -⟩ | ⟨-, lead, hlead, htail, -⟩
    · exact absurd hb' hb
    · exact ⟨lead, hlead, tail, htail⟩
  · rintro ⟨lead, hlead, ys, htail⟩
    exact ⟨_, ys, (utf8EncodeChar_tail hlead htail).symm⟩

/-- What is no character is an ill-formed part. -/
theorem decodeUnit_none (h : decodeUnit b bytes = (none, rest)) :
    ∃ part, b :: bytes = part ++ rest ∧ Broken part rest := by
  have hill : ∀ c, ¬String.utf8EncodeChar c <+: b :: bytes := by
    rintro c ⟨left, hc⟩
    cases henc : String.utf8EncodeChar c with
    | nil => exact String.utf8EncodeChar_ne_nil henc
    | cons b' xs =>
      rw [henc, List.cons_append] at hc
      obtain ⟨rfl, rfl⟩ := List.cons.inj hc
      rw [decodeUnit_char henc] at h
      cases h
  have hb : ¬b < 0x80 := fun hb => by simp [decodeUnit, hb] at h
  rw [decodeUnit, if_neg hb] at h
  cases hlead : Lead.of? b with
  | none =>
    rw [hlead] at h
    cases h
    refine ⟨[b], rfl, by simp, hill, .inr ⟨b, rfl⟩, fun more _ hbegins => ?_⟩
    obtain ⟨lead, hlead', -⟩ := (beginsChar_cons hb).mp hbegins
    rw [hlead] at hlead'
    cases hlead'
  | some lead =>
    rw [hlead] at h
    obtain ⟨xs, rfl, start, hstop⟩ := continuation_eq_none (low_le_high hlead) h
    refine ⟨b :: xs, rfl, by simp, hill, .inl ((beginsChar_cons hb).mpr ⟨lead, hlead, start⟩), ?_⟩
    rintro (- | ⟨y, more⟩) ⟨left, rfl⟩ hbegins
    · rfl
    · obtain ⟨lead', hlead', ys, htail⟩ := (beginsChar_cons hb).mp hbegins
      obtain rfl : lead = lead' := Option.some.inj (hlead.symm.trans hlead')
      refine absurd ⟨more ++ ys, ?_⟩ (hstop y (more ++ left) rfl)
      simpa using htail

theorem Broken.eq_nil {part more : List UInt8} (h : Broken part (more ++ rest))
    (h' : Broken (part ++ more) rest) : more = [] := by
  rcases h'.begins with hbegins | ⟨b, hb⟩
  · exact h.longest more (List.prefix_append ..) hbegins
  · rcases List.append_eq_singleton_iff.mp hb with ⟨hnil, -⟩ | ⟨-, hmore⟩
    · exact absurd hnil h.ne_nil
    · exact hmore

/-- There is only one way to cut off an ill-formed part. -/
theorem Broken.unique {part part' : List UInt8} (h : Broken part rest) (h' : Broken part' left)
    (heq : part ++ rest = part' ++ left) : rest = left := by
  rcases List.append_eq_append_iff.mp heq with ⟨more, rfl, rfl⟩ | ⟨more, rfl, rfl⟩
  · rw [h.eq_nil h', List.nil_append]
  · rw [h'.eq_nil h, List.nil_append]

/-- The unit of an ill-formed part is no character. -/
theorem decodeUnit_broken (h : Broken (b :: xs) rest) :
    decodeUnit b (xs ++ rest) = (none, rest) := by
  obtain ⟨unit, left, hunit⟩ : ∃ unit left, decodeUnit b (xs ++ rest) = (unit, left) :=
    ⟨_, _, rfl⟩
  cases unit with
  | some c => exact absurd ⟨left, (decodeUnit_some hunit).symm⟩ (h.illFormed c)
  | none =>
    obtain ⟨part, hpart, hbroken⟩ := decodeUnit_none hunit
    rw [hunit, h.unique hbroken hpart]

/-! ## Cuts -/

/-- A piece of a byte string: a stretch of characters or an ill-formed part. -/
inductive Piece where
  | stretch (s : String)
  | broken (part : List UInt8)

/-- What is written for a piece: its characters, or one replacement character. -/
def Piece.text : Piece → String
  | .stretch s => s
  | .broken _ => "\uFFFD"

/-- What is written for the pieces, in order. -/
def texts (pieces : List Piece) : String := String.join (pieces.map Piece.text)

/-- The byte string is cut into the pieces. A stretch is not empty and no character stands behind
it, so that it is as long as can be. -/
inductive Cut : List UInt8 → List Piece → Prop
  | nil : Cut [] []
  | stretch {s : String} {rest : List UInt8} {pieces : List Piece} (hs : s ≠ "")
      (hend : ∀ c, ¬String.utf8EncodeChar c <+: rest) (h : Cut rest pieces) :
      Cut (encode s ++ rest) (.stretch s :: pieces)
  | broken {part rest : List UInt8} {pieces : List Piece} (hbroken : Broken part rest)
      (h : Cut rest pieces) : Cut (part ++ rest) (.broken part :: pieces)

variable {pieces : List Piece} {s : String} {part : List UInt8}

theorem encode_ofList_cons (c : Char) (cs : List Char) :
    encode (String.ofList (c :: cs)) = String.utf8EncodeChar c ++ encode (String.ofList cs) := by
  simp [encode]

theorem units_char (c : Char) (rest : List UInt8) :
    units (String.utf8EncodeChar c ++ rest) = some c :: units rest := by
  cases henc : String.utf8EncodeChar c with
  | nil => exact absurd henc String.utf8EncodeChar_ne_nil
  | cons b xs => rw [List.cons_append, units, decodeUnit_char henc]

theorem units_encode (s : String) (rest : List UInt8) :
    units (encode s ++ rest) = s.toList.map some ++ units rest := by
  unfold encode
  induction s.toList with
  | nil => rfl
  | cons c cs ih =>
    rw [List.flatMap_cons, List.append_assoc, units_char, ih, List.map_cons, List.cons_append]

theorem units_broken (h : Broken part rest) : units (part ++ rest) = none :: units rest := by
  cases part with
  | nil => exact absurd rfl h.ne_nil
  | cons b xs => rw [List.cons_append, units, decodeUnit_broken h]

theorem ofList_map_some (s : String) :
    String.ofList ((s.toList.map some).map (·.getD '\uFFFD')) = s := by
  rw [List.map_map, show (·.getD '\uFFFD') ∘ some = (id : Char → Char) from rfl, List.map_id,
    String.ofList_toList]

/-- What is read off a byte string is what is written for the pieces of a cut. -/
theorem Cut.decodeLossy_eq (h : Cut bytes pieces) : decodeLossy bytes = texts pieces := by
  unfold decodeLossy texts
  induction h with
  | nil => simp [units]
  | stretch _ _ _ ih =>
    rw [units_encode, List.map_append, String.ofList_append, ofList_map_some, ih, List.map_cons,
      String.join_cons, Piece.text]
  | broken hbroken _ ih =>
    rw [units_broken hbroken, List.map_cons, List.map_cons, String.join_cons, ← ih]
    simp [Piece.text]

/-- A character in front of a cut begins its first stretch or is a stretch of its own. -/
theorem Cut.push (c : Char) (h : Cut rest pieces) :
    ∃ pieces, Cut (String.utf8EncodeChar c ++ rest) pieces := by
  have hchar : String.utf8EncodeChar c = encode (String.ofList [c]) := by simp [encode]
  have hne : ∀ c : Char, String.utf8EncodeChar c ≠ [] := fun _ => String.utf8EncodeChar_ne_nil
  cases h with
  | nil =>
    rw [hchar]
    exact ⟨_, .stretch (by simp) (fun c hc => hne c (List.prefix_nil.mp hc)) .nil⟩
  | @stretch s rest pieces hs hend h =>
    refine ⟨.stretch (String.ofList (c :: s.toList)) :: pieces, ?_⟩
    have := Cut.stretch (s := String.ofList (c :: s.toList)) (by simp) hend h
    rwa [encode_ofList_cons, String.ofList_toList, List.append_assoc] at this
  | broken hbroken h =>
    rw [hchar]
    exact ⟨_, .stretch (by simp) hbroken.illFormed (.broken hbroken h)⟩

/-- Every byte string can be cut. -/
theorem exists_cut (bytes : List UInt8) : ∃ pieces, Cut bytes pieces := by
  fun_induction units bytes with
  | case1 => exact ⟨[], .nil⟩
  | case2 b bytes ih =>
    obtain ⟨pieces, hcut⟩ := ih
    generalize hunit : decodeUnit b bytes = u at hcut
    obtain ⟨- | c, rest⟩ := u
    · obtain ⟨part, hpart, hbroken⟩ := decodeUnit_none hunit
      rw [hpart]
      exact ⟨_, .broken hbroken hcut⟩
    · rw [decodeUnit_some hunit]
      exact hcut.push c

/-! ## Fields -/

/-- What stands in the field before its first zero byte: all of it if there is none. -/
def Contents (bytes before : List UInt8) : Prop :=
  0 ∉ before ∧ (bytes = before ∨ ∃ after, bytes = before ++ 0 :: after)

theorem exists_contents (bytes : List UInt8) : ∃ before, Contents bytes before := by
  by_cases h : 0 ∈ bytes
  · obtain ⟨before, after, rfl, hbefore⟩ := List.eq_append_cons_of_mem h
    exact ⟨before, hbefore, .inr ⟨after, rfl⟩⟩
  · exact ⟨bytes, h, .inl rfl⟩

theorem Contents.field_eq (h : Contents bytes left) : field bytes = decodeLossy left := by
  have hall : ∀ b ∈ left, (b != 0) = true := fun b hb =>
    bne_iff_ne.mpr fun hzero => h.1 (hzero ▸ hb)
  rcases h.2 with rfl | ⟨after, rfl⟩
  · rw [field, List.takeWhile_eq_self_iff.mpr hall]
  · rw [field, List.takeWhile_append_of_pos hall, List.takeWhile_cons_of_neg (by simp),
      List.append_nil]

theorem zero_mem_encode : 0 ∈ encode s ↔ '\x00' ∈ s.toList := by
  simp [encode, zero_mem_utf8EncodeChar]

/-- No zero character is written for a byte string without zero bytes. -/
theorem Cut.not_mem_texts (h : Cut bytes pieces) (hzero : 0 ∉ bytes) :
    '\x00' ∉ (texts pieces).toList := by
  induction h with
  | nil => simp [texts]
  | stretch _ _ _ ih =>
    rw [List.mem_append, not_or, zero_mem_encode] at hzero
    have htail := ih hzero.2
    simp only [texts, List.map_cons, String.join_cons, String.toList_append, Piece.text,
      List.mem_append, not_or] at htail ⊢
    exact ⟨hzero.1, htail⟩
  | broken _ _ ih =>
    rw [List.mem_append, not_or] at hzero
    have htail := ih hzero.2
    simp only [texts, List.map_cons, String.join_cons, String.toList_append, Piece.text,
      List.mem_append, not_or] at htail ⊢
    exact ⟨by decide, htail⟩

/-- The bytes of a text spell the text. -/
theorem decodeLossy_encode (s : String) : decodeLossy (encode s) = s := by
  have hunits := units_encode s []
  rw [List.append_nil, units, List.append_nil] at hunits
  rw [decodeLossy, hunits, ofList_map_some]

/-- A text without a zero character is read off its bytes, whatever stands behind a zero byte. -/
theorem field_encode (hs : '\x00' ∉ s.toList) :
    field (encode s) = s ∧ ∀ t, field (encode s ++ 0 :: t) = s := by
  have hfield : ∀ {bytes : List UInt8}, Contents bytes (encode s) → field bytes = s := fun h => by
    rw [h.field_eq, decodeLossy_encode]
  have hzero : 0 ∉ encode s := mt zero_mem_encode.mp hs
  exact ⟨hfield ⟨hzero, .inl rfl⟩, fun t => hfield ⟨hzero, .inr ⟨t, rfl⟩⟩⟩

/-- The text of a field depends on nothing but what stands before the first zero byte, and has no
zero character: it keeps the stretches of characters, in order, and has one replacement character
for each ill-formed part. A text without a zero character is read off its bytes, whatever stands
behind a zero byte; so the text of a field is read off its own bytes again. -/
theorem field_text (bytes : List UInt8) :
    (∃ before, Contents bytes before ∧
      (∀ other, Contents other before → field other = field bytes) ∧
      (∃ pieces, Cut before pieces) ∧
      ∀ pieces, Cut before pieces → field bytes = texts pieces) ∧
    '\x00' ∉ (field bytes).toList ∧
    (∀ s : String, '\x00' ∉ s.toList →
      field (encode s) = s ∧ ∀ t, field (encode s ++ 0 :: t) = s) ∧
    field (encode (field bytes)) = field bytes := by
  obtain ⟨before, hbefore⟩ := exists_contents bytes
  obtain ⟨pieces, hcut⟩ := exists_cut before
  have htexts : ∀ pieces, Cut before pieces → field bytes = texts pieces := fun pieces h =>
    hbefore.field_eq.trans h.decodeLossy_eq
  have hzero : '\x00' ∉ (field bytes).toList := by
    rw [htexts pieces hcut]
    exact hcut.not_mem_texts hbefore.1
  refine ⟨⟨before, hbefore, fun other hother => ?_, ⟨pieces, hcut⟩, htexts⟩, hzero,
    fun s => field_encode, (field_encode hzero).1⟩
  rw [hother.field_eq, hbefore.field_eq]

/-- A text in front of a zero byte and of a byte that no text has. -/
theorem field_text_euro :
    '\x00' ∉ "a€".toList ∧ field (encode "a€" ++ 0 :: [0xFF]) = "a€" := by
  have hs : '\x00' ∉ "a€".toList := by decide
  exact ⟨hs, ((field_text []).2.2.1 "a€" hs).2 [0xFF]⟩

/-- Two bytes of a character cut short, a surrogate and an overlong form. -/
example : field [0x61, 0xE2, 0x82, 0x62, 0xED, 0xA0, 0x80, 0xC0, 0x80, 0, 0x63] =
    "a\uFFFDb\uFFFD\uFFFD\uFFFD\uFFFD\uFFFD" := by
  cbv

end KernelProbe.Text
