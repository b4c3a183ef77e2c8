import Mathlib.Data.List.Induction
import Mathlib.Tactic.SplitIfs
import KernelProbe.Text.Number

/-!
# Numbers and the texts that denote them

`Denotes radix s n` says that the digits `s` denote the number `n`. Reading digits gives the number
that they denote, as long as it fits a word; else it stops where the number grows too large, or at
the first character that is no digit, whichever comes first (`parseDigits_append`,
`parseDigits_tooLarge`). Every text begins with digits that are all there are or have something else
behind them (`exists_denotes`), so that there is no other way to stop.
-/

namespace KernelProbe

/-- The character is a digit with the value, in either case. -/
def IsDigit (radix : Nat) (c : Char) (d : Nat) : Prop :=
  d < radix ∧ (c = d.digitChar ∨ c = d.digitChar.toUpper)

/-- The digits denote the number, the last digit having the least weight. -/
inductive Denotes (radix : Nat) : List Char → Nat → Prop
  | nil : Denotes radix [] 0
  | snoc {s : List Char} {n : Nat} {c : Char} {d : Nat} (front : Denotes radix s n)
      (last : IsDigit radix c d) : Denotes radix (s ++ [c]) (n * radix + d)

variable {radix : Nat} {c : Char} {d n : Nat} {s rest : List Char}

/-! ## Digits -/

theorem digitValue?_digitChar (hd : d < 16) :
    digitValue? 16 d.digitChar = some d ∧ digitValue? 16 d.digitChar.toUpper = some d := by
  have hall : ∀ d < 16, digitValue? 16 d.digitChar = some d ∧
      digitValue? 16 d.digitChar.toUpper = some d := by decide
  exact hall d hd

/-- A hexadecimal digit is a character of one of three ranges. -/
theorem eq_digitChar_of_digitValue? (h : digitValue? 16 c = some d) :
    c = d.digitChar ∨ c = d.digitChar.toUpper := by
  have hdecimal : ∀ d < 10, d.digitChar.toNat = 48 + d := by decide
  have hletter : ∀ d < 16, 10 ≤ d → d.digitChar.toNat = 87 + d ∧
      d.digitChar.toUpper.toNat = 55 + d := by decide
  simp only [digitValue?, Char.reduceToNat, Option.ite_none_right_eq_some, Option.some.injEq] at h
  obtain ⟨hlt, h⟩ := h
  rw [h] at hlt
  rw [← Char.toNat_inj, ← Char.toNat_inj]
  split_ifs at h
  · rw [hdecimal d (by omega)]
    omega
  · rw [(hletter d (by omega) (by omega)).1]
    omega
  · rw [(hletter d (by omega) (by omega)).2]
    omega
  · omega

/-- The value of a hexadecimal digit is its value in every radix that is greater. -/
theorem digitValue?_eq_some (hradix : radix ≤ 16) :
    digitValue? radix c = some d ↔ d < radix ∧ digitValue? 16 c = some d := by
  simp only [digitValue?]
  split_ifs <;> simp only [Option.some.injEq, false_iff, and_false, iff_false, not_and] <;> omega

/-- A character has a value if and only if it is a digit. -/
theorem digitValue?_iff (hradix : radix ≤ 16) :
    digitValue? radix c = some d ↔ IsDigit radix c d := by
  rw [digitValue?_eq_some hradix]
  refine and_congr_right fun hd => ⟨eq_digitChar_of_digitValue?, ?_⟩
  rintro (rfl | rfl)
  · exact (digitValue?_digitChar (Nat.lt_of_lt_of_le hd hradix)).1
  · exact (digitValue?_digitChar (Nat.lt_of_lt_of_le hd hradix)).2

theorem digitValue?_eq_none (hradix : radix ≤ 16) :
    digitValue? radix c = none ↔ ∀ d, ¬IsDigit radix c d := by
  rw [Option.eq_none_iff_forall_ne_some]
  exact forall_congr' fun d => not_congr (digitValue?_iff hradix)

/-- What is no hexadecimal digit is no digit. -/
theorem not_isDigit (hradix : radix ≤ 16) (hc : digitValue? 16 c = none) (d : Nat) :
    ¬IsDigit radix c d := by
  rw [← digitValue?_iff hradix, digitValue?_eq_some hradix, hc]
  exact fun h => by cases h.2

/-! ## Reading digits -/

theorem parseDigits_cons (hradix : radix ≤ 16) (hc : IsDigit radix c d) (acc : Nat) :
    parseDigits radix acc (c :: rest) =
      if acc * radix + d < UInt64.size then parseDigits radix (acc * radix + d) rest
      else .error .tooLarge := by
  rw [parseDigits, (digitValue?_iff hradix).mpr hc]

/-- A number does not get smaller by a digit behind it. -/
theorem IsDigit.le_mul_add (hc : IsDigit radix c d) (n : Nat) : n ≤ n * radix + d :=
  Nat.le_trans (Nat.le_mul_of_pos_right n (Nat.zero_lt_of_lt hc.1)) (Nat.le_add_right _ _)

/-- Digits that denote a number below the bound are read as that number. -/
theorem parseDigits_append (hradix : radix ≤ 16) (h : Denotes radix s n) (hn : n < UInt64.size)
    (rest : List Char) : parseDigits radix 0 (s ++ rest) = parseDigits radix n rest := by
  induction h generalizing rest with
  | nil => rfl
  | @snoc s m c d front last ih =>
    rw [List.append_assoc, ih (Nat.lt_of_le_of_lt (last.le_mul_add m) hn), List.singleton_append,
      parseDigits_cons hradix last, if_pos hn]

/-- Digits that denote a number beyond the bound are too many, whatever follows. -/
theorem parseDigits_tooLarge (hradix : radix ≤ 16) (h : Denotes radix s n)
    (hn : UInt64.size ≤ n) (rest : List Char) :
    parseDigits radix 0 (s ++ rest) = .error .tooLarge := by
  induction h generalizing rest with
  | nil => exact absurd hn (by decide)
  | @snoc s m c d front last ih =>
    rw [List.append_assoc]
    by_cases hm : UInt64.size ≤ m
    · exact ih hm _
    · rw [parseDigits_append hradix front (Nat.lt_of_not_le hm), List.singleton_append,
        parseDigits_cons hradix last, if_neg (Nat.not_lt.mpr hn)]

/-- A character that is no digit stops the reading. -/
theorem parseDigits_stray (hradix : radix ≤ 16) (h : Denotes radix s n) (hn : n < UInt64.size)
    (hc : ∀ d, ¬IsDigit radix c d) :
    parseDigits radix 0 (s ++ c :: rest) = .error .invalidDigit := by
  rw [parseDigits_append hradix h hn, parseDigits, (digitValue?_eq_none hradix).mpr hc]

/-- Every text begins with digits that are all there are, or have something else behind them. -/
theorem exists_denotes (radix : Nat) (s : List Char) :
    ∃ front n, Denotes radix front n ∧
      (s = front ∨ ∃ c rest, s = front ++ c :: rest ∧ ∀ d, ¬IsDigit radix c d) := by
  induction s using List.reverseRecOn with
  | nil => exact ⟨[], 0, .nil, .inl rfl⟩
  | append_singleton s c ih =>
    obtain ⟨front, n, hfront, rfl | ⟨c', rest, rfl, hc'⟩⟩ := ih
    · by_cases hc : ∃ d, IsDigit radix c d
      · obtain ⟨d, hc⟩ := hc
        exact ⟨s ++ [c], _, hfront.snoc hc, .inl rfl⟩
      · exact ⟨s, n, hfront, .inr ⟨c, [], rfl, not_exists.mp hc⟩⟩
    · exact ⟨front, n, hfront, .inr ⟨c', rest ++ [c], by simp, hc'⟩⟩

/-- Digits are read as the number that they denote, and as no other. -/
theorem parseDigits_eq_ok (hradix : radix ≤ 16) :
    parseDigits radix 0 s = .ok n ↔ Denotes radix s n ∧ n < UInt64.size := by
  constructor
  · intro h
    obtain ⟨front, m, hfront, rfl | ⟨c, rest, rfl, hc⟩⟩ := exists_denotes radix s <;>
      by_cases hm : m < UInt64.size
    · have hread := parseDigits_append hradix hfront hm []
      rw [List.append_nil, h] at hread
      cases hread
      exact ⟨hfront, hm⟩
    · have hread := parseDigits_tooLarge hradix hfront (Nat.le_of_not_lt hm) []
      rw [List.append_nil, h] at hread
      cases hread
    · rw [parseDigits_stray hradix hfront hm hc] at h
      cases h
    · rw [parseDigits_tooLarge hradix hfront (Nat.le_of_not_lt hm)] at h
      cases h
  · rintro ⟨hs, hn⟩
    have hread := parseDigits_append hradix hs hn []
    rwa [List.append_nil] at hread

/-! ## Written numbers -/

/-- What a number is written as denotes it. -/
theorem denotes_toDigits (hradix : 1 < radix) (n : Nat) :
    Denotes radix (Nat.toDigits radix n) n := by
  induction n using Nat.strongRecOn with
  | ind n ih =>
    rw [Nat.toDigits_eq_if hradix]
    split
    next hn =>
      have hlast : IsDigit radix n.digitChar n := ⟨hn, .inl rfl⟩
      have h := Denotes.nil.snoc hlast
      rwa [Nat.zero_mul, Nat.zero_add] at h
    next hn =>
      have hpos : 0 < n := by omega
      have hfront := ih (n / radix) (Nat.div_lt_self hpos hradix)
      have hlast : IsDigit radix (n % radix).digitChar (n % radix) :=
        ⟨Nat.mod_lt n (by omega), .inl rfl⟩
      have h := hfront.snoc hlast
      rwa [Nat.div_add_mod'] at h

end KernelProbe
