import KernelProbe.Json.Parser
import KernelProbe.Json.Printer
import KernelProbe.Text.Numeral

/-!
# Reading back literals and numbers

Every character of a string literal is read back as it was, escaped or not (`literal_escaped`), and
the digits of a number and its exponent as the numbers that were written (`number?_toDigits`,
`exponent?_integer`).
-/

namespace KernelProbe.Json

/-! ### String literals -/

section Literal

variable {c : Char} {cs rest : List Char}

theorem hexValue?_hexDigit {n : Nat} (h : n < 16) : hexValue? (hexDigit n) = some n := by
  have hall : ∀ d < 16, hexValue? (hexDigit d) = some d := by decide
  exact hall n h

/-- A character that needs no escape stands for itself. -/
theorem literal_cons_of_plain {l : Literal} (hquote : c ≠ '"') (hslash : c ≠ '\\')
    (hc : ¬c.toNat < 0x20) : literal l (c :: rest) = literal (l.push c) rest := by
  rw [literal.eq_def]
  split <;> simp_all [Nat.not_lt.mpr]

/-- An escaped character is read back. -/
theorem literal_escapeChar :
    literal ⟨some cs, none⟩ (escapeChar c ++ rest) = literal ⟨some (c :: cs), none⟩ rest := by
  fun_cases escapeChar c
  case case8 hcontrol =>
    have hhigh := hexValue?_hexDigit (n := c.toNat / 16) (by omega)
    have hlow := hexValue?_hexDigit (n := c.toNat % 16) (by omega)
    have hzero : hexValue? '0' = some 0 := by decide
    have hnumber : c.toNat / 16 * 16 + c.toNat % 16 = c.toNat := by omega
    have hunit : Literal.pushUnit c.toNat ⟨some cs, none⟩ = ⟨some (c :: cs), none⟩ := by
      simp [Literal.pushUnit, Literal.push, show ¬0xD800 ≤ c.toNat by omega,
        show ¬0xDC00 ≤ c.toNat by omega]
    simp [literal, hex4?, hhigh, hlow, hzero, hnumber, hunit]
  case case9 hquote hslash _ _ _ _ _ hc => exact literal_cons_of_plain hquote hslash hc
  all_goals simp [literal, escape?, Literal.push, *]

/-- Escaped characters are read back up to the quote behind them. -/
theorem literal_escaped (s : List Char) :
    literal ⟨some cs, none⟩ (s.flatMap escapeChar ++ '"' :: rest) =
      some (⟨some (s.reverse ++ cs), none⟩, rest) := by
  induction s generalizing cs with
  | nil => simp [literal]
  | cons c s ih =>
    rw [List.flatMap_cons, List.append_assoc, literal_escapeChar, ih]
    simp

end Literal

/-! ### Numbers -/

section Number

variable {s rest : List Char} {n : Nat}

theorem isDigit_of_mem_toDigits {c : Char} (h : c ∈ Nat.toDigits 10 n) : c.isDigit :=
  Nat.isDigit_of_mem_toDigits (by decide) (by decide) h

/-- Digits begin with none of the marks that stand around them. -/
theorem toDigits_append_ne {c : Char} (hc : c.isDigit = false) :
    Nat.toDigits 10 n ++ s ≠ c :: rest := by
  obtain ⟨d, ds, hd⟩ := List.exists_cons_of_ne_nil (Nat.toDigits_ne_nil (b := 10) (n := n))
  have hdigit : d.isDigit := isDigit_of_mem_toDigits (n := n) (by simp [hd])
  rintro h
  rw [hd, List.cons_append, List.cons.injEq] at h
  rw [h.1, hc] at hdigit
  contradiction

/-- Only zero has a zero in front. -/
theorem eq_zero_of_head?_toDigits (h : (Nat.toDigits 10 n).head? = some '0') : n = 0 := by
  induction n using Nat.strongRecOn with
  | ind n ih =>
    rw [Nat.toDigits_eq_if (by decide)] at h
    by_cases hn : n < 10
    · rw [if_pos hn] at h
      have hall : ∀ d < 10, [Nat.digitChar d].head? = some '0' → d = 0 := by decide
      exact hall n hn h
    · rw [if_neg hn, List.head?_append, Option.or_of_isSome (by simp [Nat.toDigits_ne_nil])] at h
      have := ih (n / 10) (by omega) h
      omega

theorem takeWhile_toDigits (h : rest.takeWhile Char.isDigit = []) :
    (Nat.toDigits 10 n ++ rest).takeWhile Char.isDigit = Nat.toDigits 10 n := by
  rw [List.takeWhile_append_of_pos fun c hc => isDigit_of_mem_toDigits hc, h, List.append_nil]

theorem dropWhile_toDigits (h : rest.takeWhile Char.isDigit = []) :
    (Nat.toDigits 10 n ++ rest).dropWhile Char.isDigit = rest := by
  have hsplit := List.takeWhile_append_dropWhile
    (p := Char.isDigit) (l := Nat.toDigits 10 n ++ rest)
  rw [takeWhile_toDigits h] at hsplit
  exact List.append_cancel_left hsplit

@[simp] theorem digitsValue_toDigits : digitsValue (Nat.toDigits 10 n) = n := by
  have h := Nat.ofDigitChars_toDigits (b := 10) (n := n) (by decide) (by decide)
  simpa [Nat.ofDigitChars, digitsValue, digitValue, Nat.mul_comm] using h

/-- A minus sign or none. -/
def sign (negative : Bool) : List Char := if negative then ['-'] else []

theorem integer_eq (i : Int) :
    (Text.integer i).toList = sign (i < 0) ++ Nat.toDigits 10 i.natAbs := by
  unfold Text.integer sign
  split <;> simp_all

/-- A number's digits are read as far as they go, and what its exponent says. -/
theorem number?_toDigits {negative : Bool} {exponent : Option Int}
    (hdigits : s.takeWhile Char.isDigit = []) (hfraction : fraction? s = some (none, s))
    (hexponent : exponent? s = some (exponent, rest)) :
    number? (sign negative ++ (Nat.toDigits 10 n ++ s)) =
      some (exponent.elim (ofDigits negative (Nat.toDigits 10 n))
        (ofParts negative (Nat.toDigits 10 n) []), rest) := by
  have hfront : ¬((Nat.toDigits 10 n).isEmpty ∨
      ((Nat.toDigits 10 n).head? = some '0' ∧ (Nat.toDigits 10 n).length ≠ 1)) := by
    rintro (h | ⟨hzero, hlength⟩)
    · simp [Nat.toDigits_ne_nil] at h
    · rw [eq_zero_of_head?_toDigits hzero] at hlength
      exact hlength rfl
  unfold number?
  split
  next negative' unsigned hsign =>
    have hunsigned : (negative', unsigned) = (negative, Nat.toDigits 10 n ++ s) := by
      rw [← hsign]
      cases negative with
      | true => rfl
      | false =>
        rw [sign, if_neg (by decide), List.nil_append]
        split
        next h => exact absurd h (toDigits_append_ne (by decide))
        next => rfl
    cases hunsigned
    simp only [takeWhile_toDigits hdigits, dropWhile_toDigits hdigits, if_neg hfront, hfraction]
    simp only [Option.bind_eq_bind, Option.bind_some, hexponent]
    cases exponent <;> rfl

/-- An exponent is read as far as its digits go. -/
theorem exponent?_integer {i : Int} (hdigits : rest.takeWhile Char.isDigit = []) :
    exponent? ('e' :: ((Text.integer i).toList ++ rest)) = some (some i, rest) := by
  have hsome (n : Nat) : (Nat.toDigits 10 n).isEmpty = false := by simp [Nat.toDigits_ne_nil]
  rw [integer_eq, List.append_assoc]
  by_cases hi : i < 0
  · obtain ⟨n, rfl⟩ : ∃ n : Nat, i = -n := ⟨i.natAbs, by omega⟩
    simp only [exponent?, sign, hi, decide_true, if_true, List.cons_append, List.nil_append,
      Int.natAbs_neg, Int.natAbs_natCast]
    simp [takeWhile_toDigits hdigits, dropWhile_toDigits hdigits, hsome]
  · obtain ⟨n, rfl⟩ : ∃ n : Nat, i = n := ⟨i.natAbs, by omega⟩
    simp only [exponent?, sign, hi, decide_false, Bool.false_eq_true, if_false, List.nil_append,
      Int.natAbs_natCast]
    split
    next h => exact absurd h (toDigits_append_ne (by decide))
    next h => exact absurd h (toDigits_append_ne (by decide))
    next => simp [takeWhile_toDigits hdigits, dropWhile_toDigits hdigits, hsome]

end Number

end KernelProbe.Json
