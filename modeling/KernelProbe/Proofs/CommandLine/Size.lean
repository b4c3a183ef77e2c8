import KernelProbe.CommandLine.Size
import KernelProbe.Proofs.Text.Number
import KernelProbe.Text.Numeral

/-!
# The grammar of sizes

`IsSize s n` says that the text `s` is a size that denotes `n`: digits with an optional plus sign in
front, decimal or behind the mark of a hexadecimal number. `Misreads` says of a text without its
mark what is wrong with it at the first place where something is.

`parseSize_grammar` says that a size is read if and only if it is one and fits a word, that every
other text is refused for what is wrong with it, and that the decimal and the hexadecimal text of a
word are read as the word.
-/

namespace KernelProbe

/-! ## The grammar -/

/-- A size that denotes a number. -/
inductive IsSize : List Char → Nat → Prop
  | decimal {sign digits : List Char} {n : Nat} (hsign : sign = [] ∨ sign = ['+'])
      (hsome : digits ≠ []) (h : Denotes 10 digits n) : IsSize (sign ++ digits) n
  | hexadecimal {x : Char} {sign digits : List Char} {n : Nat} (hx : x = 'x' ∨ x = 'X')
      (hsign : sign = [] ∨ sign = ['+']) (hsome : digits ≠ []) (h : Denotes 16 digits n) :
      IsSize ('0' :: x :: (sign ++ digits)) n

/-- A text is in a radix, which the mark in front tells, and goes on behind the mark. -/
inductive Marked : List Char → Nat → List Char → Prop
  | hexadecimal {x : Char} {body : List Char} (hx : x = 'x' ∨ x = 'X') :
      Marked ('0' :: x :: body) 16 body
  | decimal {body : List Char} (h : ∀ x rest, x = 'x' ∨ x = 'X' → body ≠ '0' :: x :: rest) :
      Marked body 10 body

/-- A text without the plus sign in front. -/
def unsigned : List Char → List Char
  | '+' :: digits => digits
  | digits => digits

/-- What is wrong with a text without its mark, at the first place where something is. -/
inductive Misreads (radix : Nat) (body : List Char) : NumberError → Prop
  /-- There is nothing. -/
  | empty (h : body = []) : Misreads radix body .empty
  /-- There is a sign and nothing else. -/
  | loneSign (h : body = ['+'] ∨ body = ['-']) : Misreads radix body .invalidDigit
  /-- Behind digits that denote a number of 64 bits stands something else. -/
  | stray {front rest : List Char} {c : Char} {n : Nat} (h : unsigned body = front ++ c :: rest)
      (hfront : Denotes radix front n) (hn : n < UInt64.size) (hc : ∀ d, ¬IsDigit radix c d) :
      Misreads radix body .invalidDigit
  /-- There are digits that denote a number of more than 64 bits. -/
  | tooLarge {front rest : List Char} {n : Nat} (h : unsigned body = front ++ rest)
      (hfront : Denotes radix front n) (hn : UInt64.size ≤ n) : Misreads radix body .tooLarge

variable {radix n : Nat} {s body digits : List Char} {w : UInt64} {e : NumberError}

/-! ## Numbers with a sign -/

theorem Denotes.exists_isDigit (h : Denotes radix s n) : ∀ c ∈ s, ∃ d, IsDigit radix c d := by
  induction h with
  | nil => simp
  | snoc _ last ih => exact List.forall_mem_append.mpr ⟨ih, List.forall_mem_singleton.mpr ⟨_, last⟩⟩

/-- No digit is a sign. -/
theorem Denotes.unsigned_eq (hradix : radix ≤ 16) (h : Denotes radix s n) : unsigned s = s := by
  unfold unsigned
  split
  next digits =>
    obtain ⟨d, hd⟩ := h.exists_isDigit '+' List.mem_cons_self
    exact absurd hd (not_isDigit hradix (by decide) d)
  next => rfl

/-- There is a sign in front or none. -/
theorem exists_sign (body : List Char) :
    ∃ sign, (sign = [] ∨ sign = ['+']) ∧ body = sign ++ unsigned body := by
  unfold unsigned
  split
  next digits => exact ⟨['+'], .inr rfl, rfl⟩
  next => exact ⟨[], .inl rfl, rfl⟩

/-- Behind an optional sign, the digits are read. -/
theorem parseNumber_eq (h : unsigned body ≠ []) :
    parseNumber radix body = (parseDigits radix 0 (unsigned body)).map UInt64.ofNat := by
  unfold parseNumber unsigned at *
  split <;> simp_all

theorem parseNumber_eq_ok (hradix : radix ≤ 16) :
    parseNumber radix body = .ok w ↔
      ∃ sign digits, (sign = [] ∨ sign = ['+']) ∧ digits ≠ [] ∧ body = sign ++ digits ∧
        Denotes radix digits w.toNat := by
  constructor
  · intro h
    obtain ⟨sign, hsign, hbody⟩ := exists_sign body
    by_cases hsome : unsigned body = []
    · rw [hsome, List.append_nil] at hbody
      rcases hsign with rfl | rfl <;> (subst hbody; cases h)
    · rw [parseNumber_eq hsome] at h
      cases hread : parseDigits radix 0 (unsigned body) with
      | error e => simp [hread, Except.map] at h
      | ok m =>
        obtain ⟨hdenotes, hm⟩ := (parseDigits_eq_ok hradix).mp hread
        rw [hread] at h
        cases h
        refine ⟨sign, _, hsign, hsome, hbody, ?_⟩
        rwa [UInt64.toNat_ofNat_of_lt' hm]
  · rintro ⟨sign, digits, hsign, hsome, rfl, hdenotes⟩
    have hunsigned : unsigned (sign ++ digits) = digits := by
      rcases hsign with rfl | rfl
      · exact hdenotes.unsigned_eq hradix
      · rfl
    have hread := (parseDigits_eq_ok hradix).mpr ⟨hdenotes, w.toNat_lt_size⟩
    rw [parseNumber_eq (hunsigned.symm ▸ hsome), hunsigned, hread]
    exact congrArg Except.ok UInt64.ofNat_toNat

/-- Digits are read to what is wrong with them, if anything is. -/
theorem parseDigits_cases (hradix : radix ≤ 16) (digits : List Char) :
    (∃ n, parseDigits radix 0 digits = .ok n) ∨
      (∃ front rest n, digits = front ++ rest ∧ Denotes radix front n ∧ UInt64.size ≤ n ∧
        parseDigits radix 0 digits = .error .tooLarge) ∨
      ∃ front c rest n, digits = front ++ c :: rest ∧ Denotes radix front n ∧ n < UInt64.size ∧
        (∀ d, ¬IsDigit radix c d) ∧ parseDigits radix 0 digits = .error .invalidDigit := by
  obtain ⟨front, n, hfront, hdigits⟩ := exists_denotes radix digits
  by_cases hn : n < UInt64.size
  · rcases hdigits with rfl | ⟨c, rest, rfl, hc⟩
    · exact .inl ⟨n, (parseDigits_eq_ok hradix).mpr ⟨hfront, hn⟩⟩
    · exact .inr (.inr ⟨front, c, rest, n, rfl, hfront, hn, hc,
        parseDigits_stray hradix hfront hn hc⟩)
  · obtain ⟨rest, rfl⟩ : ∃ rest, digits = front ++ rest := by
      rcases hdigits with rfl | ⟨c, rest, rfl, -⟩
      · exact ⟨[], (List.append_nil _).symm⟩
      · exact ⟨c :: rest, rfl⟩
    rw [Nat.not_lt] at hn
    exact .inr (.inl ⟨front, rest, n, rfl, hfront, hn, parseDigits_tooLarge hradix hfront hn rest⟩)

theorem parseNumber_eq_error (hradix : radix ≤ 16) :
    parseNumber radix body = .error e ↔ Misreads radix body e := by
  constructor
  · intro h
    by_cases hsome : unsigned body = []
    · obtain ⟨sign, rfl | rfl, hbody⟩ := exists_sign body
      · rw [hsome] at hbody
        subst hbody
        cases h
        exact .empty rfl
      · rw [hsome] at hbody
        subst hbody
        cases h
        exact .loneSign (.inl rfl)
    rw [parseNumber_eq hsome] at h
    obtain ⟨n, hread⟩ | ⟨front, rest, n, heq, hfront, hn, hread⟩ |
      ⟨front, c, rest, n, heq, hfront, hn, hc, hread⟩ := parseDigits_cases hradix (unsigned body)
    · rw [hread] at h
      cases h
    · rw [hread] at h
      cases h
      exact .tooLarge heq hfront hn
    · rw [hread] at h
      cases h
      exact .stray heq hfront hn hc
  · rintro (rfl | (rfl | rfl) | ⟨heq, hfront, hn, hc⟩ | ⟨heq, hfront, hn⟩)
    · rfl
    · rfl
    · have hminus : digitValue? radix '-' = none :=
        (digitValue?_eq_none hradix).mpr (not_isDigit hradix (by decide))
      simp [parseNumber, parseDigits, hminus, Except.map]
    · rw [parseNumber_eq (by simp [heq]), heq, parseDigits_stray hradix hfront hn hc]
      rfl
    · have hread := parseDigits_tooLarge hradix hfront hn
      have hsome : unsigned body ≠ [] := by
        intro hnone
        have hnil := hread []
        rw [(List.append_eq_nil_iff.mp (heq.symm.trans hnone)).1] at hnil
        cases hnil
      rw [parseNumber_eq hsome, heq, hread]
      rfl

/-! ## Sizes -/

theorem Marked.radix_le (h : Marked s radix body) : radix ≤ 16 := by
  cases h with
  | hexadecimal hx => exact Nat.le_refl 16
  | decimal hnone => decide

/-- Every text has a mark, or is decimal without one. -/
theorem exists_marked (s : List Char) : ∃ radix body, Marked s radix body := by
  by_cases h : ∃ x body, (x = 'x' ∨ x = 'X') ∧ s = '0' :: x :: body
  · obtain ⟨x, body, hx, rfl⟩ := h
    exact ⟨16, body, .hexadecimal hx⟩
  · exact ⟨10, s, .decimal fun x rest hx heq => h ⟨x, rest, hx, heq⟩⟩

theorem parseSize_marked {s : String} (h : Marked s.toList radix body) :
    parseSize s = parseNumber radix body := by
  unfold parseSize
  generalize s.toList = chars at h
  cases h with
  | hexadecimal hx => rcases hx with rfl | rfl <;> rfl
  | decimal h =>
    split
    next digits => exact absurd rfl (h 'x' digits (.inl rfl))
    next digits => exact absurd rfl (h 'X' digits (.inr rfl))
    next => rfl

/-- A decimal number does not begin with a mark. -/
theorem Denotes.ne_marked {sign : List Char} (h : Denotes 10 digits n)
    (hsign : sign = [] ∨ sign = ['+']) {x : Char} (hx : x = 'x' ∨ x = 'X') (rest : List Char) :
    sign ++ digits ≠ '0' :: x :: rest := by
  rintro heq
  rcases hsign with rfl | rfl
  · have hmem : x ∈ digits := by simp [show digits = _ from heq]
    obtain ⟨d, hd⟩ := h.exists_isDigit x hmem
    rcases hx with rfl | rfl <;> exact not_isDigit (by decide) (by decide) d hd
  · cases heq

/-- A size is a number with an optional sign behind its mark. -/
theorem isSize_marked (h : Marked s radix body) :
    IsSize s n ↔ ∃ sign digits, (sign = [] ∨ sign = ['+']) ∧ digits ≠ [] ∧ body = sign ++ digits ∧
      Denotes radix digits n := by
  cases h with
  | @hexadecimal x body hx =>
    constructor
    · generalize hs : '0' :: x :: body = s
      rintro (⟨hsign, -, hdigits⟩ | ⟨-, hsign, hsome, hdigits⟩)
      · exact absurd hs.symm (hdigits.ne_marked hsign hx body)
      · cases hs
        exact ⟨_, _, hsign, hsome, rfl, hdigits⟩
    · rintro ⟨sign, digits, hsign, hsome, rfl, hdigits⟩
      exact .hexadecimal hx hsign hsome hdigits
  | decimal hnone =>
    constructor
    · rintro (⟨hsign, hsome, hdigits⟩ | ⟨hx, -, -, -⟩)
      · exact ⟨_, _, hsign, hsome, rfl, hdigits⟩
      · exact absurd rfl (hnone _ _ hx)
    · rintro ⟨sign, digits, hsign, hsome, rfl, hdigits⟩
      exact .decimal hsign hsome hdigits

theorem parseSize_eq_ok {s : String} : parseSize s = .ok w ↔ IsSize s.toList w.toNat := by
  obtain ⟨radix, body, hmarked⟩ := exists_marked s.toList
  rw [parseSize_marked hmarked, parseNumber_eq_ok hmarked.radix_le, isSize_marked hmarked]

theorem parseSize_eq_error {s : String} :
    parseSize s = .error e ↔ ∃ radix body, Marked s.toList radix body ∧ Misreads radix body e := by
  constructor
  · intro h
    obtain ⟨radix, body, hmarked⟩ := exists_marked s.toList
    rw [parseSize_marked hmarked, parseNumber_eq_error hmarked.radix_le] at h
    exact ⟨radix, body, hmarked, h⟩
  · rintro ⟨radix, body, hmarked, h⟩
    rw [parseSize_marked hmarked, parseNumber_eq_error hmarked.radix_le]
    exact h

/-- A text is read as a size if and only if it is digits with an optional plus sign in front,
decimal or hexadecimal behind a mark, that denote a number of 64 bits, and it is then read as that
number. Any other text is refused for what is wrong with it at the first place where something is.
The decimal and the hexadecimal text of a word are read as the word. -/
theorem parseSize_grammar :
    (∀ s : String, (∃ w, parseSize s = .ok w) ↔ ∃ n < UInt64.size, IsSize s.toList n) ∧
      (∀ (s : String) (w : UInt64), parseSize s = .ok w ↔ IsSize s.toList w.toNat) ∧
      (∀ (s : String) (e : NumberError), parseSize s = .error e ↔
        ∃ radix body, Marked s.toList radix body ∧ Misreads radix body e) ∧
      ∀ w : UInt64, parseSize (Text.decimal w.toNat) = .ok w ∧
        parseSize (Text.hex w.toNat) = .ok w := by
  refine ⟨fun s => ⟨?_, ?_⟩, fun s w => parseSize_eq_ok, fun s e => parseSize_eq_error,
    fun w => ⟨?_, ?_⟩⟩
  · rintro ⟨w, h⟩
    exact ⟨w.toNat, w.toNat_lt_size, parseSize_eq_ok.mp h⟩
  · rintro ⟨n, hn, h⟩
    refine ⟨.ofNat n, parseSize_eq_ok.mpr ?_⟩
    rwa [UInt64.toNat_ofNat_of_lt' hn]
  · rw [parseSize_eq_ok, Text.toList_decimal]
    exact .decimal (.inl rfl) Nat.toDigits_ne_nil (denotes_toDigits (by decide) _)
  · rw [parseSize_eq_ok, Text.toList_hex]
    exact .hexadecimal (.inl rfl) (.inl rfl) Nat.toDigits_ne_nil (denotes_toDigits (by decide) _)

end KernelProbe
