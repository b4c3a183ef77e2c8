import KernelProbe.Proofs.Json.Lexing

/-!
# Reading back a value

`Json.parse?_render` says that a value that was written is read back as `Json.reread`: texts and the
shape of the value come back as they were, and so do integers that fit a word. Other numbers may
change their form, and a value that spells no text comes back as the empty text.
-/

namespace KernelProbe

/-- The number that is read where `n` is written. -/
def JsonNumber.reread : JsonNumber → JsonNumber
  | .integer i => Json.ofDigits (i < 0) (Nat.toDigits 10 i.natAbs)
  | .real negative significand exponent =>
    Json.ofParts negative (Nat.toDigits 10 significand) [] exponent

namespace Json

mutual

/-- The value that is read where a value is written. -/
def reread : Json → Json
  | null => .null
  | bool b => .bool b
  | number n => .number n.reread
  | string s => .string s
  | unreadable => .string ""
  | array items => .array (rereadItems items)
  | object fields => .object (rereadFields fields)

/-- The items that are read where items are written. -/
def rereadItems : List Json → List Json
  | [] => []
  | item :: rest => item.reread :: rereadItems rest

/-- The fields that are read where fields are written. -/
def rereadFields : List (String × Json) → List (String × Json)
  | [] => []
  | (name, value) :: rest => (name, value.reread) :: rereadFields rest

end

/-! ### What is read -/

@[simp] theorem reread_null : null.reread = .null := by simp [reread]

@[simp] theorem reread_string (s : String) : (string s).reread = .string s := by simp [reread]

@[simp] theorem rereadItems_eq (items : List Json) : rereadItems items = items.map reread := by
  induction items with
  | nil => rfl
  | cons item rest ih => rw [rereadItems, ih, List.map_cons]

@[simp] theorem rereadFields_eq (fields : List (String × Json)) :
    rereadFields fields = fields.map fun field => (field.1, field.2.reread) := by
  induction fields with
  | nil => rfl
  | cons field rest ih => rw [rereadFields, ih, List.map_cons]

@[simp] theorem reread_array (items : List Json) :
    (array items).reread = .array (items.map reread) := by
  rw [reread, rereadItems_eq]

@[simp] theorem reread_object (fields : List (String × Json)) :
    (object fields).reread = .object (fields.map fun field => (field.1, field.2.reread)) := by
  rw [reread, rereadFields_eq]

/-- Digits of a number that fits a word are taken up completely. -/
theorem accumulate_of_lt {digits : List Char} {n : Nat}
    (h : Nat.ofDigitChars 10 digits n < UInt64.size) :
    accumulate n digits = (Nat.ofDigitChars 10 digits n, []) := by
  induction digits generalizing n with
  | nil => rfl
  | cons c digits ih =>
    rw [Nat.ofDigitChars_cons, Nat.mul_comm] at h ⊢
    -- what stands in front of further digits is no more than all of them spell
    have hnext : n * 10 + digitValue c < UInt64.size := by
      refine Nat.lt_of_le_of_lt ?_ h
      rw [Nat.ofDigitChars_eq_ofDigitChars_zero]
      exact Nat.le_trans (Nat.le_mul_of_pos_left _ (Nat.pow_pos (by decide))) (Nat.le_add_right _ _)
    rw [accumulate, if_pos hnext]
    exact ih h

/-- An integer that fits a word is read back. -/
theorem reread_int {i : Int} (hlo : -0x8000000000000000 ≤ i) (hhi : i < 0x10000000000000000) :
    (int i).reread = .int i := by
  have hvalue : Nat.ofDigitChars 10 (Nat.toDigits 10 i.natAbs) 0 = i.natAbs :=
    Nat.ofDigitChars_ten_toDigits
  have hfits : Nat.ofDigitChars 10 (Nat.toDigits 10 i.natAbs) 0 < UInt64.size := by
    rw [hvalue, UInt64.size]
    omega
  simp only [int, reread, JsonNumber.reread, ofDigits, accumulate_of_lt hfits, hvalue]
  by_cases hi : i < 0
  · have hbound : ¬(i.natAbs = 0 ∨ 0x8000000000000000 < i.natAbs) := by omega
    have hnegated : -(i.natAbs : Int) = i := by omega
    simp only [hi, hbound, hnegated, decide_true, ne_eq, not_true_eq_false, Bool.not_true,
      Bool.false_eq_true, if_false]
  · simp [hi]
    omega

/-! ### Reading it -/

variable {s rest : List Char}

/-- What can stand behind a value: nothing, a comma, or a bracket or brace that closes. -/
inductive Delimited : List Char → Prop
  | nil : Delimited []
  | comma (s : List Char) : Delimited (',' :: s)
  | bracket (s : List Char) : Delimited (']' :: s)
  | brace (s : List Char) : Delimited ('\x7d' :: s)

/-- A number is read up to what stands behind it. -/
theorem number?_renderNumber (n : JsonNumber) (h : Delimited rest) :
    number? (renderNumber n ++ rest) = some (n.reread, rest) := by
  have hdigits : rest.takeWhile Char.isDigit = [] := by cases h <;> rfl
  cases n with
  | integer i =>
    have hfraction : fraction? rest = some (none, rest) := by cases h <;> rfl
    have hexponent : exponent? rest = some (none, rest) := by cases h <;> rfl
    rw [renderNumber, integer_eq, List.append_assoc, number?_toDigits hdigits hfraction hexponent]
    rfl
  | real negative significand exponent =>
    rw [renderNumber, Text.toList_decimal, ← sign, List.append_assoc, List.append_assoc,
      List.cons_append, number?_toDigits rfl rfl (exponent?_integer hdigits)]
    rfl

/-- What a number begins with. -/
def Leads (c : Char) : Prop := c = '-' ∨ c.isDigit

theorem renderNumber_front (n : JsonNumber) : ∃ c s, renderNumber n = c :: s ∧ Leads c := by
  have hfront : ∀ negative m s, ∃ c t,
      sign negative ++ (Nat.toDigits 10 m ++ s) = c :: t ∧ Leads c := by
    intro negative m s
    cases negative with
    | true => exact ⟨_, _, rfl, .inl rfl⟩
    | false =>
      obtain ⟨d, ds, hd⟩ := List.exists_cons_of_ne_nil (Nat.toDigits_ne_nil (b := 10) (n := m))
      exact ⟨d, ds ++ s, by simp [sign, hd], .inr (isDigit_of_mem_toDigits (n := m) (by simp [hd]))⟩
  cases n with
  | integer i =>
    rw [renderNumber, integer_eq, ← List.append_nil (Nat.toDigits _ _)]
    exact hfront _ _ _
  | real negative significand exponent =>
    rw [renderNumber, Text.toList_decimal, ← sign, List.append_assoc]
    exact hfront _ _ _

theorem Leads.ne {c d : Char} (h : Leads c) (hd : d ≠ '-' ∧ d.isDigit = false) : c ≠ d := by
  rintro rfl
  rcases h with h | h
  · exact hd.1 h
  · simp [hd.2] at h

theorem Leads.isBlank_eq_false {c : Char} (h : Leads c) : isBlank c = false := by
  simp [isBlank, h.ne]

/-- A value begins with no blank and not with the bracket that closes an array. -/
theorem chars_front (j : Json) : ∃ c s, j.chars = c :: s ∧ isBlank c = false ∧ c ≠ ']' := by
  cases j with
  | bool b => cases b <;> exact ⟨_, _, rfl, by decide, by decide⟩
  | number n =>
    obtain ⟨c, s, h, hc⟩ := renderNumber_front n
    exact ⟨c, s, h, hc.isBlank_eq_false, hc.ne (by decide)⟩
  | _ => exact ⟨_, _, rfl, by decide, by decide⟩

theorem skipBlanks_cons {c : Char} (h : isBlank c = false) : skipBlanks (c :: s) = c :: s := by
  simp [skipBlanks, h]

theorem parseValue_number {c : Char} {fuel : Nat} (h : Leads c) :
    parseValue (fuel + 1) (c :: s) =
      (number? (c :: s)).bind fun (n, rest) => some (.number n, rest) := by
  rw [parseValue, skipBlanks_cons h.isBlank_eq_false]
  split
  all_goals first
    | rfl
    | (next heq =>
        cases heq
        rcases h with h | h <;> simp at h)

theorem parseValue_items {c : Char} {fuel : Nat} (hblank : isBlank c = false) (hc : c ≠ ']') :
    parseValue (fuel + 1) ('[' :: c :: s) =
      (parseItems fuel (c :: s)).bind fun (items, rest) => some (.array items, rest) := by
  rw [parseValue, skipBlanks_cons rfl]
  simp only [skipBlanks_cons hblank]
  split
  next heq => exact absurd (List.cons.inj heq).1 hc
  next => rfl

theorem parseValue_fields {fuel : Nat} :
    parseValue (fuel + 1) ('\x7b' :: '"' :: s) = (parseFields fuel ('"' :: s)).bind
      fun (fields, rest) => some ((fields.map Json.object).getD .unreadable, rest) := by
  rw [parseValue, skipBlanks_cons rfl]
  simp only [skipBlanks_cons (c := '"') rfl]
  rfl

theorem itemChars_front (item : Json) (items : List Json) :
    ∃ c s, itemChars (item :: items) = c :: s ∧ isBlank c = false ∧ c ≠ ']' := by
  obtain ⟨c, s, h, hc⟩ := item.chars_front
  cases items with
  | nil => exact ⟨c, s, h, hc⟩
  | cons next items => exact ⟨c, s ++ ',' :: itemChars (next :: items), by simp [itemChars, h], hc⟩

theorem fieldChars_front (field : String × Json) (fields : List (String × Json)) :
    ∃ s, fieldChars (field :: fields) = '"' :: s := by
  cases fields with
  | nil => exact ⟨_, rfl⟩
  | cons next fields => exact ⟨_, rfl⟩

/-- A text is read up to the quote behind it. -/
theorem literal_quote (text : String) :
    literal {} (text.toList.flatMap escapeChar ++ '"' :: rest) =
      some (⟨some text.toList.reverse, none⟩, rest) := by
  rw [literal_escaped, List.append_nil]

@[simp] theorem Literal.text?_reverse (text : String) :
    Literal.text? ⟨some text.toList.reverse, none⟩ = some text := by
  simp [Literal.text?]

mutual

/-- A value is read up to what stands behind it. -/
theorem parseValue_chars (j : Json) (fuel : Nat) {rest : List Char}
    (hfuel : 2 * j.chars.length ≤ fuel) (hrest : Delimited rest) :
    parseValue fuel (j.chars ++ rest) = some (j.reread, rest) := by
  obtain ⟨c, s, hfront, -, -⟩ := j.chars_front
  obtain ⟨fuel, rfl⟩ : ∃ n, fuel = n + 1 := ⟨fuel - 1, by simp [hfront] at hfuel; omega⟩
  match j with
  | .null | .bool true | .bool false | .unreadable =>
    simp [parseValue, chars, reread, skipBlanks_cons, isBlank, literal, ofLiteral, Literal.text?]
  | .number n =>
    obtain ⟨c, s, hnumber, hc⟩ := renderNumber_front n
    have hread := number?_renderNumber n hrest
    rw [hnumber] at hread
    rw [chars, hnumber, List.cons_append, parseValue_number hc, ← List.cons_append, hread]
    simp [reread]
  | .string text =>
    simp [parseValue, chars, quote, reread, skipBlanks_cons, isBlank, literal_quote, ofLiteral]
  | .array [] => simp [parseValue, chars, itemChars, skipBlanks_cons, isBlank]
  | .array (item :: items) =>
    obtain ⟨c, s, hitems, hblank, hclosing⟩ := itemChars_front item items
    have hread := parseItems_itemChars (item :: items) (by simp) fuel rest
      (by simp [chars] at hfuel; omega)
    rw [hitems, List.cons_append] at hread
    simp [chars, hitems, parseValue_items hblank hclosing, hread]
  | .object [] => simp [parseValue, chars, fieldChars, skipBlanks_cons, isBlank]
  | .object (field :: fields) =>
    obtain ⟨s, hfields⟩ := fieldChars_front field fields
    have hread := parseFields_fieldChars (field :: fields) (by simp) fuel rest
      (by simp [chars] at hfuel; omega)
    rw [hfields, List.cons_append] at hread
    simp [chars, hfields, parseValue_fields, hread]

/-- Items are read up to the bracket behind them. -/
theorem parseItems_itemChars (items : List Json) (hitems : items ≠ []) (fuel : Nat)
    (rest : List Char) (hfuel : 2 * (itemChars items).length + 1 ≤ fuel) :
    parseItems fuel (itemChars items ++ ']' :: rest) = some (rereadItems items, rest) := by
  obtain ⟨fuel, rfl⟩ : ∃ n, fuel = n + 1 := ⟨fuel - 1, by omega⟩
  match items with
  | [] => contradiction
  | [item] =>
    have hitem := parseValue_chars item fuel (by simp [itemChars] at hfuel; omega)
      (.bracket rest)
    simp [parseItems, itemChars, hitem, rereadItems, skipBlanks_cons, isBlank]
  | item :: next :: items =>
    have hitem := parseValue_chars item fuel (by simp [itemChars] at hfuel; omega)
      (.comma (itemChars (next :: items) ++ ']' :: rest))
    have hnext := parseItems_itemChars (next :: items) (by simp) fuel rest
      (by simp [itemChars] at hfuel ⊢; omega)
    simp [parseItems, itemChars, hitem, hnext, rereadItems, skipBlanks_cons, isBlank]

/-- Fields are read up to the brace behind them. -/
theorem parseFields_fieldChars (fields : List (String × Json)) (hfields : fields ≠ []) (fuel : Nat)
    (rest : List Char) (hfuel : 2 * (fieldChars fields).length + 1 ≤ fuel) :
    parseFields fuel (fieldChars fields ++ '\x7d' :: rest) =
      some (some (rereadFields fields), rest) := by
  obtain ⟨fuel, rfl⟩ : ∃ n, fuel = n + 1 := ⟨fuel - 1, by omega⟩
  match fields with
  | [] => contradiction
  | [(name, value)] =>
    have hvalue := parseValue_chars value fuel (by simp [fieldChars] at hfuel; omega)
      (.brace rest)
    simp [parseFields, fieldChars, quote, literal_quote, hvalue, rereadFields, skipBlanks_cons,
      isBlank]
  | (name, value) :: next :: fields =>
    have hvalue := parseValue_chars value fuel (by simp [fieldChars] at hfuel; omega)
      (.comma (fieldChars (next :: fields) ++ '\x7d' :: rest))
    have hnext := parseFields_fieldChars (next :: fields) (by simp) fuel rest
      (by simp [fieldChars] at hfuel ⊢; omega)
    simp [parseFields, fieldChars, quote, literal_quote, hvalue, hnext, rereadFields,
      skipBlanks_cons, isBlank]

end

/-- A value that was written is read back. -/
theorem parse?_render (j : Json) : parse? j.render = some j.reread := by
  have h := parseValue_chars j (2 * j.chars.length + 2) (by omega) .nil
  rw [List.append_nil] at h
  rw [parse?, render, String.toList_ofList, h]
  rfl

end Json

end KernelProbe
