import KernelProbe.Json.Printer

/-!
# What a JSON value is written with

`Json.le_of_mem_render` says that a value is written without control characters, line breaks
included, whatever stands in its texts and names: the escapes take their place.
-/

namespace KernelProbe.Json

/-- Neither a line break nor another control character. -/
def Printable (s : List Char) : Prop := ∀ c ∈ s, 0x20 ≤ c.toNat

instance : DecidablePred Printable := fun s =>
  decidable_of_iff (s.all fun c => 0x20 ≤ c.toNat) (by simp [Printable])

variable {s t : List Char} {c : Char}

@[simp] theorem printable_nil : Printable [] := by simp [Printable]

@[simp] theorem printable_cons : Printable (c :: s) ↔ 0x20 ≤ c.toNat ∧ Printable s :=
  List.forall_mem_cons

@[simp] theorem printable_append : Printable (s ++ t) ↔ Printable s ∧ Printable t :=
  List.forall_mem_append

theorem le_toNat_digitChar {n : Nat} (h : n < 16) : 0x20 ≤ (Nat.digitChar n).toNat := by
  have hall : ∀ d < 16, 0x20 ≤ (Nat.digitChar d).toNat := by decide
  exact hall n h

theorem printable_decimal (n : Nat) : Printable (Text.decimal n).toList := by
  intro c hc
  rw [Text.toList_decimal] at hc
  have hdigit : c.isDigit := Nat.isDigit_of_mem_toDigits (by decide) (by decide) hc
  rw [Char.isDigit_iff_toNat] at hdigit
  exact Nat.le_trans (by decide) hdigit.1

theorem printable_integer (i : Int) : Printable (Text.integer i).toList := by
  unfold Text.integer
  split
  · rw [String.toList_append, printable_append]
    exact ⟨by decide, printable_decimal _⟩
  · exact printable_decimal _

theorem printable_renderNumber (n : JsonNumber) : Printable (renderNumber n) := by
  cases n with
  | integer i => exact printable_integer i
  | real negative digits exponent =>
    have hsign : Printable (if negative then ['-'] else []) := by cases negative <;> simp
    simp only [renderNumber, printable_append, printable_cons]
    exact ⟨⟨hsign, printable_decimal _⟩, by decide, printable_integer _⟩

theorem ite_of_printable {p : Prop} [Decidable p] (hs : Printable s) (ht : Printable t) :
    Printable (if p then s else t) := by
  split
  · exact hs
  · exact ht

/-- A character is escaped if it is a control character. -/
theorem printable_escapeChar (c : Char) : Printable (escapeChar c) := by
  unfold escapeChar
  iterate 7 refine ite_of_printable (by decide) ?_
  split
  next hcontrol =>
    -- what is written for a control character is its number in two digits
    have hhigh : 0x20 ≤ (hexDigit (c.toNat / 16)).toNat := le_toNat_digitChar (by omega)
    have hlow : 0x20 ≤ (hexDigit (c.toNat % 16)).toNat := le_toNat_digitChar (by omega)
    simp [hhigh, hlow]
  next hplain => simpa using hplain

theorem printable_quote (s : String) : Printable (quote s) := by
  simp only [quote, printable_cons, printable_append]
  refine ⟨by decide, fun c hc => ?_, by decide, printable_nil⟩
  obtain ⟨c', -, hc⟩ := List.mem_flatMap.mp hc
  exact printable_escapeChar c' c hc

mutual

theorem printable_chars : (j : Json) → Printable j.chars
  | .null | .bool true | .bool false | .unreadable => by simp [chars]
  | .number n => by simpa [chars] using printable_renderNumber n
  | .string s => by simpa [chars] using printable_quote s
  | .array items => by simpa [chars] using printable_itemChars items
  | .object fields => by simpa [chars] using printable_fieldChars fields

theorem printable_itemChars : (items : List Json) → Printable (itemChars items)
  | [] => by simp [itemChars]
  | [item] => by simpa [itemChars] using printable_chars item
  | item :: next :: rest => by
    simpa [itemChars] using ⟨printable_chars item, printable_itemChars (next :: rest)⟩

theorem printable_fieldChars : (fields : List (String × Json)) → Printable (fieldChars fields)
  | [] => by simp [fieldChars]
  | [(name, value)] => by
    simpa [fieldChars] using ⟨printable_quote name, printable_chars value⟩
  | (name, value) :: next :: rest => by
    simpa [fieldChars] using
      ⟨printable_quote name, printable_chars value, printable_fieldChars (next :: rest)⟩

end

/-- A value is written without control characters. -/
theorem le_of_mem_render {j : Json} {c : Char} (h : c ∈ j.render.toList) : 0x20 ≤ c.toNat := by
  rw [render, String.toList_ofList] at h
  exact printable_chars j c h

end KernelProbe.Json
