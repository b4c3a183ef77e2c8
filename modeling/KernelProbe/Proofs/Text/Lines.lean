import KernelProbe.Abi.SyscallError
import KernelProbe.Text.Split
import KernelProbe.Text.Style
import KernelProbe.Text.Table
import KernelProbe.Time.Duration
import KernelProbe.Time.Timestamp
import KernelProbe.Proofs.Json.Printer

/-!
# Lines of a text

A text is one line (`OneLine`) if it has no line break. Numerals, times, error numbers and the names
of system calls are, and what is put together from such texts is. `linesFrom mark text` counts the
lines of a text that begin with a mark; a text that is put together from lines has just these
(`linesFrom_unlines`).
-/

namespace KernelProbe.Text

/-- The text has no line break. -/
def OneLine (s : String) : Prop := '\n' ∉ s.toList

instance : DecidablePred OneLine := fun s => inferInstanceAs (Decidable ('\n' ∉ s.toList))

variable {s t : String}

@[simp] theorem oneLine_append : OneLine (s ++ t) ↔ OneLine s ∧ OneLine t := by
  simp [OneLine]

@[simp] theorem oneLine_ofList {chars : List Char} :
    OneLine (String.ofList chars) ↔ '\n' ∉ chars := by
  simp [OneLine]

theorem oneLine_of_printable (h : Json.Printable s.toList) : OneLine s :=
  fun hmem => absurd (h _ hmem) (by decide)

theorem oneLine_join {sep : String} {texts : List String} (hsep : OneLine sep)
    (h : ∀ text ∈ texts, OneLine text) : OneLine (sep.intercalate texts) := by
  induction texts with
  | nil => simp [OneLine]
  | cons text texts ih =>
    obtain ⟨htext, htexts⟩ := List.forall_mem_cons.mp h
    cases texts with
    | nil => simpa using htext
    | cons next texts =>
      rw [String.intercalate_cons_cons, oneLine_append, oneLine_append]
      exact ⟨⟨htext, hsep⟩, ih htexts⟩

/-! ## Numerals -/

theorem mem_toDigits {base n : Nat} (hone : 1 < base) (hbase : base ≤ 16) {c : Char}
    (h : c ∈ Nat.toDigits base n) : ∃ d < 16, c = Nat.digitChar d := by
  induction n using Nat.strongRecOn with
  | ind n ih =>
    rw [Nat.toDigits_eq_if hone] at h
    split at h
    next hlt => exact ⟨n, Nat.lt_of_lt_of_le hlt hbase, List.mem_singleton.mp h⟩
    next hge =>
      rcases List.mem_append.mp h with h | h
      · exact ih (n / base) (Nat.div_lt_self (by omega) hone) h
      · exact ⟨n % base, by have := Nat.mod_lt n (Nat.lt_of_succ_lt hone); omega,
          List.mem_singleton.mp h⟩

theorem newline_not_mem_toDigits {base n : Nat} (hone : 1 < base) (hbase : base ≤ 16) :
    '\n' ∉ Nat.toDigits base n := by
  intro h
  obtain ⟨d, hd, heq⟩ := mem_toDigits hone hbase h
  have hall : ∀ d < 16, '\n' ≠ Nat.digitChar d := by decide
  exact hall d hd heq

@[simp] theorem oneLine_decimal (n : Nat) : OneLine (decimal n) :=
  oneLine_of_printable (Json.printable_decimal n)

@[simp] theorem oneLine_integer (i : Int) : OneLine (integer i) :=
  oneLine_of_printable (Json.printable_integer i)

@[simp] theorem oneLine_hex (n : Nat) : OneLine (hex n) := by
  simp [OneLine, newline_not_mem_toDigits]

@[simp] theorem oneLine_wordHex (w : Int64) : OneLine (wordHex w) := oneLine_hex _

@[simp] theorem oneLine_zeroPadded (width n : Nat) : OneLine (zeroPadded width n) := by
  simp [zeroPadded, newline_not_mem_toDigits]

/-! ## Times -/

theorem oneLine_decimalFraction (n places : Nat) : OneLine (Duration.decimalFraction n places) := by
  have hfraction :
      '\n' ∉ Duration.trimZeros (zeroPadded places (n % Nat.pow 10 places)).toList := by
    intro h
    rw [Duration.trimZeros, List.mem_reverse] at h
    exact oneLine_zeroPadded places _ (by simpa using (List.dropWhile_sublist _).subset h)
  unfold Duration.decimalFraction
  dsimp only
  split
  · exact oneLine_decimal _
  · simp only [oneLine_append, oneLine_decimal, oneLine_ofList]
    exact ⟨⟨trivial, by decide⟩, hfraction⟩

@[simp] theorem oneLine_duration (d : Duration) : OneLine d.text := by
  unfold Duration.text
  (repeat' split) <;> simp +decide [oneLine_decimalFraction]

theorem oneLine_year (year : Int) : OneLine (Timestamp.yearText year) := by
  unfold Timestamp.yearText
  (repeat' split) <;> simp +decide

@[simp] theorem oneLine_timestamp (millis : Int) : OneLine (Timestamp.text millis) := by
  unfold Timestamp.text
  dsimp only
  (repeat' split) <;> simp +decide [oneLine_year]

/-! ## System calls -/

@[simp] theorem oneLine_syscall (syscall : Syscall) : OneLine syscall.name := by
  cases syscall <;> decide

theorem oneLine_errno (e : Errno) : OneLine e.name ∧ OneLine e.text := by
  have hall : ∀ line ∈ errnoTable, OneLine line.name ∧ OneLine line.text := by
    -- as lists of characters, for it takes the kernel long to decode the texts
    simp only [errnoTable, List.forall_mem_cons]
    repeat' apply And.intro
    all_goals first
      | exact oneLine_ofList.mpr (by decide)
      | exact List.forall_mem_nil _
  exact hall _ e.entry_mem.1

@[simp] theorem oneLine_syscallError (e : SyscallError) : OneLine e.message := by
  simp +decide [SyscallError.message, oneLine_errno]

/-! ## Styles -/

theorem mem_afterResets {again chars : List Char} {c : Char}
    (h : c ∈ Style.afterResets again chars) : c ∈ Style.reset ∨ c ∈ again ∨ c ∈ chars := by
  fun_induction Style.afterResets again chars with
  | case1 => cases h
  | case2 rest ih =>
    rcases List.mem_append.mp h with h | h
    · exact (List.mem_append.mp h).elim .inl (.inr ∘ .inl)
    · exact (ih h).imp_right (.imp_right fun h => by simp [h])
  | case3 c' rest _ ih =>
    rcases List.mem_cons.mp h with rfl | h
    · exact .inr (.inr List.mem_cons_self)
    · exact (ih h).imp_right (.imp_right fun h => List.mem_cons_of_mem _ h)

/-- A style without line breaks of its own adds none to a text. -/
theorem oneLine_paint {color : Bool} {style : Style} (hstyle : '\n' ∉ style.start) (h : OneLine s) :
    OneLine (style.paint color s) := by
  unfold Style.paint
  split
  · have hmiddle : '\n' ∉ Style.afterResets style.start s.toList := fun hmem =>
      (mem_afterResets hmem).elim (by decide) (·.elim hstyle h)
    simp only [oneLine_ofList, List.mem_append, not_or]
    exact ⟨⟨hstyle, hmiddle⟩, by decide⟩
  · exact h

/-! ## Lines with a mark -/

/-- The text begins with a mark. -/
def Begins (mark text : String) : Prop := mark.toList <+: text.toList

instance (mark text : String) : Decidable (Begins mark text) :=
  inferInstanceAs (Decidable (mark.toList <+: text.toList))

/-- How many lines of a text begin with a mark. -/
def linesFrom (mark text : String) : Nat :=
  (splitOn '\n' text.toList).countP fun line => decide (Begins mark (String.ofList line))

/-- Some lines, each with a line break behind it. -/
def unlines (lines : List String) : String := String.join (lines.map (· ++ "\n"))

variable {mark : String} {lines more : List String}

@[simp] theorem unlines_nil : unlines [] = "" := rfl

@[simp] theorem unlines_cons : unlines (s :: lines) = s ++ "\n" ++ unlines lines := String.join_cons

@[simp] theorem unlines_append : unlines (lines ++ more) = unlines lines ++ unlines more := by
  rw [unlines, List.map_append, String.join_append]
  rfl

/-- The lines of a text, cut at its line breaks. -/
def lineList (text : String) : List String := (splitOn '\n' text.toList).map String.ofList

theorem splitOn_eq_singleton {sep : Char} {line : List Char} (h : sep ∉ line) :
    splitOn sep line = [line] := by
  induction line with
  | nil => rfl
  | cons c line ih =>
    rw [List.mem_cons, not_or] at h
    simp [splitOn, Ne.symm h.1, ih h.2]

theorem splitOn_append_cons {sep : Char} (line rest : List Char) :
    splitOn sep (line ++ sep :: rest) = splitOn sep line ++ splitOn sep rest := by
  induction line with
  | nil => simp [splitOn]
  | cons c line ih =>
    obtain ⟨piece, pieces, hline⟩ := List.exists_cons_of_ne_nil (splitOn_ne_nil sep line)
    rw [List.cons_append, splitOn, splitOn, ih, hline]
    split <;> simp

/-- What is put together from texts has the lines of these texts. -/
theorem linesFrom_unlines (hmark : mark ≠ "") :
    linesFrom mark (unlines lines)
      = (lines.flatMap lineList).countP fun line => decide (Begins mark line) := by
  induction lines with
  | nil =>
    have hnone : mark.toList ≠ [] := by simpa using hmark
    simpa [linesFrom, splitOn, Begins] using hnone
  | cons line lines ih =>
    have hsplit : splitOn '\n' (unlines (line :: lines)).toList
        = splitOn '\n' line.toList ++ splitOn '\n' (unlines lines).toList := by
      simpa using splitOn_append_cons line.toList (unlines lines).toList
    rw [List.flatMap_cons, List.countP_append, ← ih, linesFrom, hsplit, List.countP_append,
      lineList, List.countP_map]
    rfl

theorem lineList_eq_singleton (h : OneLine s) : lineList s = [s] := by
  rw [lineList, splitOn_eq_singleton h]
  simp

/-- Texts of one line are lines themselves. -/
theorem flatMap_lineList (h : ∀ line ∈ lines, OneLine line) : lines.flatMap lineList = lines := by
  induction lines with
  | nil => rfl
  | cons line lines ih =>
    obtain ⟨hline, hlines⟩ := List.forall_mem_cons.mp h
    rw [List.flatMap_cons, lineList_eq_singleton hline, ih hlines, List.singleton_append]

theorem begins_append : Begins mark (mark ++ t) := by simp [Begins]

/-- A text that begins with a mark of one line has a line that does. -/
theorem exists_begins_lineList (hmark : OneLine mark) (t : String) :
    ∃ line ∈ lineList (mark ++ t), Begins mark line := by
  have hsplit : ∀ line : List Char, '\n' ∉ line → ∃ first rest,
      splitOn '\n' (line ++ t.toList) = (line ++ first) :: rest := by
    intro line hline
    induction line with
    | nil => exact List.exists_cons_of_ne_nil (splitOn_ne_nil _ _)
    | cons c line ih =>
      rw [List.mem_cons, not_or] at hline
      obtain ⟨first, rest, heq⟩ := ih hline.2
      exact ⟨first, rest, by simp [splitOn, Ne.symm hline.1, heq]⟩
  obtain ⟨first, rest, heq⟩ := hsplit mark.toList hmark
  refine ⟨mark ++ String.ofList first, ?_, begins_append⟩
  rw [lineList, String.toList_append, heq]
  simp [← String.toList_inj]

/-- The lines behind a line break are lines of the whole. -/
theorem mem_lineList_of_break {line : String} (h : line ∈ lineList t) (s : String) :
    line ∈ lineList (s ++ ("\n" ++ t)) := by
  have hsplit : splitOn '\n' (s ++ ("\n" ++ t)).toList
      = splitOn '\n' s.toList ++ splitOn '\n' t.toList := by
    simpa using splitOn_append_cons s.toList t.toList
  rw [lineList, hsplit, List.map_append]
  exact List.mem_append_right _ h

/-- The first character of the text is one of these. -/
def StartsIn (chars : List Char) (text : String) : Prop :=
  ∃ c ∈ chars, text.toList.head? = some c

variable {chars : List Char}

theorem StartsIn.append (h : StartsIn chars s) (t : String) : StartsIn chars (s ++ t) := by
  obtain ⟨c, hc, heq⟩ := h
  exact ⟨c, hc, by rw [String.toList_append, List.head?_append, heq]; rfl⟩

/-- A text in a style begins with an escape, or as it does without the style. -/
theorem startsIn_paint {color : Bool} {style : Style} (hstyle : style.start.head? = some '\x1b')
    (hescape : '\x1b' ∈ chars) (h : StartsIn chars s) : StartsIn chars (style.paint color s) := by
  unfold Style.paint
  split
  · exact ⟨_, hescape, by simp [List.head?_append, hstyle]⟩
  · exact h

/-- A numeral begins with a digit. -/
theorem startsIn_decimal (hdigits : ∀ d < 16, Nat.digitChar d ∈ chars) (n : Nat) :
    StartsIn chars (decimal n) := by
  have hne : (decimal n).toList ≠ [] := by simp
  have hmem : (decimal n).toList.head hne ∈ Nat.toDigits 10 n := by simp
  obtain ⟨d, hd, heq⟩ := mem_toDigits (by decide) (by decide) hmem
  exact ⟨_, hdigits d hd, by rw [← heq, List.head?_eq_some_head]⟩

/-- A text that begins with another character does not begin with the mark. -/
theorem StartsIn.not_begins {c : Char} (h : StartsIn chars s) (hmark : mark.toList.head? = some c)
    (hc : c ∉ chars) : ¬Begins mark s := by
  obtain ⟨d, hd, hs⟩ := h
  rintro ⟨rest, heq⟩
  rw [← heq, List.head?_append, hmark] at hs
  exact hc (Option.some.inj hs ▸ hd)

/-! ## Tables -/

theorem newline_not_mem_rule (widths : List Nat) : '\n' ∉ Table.rule widths := by
  simp [Table.rule, List.mem_replicate]

/-- A line of a cell has no line break, and neither has the blank in place of one. -/
theorem newline_not_mem_padded {w i : Nat} {cell : String} :
    '\n' ∉ Table.padded w ((Table.cellLines cell).getD i []) := by
  have hline : '\n' ∉ (Table.cellLines cell).getD i [] := by
    rw [List.getD_eq_getElem?_getD]
    cases hcell : (Table.cellLines cell)[i]? with
    | none => simp
    | some line => exact not_mem_of_mem_splitOn (List.mem_of_getElem? hcell)
  simpa [Table.padded, List.mem_replicate] using hline

/-- A line of a table has no line break, and begins with a corner or a bar. -/
theorem of_mem_lines {table : Table} {line : List Char} (h : line ∈ table.lines) :
    '\n' ∉ line ∧ ∃ rest, line = '+' :: rest ∨ line = '|' :: rest := by
  unfold Table.lines at h
  rcases List.mem_cons.mp h with rfl | h
  · exact ⟨newline_not_mem_rule _, _, .inl rfl⟩
  obtain ⟨row, -, h⟩ := List.mem_flatMap.mp h
  rcases List.mem_append.mp h with h | h
  · obtain ⟨i, -, rfl⟩ := List.mem_map.mp h
    refine ⟨?_, _, .inr rfl⟩
    simp only [Table.rowLine, List.mem_cons, List.mem_flatMap, not_or, not_exists, not_and]
    refine ⟨by decide, ?_⟩
    rintro ⟨w, lines⟩ hcell
    obtain ⟨cell, -, rfl⟩ := List.mem_map.mp (List.of_mem_zip hcell).2
    exact newline_not_mem_padded
  · rw [List.mem_singleton.mp h]
    exact ⟨newline_not_mem_rule _, _, .inl rfl⟩

/-- A drawn table with a line break behind it is put together from its lines. -/
theorem render_eq_unlines (table : Table) :
    table.render ++ "\n" = unlines (table.lines.map String.ofList) := by
  have hall (lines : List (List Char)) (h : lines ≠ []) :
      String.ofList (['\n'].intercalate lines) ++ "\n" = unlines (lines.map String.ofList) := by
    induction lines with
    | nil => exact absurd rfl h
    | cons line lines ih =>
      cases lines with
      | nil => simp
      | cons next lines =>
        rw [List.map_cons, unlines_cons, ← ih (by simp)]
        simp [← String.toList_inj, List.intercalate_cons_cons]
  exact hall _ (by simp [Table.lines])

end KernelProbe.Text
