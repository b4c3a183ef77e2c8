/-!
# Cutting and joining text

`splitOn` cuts a text at every occurrence of one character, so that a text with `n` of them has
`n + 1` pieces; `join` puts a separator between texts.
-/

namespace KernelProbe.Text

/-- The pieces between the occurrences of `sep`; the empty text is one empty piece. -/
def splitOn (sep : Char) : List Char → List (List Char)
  | [] => [[]]
  | c :: rest =>
    if c = sep then [] :: splitOn sep rest
    else match splitOn sep rest with
      | [] => [[c]]
      | piece :: pieces => (c :: piece) :: pieces

/-- The texts one after another with `sep` between neighbours. -/
def join (sep : String) (texts : List String) : String := sep.intercalate texts

theorem splitOn_ne_nil (sep : Char) (s : List Char) : splitOn sep s ≠ [] := by
  cases s with
  | nil => simp [splitOn]
  | cons c rest =>
    unfold splitOn
    split
    · simp
    · split <;> simp

theorem not_mem_of_mem_splitOn {sep : Char} {s piece : List Char} (h : piece ∈ splitOn sep s) :
    sep ∉ piece := by
  induction s generalizing piece with
  | nil => simp_all [splitOn]
  | cons c rest ih =>
    unfold splitOn at h
    split at h
    · rcases List.mem_cons.1 h with rfl | h
      · simp
      · exact ih h
    · rename_i hc
      split at h
      · rename_i heq
        exact absurd heq (splitOn_ne_nil sep rest)
      · rename_i first others heq
        rcases List.mem_cons.1 h with rfl | h
        · have := @ih first (by simp [heq])
          simp [this, Ne.symm hc]
        · exact ih (by simp [heq, h])

end KernelProbe.Text
