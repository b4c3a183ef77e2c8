import KernelProbe.CommandLine.Parse

/-!
# Options with their values behind them

Arguments are read one at a time, and an option waits for its value. Arguments that name options and
give each a plain value (`spell`) are read as if these options were accepted from left to right
(`parse_spell`).
-/

namespace KernelProbe

theorem Switch.ofLongName?_longName (s : Setting) : ofLongName? s.longName = some (.setting s) := by
  cases s <;> rfl

namespace CommandLine

/-- The arguments that name options and give each the value behind it. -/
def spell (l : List (Setting × String)) : List String :=
  l.flatMap fun p => ["--" ++ p.1.longName, p.2]

/-- The option takes a value, and the value does not look like an option itself. -/
structure Plain (p : Setting × String) : Prop where
  takesValue : p.1.arity ≠ .flag
  plain : Argument.of p.2 = .plain

instance (p : Setting × String) : Decidable (Plain p) :=
  decidable_of_iff (p.1.arity ≠ .flag ∧ Argument.of p.2 = .plain)
    ⟨fun h => ⟨h.1, h.2⟩, fun h => ⟨h.takesValue, h.plain⟩⟩

/-- Accept options with their values from left to right. -/
def Reading.acceptAll (r : Reading) (l : List (Setting × String)) : Except Usage Reading :=
  l.foldlM (fun r p => r.accept p.1 p.2) r

variable {r : Reading} {s : Setting} {value : String} {rest : List String}

theorem Argument.of_longName (s : Setting) :
    Argument.of ("--" ++ s.longName) = .long s.longName none := by
  cases s <;> rfl

/-- An argument that is no value for an option that waits for one is looked at by itself. -/
theorem readArguments_cons (hr : ∀ s, r.pending ≠ some (s, none)) (arg : String) :
    readArguments r (arg :: rest) = readArguments.readOther r (Argument.of arg) arg rest := by
  rw [readArguments]
  split
  next h => exact absurd h (hr _)
  next => rfl

/-- An option and the plain value behind it, once the option before it is accepted. -/
theorem readArguments_option (h : Plain (s, value)) (hr : ∀ s, r.pending ≠ some (s, none)) :
    readArguments r (("--" ++ s.longName) :: value :: rest) =
      r.settle >>= fun r => readArguments { r with pending := some (s, some value) } rest := by
  have hlong : readLong r s.longName none =
      r.settle >>= fun r => pure { r with pending := some (s, none) } := by
    simp only [readLong, Switch.ofLongName?_longName]
    exact if_neg h.takesValue
  rw [readArguments_cons hr, Argument.of_longName, readArguments.readOther, hlong, bind_assoc]
  refine bind_congr fun r' => ?_
  rw [pure_bind, readArguments, h.plain]
  exact if_pos (.inr rfl)

/-- Options with plain values are accepted from left to right. -/
theorem readArguments_spell {l : List (Setting × String)} (hl : ∀ p ∈ l, Plain p)
    (hr : ∀ s, r.pending ≠ some (s, none)) :
    readArguments r (spell l) = r.settle >>= fun r => r.acceptAll l := by
  induction l generalizing r with
  | nil => simp [spell, readArguments, Reading.acceptAll]
  | cons p l ih =>
    obtain ⟨hp, hl⟩ := List.forall_mem_cons.mp hl
    refine (readArguments_option hp hr).trans (bind_congr fun r' => ?_)
    rw [Reading.acceptAll, List.foldlM_cons]
    -- the option is accepted when the next one comes
    exact ih hl (by simp)

/-- With nothing in the environment, the arguments say all. -/
theorem readEnvironment_nil (r : Reading) : readEnvironment [] r = .ok r.options := by
  simp [readEnvironment]
  rfl

/-- A command line of options with plain values says what these come to, one after the other. -/
theorem parse_spell {l : List (Setting × String)} (hl : ∀ p ∈ l, Plain p) :
    parse (spell l) [] = (Reading.acceptAll {} l).map Reading.options := by
  rw [parse, readArguments_spell hl (by simp)]
  show (do readEnvironment [] (← Reading.acceptAll {} l)) = _
  cases Reading.acceptAll {} l with
  | error e => rfl
  | ok r => exact readEnvironment_nil r

example : parse ["--page-size", "0x10000", "--only", "memory,uname"] [] =
    .ok { pageSize := 0x10000, only := ["memory", "uname"] } :=
  parse_spell (l := [(.pageSize, "0x10000"), (.only, "memory,uname")]) (by decide)

end CommandLine

end KernelProbe
