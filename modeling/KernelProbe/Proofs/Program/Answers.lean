import KernelProbe.Proofs.Program.Plays

/-!
# Answers and sights

A course of a program says what was asked and answered, not by whom. `Journal.Answered` says that a
kernel and a reporter gave the answers of a journal: a run against them is a course of the program
that they answered (`Program.run_eq_iff`).

Log events and report events tell a program nothing. `Journal.seen` is the rest of a journal, by
which alone a program can go, and `Journal.readings` the times that the clock showed in it.
-/

namespace KernelProbe

variable {α κ ρ : Type} {kernel : Kernel κ} {reporter : Reporter ρ}

/-! ## Answers -/

namespace Journal

/-- The answers in the journal are those of the kernel and the reporter, whose states they take from
the first two to the last two. -/
def Answered (kernel : Kernel κ) (reporter : Reporter ρ) : Journal → κ → ρ → κ → ρ → Prop
  | [], k, r, k', r' => k' = k ∧ r' = r
  | ⟨q, a⟩ :: j, k, r, k', r' =>
    (answer kernel reporter q k r).1 = a ∧
      Answered kernel reporter j (answer kernel reporter q k r).2.1
        (answer kernel reporter q k r).2.2 k' r'

/-- Nothing is asked; log events are noted. -/
def OnlyLogs (j : Journal) : Prop := ∀ e ∈ j, ∃ event, e = ⟨.log event, ()⟩

theorem answered_append {j₁ j₂ : Journal} {k k' : κ} {r r' : ρ} :
    (j₁ ++ j₂).Answered kernel reporter k r k' r' ↔
      ∃ k₁ r₁, j₁.Answered kernel reporter k r k₁ r₁ ∧
        j₂.Answered kernel reporter k₁ r₁ k' r' := by
  induction j₁ generalizing k r with
  | nil =>
    constructor
    · intro h
      exact ⟨k, r, ⟨rfl, rfl⟩, h⟩
    · rintro ⟨_, _, ⟨rfl, rfl⟩, h⟩
      exact h
  | cons e j₁ ih =>
    simp only [List.cons_append, Answered, ih]
    constructor
    · rintro ⟨ha, k₁, r₁, h₁, h₂⟩
      exact ⟨k₁, r₁, ⟨ha, h₁⟩, h₂⟩
    · rintro ⟨k₁, r₁, ⟨ha, h₁⟩, h₂⟩
      exact ⟨ha, k₁, r₁, h₁, h₂⟩

/-- Log events leave the kernel and the reporter as they are. -/
theorem OnlyLogs.answered {j : Journal} (h : j.OnlyLogs) {k k' : κ} {r r' : ρ}
    (ha : j.Answered kernel reporter k r k' r') : k' = k ∧ r' = r := by
  induction j with
  | nil => exact ha
  | cons e j ih =>
    obtain ⟨event, rfl⟩ := h e List.mem_cons_self
    exact ih (fun e' he' => h e' (List.mem_cons_of_mem _ he')) ha.2

@[simp] theorem onlyLogs_nil : OnlyLogs [] := by simp [OnlyLogs]

@[simp] theorem onlyLogs_log (event : LogEvent) : OnlyLogs [⟨.log event, ()⟩] := by
  simp only [OnlyLogs, List.mem_singleton]
  rintro _ rfl
  exact ⟨event, rfl⟩

theorem OnlyLogs.calls {j : Journal} (h : j.OnlyLogs) : j.calls = [] := by
  refine List.filterMap_eq_nil_iff.mpr fun e he => ?_
  obtain ⟨event, rfl⟩ := h e he
  rfl

theorem OnlyLogs.append {j₁ j₂ : Journal} (h₁ : j₁.OnlyLogs) (h₂ : j₂.OnlyLogs) :
    (j₁ ++ j₂).OnlyLogs := fun e he => (List.mem_append.mp he).elim (h₁ e) (h₂ e)

end Journal

/-- A run is a course of the program in which the kernel and the reporter gave the answers. -/
theorem Program.run_eq_iff {p : Program α} {k k' : κ} {r r' : ρ} {a : α} {j : Journal} :
    p.run kernel reporter k r = ⟨a, k', r', j⟩ ↔
      p.Plays j a ∧ j.Answered kernel reporter k r k' r' := by
  induction p generalizing k r j with
  | pure b =>
    simp only [run, Execution.mk.injEq]
    constructor
    · rintro ⟨rfl, rfl, rfl, rfl⟩
      exact ⟨⟨rfl, rfl⟩, rfl, rfl⟩
    · rintro ⟨⟨rfl, rfl⟩, rfl, rfl⟩
      exact ⟨rfl, rfl, rfl, rfl⟩
  | ask q next ih =>
    constructor
    · intro h
      -- what follows the question is a run of its own
      have hrest : (next (answer kernel reporter q k r).1).run kernel reporter
          (answer kernel reporter q k r).2.1 (answer kernel reporter q k r).2.2
          = ⟨a, k', r', j.tail⟩ := by
        cases h
        rfl
      obtain ⟨hplays, ha⟩ := (ih _).mp hrest
      cases h
      exact ⟨⟨_, _, rfl, hplays⟩, rfl, ha⟩
    · rintro ⟨⟨b, rest, rfl, hplays⟩, rfl, ha⟩
      have hrest := (ih _).mpr ⟨hplays, ha⟩
      simp only [run, hrest]

/-! ## What was seen -/

/-- Whether the answer tells a program something; log events and report events tell others. -/
def Request.informs : Request → Bool
  | supports _ | call _ | clock | load _ => true
  | log _ | report _ => false

/-- The time, if the entry is a reading of the clock. -/
def Entry.reading? : Entry → Option Instant
  | ⟨.clock, now⟩ => some now
  | _ => none

instance : DecidablePred Exchange.Panicked := fun x =>
  match h : x.reply.returned with
  | .panicked fault => isTrue ⟨fault, h⟩
  | .value _ => isFalse (by simp [Exchange.Panicked, h])
  | .failed _ => isFalse (by simp [Exchange.Panicked, h])

namespace Journal

/-- What a program saw: its dealings with the kernel and its readings of the clock. -/
def seen (j : Journal) : Journal := j.filter (·.request.informs)

/-- The readings of the clock. -/
def readings (j : Journal) : List Instant := j.filterMap Entry.reading?

variable (j j₁ j₂ : Journal)

@[simp] theorem seen_nil : seen [] = [] := rfl

@[simp] theorem seen_append : seen (j₁ ++ j₂) = j₁.seen ++ j₂.seen := List.filter_append j₁ j₂

@[simp] theorem seen_cons (e : Entry) :
    seen (e :: j) = if e.request.informs then e :: j.seen else j.seen := List.filter_cons

/-- Dealings with the kernel are seen. -/
theorem kernel_seen : j.seen.kernel = j.kernel := by
  rw [seen, kernel, List.filter_filter, kernel]
  refine List.filter_congr fun e _ => ?_
  cases e.request <;> rfl

theorem readings_seen : j.seen.readings = j.readings := by
  induction j with
  | nil => rfl
  | cons e j ih =>
    obtain ⟨q, answer⟩ := e
    simp only [readings] at ih
    cases q <;> simp [readings, Request.informs, Entry.reading?, List.filterMap_cons, ih]

variable {j j₁ j₂}

theorem mem_readings {now : Instant} : now ∈ j.readings ↔ ⟨.clock, now⟩ ∈ j := by
  simp only [readings, List.mem_filterMap]
  constructor
  · rintro ⟨⟨q, answer⟩, hmem, heq⟩
    cases q <;> cases heq
    exact hmem
  · exact fun hmem => ⟨_, hmem, rfl⟩

theorem trace_eq_of_seen (h : j₁.seen = j₂.seen) : j₁.trace = j₂.trace :=
  trace_eq_of_kernel (by rw [← kernel_seen, h, kernel_seen])

theorem readings_eq_of_seen (h : j₁.seen = j₂.seen) : j₁.readings = j₂.readings := by
  rw [← readings_seen, h, readings_seen]

theorem OnlyLogs.seen (h : j.OnlyLogs) : j.seen = [] := by
  refine List.filter_eq_nil_iff.mpr fun e he => ?_
  obtain ⟨event, rfl⟩ := h e he
  simp [Request.informs]

end Journal

end KernelProbe
