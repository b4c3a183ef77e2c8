import KernelProbe.Program.Execution

/-!
# What a program can go through

`Program.Plays p j a` says that `p` can ask and be answered as the journal `j` has it and then give
`a`. The relation knows nothing of a kernel or a reporter: it holds for every answer that the type
of a question allows. `run_plays` says that a run against a kernel and a reporter is such a course,
so that what holds of every course holds of every run against every kernel and every reporter.

A course of two programs in sequence is a course of the first followed by one of the second
(`plays_bind`). The rest of the module reads a journal: its dealings with the kernel, its calls with
their replies, and what a call gave.
-/

namespace KernelProbe

/-! ## Courses -/

namespace Program

variable {α β κ ρ : Type}

/-- The program can ask and be answered as the journal has it and then give the result. -/
def Plays : Program α → Journal → α → Prop
  | pure b, j, a => j = [] ∧ a = b
  | ask q next, j, a => ∃ answer rest, j = ⟨q, answer⟩ :: rest ∧ (next answer).Plays rest a

@[simp] theorem plays_pure (b a : α) (j : Journal) :
    Plays (Pure.pure b) j a ↔ j = [] ∧ a = b := Iff.rfl

@[simp] theorem plays_ask (q : Request) (next : q.Answer → Program α) (j : Journal) (a : α) :
    (ask q next).Plays j a ↔
      ∃ answer rest, j = ⟨q, answer⟩ :: rest ∧ (next answer).Plays rest a := Iff.rfl

@[simp] theorem plays_request (q : Request) (j : Journal) (a : q.Answer) :
    (request q).Plays j a ↔ j = [⟨q, a⟩] := by
  constructor
  · rintro ⟨answer, rest, rfl, rfl, rfl⟩
    rfl
  · rintro rfl
    exact ⟨a, [], rfl, rfl, rfl⟩

@[simp] theorem plays_log (event : LogEvent) (j : Journal) (a : Unit) :
    (log event).Plays j a ↔ j = [⟨.log event, ()⟩] := plays_request (.log event) j a

/-- A course of a sequence is a course of its first part followed by one of its second. -/
theorem plays_bind (p : Program α) (f : α → Program β) (j : Journal) (b : β) :
    (p >>= f).Plays j b ↔
      ∃ j₁ a j₂, j = j₁ ++ j₂ ∧ p.Plays j₁ a ∧ (f a).Plays j₂ b := by
  show (p.bind f).Plays j b ↔ _
  induction p generalizing j with
  | pure a =>
    constructor
    · intro h
      exact ⟨[], a, j, rfl, ⟨rfl, rfl⟩, h⟩
    · rintro ⟨_, _, _, rfl, ⟨rfl, rfl⟩, h⟩
      exact h
  | ask q next ih =>
    simp only [ask_bind, plays_ask, ih]
    constructor
    · rintro ⟨answer, _, rfl, j₁, a, j₂, rfl, h₁, h₂⟩
      exact ⟨⟨q, answer⟩ :: j₁, a, j₂, rfl, ⟨answer, j₁, rfl, h₁⟩, h₂⟩
    · rintro ⟨_, a, j₂, rfl, ⟨answer, j₁, rfl, h₁⟩, h₂⟩
      exact ⟨answer, j₁ ++ j₂, rfl, j₁, a, j₂, rfl, h₁, h₂⟩

/-- A run against a kernel and a reporter is a course of the program. -/
theorem run_plays (kernel : Kernel κ) (reporter : Reporter ρ) (p : Program α) (k : κ) (r : ρ) :
    p.Plays (p.run kernel reporter k r).journal (p.run kernel reporter k r).result := by
  induction p generalizing k r with
  | pure a => exact ⟨rfl, rfl⟩
  | ask q next ih => exact ⟨_, _, rfl, ih _ _ _⟩

end Program

/-! ## Reading a journal -/

/-- Whether a question is a dealing with the kernel: a query, a call or the load of a shared
word. -/
def Request.toKernel : Request → Bool
  | supports _ | call _ | load _ => true
  | clock | log _ | report _ => false

/-- A call and its reply. -/
structure Exchange where
  /-- The call. -/
  call : Call
  /-- The reply. -/
  reply : Reply call.Value

/-- The code that made the call gave up. -/
def Exchange.Panicked (x : Exchange) : Prop := ∃ fault, x.reply.returned = .panicked fault

/-- The call and its reply, if the entry is a call. -/
def Entry.exchange? : Entry → Option Exchange
  | ⟨.call c, reply⟩ => some ⟨c, reply⟩
  | _ => none

namespace Journal

/-- The dealings with the kernel. -/
def kernel (j : Journal) : Journal := j.filter (·.request.toKernel)

/-- The calls with their replies. -/
def trace (j : Journal) : List Exchange := j.filterMap Entry.exchange?

/-- The call was made and came back like this. -/
def CameBack (j : Journal) (c : Call) (x : Returned c.Value) : Prop :=
  ∃ reply : Reply c.Value, (⟨.call c, reply⟩ : Entry) ∈ j ∧ reply.returned = x

/-- A shared word was found to hold 0. -/
def ReadZero (j : Journal) : Prop := ∃ last, (⟨.load last, (0 : UInt32)⟩ : Entry) ∈ j

/-- The last dealing with the kernel found a shared word to hold 0. -/
def EndsAtZero (j : Journal) : Prop :=
  ∃ last, j.kernel.getLast? = some ⟨.load last, (0 : UInt32)⟩

/-- Neither the kernel nor the reporter is asked anything but the time. -/
def Silent (j : Journal) : Prop := j.kernel = [] ∧ j.reports = []

/-- Every report event was taken. -/
def Accepted (j : Journal) : Prop :=
  ∀ event answer, (⟨.report event, answer⟩ : Entry) ∈ j → answer = .ok ()

variable (j j₁ j₂ : Journal)

@[simp] theorem kernel_nil : kernel [] = [] := rfl

@[simp] theorem kernel_append : kernel (j₁ ++ j₂) = j₁.kernel ++ j₂.kernel :=
  List.filter_append j₁ j₂

@[simp] theorem kernel_cons (e : Entry) :
    kernel (e :: j) = if e.request.toKernel then e :: j.kernel else j.kernel :=
  List.filter_cons

@[simp] theorem reports_nil : reports [] = [] := rfl

@[simp] theorem reports_append : reports (j₁ ++ j₂) = j₁.reports ++ j₂.reports :=
  List.filterMap_append

@[simp] theorem trace_nil : trace [] = [] := rfl

@[simp] theorem trace_append : trace (j₁ ++ j₂) = j₁.trace ++ j₂.trace :=
  List.filterMap_append

theorem trace_cons (e : Entry) : trace (e :: j) = e.exchange?.toList ++ j.trace := by
  unfold trace
  cases h : e.exchange? <;> simp [h]

theorem calls_cons (e : Entry) : calls (e :: j) = e.call?.toList ++ j.calls := by
  unfold calls
  cases h : e.call? <;> simp [h]

/-- The calls are those of the calls with their replies. -/
theorem map_call_trace : j.trace.map (·.call) = j.calls := by
  induction j with
  | nil => rfl
  | cons e j ih =>
    obtain ⟨q, answer⟩ := e
    cases q <;> simp [trace_cons, calls_cons, Entry.exchange?, Entry.call?, ih]

@[simp] theorem calls_nil : calls [] = [] := rfl

@[simp] theorem calls_append : calls (j₁ ++ j₂) = j₁.calls ++ j₂.calls := List.filterMap_append

/-- Calls are dealings with the kernel. -/
theorem trace_kernel : j.kernel.trace = j.trace := by
  induction j with
  | nil => rfl
  | cons e j ih =>
    obtain ⟨q, answer⟩ := e
    cases q <;> simp [trace_cons, Request.toKernel, Entry.exchange?, ih]

variable {j j₁ j₂}

/-- Journals with the same dealings have the same calls with the same replies. -/
theorem trace_eq_of_kernel (h : j₁.kernel = j₂.kernel) : j₁.trace = j₂.trace := by
  rw [← trace_kernel, h, trace_kernel]

theorem calls_eq_of_kernel (h : j₁.kernel = j₂.kernel) : j₁.calls = j₂.calls := by
  rw [← map_call_trace, trace_eq_of_kernel h, map_call_trace]

/-- An entry for the kernel is in a journal if it is among the dealings with the kernel. -/
theorem mem_kernel {e : Entry} (he : e.request.toKernel = true) : e ∈ j.kernel ↔ e ∈ j := by
  simp [kernel, he]

@[simp] theorem not_cameBack_nil {c : Call} {x : Returned c.Value} : ¬ CameBack [] c x := by
  simp [CameBack]

@[simp] theorem cameBack_supports {s : Syscall} {known : Except Fault Bool} {c : Call}
    {x : Returned c.Value} : CameBack (⟨.supports s, known⟩ :: j) c x ↔ j.CameBack c x := by
  simp [CameBack]

@[simp] theorem cameBack_call_self {c : Call} {reply : Reply c.Value} {x : Returned c.Value} :
    CameBack (⟨.call c, reply⟩ :: j) c x ↔ reply.returned = x ∨ j.CameBack c x := by
  simp [CameBack, or_and_right, exists_or]

theorem cameBack_call_of_ne {c d : Call} (h : d ≠ c) {reply : Reply c.Value}
    {x : Returned d.Value} :
    CameBack (⟨.call c, reply⟩ :: j) d x ↔ j.CameBack d x := by
  refine exists_congr fun answer => and_congr_left' ?_
  rw [List.mem_cons]
  refine or_iff_right fun heq => h ?_
  cases heq
  rfl

@[simp] theorem not_readZero_nil : ¬ ReadZero [] := by simp [ReadZero]

theorem readZero_cons {e : Entry} :
    ReadZero (e :: j) ↔ (∃ last, e = ⟨.load last, (0 : UInt32)⟩) ∨ j.ReadZero := by
  simp only [ReadZero, List.mem_cons, exists_or, eq_comm]

@[simp] theorem readZero_load {last word : UInt32} :
    ReadZero (⟨.load last, word⟩ :: j) ↔ word = 0 ∨ j.ReadZero := by
  rw [readZero_cons]
  refine or_congr_left ⟨?_, ?_⟩
  · rintro ⟨_, h⟩
    cases h
    rfl
  · rintro rfl
    exact ⟨last, rfl⟩

@[simp] theorem readZero_clock {now : Instant} :
    ReadZero (⟨.clock, now⟩ :: j) ↔ j.ReadZero := by
  simp [readZero_cons]

@[simp] theorem readZero_call {c : Call} {reply : Reply c.Value} :
    ReadZero (⟨.call c, reply⟩ :: j) ↔ j.ReadZero := by
  simp [readZero_cons]

@[simp] theorem readZero_log {event : LogEvent} :
    ReadZero (⟨.log event, ()⟩ :: j) ↔ j.ReadZero := by
  simp [readZero_cons]

theorem readZero_kernel : j.kernel.ReadZero ↔ j.ReadZero := exists_congr fun _ => mem_kernel rfl

theorem readZero_append : ReadZero (j₁ ++ j₂) ↔ j₁.ReadZero ∨ j₂.ReadZero := by
  simp only [ReadZero, List.mem_append, exists_or]

theorem EndsAtZero.append_left (h : j₂.EndsAtZero) : EndsAtZero (j₁ ++ j₂) := by
  obtain ⟨last, hlast⟩ := h
  refine ⟨last, ?_⟩
  rw [kernel_append, List.getLast?_append, hlast]
  rfl

theorem accepted_append : Accepted (j₁ ++ j₂) ↔ j₁.Accepted ∧ j₂.Accepted := by
  constructor
  · intro h
    exact ⟨fun event answer hmem => h event answer (List.mem_append_left _ hmem),
      fun event answer hmem => h event answer (List.mem_append_right _ hmem)⟩
  · rintro ⟨h₁, h₂⟩ event answer hmem
    rcases List.mem_append.mp hmem with hmem | hmem
    · exact h₁ event answer hmem
    · exact h₂ event answer hmem

end Journal

/-- A run against a reporter that takes every event leaves no event refused. -/
theorem Program.run_accepted {α κ ρ : Type} (kernel : Kernel κ) (reporter : Reporter ρ)
    (takes : ∀ event r, (reporter.receive event r).1 = .ok ()) (p : Program α) (k : κ) (r : ρ) :
    (p.run kernel reporter k r).journal.Accepted := by
  induction p generalizing k r with
  | pure a => intro event answer hmem; cases hmem
  | ask q next ih =>
    intro event answer' hmem
    rcases List.mem_cons.mp hmem with heq | hmem
    · cases q with
      | report event' =>
        cases heq
        exact takes event r
      | _ => cases heq
    · exact ih _ _ _ event answer' hmem

end KernelProbe
