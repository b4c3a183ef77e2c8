import KernelProbe.Host.Machine
import KernelProbe.Report.AuditLog
import KernelProbe.Proofs.Program.Ledger
import KernelProbe.Proofs.Session.Roster
import KernelProbe.Proofs.Session.Shares

/-!
# Descriptors are closed once

`Descriptors.ledger` says which calls give a descriptor and which hand one back. The file probes
keep the account of the descriptors in their context (`files_turns_keep`); a lifecycle probe closes
what it opened (`exec_turns_keep`), so that the teardown of its group has nothing to do. Every
descriptor is closed once, within its group and after it was opened, whatever the kernel and the
reporter answer; a close that gives up in the teardown of the files costs the descriptors behind it.
-/

namespace KernelProbe.Descriptors

open Journal Staged

/-! ## The account -/

/-- The descriptor that a call gives, if it does. -/
def given : Returned Int32 → Multiset Int32
  | .value fd => {fd}
  | _ => 0

/-- `open` and `openat` give a descriptor, `close` needs its descriptor and hands it back. -/
def ledger : Ledger Int32 where
  acquires
    | ⟨.openFile .., reply⟩ | ⟨.openAt .., reply⟩ => given reply.returned
    | _ => 0
  releases
    | ⟨.close fd, _⟩ => {fd}
    | _ => 0
  needs
    | ⟨.close fd, _⟩ => {fd}
    | _ => 0

/-- The system calls that open or close. -/
abbrev concerned : List Syscall := [.openFile, .openAt, .close]

variable {held held' : Multiset Int32} {t : List Exchange} {j : Journal} {r : Except Halt Unit}

theorem given_of_value {x : Returned Int32} {fd : Int32} (h : x = .value fd) : given x = {fd} := by
  rw [h, given]

theorem given_of_ne_value {x : Returned Int32} (h : ∀ fd, x ≠ .value fd) : given x = 0 := by
  cases x with
  | value fd => exact absurd rfl (h fd)
  | _ => rfl

theorem ignores_of_syscall {x : Exchange} (h : x.call.syscall ∉ concerned) : ledger.Ignores x := by
  obtain ⟨call, reply⟩ := x
  cases call with
  | openFile | openAt | close => simp [Call.syscall] at h
  | _ => exact ⟨rfl, rfl, rfl⟩

/-- Calls that do not concern descriptors leave the account balanced. -/
theorem balance_of_unconcerned (h : ∀ x ∈ t, x.call.syscall ∉ concerned) :
    ledger.acquired t = ledger.released t := by
  have hkeeps : ledger.Keeps 0 t 0 :=
    Ledger.keeps_of_ignored fun x hx => ignores_of_syscall (h x hx)
  simpa using hkeeps.balance

theorem keeps_openFile {path : CText} {flags : Int32} {mode : UInt32} {reply : Reply Int32}
    (h : ledger.Keeps (held + given reply.returned) t held') :
    ledger.Keeps held (⟨.openFile path flags mode, reply⟩ :: t) held' := .gain rfl rfl rfl h

theorem keeps_openAt {dirfd flags : Int32} {path : CText} {mode : UInt32} {reply : Reply Int32}
    (h : ledger.Keeps (held + given reply.returned) t held') :
    ledger.Keeps held (⟨.openAt dirfd path flags mode, reply⟩ :: t) held' := .gain rfl rfl rfl h

theorem keeps_closed {fds : List Int32} (h : t.map (·.call) = fds.map .close) :
    ledger.Keeps (fds + held) t held := by
  have hkeeps : ledger.Keeps ((fds.map id : List Int32) + held) t held :=
    Ledger.keeps_of_releases (fun _ _ => ⟨rfl, rfl, rfl⟩) h
  rwa [List.map_id] at hkeeps

/-! ## Files -/

section

open Files

variable {c c' : Files.Context} {exam : Exam Files.Context} {trial : Trial Files.Context}

/-- The calls of a file probe keep the account of the context's descriptors. -/
abbrev FilesKeep (c : Files.Context) (t : List Exchange) (c' : Files.Context) : Prop :=
  ledger.Keeps c.fds t c'.fds

theorem open_keeps {path : CText} (h : (openProbe path).Course c j r exam) :
    FilesKeep c j.trace exam.context := by
  obtain ⟨known, rfl, -, -, rfl⟩ | ⟨reply, rfl, ⟨fd, hvalue, -, hcontext⟩ | ⟨hnone, -, rfl⟩⟩ :=
    open_course h
  · exact rfl
  · refine keeps_openFile ?_
    rw [hcontext, given_of_value hvalue]
    rfl
  · refine keeps_openFile ?_
    rw [given_of_ne_value hnone, add_zero]
    rfl

theorem openAt_keeps {dirfd : Int32} {path : CText}
    (h : (openAtProbe dirfd path).Course c j r exam) :
    FilesKeep c j.trace exam.context := by
  obtain ⟨reply, rfl, ⟨fd, hvalue, -, hcontext⟩ | ⟨hnone, -, rfl⟩⟩ := openAt_course h
  · refine keeps_openAt ?_
    rw [hcontext, given_of_value hvalue]
    rfl
  · refine keeps_openAt ?_
    rw [given_of_ne_value hnone, add_zero]
    rfl

/-- The read probe keeps a descriptor that it opens. -/
theorem read_keeps {path : CText} (h : (readProbe path).Course c j r exam) :
    FilesKeep c j.trace exam.context := by
  obtain ⟨-, rfl, -, reply, rfl, hnone⟩ |
    ⟨fetch, fd, reply, rfl, ⟨rfl, -, rfl⟩ | ⟨-, reply₀, rfl, hvalue, hcontext⟩, -⟩ := read_course h
  · refine keeps_openAt ?_
    rw [given_of_ne_value hnone, add_zero]
    rfl
  · exact Ledger.keeps_of_ignored (by simp [trace_cons, Entry.exchange?, Ledger.Ignores, ledger])
  · refine keeps_openAt ?_
    rw [hcontext, given_of_value hvalue]
    exact Ledger.keeps_of_ignored (by simp [Entry.exchange?, Ledger.Ignores, ledger])

theorem calls_closings (closed : List (Int32 × Reply Unit)) :
    calls (closed.map closing) = closed.map fun x => .close x.1 := by
  induction closed with
  | nil => rfl
  | cons x closed ih =>
    rw [List.map_cons, calls_cons, ih]
    rfl

/-- The close probe closes from the back of the list, and what it has not closed stays. -/
theorem close_keeps (h : closeProbe.Course c j r exam) : FilesKeep c j.trace exam.context := by
  obtain ⟨-, rfl, -, rfl⟩ | ⟨-, closed, left, -, hfds, rfl, hleft, -⟩ := close_course h
  · exact rfl
  · have hcalls : (trace (closed.map closing)).map (·.call) = (closed.map Prod.fst).map .close := by
      rw [map_call_trace, calls_closings, List.map_map]
      rfl
    -- the list is closed from its back, which the account does not see
    have hheld : (c.fds : Multiset Int32)
        = (closed.map Prod.fst : List Int32) + (left : Multiset Int32) := by
      rw [← Multiset.coe_reverse, hfds, Multiset.coe_add]
    rw [FilesKeep, hheld, hleft, Multiset.coe_reverse]
    exact keeps_closed hcalls

theorem files_trial_keeps {outcome : Outcome} {evidence : Evidence}
    (ht : trial ∈ [(openProbe nullDevice).trial, (openAtProbe bogusDirectory nullDevice).trial,
      (readProbe nullDevice).trial, closeProbe.trial])
    (plays : (trial.run c).Plays j ((outcome, evidence), c')) : FilesKeep c j.trace c' := by
  rcases List.mem_cons.mp ht with rfl | ht
  · obtain ⟨own, r, hcourse, htrace⟩ := Probe.course_of_trial rfl plays
    rw [htrace]
    exact open_keeps hcourse
  rcases List.mem_cons.mp ht with rfl | ht
  · obtain ⟨own, r, hcourse, htrace⟩ := Probe.course_of_trial rfl plays
    rw [htrace]
    exact openAt_keeps hcourse
  rcases List.mem_cons.mp ht with rfl | ht
  · obtain ⟨own, r, hcourse, htrace⟩ := Probe.course_of_trial rfl plays
    rw [htrace]
    exact read_keeps hcourse
  · obtain rfl := List.mem_singleton.mp ht
    obtain ⟨own, r, hcourse, htrace⟩ := Probe.course_of_trial rfl plays
    rw [htrace]
    exact close_keeps hcourse

/-- The turns of file probes keep the account of the context's descriptors. -/
theorem files_turns_keep {filter : ProbeFilter} {group : String}
    {trials : List (Trial Files.Context)} {p p' : RunSummary × Files.Context}
    {result : Except HarnessError Unit}
    (ht : ∀ t ∈ trials, t ∈ [(openProbe nullDevice).trial,
      (openAtProbe bogusDirectory nullDevice).trial, (readProbe nullDevice).trial,
      closeProbe.trial])
    (h : Each (Battery.execute filter group) trials p j result p') :
    FilesKeep p.2 j.trace p'.2 := by
  refine Battery.turns_preserve (fun ts _ => ∀ t ∈ ts, t ∈ [(openProbe nullDevice).trial,
      (openAtProbe bogusDirectory nullDevice).trial, (readProbe nullDevice).trial,
      closeProbe.trial]) FilesKeep (fun c => Ledger.keeps_nil.mpr rfl) ?_ ?_ ?_ h ht
  · intro _ t₁ _ t₂ _ h₁ h₂
    exact Ledger.keeps_append.mpr ⟨_, h₁, h₂⟩
  · intro t ts _ hts t' hmem
    exact hts t' (List.mem_cons_of_mem t hmem)
  · intro t ts c own _ _ c' hts plays
    exact ⟨files_trial_keeps (hts t List.mem_cons_self) plays,
      fun t' hmem => hts t' (List.mem_cons_of_mem t hmem)⟩

/-- The teardown closes the descriptors that are left, in the order of the list, up to a close that
gives up; the descriptors behind that one stay open. -/
theorem files_teardown_keeps (h : Files.teardown.Plays c j r c') :
    ∃ leaked : List Int32, ledger.Keeps c.fds j.trace leaked ∧
      ((∀ x ∈ j.trace, ¬ x.Panicked) → leaked = []) ∧
      ∀ x ∈ j.trace, x.Panicked → ∃ closed fd, c.fds = closed ++ fd :: leaked ∧
        j.calls = (closed ++ [fd]).map .close ∧ x.call = .close fd := by
  obtain ⟨-, -, ⟨-, hcalls, hpanic⟩ |
    ⟨closed, fd, behind, before, last, -, hfds, htrace, hbefore, hlast, hgave, hwent⟩⟩ :=
    Files.plays_teardown h
  · refine ⟨[], ?_, fun _ => rfl, fun x hx hgave => absurd hgave (hpanic x hx)⟩
    rw [← add_zero (c.fds : Multiset Int32)]
    exact keeps_closed ((map_call_trace j).trans hcalls)
  · have hcalls : j.trace.map (·.call) = (closed ++ [fd]).map .close := by
      rw [htrace, List.map_append, List.map_append, hbefore, List.map_singleton, hlast,
        List.map_singleton]
    refine ⟨behind, ?_, fun hpanic => ?_, fun x hx hpanicked => ?_⟩
    · rw [hfds, List.append_cons, ← Multiset.coe_add]
      exact keeps_closed hcalls
    · exact absurd hgave (hpanic last (htrace ▸ List.mem_append_right _ List.mem_cons_self))
    · refine ⟨closed, fd, hfds, (map_call_trace j).symm.trans hcalls, ?_⟩
      rw [htrace] at hx
      rcases List.mem_append.mp hx with hx | hx
      · exact absurd hpanicked (hwent x hx)
      · rw [List.mem_singleton.mp hx, hlast]

end

/-! ## Programs -/

section

open Lifecycle

variable {c c' : Lifecycle.Context} {exam : Exam Lifecycle.Context} {request : ExecRequest}
  {outcome : Outcome} {evidence : Evidence}

/-- A probe of a missing path closes the witness that it opened. -/
theorem execMissing_keeps (hc : c.witnessFd = none)
    (plays : ((execMissingProbe request).trial.run c).Plays j ((outcome, evidence), c')) :
    c'.witnessFd = none ∧ ledger.Keeps held j.trace held := by
  obtain ⟨j₁, r, context, j₂, cleanup, hcourse, hclean, -, hkernel, -⟩ := Probe.plays_trial plays
  rw [trace_eq_of_kernel (hkernel.trans (kernel_append ..).symm), trace_append]
  obtain ⟨hwitness, -, ⟨reply, rfl, -⟩ | ⟨reply₁, reply₂, rfl, hnone⟩⟩ |
    ⟨reply₁, pid, reply₂, fd, rest, -, hvalue, rfl, htest⟩ := execMissing_course hcourse
  · obtain ⟨hnone, rfl, -⟩ := cleanup_none (hwitness.trans hc) hclean
    exact ⟨hnone, Ledger.keeps_of_ignored
      (by simp [trace_cons, Entry.exchange?, Ledger.Ignores, ledger])⟩
  · obtain ⟨hnone', rfl, -⟩ := cleanup_none (hwitness.trans hc) hclean
    refine ⟨hnone', .skip ⟨rfl, rfl, rfl⟩ (keeps_openAt ?_)⟩
    rw [given_of_ne_value hnone, add_zero]
    rfl
  -- the witness is open over the call under test, and the cleanup closes it
  · obtain ⟨hwitness, htest⟩ := execMissing_test htest
    obtain ⟨hnone, reply, hclose, -⟩ := cleanup_some hwitness hclean
    have hcalls : j₂.trace.map (·.call) = [fd].map .close := by
      rw [← trace_kernel, hclose]
      rfl
    have hrest : ∀ x ∈ trace rest, ledger.Ignores x := by
      obtain ⟨reply₃, ⟨-, ⟨rfl, -⟩ | ⟨reply₄, rfl, -⟩⟩ | ⟨reply₄, reply₅, rfl, -⟩⟩ := htest <;>
        simp [trace_cons, Entry.exchange?, Ledger.Ignores, ledger]
    refine ⟨hnone, .skip ⟨rfl, rfl, rfl⟩ (keeps_openAt ?_)⟩
    rw [given_of_value hvalue, add_comm]
    exact Ledger.keeps_append.mpr ⟨_, Ledger.keeps_of_ignored hrest,
      keeps_closed hcalls⟩

theorem execExisting_keeps {model : ExecModel} (hc : c.witnessFd = none)
    (plays : ((execExistingProbe request model).trial.run c).Plays j ((outcome, evidence), c')) :
    c'.witnessFd = none ∧ ledger.Keeps held j.trace held := by
  obtain ⟨own, r, hcourse, htrace⟩ := Probe.course_of_trial rfl plays
  obtain ⟨rfl, reply, rfl, -⟩ := execExisting_course hcourse
  rw [htrace]
  exact ⟨hc, Ledger.keeps_of_ignored
    (by simp [trace_cons, Entry.exchange?, Ledger.Ignores, ledger])⟩

/-- Between the turns of lifecycle probes no witness is open, and each turn keeps the account. -/
theorem exec_turns_keep {filter : ProbeFilter} {group : String} {missing existing : ExecRequest}
    {model : ExecModel} {trials : List (Trial Lifecycle.Context)}
    {p p' : RunSummary × Lifecycle.Context}
    {result : Except HarnessError Unit}
    (ht : ∀ t ∈ trials, t = (execMissingProbe missing).trial ∨
      t = (execExistingProbe existing model).trial)
    (h : Each (Battery.execute filter group) trials p j result p') (hp : p.2.witnessFd = none) :
    p'.2.witnessFd = none ∧ ledger.Keeps held j.trace held := by
  have hturns := Battery.turns_preserve
    (fun ts c => (∀ t ∈ ts, t = (execMissingProbe missing).trial ∨
      t = (execExistingProbe existing model).trial) ∧ c.witnessFd = none)
    (fun c t c' => (c.witnessFd = none → c'.witnessFd = none) ∧ ledger.Keeps held t held)
    (fun c => ⟨id, Ledger.keeps_nil.mpr rfl⟩) ?_ ?_ ?_ h ⟨ht, hp⟩
  · exact ⟨hturns.1 hp, hturns.2⟩
  · rintro _ t₁ _ t₂ _ ⟨hnone₁, h₁⟩ ⟨hnone₂, h₂⟩
    exact ⟨hnone₂ ∘ hnone₁, Ledger.keeps_append.mpr ⟨_, h₁, h₂⟩⟩
  · rintro t ts c ⟨hts, hc⟩
    exact ⟨fun t' hmem => hts t' (List.mem_cons_of_mem t hmem), hc⟩
  · rintro t ts c own outcome evidence c' ⟨hts, hc⟩ plays
    have hstep : c'.witnessFd = none ∧ ledger.Keeps held own.trace held := by
      rcases hts t List.mem_cons_self with rfl | rfl
      · exact execMissing_keeps hc plays
      · exact execExisting_keeps hc plays
    exact ⟨⟨fun _ => hstep.1, hstep.2⟩,
      fun t' hmem => hts t' (List.mem_cons_of_mem t hmem), hstep.1⟩

end

/-! ## Runs -/

section

variable {filter : ProbeFilter} {probes tornDown : Journal}

theorem files_share_keeps {left : Files.Context}
    (h : Battery.Share filter Files.group probes left tornDown) :
    ∃ leaked : List Int32, ledger.Keeps 0 (probes ++ tornDown).trace leaked ∧
      ((∀ x ∈ tornDown.trace, ¬ x.Panicked) → leaked = []) ∧
      ∀ x ∈ tornDown.trace, x.Panicked → ∃ closed fd, left.fds = closed ++ fd :: leaked ∧
        tornDown.calls = (closed ++ [fd]).map .close ∧ x.call = .close fd := by
  obtain ⟨rfl, rfl, rfl⟩ | ⟨⟨_, _, _, turns⟩, _, torn⟩ := h.idle_or_reached
  · exact ⟨[], rfl, fun _ => rfl, by simp⟩
  · have hprobes := files_turns_keep (fun _ hmem => hmem) turns
    obtain ⟨own, r, hown, hkernel, -⟩ := Battery.plays_tearDown torn
    obtain ⟨leaked, hkeeps, hrest⟩ := files_teardown_keeps hown
    rw [trace_append, trace_eq_of_kernel hkernel, calls_eq_of_kernel hkernel]
    exact ⟨leaked, Ledger.keeps_append.mpr ⟨left.fds, hprobes, hkeeps⟩, hrest⟩

/-- The lifecycle probes close what they open, and the teardown of their group asks for nothing. -/
theorem exec_share_keeps {missing existing : ExecRequest} {model : ExecModel}
    {left : Lifecycle.Context}
    (h : Battery.Share filter (Lifecycle.group missing existing model) probes left tornDown) :
    ledger.Keeps 0 probes.trace 0 ∧ tornDown.kernel = [] := by
  obtain ⟨rfl, rfl, rfl⟩ | ⟨⟨_, _, _, turns⟩, _, torn⟩ := h.idle_or_reached
  · exact ⟨rfl, rfl⟩
  · have hmembers : ∀ t ∈ [(Lifecycle.execMissingProbe missing).trial,
        (Lifecycle.execExistingProbe existing model).trial],
        t = (Lifecycle.execMissingProbe missing).trial ∨
        t = (Lifecycle.execExistingProbe existing model).trial := by simp
    obtain ⟨hnone, hkeeps⟩ := exec_turns_keep hmembers turns rfl
    refine ⟨hkeeps, ?_⟩
    obtain ⟨own, r, hown, hkernel, -⟩ := Battery.plays_tearDown torn
    obtain ⟨-, -, ⟨-, rfl, -⟩ | ⟨fd, -, hfd, -⟩⟩ := Lifecycle.plays_closeWitness hown
    · exact hkernel
    · rw [hnone] at hfd
      cases hfd

/-- Over a run of the standard battery, every descriptor that the kernel gives is closed once, after
it was given and within its group. The one exception is a close that gives up in the teardown of the
files: it leaves the descriptors behind it in the list. The teardown of the lifecycle group asks for
nothing. -/
theorem standard_descriptors {κ ρ : Type} (kernel : Kernel κ) (reporter : Reporter ρ) (k : κ)
    (r : ρ) {c : HarnessConfig} {b : Battery} (hb : Battery.standard c = .ok b) (runId : String)
    (startedAt : Int64) :
    ∃ (front files filesTorn middle execs execsTorn back : Journal) (missing existing : ExecRequest)
        (left : Files.Context) (last : Lifecycle.Context) (leaked : List Int32),
      ((b.run runId startedAt).run kernel reporter k r).journal
        = front ++ (files ++ (filesTorn ++ (middle ++ (execs ++ (execsTorn ++ back))))) ∧
      Battery.Share b.filter Files.group files left filesTorn ∧
      Battery.Share b.filter (Lifecycle.group missing existing c.execModel) execs last execsTorn ∧
      execsTorn.kernel = [] ∧
      (∀ x ∈ front.trace ++ middle.trace ++ back.trace, x.call.syscall ∉ concerned) ∧
      ledger.Covered (files ++ filesTorn).trace ∧ ledger.Covered execs.trace ∧
      ledger.acquired (files ++ filesTorn).trace
        = leaked + ledger.released (files ++ filesTorn).trace ∧
      ledger.acquired execs.trace = ledger.released execs.trace ∧
      ledger.acquired ((b.run runId startedAt).run kernel reporter k r).journal.trace
        = leaked + ledger.released ((b.run runId startedAt).run kernel reporter k r).journal.trace ∧
      ((∀ x ∈ filesTorn.trace, ¬ x.Panicked) → leaked = []) ∧
      ∀ x ∈ filesTorn.trace, x.Panicked → ∃ closed fd, left.fds = closed ++ fd :: leaked ∧
        filesTorn.calls = (closed ++ [fd]).map .close ∧ x.call = .close fd := by
  obtain ⟨missing, existing, hc, rfl, hshares⟩ :=
    Battery.standard_shares kernel reporter k r hb runId startedAt
  change Battery.Shares c.filter
    ([Output.group c.outputFd, Identity.group c.tlsSlots c.threadIdModel] ++
      Files.group :: ([Memory.group c.mapLengths c.pageSize,
        Concurrency.group c.waitTimeout c.joinTimeout, Uname.group] ++
          [Lifecycle.group missing existing c.execModel])) _ at hshares
  obtain ⟨front, files, filesTorn, _, left, hjournal, hfront, hfiles, hrest⟩ := hshares.split
  obtain ⟨middle, execs, execsTorn, back, last, rfl, hmiddle, hexecs, hback⟩ := hrest.split
  obtain ⟨leaked, hfilesKeep, hnone, hgave⟩ := files_share_keeps hfiles
  obtain ⟨hexecsKeep, hidle⟩ := exec_share_keeps hexecs
  have hfront' : ∀ x ∈ front.trace, x.call.syscall ∉ concerned :=
    hfront.calls_within (P := (· ∉ concerned)) (List.forall_mem_cons.mpr
      ⟨⟨_, Output.group_within _, by decide⟩, List.forall_mem_cons.mpr
        ⟨⟨_, Identity.group_within .., by decide⟩, List.forall_mem_nil _⟩⟩)
  have hmiddle' : ∀ x ∈ middle.trace, x.call.syscall ∉ concerned :=
    hmiddle.calls_within (P := (· ∉ concerned)) (List.forall_mem_cons.mpr
      ⟨⟨_, Memory.group_within hc.pageSize _, by decide⟩, List.forall_mem_cons.mpr
        ⟨⟨_, Concurrency.group_within .., by decide⟩, List.forall_mem_cons.mpr
          ⟨⟨_, Uname.group_within, by decide⟩, List.forall_mem_nil _⟩⟩⟩)
  have hback' : ∀ x ∈ back.trace, x.call.syscall ∉ concerned :=
    hback.calls_within (P := (· ∉ concerned)) (List.forall_mem_nil _)
  have hfilesBalance : ledger.acquired (files ++ filesTorn).trace
      = leaked + ledger.released (files ++ filesTorn).trace := by simpa using hfilesKeep.balance
  have hexecsBalance : ledger.acquired execs.trace = ledger.released execs.trace := by
    simpa using hexecsKeep.balance
  have hidle' : execsTorn.trace = [] := trace_eq_of_kernel (hidle.trans kernel_nil.symm)
  refine ⟨front, files, filesTorn, middle, execs, execsTorn, back, missing, existing, left, last,
    leaked, hjournal, hfiles, hexecs, hidle, ?_, hfilesKeep.covered, hexecsKeep.covered,
    hfilesBalance, hexecsBalance, ?_, hnone, hgave⟩
  · exact List.forall_mem_append.mpr ⟨List.forall_mem_append.mpr ⟨hfront', hmiddle'⟩, hback'⟩
  · -- the descriptors of a run are those of the two groups
    have htrace : ∀ rest : Journal, (front ++ (files ++ (filesTorn ++ rest))).trace
        = front.trace ++ ((files ++ filesTorn).trace ++ rest.trace) := by
      intro rest
      simp only [trace_append, List.append_assoc]
    rw [hjournal, htrace]
    simp only [trace_append middle, trace_append execs, trace_append execsTorn, hidle',
      List.nil_append, Ledger.acquired_append, Ledger.released_append,
      balance_of_unconcerned hfront', hfilesBalance, balance_of_unconcerned hmiddle',
      hexecsBalance, balance_of_unconcerned hback']
    abel

/-- A run of the default battery on the modelled machine closes every descriptor that it is given,
unless the teardown of the files gives up. -/
theorem standard_descriptors_default : ∃ (b : Battery) (files filesTorn : Journal)
    (left : Files.Context),
    Battery.standard {} = .ok b ∧ Battery.Share b.filter Files.group files left filesTorn ∧
    ((∀ x ∈ filesTorn.trace, ¬ x.Panicked) →
      ledger.acquired ((b.run "run" 0).run Host.Machine.kernel recording
          Host.Machine.start []).journal.trace
        = ledger.released ((b.run "run" 0).run Host.Machine.kernel recording
          Host.Machine.start []).journal.trace) := by
  obtain ⟨_, files, filesTorn, _, _, _, _, _, _, left, _, leaked, -, hfiles, -, -, -, -, -, -, -,
    hbalance, hnone, -⟩ := standard_descriptors (c := {}) Host.Machine.kernel recording
      Host.Machine.start [] rfl "run" 0
  refine ⟨_, files, filesTorn, left, rfl, hfiles, fun hpanic => ?_⟩
  rw [hbalance, hnone hpanic]
  exact zero_add _

end

end KernelProbe.Descriptors
