import KernelProbe.Kernel.Scripted
import KernelProbe.Report.AuditLog
import KernelProbe.Proofs.Probe.Files

/-!
# The descriptor that is read from

The file probes keep the descriptor to read from apart from those to be closed. `Reading` has what
the turn of a probe can do about it, and `Member.reading` says that there is nothing else. From this
`reads_held` draws which descriptor a read can name in any sequence of probes: one that was handed
out before, and that was not closed since, or since a close that failed. A close probe that stops at
a failure leaves the descriptor to be read from, closed or not (`read_of_closed`).
-/

namespace KernelProbe

/-- Run probes that share a context one after another, from a context to the one that they leave. -/
def Trial.runAll {C : Type} : List (Trial C) → C → Program C
  | [], c => pure c
  | trial :: trials, c => do
    let (_, c) ← trial.run c
    runAll trials c

namespace Files

variable {fd : Int32} {past t t' : List Exchange} {c c' : Context} {j : Journal}
  {r : Except Halt Unit} {exam : Exam Context}

/-! ## Descriptors in a trace -/

/-- The call handed out the descriptor. -/
def Opens (fd : Int32) : Exchange → Prop
  | ⟨.openFile .., reply⟩ | ⟨.openAt .., reply⟩ => reply.returned = .value fd
  | _ => False

/-- A close that did not succeed. -/
def FailedClose : Exchange → Prop
  | ⟨.close _, reply⟩ => reply.returned ≠ .value ()
  | _ => False

/-- The descriptor was handed out, and was not closed since, or since a close that failed. -/
def Held (fd : Int32) (past : List Exchange) : Prop :=
  ∃ earlier x stale fresh, past = earlier ++ x :: (stale ++ fresh) ∧ Opens fd x ∧
    (∀ y ∈ stale.getLast?, FailedClose y) ∧ .close fd ∉ fresh.map (·.call)

/-- A call that hands out a descriptor neither reads nor closes. -/
theorem Opens.syscall {x : Exchange} (h : Opens fd x) :
    x.call.syscall ≠ .read ∧ x.call.syscall ≠ .close := by
  obtain ⟨call, reply⟩ := x
  cases call with
  | openFile | openAt => simp [Call.syscall]
  | _ => exact absurd h id

theorem Held.opened {x : Exchange} (hx : Opens fd x) : Held fd (past ++ [x]) :=
  ⟨past, x, [], [], rfl, hx, by simp, by simp⟩

theorem Held.append (h : Held fd past) (ht : .close fd ∉ t.map (·.call)) : Held fd (past ++ t) := by
  obtain ⟨earlier, x, stale, fresh, rfl, hx, hstale, hfresh⟩ := h
  refine ⟨earlier, x, stale, fresh ++ t, by simp, hx, hstale, ?_⟩
  rw [List.map_append, List.mem_append]
  exact not_or.mpr ⟨hfresh, ht⟩

/-- A close that fails excuses all closes before it. -/
theorem Held.append_failed {y : Exchange} (h : Held fd past) (hlast : t.getLast? = some y)
    (hy : FailedClose y) : Held fd (past ++ t) := by
  obtain ⟨earlier, x, stale, fresh, rfl, hx, -, -⟩ := h
  refine ⟨earlier, x, stale ++ fresh ++ t, [], by simp, hx, ?_, by simp⟩
  rw [List.getLast?_append, hlast]
  rintro _ ⟨⟩
  exact hy

/-! ## What each probe does -/

/-- What the turn of a probe does about the descriptor to read from. -/
inductive Reading (c : Context) (t : List Exchange) (c' : Context) : Prop
  /-- Nothing is read or closed, and the descriptor stays. -/
  | stays (idle : ∀ call ∈ t.map (·.call), call.syscall ≠ .read ∧ call.syscall ≠ .close)
      (same : c'.readFd = c.readFd)
  /-- A descriptor is opened to be read from. -/
  | opened {fd : Int32} {x : Exchange} (only : t = [x]) (opens : Opens fd x)
      (next : c'.readFd = some fd)
  /-- The descriptor is read from. -/
  | read {fd : Int32} {reply : Reply ReadData} (only : t = [⟨.read fd 2, reply⟩])
      (current : c.readFd = some fd) (same : c'.readFd = some fd)
  /-- A descriptor is opened and read from. -/
  | fetched {fd : Int32} {x : Exchange} {reply : Reply ReadData}
      (both : t = [x, ⟨.read fd 2, reply⟩]) (opens : Opens fd x) (next : c'.readFd = some fd)
  /-- Descriptors are closed, and none is left to read from. -/
  | closed (closes : ∀ call ∈ t.map (·.call), ∃ fd, call = .close fd) (gone : c'.readFd = none)
  /-- Descriptors are closed up to a close that fails, and the descriptor stays. -/
  | stopped {y : Exchange} (closes : ∀ call ∈ t.map (·.call), ∃ fd, call = .close fd)
      (last : t.getLast? = some y) (failed : FailedClose y) (same : c'.readFd = c.readFd)

theorem open_reading {path : CText} (h : (openProbe path).Course c j r exam) :
    Reading c j.trace exam.context := by
  obtain ⟨known, rfl, -, -, hcontext⟩ | ⟨reply, rfl, ⟨fd, hvalue, -, hcontext⟩ |
    ⟨-, -, hcontext⟩⟩ := open_course h
  · exact .stays (by simp [Journal.trace, Entry.exchange?]) (by rw [hcontext])
  · by_cases hfd : 0 ≤ fd
    · exact .opened rfl hvalue (by rw [hcontext, if_pos hfd])
    · refine .stays ?_ (by rw [hcontext, if_neg hfd])
      simp [Journal.trace, Entry.exchange?, Call.syscall]
  · exact .stays (by simp [Journal.trace, Entry.exchange?, Call.syscall]) (by rw [hcontext])

theorem openAt_reading {dirfd : Int32} {path : CText}
    (h : (openAtProbe dirfd path).Course c j r exam) : Reading c j.trace exam.context := by
  obtain ⟨reply, rfl, hcase⟩ := openAt_course h
  refine .stays (by simp [Journal.trace, Entry.exchange?, Call.syscall]) ?_
  rcases hcase with ⟨fd, -, -, hcontext⟩ | ⟨-, -, hcontext⟩
  · rw [hcontext]
    rfl
  · rw [hcontext]

theorem read_reading {path : CText} (h : (readProbe path).Course c j r exam) :
    Reading c j.trace exam.context := by
  obtain ⟨-, hcontext, -, reply, rfl, -⟩ | ⟨fetch, fd, reply, rfl, ⟨rfl, hfd, hcontext⟩ |
    ⟨-, reply₀, rfl, hvalue, hcontext⟩, -⟩ := read_course h
  · exact .stays (by simp [Journal.trace, Entry.exchange?, Call.syscall]) (by rw [hcontext])
  · exact .read rfl hfd (by rw [hcontext, hfd])
  · exact .fetched rfl hvalue (by rw [hcontext])

/-- Closing in turn makes no calls but closes, leaves the descriptor to read from, and stops at a
close that fails. -/
theorem reading_closeAll {fds : List Int32} (h : (closeAll fds).Plays c j r c') :
    (∀ call ∈ j.trace.map (·.call), ∃ fd, call = .close fd) ∧ c'.readFd = c.readFd ∧
      (r ≠ .ok () → ∃ y, j.trace.getLast? = some y ∧ FailedClose y) := by
  induction fds generalizing c j with
  | nil =>
    obtain ⟨rfl, rfl, rfl⟩ := Staged.plays_pure.mp h
    exact ⟨by simp, rfl, fun hr => absurd rfl hr⟩
  | cons fd fds ih =>
    unfold closeAll at h
    replace h := Staged.plays_modify_bind.mp h
    obtain ⟨reply, ⟨halt, hret, rfl, -, rfl⟩ | ⟨⟨⟩, j, -, rfl, h₁⟩⟩ := Step.plays_call_bind.mp h
    · refine ⟨List.forall_mem_singleton.mpr ⟨fd, rfl⟩, rfl, fun _ => ⟨⟨.close fd, reply⟩, rfl, ?_⟩⟩
      exact Returned.ne_value_of_orHalt hret ()
    · obtain ⟨hcloses, hsame, hlast⟩ := ih h₁
      refine ⟨List.forall_mem_cons.mpr ⟨⟨fd, rfl⟩, hcloses⟩, hsame, fun hr => ?_⟩
      obtain ⟨y, hy, hfailed⟩ := hlast hr
      refine ⟨y, ?_, hfailed⟩
      rw [Journal.trace_cons, List.getLast?_append, hy]
      rfl

/-- The close probe forgets the descriptor to read from only if it comes to its end. -/
theorem close_reading (h : closeProbe.Course c j r exam) : Reading c j.trace exam.context := by
  cases h with
  | setupHalts setup =>
    obtain ⟨rfl, rfl, -⟩ := Step.plays_fail_if setup
    exact .stays (by simp) rfl
  | tested setup test =>
    obtain ⟨rfl, rfl, -⟩ := Step.plays_fail_if setup
    cases test with
    | halts invoke =>
      change Staged.Plays (get >>= _) _ _ _ _ at invoke
      rw [Staged.plays_get_bind] at invoke
      obtain ⟨halt, hall, -⟩ | ⟨j, ⟨⟩, c₁, _, -, -, hrest⟩ := Staged.plays_bind.mp invoke
      · obtain ⟨hcloses, hsame, hlast⟩ := reading_closeAll hall
        obtain ⟨y, hy, hfailed⟩ := hlast (by simp)
        exact .stopped hcloses hy hfailed hsame
      · have hpure := Staged.plays_modify_bind.mp hrest
        obtain ⟨-, heq, -⟩ := Staged.plays_pure.mp hpure
        cases heq
    | judged invoke check =>
      cases check
      change Staged.Plays (get >>= _) _ _ _ _ at invoke
      rw [Staged.plays_get_bind] at invoke
      obtain ⟨halt, -, heq⟩ | ⟨j, ⟨⟩, c₁, _, rfl, hall, hrest⟩ := Staged.plays_bind.mp invoke
      · cases heq
      · have hpure := Staged.plays_modify_bind.mp hrest
        obtain ⟨rfl, -, rfl⟩ := Staged.plays_pure.mp hpure
        refine .closed ?_ rfl
        simpa using (reading_closeAll hall).1

/-! ## Sequences of probes -/

/-- A probe of the group, set up in some way. -/
inductive Member where
  | openFile (path : CText)
  | openAt (dirfd : Int32) (path : CText)
  | read (path : CText)
  | close

namespace Member

/-- The probe as a trial. -/
def trial : Member → Trial Context
  | openFile path => (openProbe path).trial
  | openAt dirfd path => (openAtProbe dirfd path).trial
  | read path => (readProbe path).trial
  | close => closeProbe.trial

theorem reading (m : Member) {outcome : Outcome} {evidence : Evidence}
    (h : (m.trial.run c).Plays j ((outcome, evidence), c')) : Reading c j.trace c' := by
  cases m with
  | openFile path =>
    obtain ⟨own, r, hcourse, htrace⟩ := Probe.course_of_trial rfl h
    exact htrace ▸ open_reading hcourse
  | openAt dirfd path =>
    obtain ⟨own, r, hcourse, htrace⟩ := Probe.course_of_trial rfl h
    exact htrace ▸ openAt_reading hcourse
  | read path =>
    obtain ⟨own, r, hcourse, htrace⟩ := Probe.course_of_trial rfl h
    exact htrace ▸ read_reading hcourse
  | close =>
    obtain ⟨own, r, hcourse, htrace⟩ := Probe.course_of_trial rfl h
    exact htrace ▸ close_reading hcourse

end Member

/-- Each read behind the past names a descriptor that is held when it is made. -/
def ReadsHeld (past t : List Exchange) : Prop :=
  ∀ before fd count reply after, t = before ++ ⟨.read fd count, reply⟩ :: after →
    Held fd (past ++ before)

theorem readsHeld_append (h : ReadsHeld past t) (h' : ReadsHeld (past ++ t) t') :
    ReadsHeld past (t ++ t') := by
  intro before fd count reply after hsplit
  obtain ⟨middle, rfl, htail⟩ | ⟨middle, rfl, htail⟩ := List.append_eq_append_iff.mp hsplit
  · rw [← List.append_assoc]
    exact h' middle fd count reply after htail
  -- the read is the first behind the front part, or within it
  obtain ⟨rfl, htail⟩ | ⟨rest, rfl, -⟩ := List.cons_eq_append_iff.mp htail
  · simpa using h' [] fd count reply after htail.symm
  · exact h before fd count reply rest rfl

theorem readsHeld_of_no_read (h : ∀ call ∈ t.map (·.call), call.syscall ≠ .read) :
    ReadsHeld past t := by
  rintro before fd count reply after rfl
  exact absurd rfl (h _ (List.mem_map_of_mem List.mem_append_cons_self))

theorem readsHeld_read (h : Held fd past) {count : Nat} {reply : Reply ReadData} :
    ReadsHeld past [⟨.read fd count, reply⟩] := by
  intro before fd' count' reply' after hsplit
  cases before with
  | nil =>
    cases hsplit
    rwa [List.append_nil]
  | cons x before => simp at hsplit

/-- What is read from next, if anything, is held. -/
def Kept (past : List Exchange) (c : Context) : Prop := ∀ fd ∈ c.readFd, Held fd past

theorem Reading.step (h : Reading c t c') (hc : Kept past c) :
    ReadsHeld past t ∧ Kept (past ++ t) c' := by
  cases h with
  | stays idle same =>
    refine ⟨readsHeld_of_no_read fun call hcall => (idle call hcall).1, fun fd hfd => ?_⟩
    exact (hc fd (same ▸ hfd)).append fun hmem => (idle _ hmem).2 rfl
  | opened only opens next =>
    subst only
    refine ⟨readsHeld_of_no_read (List.forall_mem_singleton.mpr opens.syscall.1), fun fd hfd => ?_⟩
    cases next.symm.trans hfd
    exact .opened opens
  | read only current same =>
    subst only
    refine ⟨readsHeld_read (hc _ current), fun fd hfd => ?_⟩
    cases same.symm.trans hfd
    exact (hc _ current).append (by simp)
  | @fetched fd x reply both opens next =>
    obtain rfl : t = [x] ++ [⟨.read fd 2, reply⟩] := both
    have hheld : Held fd (past ++ [x]) := .opened opens
    refine ⟨readsHeld_append (readsHeld_of_no_read (List.forall_mem_singleton.mpr opens.syscall.1))
      (readsHeld_read hheld), fun fd' hfd => ?_⟩
    cases next.symm.trans hfd
    rw [← List.append_assoc]
    exact hheld.append (by simp)
  | closed closes gone =>
    refine ⟨readsHeld_of_no_read fun call hcall => ?_, fun fd hfd => ?_⟩
    · obtain ⟨fd, rfl⟩ := closes call hcall
      simp [Call.syscall]
    · cases gone.symm.trans hfd
  | stopped closes last failed same =>
    refine ⟨readsHeld_of_no_read fun call hcall => ?_, fun fd hfd => ?_⟩
    · obtain ⟨fd, rfl⟩ := closes call hcall
      simp [Call.syscall]
    · exact (hc fd (same ▸ hfd)).append_failed last failed

theorem runAll_readsHeld {ms : List Member} (hc : Kept past c)
    (h : (Trial.runAll (ms.map Member.trial) c).Plays j c') : ReadsHeld past j.trace := by
  induction ms generalizing past c j with
  | nil =>
    obtain ⟨rfl, -⟩ := h
    exact readsHeld_of_no_read (by simp)
  | cons m ms ih =>
    obtain ⟨j₁, ⟨⟨outcome, evidence⟩, c₁⟩, j₂, rfl, hfirst, hrest⟩ := (Program.plays_bind ..).mp h
    obtain ⟨hreads, hkept⟩ := (m.reading hfirst).step hc
    rw [Journal.trace_append]
    exact readsHeld_append hreads (ih hkept hrest)

/-- In any sequence of the group's probes over one context, on every kernel, each read names a
descriptor that an earlier `open` or `openat` handed out, and that was not closed since, unless a
close failed at that time or later: then it was not closed since the last of these failures. -/
theorem reads_held {κ ρ : Type} (kernel : Kernel κ) (reporter : Reporter ρ) (k : κ) (r : ρ)
    (ms : List Member) :
    let run := (Trial.runAll (ms.map Member.trial) {}).run kernel reporter k r
    ∀ before fd count reply after,
      run.journal.trace = before ++ ⟨.read fd count, reply⟩ :: after →
        ∃ earlier x stale fresh, before = earlier ++ x :: (stale ++ fresh) ∧ Opens fd x ∧
          (∀ y ∈ stale.getLast?, FailedClose y) ∧ .close fd ∉ fresh.map (·.call) := by
  intro run before fd count reply after hsplit
  have hplays := Program.run_plays kernel reporter (Trial.runAll (ms.map Member.trial) {}) k r
  -- at the start there is no descriptor to read from
  have hreads : ReadsHeld [] run.journal.trace :=
    runAll_readsHeld (fun fd hfd => by cases hfd) hplays
  exact hreads before fd count reply after hsplit

/-- A kernel whose first close fails with an input or output error, number 5. -/
def failsToClose : ScriptedKernel :=
  { script := [("close", [⟨.fail ⟨5, by decide⟩ (-1), none, none⟩])] }

/-- If a close fails, the descriptor that it was made for is read from all the same: of an `open`, a
close and a read in turn, the read names the descriptor that was passed to the close before it. -/
theorem read_of_closed :
    let run := (Trial.runAll ([.openFile nullDevice, .close, .read nullDevice].map Member.trial)
      {}).run ScriptedKernel.machine recording failsToClose []
    run.journal.trace.map (·.call)
      = [.openFile nullDevice createFlag createMode, .close 3, .read 3 2] := by
  rfl

end Files

end KernelProbe
