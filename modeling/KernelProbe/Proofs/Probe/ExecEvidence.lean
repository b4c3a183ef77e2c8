import Mathlib.Data.List.Basic
import KernelProbe.Kernel.Scripted
import KernelProbe.Report.AuditLog
import KernelProbe.Proofs.Probe.Lifecycle

/-!
# The evidence of an execve

An `execve` that comes back leaves what it came back with among the evidence of its probe
(`resultEntries`). The probe of an existing program makes no other call, so that its evidence always
has them. The probe of a missing path looks at its process id and reads from its witness before it
judges: it loses the result, and all evidence, if the one fails or the other gives up
(`exec_evidence`, `exec_result_lost`).
-/

namespace KernelProbe.Lifecycle

variable {c c' : Context} {j : Journal} {r : Except Halt Unit} {exam : Exam Context}
  {request : ExecRequest}

/-- The evidence for an `execve` that came back with a value or an error. -/
def resultEntries (request : ExecRequest) : Except SyscallError Int64 → List (String × String)
  | .ok ret => [("path", request.path.text), ("ret", Text.wordHex ret)]
  | .error e => [("path", request.path.text), ("ret", Text.wordHex e.ret),
      ("errno", e.errno.name ++ " (" ++ Text.decimal e.errno.code ++ ")")]

@[simp] theorem eval_noteResult_execResult (request : ExecRequest) (x : Except SyscallError Int64)
    (exam : Exam Context) :
    (noteResult request (execResult x)).eval exam
      = (.ok (), ⟨exam.context, ⟨exam.evidence.entries ++ resultEntries request x⟩⟩) := by
  cases x <;> simp [noteResult, execResult, RawReturn.ok, SyscallError.raw, resultEntries,
    Evidence.push]

/-- Behind the result of the call, the check of a missing path notes nothing. -/
theorem evidence_checkMissing {x : Except SyscallError Int64} {observed : MissingObservation}
    (hx : observed.result = execResult x)
    (h : ((execMissingProbe request).check observed).eval ⟨c, .empty⟩ = (r, exam)) :
    exam.evidence.entries = resultEntries request x := by
  cases hpid : c.pidBefore <;> cases hread : observed.witnessRead
  -- wherever the check stops, it refutes or fails, which notes nothing
  all_goals
    simp only [execMissingProbe, hx, hpid, hread, Judge.eval_bind, eval_noteResult_execResult,
      Judge.eval_ite, Judge.eval_refute, Judge.eval_fail, Judge.eval_context, Judge.eval_pure] at h
    split_ifs at h <;> cases h <;> rfl

/-- Behind the result of the call, the check of an existing program notes the model alone. -/
theorem evidence_checkExisting {model : ExecModel} {x : Except SyscallError Int64}
    (h : ((execExistingProbe request model).check (execResult x)).eval ⟨c, .empty⟩ = (r, exam)) :
    exam.evidence.entries = resultEntries request x ++ [("model", model.name)] := by
  simp only [execExistingProbe, Judge.eval_bind, eval_noteResult_execResult, Judge.eval_note,
    Judge.eval_ite, Judge.eval_refute, Judge.eval_fail, Judge.eval_pure] at h
  split_ifs at h <;> cases h <;> rfl

/-! ## The calls behind an execve -/

/-- The calls behind an `execve` of a missing path let the probe come to its check: the process id
was told, and the code that read from the witness did not give up. -/
def ComesToCheck (back : List Exchange) : Prop :=
  (∃ reply pid, ⟨.getpid, reply⟩ ∈ back ∧ reply.returned = .value pid) ∧
    ∃ fd reply, ⟨.read fd 1, reply⟩ ∈ back ∧ ∀ fault, reply.returned ≠ .panicked fault

/-- Whether the probe comes to its check is settled before anything is closed. -/
theorem comesToCheck_append {back closes : List Exchange}
    (h : ∀ call ∈ closes.map (·.call), ∃ fd, call = .close fd) :
    ComesToCheck (back ++ closes) ↔ ComesToCheck back := by
  have hnone (call : Call) (hcall : ∀ fd, call ≠ .close fd) (reply : Reply call.Value) :
      ⟨call, reply⟩ ∈ back ++ closes ↔ ⟨call, reply⟩ ∈ back := by
    refine List.mem_append.trans (or_iff_left fun hmem => ?_)
    obtain ⟨fd, hfd⟩ := h _ (List.mem_map_of_mem hmem)
    exact hcall fd hfd
  simp only [ComesToCheck, hnone .getpid (by simp), hnone (.read _ _) (by simp)]

/-- What the evidence of the probe of a missing path comes to for an `execve` that came back. -/
def Told (request : ExecRequest) (x : Except SyscallError Int64) (back : List Exchange)
    (evidence : Evidence) : Prop :=
  ComesToCheck back ∧ evidence.entries = resultEntries request x ∨
    ¬ ComesToCheck back ∧ evidence = .empty

theorem told_execMissing_test {pid fd : Int32}
    (h : (execMissingProbe request).Test ⟨some pid, some fd, sentinelValue⟩ j r exam) :
    ∃ reply back, j.trace = ⟨.execve request, reply⟩ :: back ∧
      (∀ call ∈ back.map (·.call), call = .getpid ∨ call = .read fd 1) ∧
      ∀ x, reply.returned.attempted = .ok x → Told request x back exam.evidence := by
  cases h with
  | halts invoke =>
    obtain ⟨-, reply₁, ⟨-, ⟨rfl, fault, hret⟩ | ⟨reply₂, rfl, hret⟩⟩ |
      ⟨reply₂, reply₃, rfl, ⟨-, fault, hret⟩ | ⟨_, _, _, _, _, _, heq⟩⟩⟩ :=
      plays_execMissing rfl invoke
    · exact ⟨reply₁, [], rfl, by simp, fun x hx => by simp [hret, Returned.attempted] at hx⟩
    · refine ⟨reply₁, [⟨.getpid, reply₂⟩], rfl, by simp, fun x hx => .inr ⟨?_, rfl⟩⟩
      rintro ⟨⟨reply, pid, hmem, hpid⟩, -⟩
      obtain rfl : reply = reply₂ := by simpa using hmem
      exact hret pid hpid
    · refine ⟨reply₁, [⟨.getpid, reply₂⟩, ⟨.read fd 1, reply₃⟩], rfl, by simp,
        fun x hx => .inr ⟨?_, rfl⟩⟩
      rintro ⟨-, fd', reply, hmem, hfine⟩
      rcases List.mem_cons.mp hmem with heq | hmem
      · cases heq
      · cases List.mem_singleton.mp hmem
        exact hfine fault hret
    · cases heq
  | judged invoke check =>
    obtain ⟨-, reply₁, ⟨⟨_, heq⟩, -⟩ | ⟨reply₂, reply₃, rfl, ⟨⟨_, heq⟩, -⟩ |
      ⟨x, pid', y, hx, hpid, hy, heq⟩⟩⟩ := plays_execMissing rfl invoke
    · cases heq
    · cases heq
    · cases heq
      refine ⟨reply₁, [⟨.getpid, reply₂⟩, ⟨.read fd 1, reply₃⟩], rfl, by simp,
        fun x' hx' => .inl ⟨?_, ?_⟩⟩
      · refine ⟨⟨reply₂, pid', by simp, hpid⟩, fd, reply₃, by simp, ?_⟩
        intro fault hret
        simp [hret, Returned.attempted] at hy
      · cases hx.symm.trans hx'
        exact evidence_checkMissing rfl check

/-- The cleanup makes no calls but closes. -/
theorem cleanup_calls (h : (execMissingProbe request).cleanup.Plays c j r c') :
    ∀ call ∈ j.trace.map (·.call), ∃ fd, call = .close fd := by
  rw [← Journal.trace_kernel]
  cases hc : c.witnessFd with
  | none =>
    obtain ⟨-, rfl, -⟩ := cleanup_none hc h
    simp
  | some fd =>
    obtain ⟨-, reply, hkernel, -⟩ := cleanup_some hc h
    rw [hkernel]
    exact List.forall_mem_singleton.mpr ⟨fd, rfl⟩

theorem told_execMissing {outcome : Outcome} {evidence : Evidence}
    (h : ((execMissingProbe request).trial.run c).Plays j ((outcome, evidence), c'))
    {front back : List Exchange} {reply : Reply Int64}
    (hsplit : j.trace = front ++ ⟨.execve request, reply⟩ :: back) {x : Except SyscallError Int64}
    (hx : reply.returned.attempted = .ok x) : Told request x back evidence := by
  obtain ⟨j₁, lifecycle, context, j₂, cleanup, hcourse, hclean, -, hkernel, -⟩ :=
    Probe.plays_trial h
  rw [Journal.trace_eq_of_kernel (hkernel.trans (Journal.kernel_append ..).symm),
    Journal.trace_append] at hsplit
  have hcloses := cleanup_calls hclean
  have hnot {xs : List Exchange} (h : ∀ call ∈ xs.map (·.call), call ≠ .execve request) :
      (⟨.execve request, reply⟩ : Exchange) ∉ xs := fun hmem => h _ (List.mem_map_of_mem hmem) rfl
  have hlast : (⟨.execve request, reply⟩ : Exchange) ∉ j₂.trace := by
    refine hnot fun call hcall => ?_
    obtain ⟨fd, rfl⟩ := hcloses call hcall
    simp
  obtain ⟨-, -, hstart⟩ | ⟨reply₁, pid, reply₂, fd, rest, -, -, rfl, test⟩ :=
    execMissing_course hcourse
  · -- the setup stopped the probe before its `execve`
    refine absurd (hsplit ▸ List.mem_append_cons_self : (⟨.execve request, reply⟩ : Exchange) ∈
      j₁.trace ++ j₂.trace) (List.mem_append.not.mpr (not_or.mpr ⟨hnot ?_, hlast⟩))
    obtain ⟨reply₁, rfl, -⟩ | ⟨reply₁, reply₂, rfl, -⟩ := hstart <;>
      simp [Journal.trace, Entry.exchange?]
  obtain ⟨reply', back', htrace, hcalls, htold⟩ := told_execMissing_test test
  have hwhole : Journal.trace (⟨.call .getpid, reply₁⟩ :: ⟨.call openWitness, reply₂⟩ :: rest) ++
      j₂.trace = [⟨.getpid, reply₁⟩, ⟨openWitness, reply₂⟩] ++
        ⟨.execve request, reply'⟩ :: (back' ++ j₂.trace) := by
    rw [Journal.trace_cons, Journal.trace_cons, htrace]
    rfl
  rw [hwhole, List.append_cons_inj_of_notMem] at hsplit
  · obtain ⟨-, heq, rfl⟩ := hsplit
    cases heq
    simpa only [Told, comesToCheck_append hcloses] using htold x hx
  · exact hnot (by simp)
  · refine List.mem_append.not.mpr (not_or.mpr ⟨hnot fun call hcall => ?_, hlast⟩)
    rcases hcalls call hcall with rfl | rfl <;> simp

/-! ## The two probes -/

theorem evidence_execExisting {model : ExecModel} {outcome : Outcome} {evidence : Evidence}
    (h : ((execExistingProbe request model).trial.run c).Plays j ((outcome, evidence), c'))
    {reply : Reply Int64} (hmem : ⟨.execve request, reply⟩ ∈ j.trace)
    {x : Except SyscallError Int64} (hx : reply.returned.attempted = .ok x) :
    evidence.entries = resultEntries request x ++ [("model", model.name)] := by
  obtain ⟨own, r, hcourse, htrace⟩ := Probe.course_of_trial rfl h
  rw [htrace] at hmem
  cases hcourse.test rfl with
  | halts invoke =>
    obtain ⟨reply', ⟨fault, hret, rfl, -, -⟩ | ⟨x', j₁, -, -, h₁⟩⟩ :=
      Step.plays_attempt_bind.mp invoke
    · cases List.mem_singleton.mp hmem
      simp [hret, Returned.attempted] at hx
    · obtain ⟨-, heq, -⟩ := Staged.plays_pure.mp h₁
      cases heq
  | judged invoke check =>
    obtain ⟨reply', ⟨fault, -, -, heq, -⟩ | ⟨x', j₁, hx', rfl, h₁⟩⟩ :=
      Step.plays_attempt_bind.mp invoke
    · cases heq
    obtain ⟨rfl, heq, rfl⟩ := Staged.plays_pure.mp h₁
    cases heq
    cases List.mem_singleton.mp hmem
    cases hx'.symm.trans hx
    exact evidence_checkExisting check

/-- Whatever the kernel and the reporter answer, an `execve` of the existing program that comes back
with a value or an error is told in the evidence of its probe. That of the missing path is told if
the process id is to be had behind it and the read from the witness does not give up; otherwise the
probe has no evidence at all. -/
theorem exec_evidence {κ ρ : Type} (kernel : Kernel κ) (reporter : Reporter ρ) (k : κ) (r : ρ)
    (c : Context) (request : ExecRequest) :
    (∀ model,
      let run := ((execExistingProbe request model).trial.run c).run kernel reporter k r
      ∀ reply x, ⟨.execve request, reply⟩ ∈ run.journal.trace → reply.returned.attempted = .ok x →
        run.result.1.2.entries = resultEntries request x ++ [("model", model.name)]) ∧
    let run := ((execMissingProbe request).trial.run c).run kernel reporter k r
    ∀ front reply back x, run.journal.trace = front ++ ⟨.execve request, reply⟩ :: back →
      reply.returned.attempted = .ok x →
        ComesToCheck back ∧ run.result.1.2.entries = resultEntries request x ∨
          ¬ ComesToCheck back ∧ run.result.1.2 = .empty := by
  constructor
  · intro model run reply x hmem hx
    exact evidence_execExisting (Program.run_plays kernel reporter _ k r) hmem hx
  · intro run front reply back x hsplit hx
    exact told_execMissing (Program.run_plays kernel reporter _ k r) hsplit hx

/-- On a healthy kernel the failure of the missing path is told. -/
theorem exec_evidence_enoent :
    let request : ExecRequest := ⟨⟨"/nonexistent", by decide⟩, [], []⟩
    let run := ((execMissingProbe request).trial.run {}).run ScriptedKernel.machine recording {} []
    run.result.1.2.entries
      = [("path", "/nonexistent"), ("ret", "0xffffffffffffffff"), ("errno", "ENOENT (2)")] := by
  intro request run
  have htrace : run.journal.trace =
      [_, _] ++ ⟨.execve request, ⟨none, .failed ⟨.execve, -1, .enoent⟩⟩⟩ ::
        [⟨.getpid, ⟨none, .value 100⟩⟩, ⟨.read 3 1, ⟨none, .value _⟩⟩, _] := rfl
  obtain ⟨-, hentries⟩ | ⟨hstopped, -⟩ := (exec_evidence ScriptedKernel.machine recording {} [] {}
    request).2 _ _ _ _ htrace rfl
  · rw [hentries]
    decide +kernel
  · refine absurd ⟨⟨_, 100, List.mem_cons_self, rfl⟩, 3, ⟨none, .value _⟩,
      List.mem_cons_of_mem _ List.mem_cons_self, by simp⟩ hstopped

/-- A kernel that does not tell the process id a second time. -/
def reticent : ScriptedKernel :=
  { script := [("getpid", [⟨.passThrough, none, none⟩, ⟨.fail .enosys (-1), none, none⟩])] }

/-- The result of an `execve` that failed as it should is lost on a kernel that does not tell the
process id behind it: the probe has no evidence. -/
theorem exec_result_lost :
    let request : ExecRequest := ⟨⟨"/nonexistent", by decide⟩, [], []⟩
    let run := ((execMissingProbe request).trial.run {}).run ScriptedKernel.machine recording
      reticent []
    (∃ reply e, ⟨.execve request, reply⟩ ∈ run.journal.trace ∧ reply.returned = .failed e) ∧
      run.result.1.2 = .empty := by
  intro request run
  have htrace : run.journal.trace[2]? =
      some ⟨.execve request, ⟨none, .failed ⟨.execve, -1, .enoent⟩⟩⟩ := rfl
  exact ⟨⟨_, _, List.mem_of_getElem? htrace, rfl⟩, rfl⟩

end KernelProbe.Lifecycle
