import KernelProbe.Proofs.Probe.Concurrency
import KernelProbe.Proofs.Probe.Files
import KernelProbe.Proofs.Probe.Identity
import KernelProbe.Proofs.Probe.Lifecycle
import KernelProbe.Proofs.Probe.Memory
import KernelProbe.Proofs.Probe.Output

/-!
# The repertoire of the groups

`Group.Within g calls` says that a group asks the kernel for no system calls but the given ones,
neither in its probes nor in its teardown, and leaves reporting to the battery.
-/

namespace KernelProbe

/-- A part of a run that reports nothing and makes no system calls but the given ones. -/
structure Journal.Within (calls : List Syscall) (j : Journal) : Prop where
  reports : j.reports = []
  calls : ∀ c ∈ j.calls, c.syscall ∈ calls

/-- A trial stays within system calls, and never claims to have been shut out by the filter. -/
structure Trial.Within {C : Type} (calls : List Syscall) (t : Trial C) : Prop where
  within : ∀ {c own outcome evidence c'}, (t.run c).Plays own ((outcome, evidence), c') →
    own.Within calls
  kind : ∀ {c own outcome evidence c'}, (t.run c).Plays own ((outcome, evidence), c') →
    ∀ d, outcome = .skipped d → d.kind ≠ .disabled

/-- A group stays within system calls. -/
structure Group.Within (calls : List Syscall) (g : Group) : Prop where
  opening : ∀ s, g.opening s = pure ()
  trials : ∀ t ∈ g.trials, t.Within calls
  teardown : ∀ {c j r c'}, g.teardown.Plays c j r c' → j.Within calls

namespace Journal.Within

variable {calls : List Syscall} {j j₁ j₂ : Journal}

theorem nil : Within calls [] := ⟨rfl, by simp⟩

theorem append (h₁ : j₁.Within calls) (h₂ : j₂.Within calls) : Within calls (j₁ ++ j₂) where
  reports := by rw [reports_append, h₁.reports, h₂.reports]; rfl
  calls c hc := by
    rw [calls_append, List.mem_append] at hc
    exact hc.elim (h₁.calls c) (h₂.calls c)

/-- Staying within system calls depends on the reports and the dealings with the kernel alone. -/
theorem of_kernel (h : j₁.Within calls) (hreports : j.reports = j₁.reports)
    (hkernel : j.kernel = j₁.kernel) : j.Within calls where
  reports := hreports.trans h.reports
  calls c hc := by
    rw [calls_eq_of_kernel hkernel] at hc
    exact h.calls c hc

theorem supports {s : Syscall} {known : Except Fault Bool} (h : j.Within calls) :
    Within calls (⟨.supports s, known⟩ :: j) := ⟨h.reports, h.calls⟩

theorem call {c : Call} {reply : Reply c.Value} (hc : c.syscall ∈ calls) (h : j.Within calls) :
    Within calls (⟨.call c, reply⟩ :: j) where
  reports := h.reports
  calls d hd := by
    rcases List.mem_cons.mp hd with rfl | hd
    · exact hc
    · exact h.calls d hd

end Journal.Within

namespace Probe

variable {C Obs : Type} {calls : List Syscall}

/-- The verdict on a probe that ran is never that the filter shut it out. -/
theorem kind_verdict (lifecycle cleanup : Except Halt Unit) (d : Diagnosis)
    (h : verdict lifecycle cleanup = .skipped d) : d.kind ≠ .disabled := by
  rcases lifecycle with (e | fault) | ⟨⟩
  · cases e <;> cases h
    simp [ProbeError.diagnosis, Diagnosis.of, ProbeError.kind]
  · cases h
  · rcases cleanup with (e | fault) | ⟨⟩ <;> cases h

theorem trial_within {p : Probe C Obs}
    (hcourse : ∀ {c j r exam}, p.Course c j r exam → j.Within calls)
    (hcleanup : ∀ {c j r c'}, p.cleanup.Plays c j r c' → j.Within calls) :
    p.trial.Within calls where
  within h := by
    obtain ⟨j₁, r, context, j₂, cleanup, hlife, hclean, -, hkernel, hreports⟩ := plays_trial h
    refine ((hcourse hlife).append (hcleanup hclean)).of_kernel ?_ ?_
    · rw [hreports, Journal.reports_append]
    · rw [hkernel, Journal.kernel_append]
  kind h d hd := by
    obtain ⟨_, r, _, _, cleanup, -, -, rfl, -, -⟩ := plays_trial h
    exact kind_verdict r cleanup d hd

theorem trial_within_of_no_cleanup {p : Probe C Obs} (hp : p.cleanup = pure ())
    (hcourse : ∀ {c j r exam}, p.Course c j r exam → j.Within calls) : p.trial.Within calls := by
  refine trial_within hcourse fun h => ?_
  rw [hp] at h
  obtain ⟨rfl, -, -⟩ := Staged.plays_pure.mp h
  exact .nil

end Probe

open Journal.Within Probe

/-! ## The groups -/

theorem Output.group_within (fd : Int32) : (Output.group fd).Within [.write, .writev] where
  opening _ := rfl
  trials := by
    refine List.forall_mem_cons.mpr ⟨?_, List.forall_mem_cons.mpr ⟨?_, List.forall_mem_nil _⟩⟩
    · refine trial_within_of_no_cleanup rfl fun h => ?_
      obtain ⟨reply, rfl, -⟩ := write_course h
      exact call (by simp [Call.syscall]) nil
    · refine trial_within_of_no_cleanup rfl fun h => ?_
      obtain ⟨reply, rfl, -⟩ := writev_course h
      exact call (by simp [Call.syscall]) nil
  teardown h := by
    obtain ⟨rfl, -, -⟩ := Staged.plays_pure.mp h
    exact nil

theorem Identity.group_within (slots : SlotRange) (model : ThreadIdModel) :
    (Identity.group slots model).Within [.setThreadArea, .getpid, .gettid, .schedYield] where
  opening _ := rfl
  trials := by
    refine List.forall_mem_cons.mpr ⟨?_, List.forall_mem_cons.mpr ⟨?_, List.forall_mem_cons.mpr
      ⟨?_, List.forall_mem_cons.mpr ⟨?_, List.forall_mem_nil _⟩⟩⟩⟩
    · refine trial_within_of_no_cleanup rfl fun h => ?_
      obtain ⟨-, ⟨known, rfl, -⟩ | ⟨reply, rfl, -⟩⟩ := setThreadArea_course h
      · exact supports nil
      · exact supports (call (by simp [Call.syscall]) nil)
    · refine trial_within_of_no_cleanup rfl fun h => ?_
      obtain ⟨reply, rfl, -⟩ := getpid_course h
      exact call (by simp [Call.syscall]) nil
    · refine trial_within_of_no_cleanup rfl fun h => ?_
      obtain ⟨-, -, -, -, reply, rfl, -⟩ |
        ⟨_, reply, rfl, ⟨rfl, -⟩ | ⟨-, -, reply₀, pid, rfl, -⟩, -⟩ := gettid_course h
      · exact call (by simp [Call.syscall]) nil
      · exact call (by simp [Call.syscall]) nil
      · exact call (by simp [Call.syscall]) (call (by simp [Call.syscall]) nil)
    · refine trial_within_of_no_cleanup rfl fun h => ?_
      obtain ⟨reply, rfl, -⟩ := schedYield_course h
      exact call (by simp [Call.syscall]) nil
  teardown h := by
    obtain ⟨rfl, -, -⟩ := Staged.plays_pure.mp h
    exact nil

theorem Files.closings_within (closed : List (Int32 × Reply Unit)) :
    Journal.Within [.openFile, .openAt, .read, .close] (closed.map closing) := by
  induction closed with
  | nil => exact nil
  | cons x closed ih => exact call (by simp [Call.syscall]) ih

theorem Files.group_within : Files.group.Within [.openFile, .openAt, .read, .close] where
  opening _ := rfl
  trials := by
    refine List.forall_mem_cons.mpr ⟨?_, List.forall_mem_cons.mpr ⟨?_, List.forall_mem_cons.mpr
      ⟨?_, List.forall_mem_cons.mpr ⟨?_, List.forall_mem_nil _⟩⟩⟩⟩
    · refine trial_within_of_no_cleanup rfl fun h => ?_
      obtain ⟨known, rfl, -⟩ | ⟨reply, rfl, -⟩ := open_course h
      · exact supports nil
      · exact supports (call (by simp [Call.syscall]) nil)
    · refine trial_within_of_no_cleanup rfl fun h => ?_
      obtain ⟨reply, rfl, -⟩ := openAt_course h
      exact call (by simp [Call.syscall]) nil
    · refine trial_within_of_no_cleanup rfl fun h => ?_
      obtain ⟨-, -, -, reply, rfl, -⟩ |
        ⟨_, fd, reply, rfl, ⟨rfl, -⟩ | ⟨-, reply₀, rfl, -⟩, -⟩ := read_course h
      · exact call (by simp [Call.syscall]) nil
      · exact call (by simp [Call.syscall]) nil
      · exact call (by simp [Call.syscall]) (call (by simp [Call.syscall]) nil)
    · refine trial_within_of_no_cleanup rfl fun h => ?_
      obtain ⟨-, rfl, -⟩ | ⟨-, closed, left, -, -, rfl, -⟩ := close_course h
      · exact nil
      · exact closings_within closed
  teardown h := by
    refine ⟨(plays_teardown h).2.1, fun c hc => ?_⟩
    obtain ⟨fd, rfl⟩ := teardown_calls h c hc
    simp [Call.syscall]

theorem Memory.triad_within {pageSize : UInt64} (hpage : pageSize ≠ 0) (length : UInt64) :
    ∀ t ∈ triad pageSize length, t.Within [.brk, .mmap, .mincore, .munmap] := by
  refine List.forall_mem_cons.mpr ⟨?_, List.forall_mem_cons.mpr ⟨?_, List.forall_mem_cons.mpr
    ⟨?_, List.forall_mem_nil _⟩⟩⟩
  · refine trial_within_of_no_cleanup rfl fun h => ?_
    obtain ⟨reply, rfl, -⟩ := mmap_course h
    exact call (by simp [Call.syscall]) nil
  · refine trial_within_of_no_cleanup rfl fun h => ?_
    obtain ⟨-, ⟨rfl, -⟩ | ⟨region, capacity, reply, -, -, rfl, -⟩⟩ := mincore_course hpage h
    · exact nil
    · exact call (by simp [Call.syscall]) nil
  · refine trial_within_of_no_cleanup rfl fun h => ?_
    obtain ⟨rfl, -⟩ | ⟨region, reply, -, rfl, -⟩ := munmap_course h
    · exact nil
    · exact call (by simp [Call.syscall]) nil

theorem Memory.group_within {pageSize : UInt64} (hpage : pageSize ≠ 0) (lengths : List UInt64) :
    (Memory.group lengths pageSize).Within [.brk, .mmap, .mincore, .munmap] where
  opening _ := rfl
  trials := by
    refine List.forall_mem_cons.mpr ⟨?_, fun t ht => ?_⟩
    · refine trial_within_of_no_cleanup rfl fun h => ?_
      obtain ⟨-, reply, rfl, -⟩ := brk_course h
      exact call (by simp [Call.syscall]) nil
    · obtain ⟨length, -, ht⟩ := List.mem_flatMap.mp ht
      exact triad_within hpage length t ht
  teardown h := by
    refine ⟨(plays_teardown h).2.1, fun c hc => ?_⟩
    obtain ⟨region, rfl⟩ := teardown_calls h c hc
    simp [Call.syscall]

theorem Concurrency.joining_within {j : Journal} (h : Joining j) :
    j.Within [.futex, .clone, .schedYield] where
  reports := h.reports
  calls c hc := by
    rcases h.calls c hc with hcall | hcall <;> simp [hcall]

theorem Concurrency.group_within (waitTimeout joinTimeout : Duration) :
    (Concurrency.group waitTimeout joinTimeout).Within [.futex, .clone, .schedYield] where
  opening _ := rfl
  trials := by
    refine List.forall_mem_cons.mpr ⟨?_, List.forall_mem_cons.mpr ⟨?_, List.forall_mem_cons.mpr
      ⟨?_, List.forall_mem_cons.mpr ⟨?_, List.forall_mem_nil _⟩⟩⟩⟩
    · refine trial_within_of_no_cleanup rfl fun h => ?_
      obtain ⟨-, hreports, reply, hkernel, -⟩ := futexWait_course h
      have hcall : Journal.Within [.futex, .clone, .schedYield]
          [⟨.call (refusedWait waitTimeout), reply⟩] := call (by simp [Call.syscall]) nil
      exact hcall.of_kernel hreports hkernel
    · refine trial_within_of_no_cleanup rfl fun h => ?_
      obtain ⟨-, reply, rfl, -⟩ := futexWake_course h
      exact call (by simp [Call.syscall]) nil
    · refine trial_within_of_no_cleanup rfl fun h => ?_
      obtain ⟨known, rfl, -⟩ | ⟨-, reply, rfl, -⟩ := clone_course rfl h
      · exact supports nil
      · exact supports (call (by simp [Call.syscall]) nil)
    · exact trial_within_of_no_cleanup rfl fun h => joining_within (join_course h).1
  teardown h := by
    obtain ⟨htrace, hreports⟩ := teardown_silent h
    refine ⟨hreports, fun c hc => ?_⟩
    rw [← Journal.map_call_trace, htrace] at hc
    cases hc

theorem Uname.group_within : Uname.group.Within [.uname] where
  opening _ := rfl
  trials := by
    refine List.forall_mem_cons.mpr ⟨?_, List.forall_mem_nil _⟩
    refine trial_within_of_no_cleanup rfl fun h => ?_
    obtain ⟨reply, rfl, -⟩ := uname_course h
    exact call (by simp [Call.syscall]) nil
  teardown h := by
    obtain ⟨rfl, -, -⟩ := Staged.plays_pure.mp h
    exact nil

theorem Lifecycle.closeWitness_within {c c' : Context} {j : Journal} {r : Except Halt Unit}
    (h : closeWitness.Plays c j r c') : j.Within [.getpid, .openAt, .execve, .read, .close] := by
  obtain ⟨-, hreports, ⟨-, rfl, -⟩ | ⟨fd, reply, -, hkernel, -⟩⟩ := plays_closeWitness h
  · exact nil
  · have hcall : Journal.Within [.getpid, .openAt, .execve, .read, .close]
        [⟨.call (.close fd), reply⟩] := call (by simp [Call.syscall]) nil
    exact hcall.of_kernel hreports hkernel

theorem Lifecycle.group_within (missing existing : ExecRequest) (model : ExecModel) :
    (Lifecycle.group missing existing model).Within [.getpid, .openAt, .execve, .read, .close] where
  opening _ := rfl
  trials := by
    refine List.forall_mem_cons.mpr ⟨?_, List.forall_mem_cons.mpr ⟨?_, List.forall_mem_nil _⟩⟩
    · refine trial_within (fun h => ?_) fun h => closeWitness_within (Staged.plays_modify_bind.mp h)
      obtain ⟨-, -, ⟨_, rfl, -⟩ | ⟨_, _, rfl, -⟩⟩ | ⟨_, pid, _, fd, rest, -, -, rfl, htest⟩ :=
        execMissing_course h
      · exact call (by simp [Call.syscall]) nil
      · exact call (by simp [Call.syscall]) (call (by simp [Call.syscall]) nil)
      refine call (by simp [Call.syscall]) (call (by simp [Call.syscall]) ?_)
      obtain ⟨-, reply₁, ⟨-, ⟨rfl, -⟩ | ⟨reply₂, rfl, -⟩⟩ | ⟨reply₂, reply₃, rfl, -⟩⟩ :=
        execMissing_test htest
      · exact call (by simp [Call.syscall]) nil
      · exact call (by simp [Call.syscall]) (call (by simp [Call.syscall]) nil)
      · exact call (by simp [Call.syscall])
          (call (by simp [Call.syscall]) (call (by simp [Call.syscall]) nil))
    · refine trial_within_of_no_cleanup rfl fun h => ?_
      obtain ⟨-, reply, rfl, -⟩ := execExisting_course h
      exact call (by simp [Call.syscall]) nil
  teardown := closeWitness_within

end KernelProbe
