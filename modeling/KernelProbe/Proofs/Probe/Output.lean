import KernelProbe.Probe.Output
import KernelProbe.Probe.Uname
import KernelProbe.Proofs.Probe.Course

/-!
# The courses of the output and system probes

These probes share nothing with each other: each makes one call and judges what it gave.
-/

namespace KernelProbe

variable {j : Journal} {r : Except Halt Unit} {exam : Exam Unit}

namespace Output

theorem eval_checkLength (expected : Nat) (written : UInt64) (exam : Exam Unit) :
    ((checkLength expected written).eval exam).1 = .ok () ↔ written.toNat = expected := by
  simp only [checkLength, Judge.eval_bind, Judge.eval_noteNat, Judge.eval_ite, Judge.eval_refute,
    Judge.eval_pure]
  by_cases h : written.toNat = expected <;> simp [h]

theorem write_course {fd : Int32} (h : (writeProbe fd).Course () j r exam) :
    ∃ reply, j = [⟨.call (.write fd message), reply⟩] ∧
      (r = .ok () ↔ reply.returned = .value 16) := by
  have hlength : message.length = 16 := by decide
  obtain ⟨reply, rfl, ⟨n, hret, hcheck⟩ | ⟨hret, hr, rfl⟩⟩ :=
    (h.test rfl).of_call (.write fd message) rfl
  · refine ⟨reply, rfl, ?_⟩
    have hr := eval_checkLength message.length n ⟨(), .empty⟩
    change (checkLength message.length n).eval ⟨(), .empty⟩ = _ at hcheck
    rw [hcheck, hlength] at hr
    rw [hr, hret, Returned.value.injEq, ← UInt64.toNat_inj]
    rfl
  · exact ⟨reply, rfl, by simp [hret, hr]⟩

theorem writev_course {fd : Int32} (h : (writevProbe fd).Course () j r exam) :
    ∃ reply, j = [⟨.call (.writev fd parts), reply⟩] ∧
      (r = .ok () ↔ reply.returned = .value 19) := by
  have hlength : (parts.map List.length).foldr (· + ·) 0 = 19 := by decide
  obtain ⟨reply, rfl, ⟨n, hret, hcheck⟩ | ⟨hret, hr, rfl⟩⟩ :=
    (h.test rfl).of_call (.writev fd parts) rfl
  · refine ⟨reply, rfl, ?_⟩
    simp only [writevProbe, Judge.eval_bind, Judge.eval_noteNat] at hcheck
    have hr := eval_checkLength ((parts.map List.length).foldr (· + ·) 0) n
      ⟨(), Evidence.empty.push "iovecs" (Text.decimal parts.length)⟩
    rw [hcheck, hlength] at hr
    rw [hr, hret, Returned.value.injEq, ← UInt64.toNat_inj]
    rfl
  · exact ⟨reply, rfl, by simp [hret, hr]⟩

end Output

namespace Uname

/-- Notes taken one after another end up behind the evidence. -/
theorem eval_noteAll {C : Type} (notes : List (String × String)) (exam : Exam C) :
    (notes.forM fun x => Judge.note x.1 x.2 : Judge C PUnit).eval exam
      = (.ok (), { exam with evidence := ⟨exam.evidence.entries ++ notes⟩ }) := by
  induction notes generalizing exam with
  | nil => simp
  | cons x notes ih =>
    show (Judge.note x.1 x.2 >>= fun _ => notes.forM fun x => Judge.note x.1 x.2).eval exam = _
    rw [Judge.eval_bind, Judge.eval_note]
    simp only [ih, Evidence.entries_push, List.append_assoc, List.singleton_append]

theorem uname_course (h : probe.Course () j r exam) :
    ∃ reply, j = [⟨.call .uname, reply⟩] ∧
      (r = .ok () ↔ ∃ uts, reply.returned = .value uts ∧ uts.sysname ≠ "") := by
  obtain ⟨reply, rfl, ⟨uts, hret, hcheck⟩ | ⟨hret, hr, rfl⟩⟩ := (h.test rfl).of_call .uname rfl
  · refine ⟨reply, rfl, ?_⟩
    simp only [probe, Judge.eval_bind, eval_noteAll, Judge.eval_ite, Judge.eval_refute,
      Judge.eval_pure, String.isEmpty_iff] at hcheck
    by_cases hname : uts.sysname = ""
    · rw [if_pos hname] at hcheck
      cases hcheck
      simp [hret, hname]
    · rw [if_neg hname] at hcheck
      cases hcheck
      simp [hret, hname]
  · exact ⟨reply, rfl, by simp [hret, hr]⟩

end Uname

end KernelProbe
