import Mathlib.Data.List.DropRight
import KernelProbe.Host.Machine
import KernelProbe.Proofs.Probe.ExecEvidence
import KernelProbe.Proofs.Probe.Grounds
import KernelProbe.Proofs.Session.Completeness

/-!
# Diagnoses agree with what happened

What a probe went through stands in the journal between its begin and its record: the entries behind
the last report (`Journal.turn`). `ProbeRecord.Consistent` says how a diagnosis has to agree with
them: an unexpected error is one that a call of the probe returned (`Journal.Erred`), and a fault
was raised while the probe ran (`Raised`) or in its cleanup (`RaisedInCleanup`).

`standard_diagnoses` says that every record of the standard battery is consistent, on every kernel
that names the call when one fails.
-/

namespace KernelProbe

open Journal

/-! ## What a probe met -/

/-- The entries behind the last report. -/
def Journal.turn (past : Journal) : Journal := past.rtakeWhile (·.report?.isNone)

/-- A failed call is named in its error. -/
def Journal.Labelled (j : Journal) : Prop :=
  ∀ x ∈ j.trace, ∀ e, x.reply.returned = .failed e → e.syscall = x.call.syscall

/-- A run against a kernel that names the call when one fails has these names in its journal. -/
theorem Program.run_labelled {α κ ρ : Type} {kernel : Kernel κ}
    (hlabels : ∀ call k e, (kernel.call call k).1.returned = .failed e → e.syscall = call.syscall)
    (reporter : Reporter ρ) (p : Program α) (k : κ) (r : ρ) :
    (p.run kernel reporter k r).journal.Labelled := by
  induction p generalizing k r with
  | pure a => exact List.forall_mem_nil _
  | ask q next ih =>
    cases q with
    | call call => exact List.forall_mem_cons.mpr ⟨hlabels call k, ih _ _ _⟩
    | _ => exact ih _ _ _

/-- A call returned the error, or an `execve` returned a negative value without an error number. -/
inductive Journal.Erred (own : Journal) : SyscallError → Prop
  | failed {x : Exchange} {e : SyscallError} (hx : x ∈ own.trace)
      (hreturned : x.reply.returned = .failed e) (label : e.syscall = x.call.syscall) : Erred own e
  | negative {request : ExecRequest} {reply : Reply Int64} {ret : Int64} {errno : Errno}
      (hx : ⟨.execve request, reply⟩ ∈ own.trace) (hreturned : reply.returned = .value ret)
      (hret : ret < 0) (hname : errno.name = "UnknownErrno") : Erred own ⟨.execve, ret, errno⟩

/-- The call is made by the cleanup of the probe. Only the probe of a missing path has one; it
closes the witness, and nothing else of the probe closes anything. -/
def InCleanup (probe : String) (c : Call) : Prop := probe = "execve_missing" ∧ c.syscall = .close

/-- The fault was raised while the probe ran, before its cleanup: by a call or a query, or by the
probe itself in one of the three places where it can give up. The vector of a residency query can
be too long to count, or to store; a join can have a deadline that the clock cannot hold, or wait
more often than it can count. -/
inductive Raised (c : HarnessConfig) (probe : String) (own : Journal) : Fault → Prop
  | call {x : Exchange} {fault : Fault} (hx : x ∈ own.trace)
      (hreturned : x.reply.returned = .panicked fault) (hlife : ¬InCleanup probe x.call) :
      Raised c probe own fault
  | query {syscall : Syscall} {fault : Fault}
      (h : (⟨.supports syscall, .error fault⟩ : Entry) ∈ own) : Raised c probe own fault
  | counted {length : UInt64} (hlength : length ∈ c.mapLengths)
      (hprobe : probe = Memory.lengthName "mincore" length)
      (h : UInt64.size ≤ Memory.pageCount length c.pageSize + Memory.guardLength) :
      Raised c probe own (.text "attempt to add with overflow")
  | stored {length : UInt64} (hlength : length ∈ c.mapLengths)
      (hprobe : probe = Memory.lengthName "mincore" length)
      (hcounted : Memory.pageCount length c.pageSize + Memory.guardLength < UInt64.size)
      (h : maxBufferLength < Memory.pageCount length c.pageSize + Memory.guardLength) :
      Raised c probe own (.text "capacity overflow")
  | deadline {now : Instant} (hprobe : probe = "clone_join")
      (hread : (⟨.clock, now⟩ : Entry) ∈ own) (h : now.add? c.joinTimeout = none) :
      Raised c probe own (.text "overflow when adding duration to instant")
  | counter (hprobe : probe = "clone_join") (h : Concurrency.maxWaits ≤ own.waits) :
      Raised c probe own (.text "attempt to add with overflow")

/-- A call of the cleanup raised the fault. -/
def RaisedInCleanup (probe : String) (own : Journal) (fault : Fault) : Prop :=
  ∃ x ∈ own.trace, InCleanup probe x.call ∧ x.reply.returned = .panicked fault

/-- The errors and faults that a probe can tell of. -/
def grounds (c : HarnessConfig) (probe : String) (own : Journal) : Grounds :=
  ⟨own.Erred, Raised c probe own, RaisedInCleanup probe own⟩

/-! ## Consistent records -/

/-- The diagnosis tells the error: what the call returned and the error number. The message has
the name of the call in front of them, and behind them what the table says of the number. -/
structure Diagnosis.Tells (d : Diagnosis) (e : SyscallError) : Prop where
  rawReturn : d.rawReturn = some e.ret
  errno : d.errno = some (Int32.ofNat e.errno.code)
  errnoName : d.errnoName = some e.errno.name
  message : ∃ line ∈ errnoTable, line.code = e.errno.code ∧ line.name = e.errno.name ∧
    d.message = e.syscall.name ++ " returned " ++ Text.integer e.ret.toInt ++ " (" ++ line.name
      ++ ": " ++ line.text ++ ")"

/-- The text tells the fault: its own text, or that it has none. -/
inductive Fault.Told : Fault → String → Prop
  | text (s : String) : Told (.text s) s
  | other : Told .other "non-string panic payload"

/-- The parts of a diagnosis agree with each other, and with what the probe went through. -/
structure Diagnosis.Consistent (c : HarnessConfig) (probe : String) (own : Journal)
    (d : Diagnosis) : Prop where
  /-- An error number has a code and a name. -/
  errno : d.errno.isSome = d.errnoName.isSome
  /-- It comes with what the call returned. -/
  rawReturn : d.errno.isSome = true → d.rawReturn.isSome = true
  /-- A probe that was shut out or gave up tells of no call. -/
  bare : d.kind = .disabled ∨ d.kind = .panicked →
    d.rawReturn = none ∧ d.errno = none ∧ d.errnoName = none
  /-- An unexpected error is one that a call of the probe returned. -/
  unexpected : d.kind = .unexpectedSyscallError → ∃ e, own.Erred e ∧ d.Tells e
  /-- A probe gave up because of a fault that was raised while it ran. -/
  panicked : d.kind = .panicked →
    (∃ fault, Raised c probe own fault ∧ fault.Told d.message) ∨
      ∃ fault told, RaisedInCleanup probe own fault ∧ fault.Told told ∧
        d.message = "cleanup: " ++ told

/-- The diagnosis in a record agrees with the verdict and with what the probe went through. -/
structure ProbeRecord.Consistent (c : HarnessConfig) (own : Journal) (record : ProbeRecord) :
    Prop where
  pass : record.outcome = .pass ↔ record.outcome.diagnosis? = none
  skipped : ∀ d, record.outcome = .skipped d → d.kind = .setupFailure ∨ d.kind = .disabled
  fail : ∀ d, record.outcome = .fail d →
    d.kind = .assertionFailure ∨ d.kind = .unexpectedSyscallError ∨ d.kind = .panicked
  diagnosis : ∀ d, record.outcome.diagnosis? = some d → d.Consistent c record.probe own

/-- A pass, or what a founded error leads to. -/
def Outcome.Founded (G : Grounds) (o : Outcome) : Prop :=
  o = .pass ∨ ∃ e : ProbeError, e.Founded G ∧ o = e.outcome

variable {c : HarnessConfig} {probe : String} {own whole part j : Journal} {record : ProbeRecord}

/-- What is written of a failed call tells it. -/
theorem SyscallError.told (e : SyscallError) :
    (Diagnosis.of .unexpectedSyscallError e.message (some e.raw)).Tells e :=
  ⟨rfl, rfl, rfl, e.errno.entry, e.errno.entry_mem.1, e.errno.entry_mem.2, rfl, rfl⟩

theorem Fault.told_message : ∀ fault : Fault, fault.Told fault.message
  | text s => .text s
  | other => .other

/-- A diagnosis of the return of a call has an error number only with the return. -/
theorem Diagnosis.consistent_of {kind : FailureKind} (hdisabled : kind ≠ .disabled)
    (hunexpected : kind ≠ .unexpectedSyscallError) (hpanicked : kind ≠ .panicked) (message : String)
    (observed : Option RawReturn) :
    (Diagnosis.of kind message observed).Consistent c probe own where
  errno := by simp only [Diagnosis.of, Option.isSome_map]
  rawReturn := by cases observed <;> simp [Diagnosis.of]
  bare h := absurd h (not_or.mpr ⟨hdisabled, hpanicked⟩)
  unexpected h := absurd h hunexpected
  panicked h := absurd h hpanicked

/-- What a founded error leads to is consistent. -/
theorem ProbeError.consistent_diagnosis {e : ProbeError} (h : e.Founded (grounds c probe own)) :
    e.diagnosis.Consistent c probe own := by
  cases e with
  | setup message observed =>
    exact Diagnosis.consistent_of (by simp [kind]) (by simp [kind]) (by simp [kind]) ..
  | assertion message observed =>
    exact Diagnosis.consistent_of (by simp [kind]) (by simp [kind]) (by simp [kind]) ..
  | unexpected cause =>
    refine ⟨rfl, fun _ => rfl, ?_, fun _ => ⟨cause, h, cause.told⟩, ?_⟩ <;>
      simp [diagnosis, Diagnosis.of, kind]
  | panicked message =>
    refine ⟨rfl, ?_, fun _ => ⟨rfl, rfl, rfl⟩, ?_, fun _ => ?_⟩
    · simp [diagnosis, Diagnosis.of]
    · simp [diagnosis, Diagnosis.of, kind]
    · obtain ⟨fault, hraised, rfl⟩ | ⟨fault, hraised, rfl⟩ := h
      · exact .inl ⟨fault, hraised, fault.told_message⟩
      · exact .inr ⟨fault, fault.message, hraised, fault.told_message, rfl⟩

theorem ProbeRecord.consistent_of_founded
    (h : record.outcome.Founded (grounds c record.probe own)) : record.Consistent c own := by
  obtain hpass | ⟨e, he, houtcome⟩ := h
  · constructor <;> simp [hpass, Outcome.diagnosis?]
  · have hdiagnosis : record.outcome.diagnosis? = some e.diagnosis := by
      rw [houtcome]
      cases e <;> rfl
    refine ⟨?_, ?_, ?_, ?_⟩
    · rw [houtcome]
      cases e <;> simp [ProbeError.outcome, Outcome.diagnosis?]
    · intro d hd
      rw [houtcome] at hd
      cases e <;> cases hd
      exact .inl rfl
    · intro d hd
      rw [houtcome] at hd
      cases e <;> cases hd
      · exact .inl rfl
      · exact .inr (.inl rfl)
      · exact .inr (.inr rfl)
    · intro d hd
      cases hdiagnosis.symm.trans hd
      exact ProbeError.consistent_diagnosis he

/-- A probe that was shut out tells of nothing. -/
theorem ProbeRecord.consistent_of_disabled (h : record.outcome = Battery.disabled) :
    record.Consistent c own := by
  have hdiagnosis : (Diagnosis.of .disabled "disabled by probe filter" none).Consistent c
      record.probe own := by
    refine ⟨rfl, ?_, fun _ => ⟨rfl, rfl, rfl⟩, ?_, ?_⟩ <;> simp [Diagnosis.of]
  constructor <;> simp [h, Battery.disabled, Outcome.diagnosis?, Diagnosis.of]
  exact hdiagnosis

/-! ## Probes -/

theorem Journal.Labelled.of_sublist (h : whole.Labelled) (hpart : part.Sublist whole) :
    part.Labelled := fun x hx => h x ((hpart.filterMap Entry.exchange?).subset hx)

/-- What a probe meets before its cleanup is among the grounds. -/
theorem Journal.Labelled.founded (hwhole : whole.Labelled) (hpart : part.Sublist whole)
    (hlife : ∀ x ∈ part.trace, ¬InCleanup probe x.call) :
    part.Founded (grounds c probe whole) := by
  rintro ⟨q, answer⟩ he
  cases q with
  | supports syscall =>
    rintro fault rfl
    exact .query (hpart.subset he)
  | call call =>
    have hx : (⟨call, answer⟩ : Exchange) ∈ part.trace := List.mem_filterMap.mpr ⟨_, he, rfl⟩
    have hx' := (hpart.filterMap Entry.exchange?).subset hx
    refine ⟨?_, fun fault hreturned => .call hx' hreturned (hlife _ hx)⟩
    rintro (e | v) hattempted
    · have hreturned := Returned.attempted_eq_failed.mp hattempted
      have hlabel := hwhole _ hx' e hreturned
      exact ⟨hlabel, .failed hx' hreturned hlabel⟩
    · have hreturned := Returned.attempted_eq_ok.mp hattempted
      cases call with
      | execve request => exact fun hret => .negative hx' hreturned hret (by decide)
      | _ => trivial
  | _ => trivial

namespace Probe

variable {C Obs : Type} {p : Probe C Obs} {G : Grounds}

/-- What a lifecycle and a cleanup come to is founded if they are. -/
theorem founded_verdict {life cleanup : Except Halt Unit} (hlife : G.Result (fun _ => True) life)
    (hcleanup : ∀ fault, cleanup = .error (.panicked fault) → G.cleanup fault) :
    Outcome.Founded G (verdict life cleanup) := by
  rcases life with (e | fault) | ⟨⟩
  · exact .inr ⟨e, hlife, rfl⟩
  · exact .inr ⟨.panicked fault.message, .inl ⟨fault, hlife, rfl⟩, rfl⟩
  · rcases cleanup with (e | fault) | ⟨⟩
    · exact .inl rfl
    · exact .inr ⟨.panicked ("cleanup: " ++ fault.message),
        .inr ⟨fault, hcleanup fault rfl, rfl⟩, rfl⟩
    · exact .inl rfl

end Probe

/-- Whatever the probe goes through within a journal, its outcome is founded on it. -/
def Trial.Accounted (c : HarnessConfig) {C : Type} (t : Trial C) : Prop :=
  ∀ ⦃whole d own outcome evidence d'⦄, whole.Labelled → own.Sublist whole →
    (t.run d).Plays own ((outcome, evidence), d') →
    outcome.Founded (grounds c t.spec.name whole)

namespace Probe

variable {C Obs : Type} {p : Probe C Obs}

/-- A probe without a cleanup is accounted for if its lifecycle is founded. -/
theorem accounted_of_course (hp : p.cleanup = pure ()) (hname : p.spec.name ≠ "execve_missing")
    (hcourse : ∀ {whole d own r exam}, own.Sublist whole →
      own.Founded (grounds c p.spec.name whole) → p.Course d own r exam →
      (grounds c p.spec.name whole).Result (fun _ => True) r) : p.trial.Accounted c := by
  intro whole d j outcome evidence d' hwhole hpart h
  obtain ⟨own, logs, life, rfl, hlife, rfl, -⟩ := plays_run_of_no_cleanup hp h
  replace hpart := (List.sublist_append_left ..).trans hpart
  have hown : own.Founded (grounds c p.spec.name whole) :=
    hwhole.founded hpart fun x _ hcleanup => hname hcleanup.1
  exact founded_verdict (hcourse hpart hown hlife) fun fault h => by cases h

theorem accounted (h : ∀ G, p.Founded G) (hp : p.cleanup = pure ())
    (hname : p.spec.name ≠ "execve_missing") : p.trial.Accounted c :=
  accounted_of_course hp hname fun _ hown hlife => h _ hown hlife

end Probe

open Probe

theorem Output.trials_accounted (fd : Int32) : ∀ t ∈ (group fd).trials, t.Accounted c :=
  List.forall_mem_cons.mpr ⟨accounted (fun _ => write_founded fd) rfl (by simp [writeProbe]),
    List.forall_mem_singleton.mpr
      (accounted (fun _ => writev_founded fd) rfl (by simp [writevProbe]))⟩

theorem Identity.trials_accounted (slots : SlotRange) (model : ThreadIdModel) :
    ∀ t ∈ (group slots model).trials, t.Accounted c := by
  refine List.forall_mem_cons.mpr ⟨?_, List.forall_mem_cons.mpr ⟨?_, List.forall_mem_cons.mpr
    ⟨?_, List.forall_mem_singleton.mpr ?_⟩⟩⟩
  · exact accounted (fun _ => setThreadArea_founded slots) rfl (by simp [setThreadAreaProbe])
  · exact accounted (fun _ => getpid_founded) rfl (by simp [getpidProbe])
  · exact accounted (fun _ => gettid_founded model) rfl (by simp [gettidProbe])
  · exact accounted (fun _ => schedYield_founded) rfl (by simp [schedYieldProbe])

theorem Files.trials_accounted : ∀ t ∈ group.trials, t.Accounted c := by
  refine List.forall_mem_cons.mpr ⟨?_, List.forall_mem_cons.mpr ⟨?_, List.forall_mem_cons.mpr
    ⟨?_, List.forall_mem_singleton.mpr ?_⟩⟩⟩
  · exact accounted (fun _ => open_founded _) rfl (by simp [openProbe])
  · exact accounted (fun _ => openAt_founded _ _) rfl (by simp [openAtProbe])
  · exact accounted (fun _ => read_founded _) rfl (by simp [readProbe])
  · exact accounted (fun _ => close_founded) rfl (by simp [closeProbe])

theorem Memory.lengthName_ne (call : String) (length : UInt64) :
    lengthName call length ≠ "execve_missing" := by
  intro h
  have hmem : ']' ∈ (lengthName call length).toList := by simp [lengthName]
  rw [h] at hmem
  exact absurd hmem (by decide)

theorem Memory.triad_accounted {length : UInt64} (hpage : c.pageSize ≠ 0)
    (hlength : length ∈ c.mapLengths) : ∀ t ∈ triad c.pageSize length, t.Accounted c := by
  refine List.forall_mem_cons.mpr ⟨?_, List.forall_mem_cons.mpr
    ⟨?_, List.forall_mem_singleton.mpr ?_⟩⟩
  · exact accounted (fun _ => mmap_founded) rfl (lengthName_ne _ _)
  · refine accounted_of_course rfl (lengthName_ne _ _) fun _ hown hlife => ?_
    refine mincore_founded hpage (fun fault h => ?_) hown hlife
    obtain ⟨hsize, rfl⟩ | ⟨hcounted, hmax, rfl⟩ := of_vectorLength_eq_error hpage h
    · exact Raised.counted hlength rfl hsize
    · exact Raised.stored hlength rfl hcounted hmax
  · exact accounted (fun _ => munmap_founded) rfl (lengthName_ne _ _)

theorem Memory.trials_accounted (hpage : c.pageSize ≠ 0) :
    ∀ t ∈ (group c.mapLengths c.pageSize).trials, t.Accounted c := by
  refine List.forall_mem_cons.mpr
    ⟨accounted (fun _ => brk_founded) rfl (by simp [brkProbe]), fun t ht => ?_⟩
  obtain ⟨length, hlength, ht⟩ := List.mem_flatMap.mp ht
  exact triad_accounted hpage hlength t ht

theorem Concurrency.trials_accounted (waitTimeout : Duration) :
    ∀ t ∈ (group waitTimeout c.joinTimeout).trials, t.Accounted c := by
  refine List.forall_mem_cons.mpr ⟨?_, List.forall_mem_cons.mpr ⟨?_, List.forall_mem_cons.mpr
    ⟨?_, List.forall_mem_singleton.mpr ?_⟩⟩⟩
  · exact accounted (fun _ => futexWait_founded waitTimeout) rfl (by simp [futexWaitProbe])
  · exact accounted (fun _ => futexWake_founded _) rfl (by simp [futexWakeProbe])
  · exact accounted (fun _ => clone_founded rfl) rfl (by simp [cloneProbe])
  · refine accounted_of_course rfl (by simp [joinProbe]) fun hpart hown hlife => ?_
    exact join_founded hown hlife
      (fun now hread h => Raised.deadline rfl (hpart.subset hread) h)
      fun hwaits => Raised.counter rfl (hwaits.trans (waits_le hpart))

theorem Uname.trials_accounted : ∀ t ∈ group.trials, t.Accounted c :=
  List.forall_mem_singleton.mpr (accounted (fun _ => Uname.founded) rfl (by simp [Uname.probe]))

namespace Lifecycle

variable {request : ExecRequest} {d d' : Context} {fault : Fault}

/-- Before its cleanup, the probe of a missing path closes nothing. -/
theorem course_calls {r : Except Halt Unit} {exam : Exam Context}
    (h : (execMissingProbe request).Course d own r exam) :
    ∀ x ∈ own.trace, x.call.syscall ≠ .close := by
  obtain ⟨-, -, ⟨reply, rfl, -⟩ | ⟨reply₁, reply₂, rfl, -⟩⟩ |
    ⟨reply₁, pid, reply₂, fd, rest, -, -, rfl, test⟩ := execMissing_course h
  · simp [trace_cons, Entry.exchange?, Call.syscall]
  · simp [trace_cons, Entry.exchange?, Call.syscall]
  obtain ⟨reply, back, htrace, hcalls, -⟩ := told_execMissing_test test
  have hback : ∀ x ∈ back, x.call.syscall ≠ .close := by
    intro x hx
    rcases hcalls _ (List.mem_map_of_mem hx) with heq | heq <;> simp [heq, Call.syscall]
  simpa [trace_cons, htrace, Entry.exchange?, Call.syscall] using hback

/-- A fault of the cleanup is one of its close. -/
theorem cleanup_panicked
    (h : (execMissingProbe request).cleanup.Plays d own (.error (.panicked fault)) d') :
    ∃ fd reply, (⟨.close fd, reply⟩ : Exchange) ∈ own.trace ∧
      reply.returned = .panicked fault := by
  replace h := Staged.plays_get_bind.mp (Staged.plays_modify_bind.mp h)
  cases hfd : d.witnessFd with
  | none =>
    simp only [hfd] at h
    obtain ⟨-, heq, -⟩ := Staged.plays_pure.mp h
    cases heq
  | some fd =>
    simp only [hfd] at h
    obtain ⟨reply, ⟨fault', hreturned, rfl, heq, -⟩ | ⟨x, j₁, -, rfl, h₁⟩⟩ :=
      Step.plays_attempt_bind.mp (Staged.plays_modify_bind.mp h)
    · cases heq
      exact ⟨fd, reply, List.mem_singleton_self _, hreturned⟩
    · rcases x with e | ⟨⟩
      · obtain ⟨-, heq, -⟩ := (Step.plays_log _).mp h₁
        cases heq
      · obtain ⟨-, heq, -⟩ := Staged.plays_pure.mp h₁
        cases heq

theorem execMissing_accounted (request : ExecRequest) :
    (execMissingProbe request).trial.Accounted c := by
  intro whole d j outcome evidence d' hwhole hpart h
  obtain ⟨own, life, exam, clean, cleanup, hlife, hclean, rfl, -, rfl⟩ := Probe.plays_run h
  simp only [List.append_assoc] at hpart
  have hown : own.Sublist whole := (List.sublist_append_left ..).trans hpart
  have hcleaned : clean.Sublist whole := (List.sublist_append_left ..).trans
    ((List.sublist_append_right ..).trans ((List.sublist_append_right ..).trans hpart))
  have hfounded : own.Founded (grounds c "execve_missing" whole) :=
    hwhole.founded hown fun x hx hcleanup => course_calls hlife x hx hcleanup.2
  refine Probe.founded_verdict (execMissing_founded request hfounded hlife) ?_
  rintro fault rfl
  obtain ⟨fd, reply, hmem, hreturned⟩ := cleanup_panicked hclean
  exact ⟨_, (hcleaned.filterMap Entry.exchange?).subset hmem, ⟨rfl, rfl⟩, hreturned⟩

theorem trials_accounted (missing existing : ExecRequest) (model : ExecModel) :
    ∀ t ∈ (group missing existing model).trials, t.Accounted c := by
  refine List.forall_mem_cons.mpr
    ⟨execMissing_accounted missing, List.forall_mem_singleton.mpr ?_⟩
  exact accounted (fun _ => execExisting_founded existing model) rfl (by simp [execExistingProbe])

end Lifecycle

/-- Every probe of the standard battery is accounted for. -/
theorem Battery.trials_accounted {missing existing : ExecRequest} (hc : c.Sound missing existing) :
    ∀ g ∈ (ofRequests c missing existing).groups, ∀ t ∈ g.trials, t.Accounted c :=
  List.forall_mem_cons.mpr ⟨Output.trials_accounted _,
    List.forall_mem_cons.mpr ⟨Identity.trials_accounted _ _,
      List.forall_mem_cons.mpr ⟨Files.trials_accounted,
        List.forall_mem_cons.mpr ⟨Memory.trials_accounted hc.pageSize,
          List.forall_mem_cons.mpr ⟨Concurrency.trials_accounted _,
            List.forall_mem_cons.mpr ⟨Uname.trials_accounted,
              List.forall_mem_singleton.mpr (Lifecycle.trials_accounted _ _ _)⟩⟩⟩⟩⟩⟩

/-! ## Turns -/

/-- What follows a report, up to the next one, is the turn. -/
theorem Journal.turn_report {before : Journal} {e : Entry} (he : e.report? ≠ none)
    (hown : own.reports = []) : turn (before ++ e :: own) = own := by
  induction own using List.reverseRecOn with
  | nil =>
    refine List.rtakeWhile_concat_neg _ _ e ?_
    rwa [Option.isNone_iff_eq_none]
  | append_singleton own e' ih =>
    rw [reports_append, List.append_eq_nil_iff] at hown
    have he' : e'.report? = none := by
      cases h : e'.report? with
      | none => rfl
      | some event => simp [reports, h] at hown
    rw [← List.cons_append, ← List.append_assoc, turn,
      List.rtakeWhile_concat_pos _ _ _ (by rw [he']; rfl)]
    exact congrArg (· ++ [e']) (ih hown.1)

namespace Battery

open Staged

variable {C : Type} {filter : ProbeFilter} {group : String} {trial : Trial C} {calls : List Syscall}
  {s s' : RunSummary} {d d' : C} {past : Journal} {r : Except HarnessError Unit}

/-- The entries between the begin of a probe that ran and its record. -/
def between (spec : ProbeSpec) (started ended : Instant) (own : Journal) (outcome : Outcome) :
    Journal :=
  ⟨.clock, started⟩ :: own ++ [⟨.clock, ended⟩, verdictEntry spec.name outcome]

theorem reports_between (spec : ProbeSpec) (started ended : Instant) (outcome : Outcome)
    (hown : own.reports = []) : (between spec started ended own outcome).reports = [] := by
  rw [between, List.cons_append, reports_cons, reports_append, hown]
  exact (silent_verdict ended spec.name outcome).2

theorem own_sublist_between (spec : ProbeSpec) (started ended : Instant) (own : Journal)
    (outcome : Outcome) : own.Sublist (between spec started ended own outcome) :=
  (List.sublist_cons_self ..).trans (List.sublist_append_left ..)

theorem attended_eq (group : String) (spec : ProbeSpec) (s : RunSummary) (started ended : Instant)
    (own : Journal) (outcome : Outcome) :
    attended group spec s started ended own outcome = checkpointed spec s ++
      ⟨.report (.beginProbe group spec), .ok ()⟩ :: between spec started ended own outcome := by
  simp [attended, between]

/-- If the entry is a record behind calls that are named when they fail, the record is consistent
with the entries behind the last report. If the probe was not shut out, that report is its begin. -/
def Accounts (c : HarnessConfig) (past : Journal) (e : Entry) : Prop :=
  past.Labelled → ∀ record answer, e = ⟨.report (.record record), answer⟩ →
    (record.outcome = .skipped ⟨.disabled, "disabled by probe filter", none, none, none⟩ ∨
      ∃ before spec, spec.name = record.probe ∧
        past = before ++ ⟨.report (.beginProbe record.group spec), .ok ()⟩ :: past.turn) ∧
    record.Consistent c past.turn

theorem accounts_of_records_eq_nil (h : j.records = []) : Every (Accounts c) past j :=
  every_of_records_eq_nil
    (fun _ _ hno _ record answer heq => (hno record answer heq).elim) h

/-- The turn of a probe that is accounted for ends with a consistent record. -/
theorem Turn.accounts (ht : trial.Within calls) (haccounted : trial.Accounted c)
    (h : Turn filter group trial s d j r s' d') : Every (Accounts c) past j := by
  cases h with
  | shutOut off answer =>
    refine every_singleton ?_
    rintro - record answer ⟨⟩
    exact ⟨.inl rfl, ProbeRecord.consistent_of_disabled rfl⟩
  | checkpointRefused on may e => exact accounts_of_records_eq_nil rfl
  | beginRefused on e =>
    exact accounts_of_records_eq_nil (records_of_undivided
      (undivided_append.mpr ⟨(checkpointed_silent trial.spec s).2, begin_undivided⟩))
  | @ran on started own outcome evidence _ ended plays =>
    rw [ran_eq_attended]
    have hreports := (ht.within plays).reports
    refine every_append (accounts_of_records_eq_nil
      (records_of_undivided (attended_undivided group hreports))) (every_singleton ?_)
    rintro hlabelled record answer ⟨⟩
    rw [attended_eq, ← List.append_assoc] at hlabelled ⊢
    rw [turn_report (by simp [Entry.report?]) (reports_between _ started ended outcome hreports)]
    refine ⟨.inr ⟨_, trial.spec, rfl, rfl⟩, ProbeRecord.consistent_of_founded ?_⟩
    refine haccounted (hlabelled.of_sublist ?_) (own_sublist_between ..) plays
    exact (List.sublist_cons_self ..).trans (List.sublist_append_right ..)

/-! ## Runs -/

variable {runId : String} {startedAt : Int64} {result : Except HarnessError RunSummary}

/-- The records of a run of the standard battery are consistent. -/
theorem RunCourse.accounts {missing existing : ExecRequest} (hc : c.Sound missing existing)
    (h : RunCourse (ofRequests c missing existing) runId startedAt j result) :
    Every (Accounts c) [] j := by
  refine h.every (within_ofRequests hc) accounts_of_records_eq_nil ?_
  intro g hg t ht s d past j r s' d' hturn
  obtain ⟨calls, hcalls⟩ := within_ofRequests hc g hg
  exact hturn.accounts (hcalls.trials t ht) (trials_accounted hc g hg t ht)

/-- On every kernel that names the call when one fails, and with every reporter, the diagnosis in
every record of the standard battery agrees with what happened. A probe that was not shut out has
its begin in front of its turn. -/
theorem standard_diagnoses {κ ρ : Type} (kernel : Kernel κ) (reporter : Reporter ρ) (k : κ) (r : ρ)
    (hlabels : ∀ call k e, (kernel.call call k).1.returned = .failed e → e.syscall = call.syscall)
    {c : HarnessConfig} {b : Battery} (hb : standard c = .ok b) (runId : String)
    (startedAt : Int64) :
    ∀ (past : Journal) record answer future,
      ((b.run runId startedAt).run kernel reporter k r).journal
          = past ++ ⟨.report (.record record), answer⟩ :: future →
      (record.outcome = .skipped ⟨.disabled, "disabled by probe filter", none, none, none⟩ ∨
        ∃ before spec, spec.name = record.probe ∧
          past = before ++ ⟨.report (.beginProbe record.group spec), .ok ()⟩ :: past.turn) ∧
      record.Consistent c past.turn := by
  intro past record answer future hsplit
  obtain ⟨missing, existing, hc, rfl⟩ := standard_eq_ok hb
  have hcourse := plays_run (Program.run_plays kernel reporter
    ((ofRequests c missing existing).run runId startedAt) k r)
  have hlabelled := Program.run_labelled hlabels reporter
    ((ofRequests c missing existing).run runId startedAt) k r
  rw [hsplit] at hlabelled
  exact hcourse.accounts hc past _ future hsplit
    (hlabelled.of_sublist (List.sublist_append_left ..)) record answer rfl

/-- The modelled machine names the call when one fails. -/
theorem machine_names (call : Call) (m : Host.Machine) (e : SyscallError)
    (h : (Host.Machine.kernel.call call m).1.returned = .failed e) : e.syscall = call.syscall := by
  replace h : (m.call call).1.returned = .failed e := h
  obtain ⟨v, hreturned⟩ | ⟨errno, hreturned⟩ := m.call_cases call
  · cases hreturned.symm.trans h
  · cases hreturned.symm.trans h
    rfl

/-- In a run of the default battery on the modelled machine, a record tells of an unexpected error
that a call of its probe returned. -/
theorem standard_diagnoses_default : ∃ b, standard {} = .ok b ∧
    ∃ (past : Journal) (record : ProbeRecord) (answer : Except HarnessError Unit)
      (future : Journal) (d : Diagnosis),
      ((b.run "run" 0).run Host.Machine.kernel recording Host.Machine.start []).journal
        = past ++ ⟨.report (.record record), answer⟩ :: future ∧
      record.outcome.diagnosis? = some d ∧ d.kind = .unexpectedSyscallError ∧
      ∃ e, past.turn.Erred e ∧ d.Tells e := by
  have hrun : ∃ b, standard {} = .ok b ∧ ∃ record ∈ ((b.run "run" 0).run Host.Machine.kernel
      recording Host.Machine.start []).journal.records,
      record.outcome.diagnosis?.map (·.kind) = some .unexpectedSyscallError :=
    ⟨_, rfl, by decide +kernel⟩
  obtain ⟨b, hb, record, hmem, hkind⟩ := hrun
  obtain ⟨past, answer, future, hsplit⟩ := mem_records.mp hmem
  obtain ⟨d, hd, hkind⟩ := Option.map_eq_some_iff.mp hkind
  have hrecord := (standard_diagnoses Host.Machine.kernel recording Host.Machine.start []
    machine_names hb "run" 0 past record answer future hsplit).2
  exact ⟨b, hb, past, record, answer, future, d, hsplit, hd, hkind,
    (hrecord.diagnosis d hd).unexpected hkind⟩

end Battery

end KernelProbe
