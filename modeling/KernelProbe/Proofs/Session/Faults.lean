import KernelProbe.Host.Machine
import KernelProbe.Proofs.Session.Completeness
import KernelProbe.Proofs.Session.Sources

/-!
# Probes that give up by themselves

If no call of the kernel gives up, a probe can still do so in three places: where it sizes the
vector for a residency query, where it adds the timeout of a join to the time, and where it counts
the waits of a join. `Overflows` says when one of them does, and `standard_overflows` that nothing
else gives up, and no teardown. An accepted configuration can have any mapping length and any
timeout, so that it does happen: in the run of `join_overflow` the child is there, and its join
gives up at once.
-/

namespace KernelProbe

/-- There may be any text, and no fault. -/
def Wording.faultless : Wording := ⟨fun _ => True, fun _ => False, fun _ _ => trivial⟩

/-- There may be any text and any fault. -/
def Wording.free : Wording := ⟨fun _ => True, fun _ => True, fun _ _ => trivial⟩

/-- A probe gave up, according to its outcome. -/
def Outcome.GaveUp (o : Outcome) : Prop := o.diagnosis?.map (·.kind) = some .panicked

theorem Outcome.Worded.not_gaveUp {o : Outcome} (h : o.Worded .faultless) : ¬o.GaveUp := by
  intro hup
  obtain rfl | ⟨e, he, rfl⟩ := h
  · cases hup
  cases e with
  | panicked message =>
    obtain ⟨_, hfalse, -⟩ := he
    exact hfalse
  | _ => cases hup

theorem Journal.worded_free (j : Journal) : j.Worded .free := by
  intro e _
  obtain ⟨q, answer⟩ := e
  cases q with
  | supports syscall => exact fun _ _ => trivial
  | call c =>
    refine ⟨fun v _ => ?_, fun _ _ => trivial⟩
    cases c <;> first | trivial | exact fun _ _ => trivial
  | _ => trivial

theorem Journal.Worded.of_sublist {W : Wording} {j whole : Journal} (hwhole : whole.Worded W)
    (h : j.Sublist whole) : j.Worded W := fun e he => hwhole e (h.subset he)

namespace Battery

open Journal

/-- When the probe of a name gives up by itself in a run with the journal `j`. -/
inductive Overflows (c : HarnessConfig) (j : Journal) : String → Prop
  /-- The vector for a residency query is longer than any buffer. -/
  | vector {length : UInt64} (hlength : length ∈ c.mapLengths)
      (h : maxBufferLength < Memory.pageCount length c.pageSize + Memory.guardLength) :
      Overflows c j (Memory.lengthName "mincore" length)
  /-- From a time that was read, the clock does not reach as far as the timeout of the join. -/
  | deadline {now : Instant} (hread : (⟨.clock, now⟩ : Entry) ∈ j)
      (h : now.add? c.joinTimeout = none) : Overflows c j "clone_join"
  /-- There were as many waits as the counter of the join can hold. -/
  | counter (h : Concurrency.maxWaits ≤ j.waits) : Overflows c j "clone_join"

variable {c : HarnessConfig} {missing existing : ExecRequest} {whole : Journal} {runId : String}
  {startedAt : Int64} {result : Except HarnessError RunSummary}

theorem maxBufferLength_lt_of_vectorLength {length pageSize : UInt64} {fault : Fault}
    (hpage : pageSize ≠ 0) (h : Memory.vectorLength length pageSize = .error fault) :
    maxBufferLength < Memory.pageCount length pageSize + Memory.guardLength := by
  obtain ⟨hsize, -⟩ | ⟨-, hmax, -⟩ := Memory.of_vectorLength_eq_error hpage h
  · have hword : maxBufferLength < UInt64.size := by decide
    exact Nat.lt_of_lt_of_le hword hsize
  · exact hmax

/-- What a probe goes through within a run is orderly, and the probe gives up only if something
overflows. -/
def Sober (c : HarnessConfig) (whole : Journal) {C : Type} (t : Trial C) : Prop :=
  ∀ ⦃d own outcome evidence d'⦄, own.Sublist whole → (t.run d).Plays own ((outcome, evidence), d') →
    own.Orderly ∧ (outcome.GaveUp → Overflows c whole t.spec.name)

/-- In a run whose calls do not give up, every probe of the standard battery is sober. -/
theorem trials_sober (hc : c.Sound missing existing) (hwhole : whole.Worded .faultless) :
    ∀ g ∈ (ofRequests c missing existing).groups, ∀ t ∈ g.trials, Sober c whole t := by
  refine forall_trials (W := .faultless) (P := Sober c whole) trivial trivial ?worded ?mincore ?join
  case worded =>
    intro C t ht d own outcome evidence d' hpart plays
    obtain ⟨⟨houtcome, -⟩, horderly⟩ := ht (hwhole.of_sublist hpart) plays
    exact ⟨horderly, fun hup => absurd hup houtcome.not_gaveUp⟩
  case mincore =>
    intro length hlength d own outcome evidence d' hpart plays
    have horderly := (Memory.mincore_worded (W := .free) hc.pageSize (fun _ _ => trivial)
      (worded_free own) plays).2
    refine ⟨horderly, fun hup => ?_⟩
    cases hvector : Memory.vectorLength length c.pageSize with
    | error fault => exact .vector hlength (maxBufferLength_lt_of_vectorLength hc.pageSize hvector)
    | ok capacity =>
      obtain ⟨⟨houtcome, -⟩, -⟩ := Memory.mincore_worded hc.pageSize
        (fun fault heq => by rw [hvector] at heq; cases heq) (hwhole.of_sublist hpart) plays
      exact absurd hup houtcome.not_gaveUp
  case join =>
    intro d own outcome evidence d' hpart plays
    have horderly := (Concurrency.join_worded (worded_free own) plays (fun _ _ _ => trivial)
      fun _ => trivial).2
    refine ⟨horderly, fun hup => ?_⟩
    by_contra hnone
    -- a join that overflows nothing does not give up
    obtain ⟨⟨houtcome, -⟩, -⟩ := Concurrency.join_worded (hwhole.of_sublist hpart) plays
      (fun now hread hadd => hnone (.deadline (hpart.subset hread) hadd))
      fun hwaits => hnone (.counter (hwaits.trans (waits_le hpart)))
    exact houtcome.not_gaveUp hup

/-- In a run whose calls do not give up, a probe gives up only if something overflows, and no
teardown does. -/
theorem RunCourse.overflows (hc : c.Sound missing existing) (hwhole : whole.Worded .faultless)
    (h : RunCourse (ofRequests c missing existing) runId startedAt whole result) :
    (∀ record ∈ whole.records, record.outcome.GaveUp → Overflows c whole record.probe) ∧
      whole.Orderly := by
  have htrials := trials_sober hc hwhole
  constructor
  · refine h.forall_records (within_ofRequests hc) ?_ ?_
    · rintro g - t - ⟨⟩
    · intro g hg t ht d own outcome evidence d' hpart plays elapsed hup
      exact (htrials g hg t ht hpart plays).2 hup
  · refine h.forall_parts additive_orderly fun g hg => ?_
    obtain ⟨calls, hcalls⟩ := within_ofRequests hc g hg
    refine ⟨hcalls.opening, fun t ht => ⟨fun _ => by simp [Entry.log?], fun hpart plays => ?_⟩, ?_⟩
    · exact ⟨(htrials g hg t ht hpart plays).1, by simp [Entry.log?]⟩
    · intro _ j _ hpart htear
      exact orderly_tearDown (W := .faultless) (fun _ => id) (teardowns_worded g hg)
        (hwhole.of_sublist hpart) htear

/-- In a run of the standard battery on a kernel whose calls do not give up, with any reporter, a
probe is recorded to have given up only if the vector of its residency query is longer than any
buffer, or it is the join and its deadline is beyond the clock or its waits are as many as the
counter holds. No teardown is logged to have given up. -/
theorem standard_overflows {κ ρ : Type} (kernel : Kernel κ) (reporter : Reporter ρ) (k : κ) (r : ρ)
    (hcalls : ∀ call k fault, (kernel.call call k).1.returned ≠ .panicked fault)
    (hsupports : ∀ syscall k fault, (kernel.supports syscall k).1 ≠ .error fault)
    {c : HarnessConfig} {b : Battery} (hb : standard c = .ok b) (runId : String)
    (startedAt : Int64) :
    let journal := ((b.run runId startedAt).run kernel reporter k r).journal
    (∀ record ∈ journal.records, record.outcome.diagnosis?.map (·.kind) = some .panicked →
        Overflows c journal record.probe) ∧
      ∀ event ∈ journal.logs, event.message ≠ "Group teardown panicked" := by
  intro journal
  obtain ⟨missing, existing, hc, rfl⟩ := standard_eq_ok hb
  have hkernel : kernel.Worded .faultless := by
    refine ⟨fun syscall k fault => hsupports syscall k fault, fun call k => ⟨fun v _ => ?_, ?_⟩⟩
    · cases call <;> first | trivial | exact fun _ _ => trivial
    · exact fun fault => hcalls call k fault
  have hcourse : RunCourse (ofRequests c missing existing) runId startedAt journal _ :=
    plays_run (Program.run_plays ..)
  exact hcourse.overflows hc (Program.run_worded hkernel reporter _ k r)

/-- No call of the modelled machine gives up. -/
theorem machine_returns (call : Call) (m : Host.Machine) (fault : Fault) :
    (Host.Machine.kernel.call call m).1.returned ≠ .panicked fault := by
  show (m.call call).1.returned ≠ .panicked fault
  obtain ⟨v, hreturned⟩ | ⟨e, hreturned⟩ := m.call_cases call <;> simp [hreturned]

/-- In a run of the default battery on the modelled machine, no teardown is logged to have given
up. -/
theorem standard_overflows_default : ∃ b, standard {} = .ok b ∧
    ∀ event ∈ ((b.run "run" 0).run Host.Machine.kernel recording
      Host.Machine.start []).journal.logs, event.message ≠ "Group teardown panicked" :=
  ⟨_, rfl, (standard_overflows (c := {}) Host.Machine.kernel recording Host.Machine.start []
    machine_returns (fun _ _ => nofun) rfl "run" 0).2⟩

/-- The configuration that asks for the longest timeout of a join is accepted, and no call of the
modelled machine gives up. The child is made, and its join gives up, because the clock does not
reach as far as the deadline. -/
theorem join_overflow :
    let c : HarnessConfig :=
      { joinTimeout := .ofSeconds 18446744073709551615
        filter := { only := ["clone", "clone_join"] } }
    c.validate = .ok () ∧
      (∀ call m fault, (Host.Machine.kernel.call call m).1.returned ≠ .panicked fault) ∧
      (∀ syscall m fault, (Host.Machine.kernel.supports syscall m).1 ≠ .error fault) ∧
      ∃ b, standard c = .ok b ∧
        let records := ((b.run "run" 0).run Host.Machine.kernel recording
          Host.Machine.start []).journal.records
        (∃ record ∈ records, record.probe = "clone" ∧ record.outcome = .pass) ∧
          ∃ record ∈ records, record.probe = "clone_join" ∧
            record.outcome.diagnosis?.map (·.kind) = some .panicked := by
  refine ⟨by rfl, machine_returns, fun _ _ => nofun, _, rfl, ?_, ?_⟩
  · decide +kernel
  · decide +kernel

end Battery

end KernelProbe
