import KernelProbe.Host.Machine
import KernelProbe.Proofs.CommandLine.Arguments
import KernelProbe.Proofs.Report.Framing
import KernelProbe.Proofs.Session.Shares

/-!
# Where probes write

Only the probes of the output group write, and they write to the configured descriptor
(`Battery.standard_targets`). With JSON lines for the log that descriptor is not the one of the log,
so that nothing stands between the lines (`Battery.standard_jsonLines`).
-/

namespace KernelProbe

open Journal

/-- The descriptor that a call writes to, if it writes. -/
def Call.target? : Call → Option Int32
  | write fd _ | writev fd _ => some fd
  | _ => none

theorem Call.target?_eq_none {call : Call} (h : call.syscall ∉ [.write, .writev]) :
    call.target? = none := by
  cases call <;> simp_all [Call.target?, Call.syscall]

/-- A call leaves nothing on a descriptor that is not the one it writes to. -/
theorem Entry.writtenTo_eq_nil {e : Entry} {fd : Int32}
    (h : ∀ call, e.call? = some call → call.target? ≠ some fd) : e.writtenTo fd = [] := by
  unfold Entry.writtenTo
  split
  next target bytes _ n =>
    have hne : target ≠ fd := fun heq => h _ rfl (congrArg some heq)
    rw [if_neg hne]
  next target parts _ n =>
    have hne : target ≠ fd := fun heq => h _ rfl (congrArg some heq)
    rw [if_neg hne]
  next => rfl

/-- What a run does up to the end of its process, it does in a run that goes on. -/
theorem Program.runWhile_journal {α κ ρ : Type} (alive : κ → Bool) (kernel : Kernel κ)
    (reporter : Reporter ρ) (p : Program α) (k : κ) (r : ρ) :
    (p.runWhile alive kernel reporter k r).journal <+: (p.run kernel reporter k r).journal := by
  induction p generalizing k r with
  | pure a => exact List.prefix_rfl
  | ask q next ih =>
    simp only [runWhile, run]
    split
    next => exact List.prefix_cons_inj _ |>.mpr (ih _ _ _)
    next => exact ⟨_, rfl⟩

/-! ## Targets -/

/-- A probe of the output group writes to the group's descriptor. -/
theorem Output.trial_targets {fd : Int32} {trial : Trial Unit} {c c' : Unit} {j : Journal}
    {outcome : Outcome} {evidence : Evidence} (hmem : trial ∈ (group fd).trials)
    (plays : (trial.run c).Plays j ((outcome, evidence), c')) :
    ∀ x ∈ j.trace, ∀ target ∈ x.call.target?, target = fd := by
  intro x hx target htarget
  rcases List.mem_cons.mp hmem with rfl | hmem
  · obtain ⟨own, r, hcourse, htrace⟩ := Probe.course_of_trial rfl plays
    obtain ⟨reply, rfl, -⟩ := write_course hcourse
    obtain rfl : x = ⟨.write fd message, reply⟩ := by
      simpa [htrace, trace_cons, Entry.exchange?] using hx
    exact (Option.some.inj htarget).symm
  · obtain rfl := List.mem_singleton.mp hmem
    obtain ⟨own, r, hcourse, htrace⟩ := Probe.course_of_trial rfl plays
    obtain ⟨reply, rfl, -⟩ := writev_course hcourse
    obtain rfl : x = ⟨.writev fd parts, reply⟩ := by
      simpa [htrace, trace_cons, Entry.exchange?] using hx
    exact (Option.some.inj htarget).symm

theorem Output.share_targets {filter : ProbeFilter} {fd : Int32} {probes teardown : Journal}
    {left : Unit} (h : Battery.Share filter (group fd) probes left teardown) :
    ∀ x ∈ probes.trace ++ teardown.trace, ∀ target ∈ x.call.target?, target = fd := by
  obtain ⟨rfl, rfl, rfl⟩ | ⟨⟨_, _, _, turns⟩, _, torn⟩ := h.idle_or_reached
  · simp
  refine List.forall_mem_append.mpr ⟨?_, ?_⟩
  · refine Battery.turns_preserve (fun ts _ => ∀ t ∈ ts, t ∈ (group fd).trials)
      (fun _ t _ => ∀ x ∈ t, ∀ target ∈ x.call.target?, target = fd) (by simp) ?_ ?_ ?_ turns
      (fun _ ht => ht)
    · intro _ t₁ _ t₂ _ h₁ h₂
      exact List.forall_mem_append.mpr ⟨h₁, h₂⟩
    · intro t ts _ hts t' hmem
      exact hts t' (List.mem_cons_of_mem t hmem)
    · intro t ts _ own _ _ _ hts plays
      exact ⟨trial_targets (hts t List.mem_cons_self) plays,
        fun t' hmem => hts t' (List.mem_cons_of_mem t hmem)⟩
  · obtain ⟨own, _, hown, hkernel, -⟩ := Battery.plays_tearDown torn
    obtain ⟨rfl, -, -⟩ := Staged.plays_pure.mp hown
    rw [trace_eq_of_kernel hkernel]
    simp

namespace Battery

/-- In a run of the standard battery every call that writes goes to the configured descriptor. -/
theorem standard_targets {κ ρ : Type} (kernel : Kernel κ) (reporter : Reporter ρ) (k : κ) (r : ρ)
    {c : HarnessConfig} {b : Battery} (hb : standard c = .ok b) (runId : String)
    (startedAt : Int64) :
    ∀ call ∈ ((b.run runId startedAt).run kernel reporter k r).journal.calls,
      ∀ fd ∈ call.target?, fd = c.outputFd := by
  obtain ⟨missing, existing, hc, rfl, hshares⟩ :=
    standard_shares kernel reporter k r hb runId startedAt
  change Shares c.filter ([] ++ Output.group c.outputFd ::
    [Identity.group c.tlsSlots c.threadIdModel, Files.group,
      Memory.group c.mapLengths c.pageSize, Concurrency.group c.waitTimeout c.joinTimeout,
      Uname.group, Lifecycle.group missing existing c.execModel]) _ at hshares
  obtain ⟨front, probes, teardown, back, left, hjournal, hshare, hfront, hback⟩ :=
    hshares.isolate (P := (· ∉ [.write, .writev])) (List.forall_mem_nil _)
      (List.forall_mem_cons.mpr ⟨⟨_, Identity.group_within .., by decide⟩,
        List.forall_mem_cons.mpr ⟨⟨_, Files.group_within, by decide⟩,
          List.forall_mem_cons.mpr ⟨⟨_, Memory.group_within hc.pageSize _, by decide⟩,
            List.forall_mem_cons.mpr ⟨⟨_, Concurrency.group_within .., by decide⟩,
              List.forall_mem_cons.mpr ⟨⟨_, Uname.group_within, by decide⟩,
                List.forall_mem_cons.mpr ⟨⟨_, Lifecycle.group_within .., by decide⟩,
                  List.forall_mem_nil _⟩⟩⟩⟩⟩⟩)
  intro call hcall fd hfd
  rw [hjournal, ← map_call_trace] at hcall
  obtain ⟨x, hx, rfl⟩ := List.mem_map.mp hcall
  simp only [trace_append, List.mem_append] at hx
  rcases hx with hx | hx | hx | hx
  · rw [Call.target?_eq_none (hfront x hx)] at hfd
    cases hfd
  · exact Output.share_targets hshare x (List.mem_append_left _ hx) fd hfd
  · exact Output.share_targets hshare x (List.mem_append_right _ hx) fd hfd
  · rw [Call.target?_eq_none (hback x hx)] at hfd
    cases hfd

/-! ## JSON lines -/

/-- An open sink gets one line for every event but the begin of a group, in order, and every line
can be relied on, whatever texts the events carry. And if the options ask for JSON lines, the run
writes to descriptor 2 only, as long as its process lives, so that the log on descriptor 1 holds the
lines of the events that were reported and nothing else. -/
theorem standard_jsonLines :
    (∀ (events : List ReportEvent) (sink : Sink), sink.Open →
      ∃ bytes, JsonLines.reporter.receiveAll events sink
        = (events.map fun _ => .ok (), sink.extend bytes) ∧ JsonLines.Frames events bytes) ∧
      ∀ {κ ρ : Type} (kernel : Kernel κ) (reporter : Reporter ρ) (alive : κ → Bool) (k : κ) (r : ρ)
        (o : Options) (b : Battery) (runId : String) (startedAt : Int64) (color : Bool),
        o.format = .jsonl → standard o.config = .ok b →
          let journal := ((b.run runId startedAt).runWhile alive kernel reporter k r).journal
          (∀ call ∈ journal.calls, ∀ fd ∈ call.target?, fd = 2) ∧
            JsonLines.Frames journal.reports (journal.logWith 1 (o.format.log color)).bytes := by
  refine ⟨fun events sink hopen => JsonLines.receiveAll_framed hopen events, ?_⟩
  intro κ ρ kernel reporter alive k r o b runId startedAt color hformat hb journal
  have htargets : ∀ call ∈ journal.calls, ∀ fd ∈ call.target?, fd = 2 := by
    have houtput : o.config.outputFd = 2 := by rw [Options.config, hformat, Options.outputFd]
    have hfront := Program.runWhile_journal alive kernel reporter (b.run runId startedAt) k r
    intro call hcall
    rw [← houtput]
    exact standard_targets kernel reporter k r hb runId startedAt call
      ((hfront.filterMap Entry.call?).subset hcall)
  have hapart : ∀ e ∈ journal, e.writtenTo 1 = [] := by
    refine fun e he => Entry.writtenTo_eq_nil fun call hcall htarget => ?_
    have hfd := htargets call (List.mem_filterMap.mpr ⟨e, he, hcall⟩) 1 htarget
    exact absurd hfd (by decide)
  have hopen : ({} : Sink).Open := ⟨rfl, rfl⟩
  obtain ⟨bytes, hlog, hframes⟩ := JsonLines.logWith_framed hopen hapart
  refine ⟨htargets, ?_⟩
  rw [hformat, OutputFormat.log, hlog]
  exact hframes

/-- The command line that asks for JSON lines, on the modelled machine: its probes do write, but not
to the descriptor of the log. -/
theorem standard_jsonLines_default :
    ∃ o b, CommandLine.parse ["--format", "jsonl"] [] = .ok o ∧ standard o.config = .ok b ∧
      let journal := ((b.run "run" 0).runWhile Host.Machine.goesOn Host.Machine.kernel
        Reporter.accepting Host.Machine.start ()).journal
      journal.calls.any (fun call => call.target? = some 2) = true ∧
        (∀ call ∈ journal.calls, ∀ fd ∈ call.target?, fd = 2) ∧
        JsonLines.Frames journal.reports (journal.logWith 1 (.lines {})).bytes := by
  have hread := CommandLine.parse_spell (l := [(.format, "jsonl")]) (by decide)
  refine ⟨{ format := .jsonl }, _, hread, rfl, by decide +kernel, ?_⟩
  exact standard_jsonLines.2 Host.Machine.kernel Reporter.accepting Host.Machine.goesOn
    Host.Machine.start () { format := .jsonl } _ "run" 0 false rfl rfl

end Battery

end KernelProbe
