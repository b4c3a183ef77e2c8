import KernelProbe.Proofs.Session.Records
import KernelProbe.Proofs.Session.Roster

/-!
# The shares of the groups in a run

A run deals with the kernel in the shares of its groups only: in the turns of a group's probes and
in its teardown, one group after another (`RunCourse.shares`). A share is empty if the run does not
come to the group. What no group of a list asks for is not asked in their shares
(`Shares.calls_within`, `Shares.isolate`).
-/

namespace KernelProbe.Battery

open Journal Staged

/-- The share of a group in a run: the journal of its probes, the context that they left, and the
journal of its teardown. -/
inductive Share (filter : ProbeFilter) (g : Group) : Journal → g.Context → Journal → Prop
  /-- The run does not come to the group. -/
  | unreached : Share filter g [] g.start []
  /-- The probes take their turns, up to the first that stops the run, and the group is torn
  down. -/
  | reached {s probes r s' left teardown c}
      (turns : Turns filter g.name g.trials s g.start probes r s' left)
      (tornDown : (tearDown g.name g.teardown left).Plays teardown c) :
      Share filter g probes left teardown

theorem Share.idle_or_reached {filter : ProbeFilter} {g : Group} {probes teardown : Journal}
    {left : g.Context} (h : Share filter g probes left teardown) :
    (probes = [] ∧ left = g.start ∧ teardown = []) ∨
      (∃ s r s', Turns filter g.name g.trials s g.start probes r s' left) ∧
        ∃ c, (tearDown g.name g.teardown left).Plays teardown c := by
  cases h with
  | unreached => exact .inl ⟨rfl, rfl, rfl⟩
  | reached turns tornDown => exact .inr ⟨⟨_, _, _, turns⟩, _, tornDown⟩

/-- The shares of groups one after another, with no dealings with the kernel in between. -/
inductive Shares (filter : ProbeFilter) : List Group → Journal → Prop
  /-- No group is left. -/
  | done {j : Journal} (silent : j.kernel = []) : Shares filter [] j
  /-- The share of the first group precedes those of the others. -/
  | share {g : Group} {gs : List Group} {front probes : Journal} {left : g.Context}
      {teardown rest : Journal} (silent : front.kernel = [])
      (share : Share filter g probes left teardown) (others : Shares filter gs rest) :
      Shares filter (g :: gs) (front ++ (probes ++ (teardown ++ rest)))

section

variable {filter : ProbeFilter} {groups : List Group} {j j' : Journal}

theorem shares_of_silent (h : j.kernel = []) : Shares filter groups j := by
  induction groups with
  | nil => exact .done h
  | cons g groups ih => exact .share kernel_nil .unreached ih

theorem Shares.append (hshares : Shares filter groups j) (h : j'.kernel = []) :
    Shares filter groups (j ++ j') := by
  induction hshares with
  | done silent => exact .done (by rw [kernel_append, silent, h]; rfl)
  | share silent share others ih =>
    simp only [List.append_assoc]
    exact .share silent share ih

theorem Shares.prepend (hshares : Shares filter groups j) (h : j'.kernel = []) :
    Shares filter groups (j' ++ j) := by
  cases hshares with
  | done silent => exact .done (by rw [kernel_append, silent, h]; rfl)
  | share silent share others =>
    rw [← List.append_assoc]
    exact .share (by rw [kernel_append, silent, h]; rfl) share others

/-- The shares of a list fall into those before a group, its own and those behind it. -/
theorem Shares.split {before after : List Group} {g : Group}
    (h : Shares filter (before ++ g :: after) j) :
    ∃ (front probes teardown back : Journal) (left : g.Context),
      j = front ++ (probes ++ (teardown ++ back)) ∧ Shares filter before front ∧
        Share filter g probes left teardown ∧ Shares filter after back := by
  induction before generalizing j with
  | nil =>
    -- what precedes the share of the first group is silent, so that it is the share of no group
    obtain ⟨⟩ | ⟨silent, share, others⟩ := h
    exact ⟨_, _, _, _, _, rfl, .done silent, share, others⟩
  | cons g' before ih =>
    cases h with
    | @share _ _ front₀ probes₀ _ teardown₀ _ silent share others =>
      obtain ⟨front, probes, teardown, back, left, rfl, hfront, hshare, hback⟩ := ih others
      refine ⟨front₀ ++ (probes₀ ++ (teardown₀ ++ front)), probes, teardown, back, left, ?_,
        .share silent share hfront, hshare, hback⟩
      simp only [List.append_assoc]

/-! ## Runs -/

theorem kernel_groupPreface (g : Group) : (groupPreface g (.ok ())).kernel = [] := rfl

theorem plays_groups_shares {s s' : RunSummary} {r : Except HarnessError Unit}
    (hgroups : ∀ g ∈ groups, ∃ calls, g.Within calls)
    (h : Each (runGroup filter) groups s j r s') : Shares filter groups j := by
  induction h with
  | done => exact .done rfl
  | @stopped g gs _ j _ _ first =>
    obtain ⟨calls, hg⟩ := hgroups g List.mem_cons_self
    obtain ⟨_, rfl, -⟩ | ⟨probes, teardown, left, _, rfl, turns, tornDown, -⟩ :=
      (plays_runGroup first).anatomy hg
    · exact shares_of_silent rfl
    · have hnone : Shares filter gs [] := shares_of_silent kernel_nil
      simpa using Shares.share (kernel_groupPreface g) (.reached turns tornDown) hnone
  | @next g gs _ j₁ _ j₂ _ _ first rest ih =>
    obtain ⟨calls, hg⟩ := hgroups g List.mem_cons_self
    have hrest := ih fun g' hmem => hgroups g' (List.mem_cons_of_mem g hmem)
    obtain ⟨_, -, ⟨⟩, -⟩ | ⟨probes, teardown, left, _, rfl, turns, tornDown, -⟩ :=
      (plays_runGroup first).anatomy hg
    simpa using Shares.share (kernel_groupPreface g) (.reached turns tornDown) hrest

/-- A run deals with the kernel in the shares of its groups only. -/
theorem RunCourse.shares {b : Battery} {runId : String} {startedAt : Int64}
    {result : Except HarnessError RunSummary} (hgroups : ∀ g ∈ b.groups, ∃ calls, g.Within calls)
    (h : RunCourse b runId startedAt j result) : Shares b.filter b.groups j := by
  cases h with
  | refused e => exact shares_of_silent rfl
  | stopped groups => exact (plays_groups_shares hgroups groups).prepend rfl
  | ended groups answer => exact ((plays_groups_shares hgroups groups).append rfl).prepend rfl

end

/-- A run of the standard battery deals with the kernel in the shares of its groups only. -/
theorem standard_shares {κ ρ : Type} (kernel : Kernel κ) (reporter : Reporter ρ) (k : κ) (r : ρ)
    {c : HarnessConfig} {b : Battery} (hb : standard c = .ok b) (runId : String)
    (startedAt : Int64) :
    ∃ missing existing, c.Sound missing existing ∧ b = ofRequests c missing existing ∧
      Shares c.filter (ofRequests c missing existing).groups
        ((b.run runId startedAt).run kernel reporter k r).journal := by
  obtain ⟨missing, existing, hc, rfl⟩ := standard_eq_ok hb
  have hcourse := plays_run (Program.run_plays kernel reporter
    ((ofRequests c missing existing).run runId startedAt) k r)
  exact ⟨missing, existing, hc, rfl, hcourse.shares (within_ofRequests hc)⟩

/-! ## Calls -/

section

variable {C : Type} {calls : List Syscall} {filter : ProbeFilter} {group : String} {trial : Trial C}
  {s s' : RunSummary} {c c' : C} {j : Journal} {r : Except HarnessError Unit}

/-- A turn deals with the kernel as its probe does, or not at all. -/
theorem Turn.dealings (h : Turn filter group trial s c j r s' c') :
    (j.kernel = [] ∧ c' = c) ∨ ∃ own outcome evidence,
      (trial.run c).Plays own ((outcome, evidence), c') ∧ j.kernel = own.kernel := by
  cases h with
  | shutOut off => exact .inl ⟨rfl, rfl⟩
  | checkpointRefused on may e => exact .inl ⟨rfl, rfl⟩
  | beginRefused on e =>
    refine .inl ⟨?_, rfl⟩
    rw [kernel_append, (checkpointed_silent trial.spec s).1]
    rfl
  | @ran on started own outcome evidence _ ended plays _ =>
    refine .inr ⟨own, outcome, evidence, plays, ?_⟩
    rw [ran_eq_attended, kernel_append, kernel_attended]
    exact List.append_nil _

/-- What the calls of every probe do from a context that suits the probes to come, the calls of all
turns do in sequence. -/
theorem turns_preserve {trials : List (Trial C)} {p p' : RunSummary × C}
    (Inv : List (Trial C) → C → Prop) (R : C → List Exchange → C → Prop) (refl : ∀ c, R c [] c)
    (trans : ∀ {c t₁ c₁ t₂ c₂}, R c t₁ c₁ → R c₁ t₂ c₂ → R c (t₁ ++ t₂) c₂)
    (skip : ∀ {t ts c}, Inv (t :: ts) c → Inv ts c)
    (step : ∀ {t ts c own outcome evidence c'}, Inv (t :: ts) c →
      (t.run c).Plays own ((outcome, evidence), c') → R c own.trace c' ∧ Inv ts c')
    (h : Each (execute filter group) trials p j r p') (hinv : Inv trials p.2) :
    R p.2 j.trace p'.2 := by
  refine h.preserves (fun ts p => Inv ts p.2) (fun p j p' => R p.2 (trace j) p'.2)
    (fun p => refl p.2) ?_ ?_ hinv
  · intro _ j₁ _ j₂ _ h₁ h₂
    rw [trace_append]
    exact trans h₁ h₂
  · intro t ts p j _ p' hinv hturn
    obtain ⟨hkernel, hsame⟩ | ⟨own, _, _, plays, hkernel⟩ := (plays_execute hturn).dealings
    · rw [trace_eq_of_kernel (hkernel.trans kernel_nil.symm), hsame]
      exact ⟨refl p.2, skip hinv⟩
    · rw [trace_eq_of_kernel hkernel]
      exact step hinv plays

theorem turns_calls {trials : List (Trial C)} {p p' : RunSummary × C}
    (ht : ∀ t ∈ trials, t.Within calls) (h : Each (execute filter group) trials p j r p') :
    ∀ x ∈ j.trace, x.call.syscall ∈ calls := by
  refine turns_preserve (fun ts _ => ∀ t ∈ ts, t.Within calls)
    (fun _ t _ => ∀ x ∈ t, x.call.syscall ∈ calls) (by simp) ?_ ?_ ?_ h ht
  · intro _ t₁ _ t₂ _ h₁ h₂
    exact List.forall_mem_append.mpr ⟨h₁, h₂⟩
  · intro t ts _ hts t' hmem
    exact hts t' (List.mem_cons_of_mem t hmem)
  · intro t ts _ own _ _ _ hts plays
    refine ⟨fun x hx => ?_, fun t' hmem => hts t' (List.mem_cons_of_mem t hmem)⟩
    refine ((hts t List.mem_cons_self).within plays).calls x.call ?_
    rw [← map_call_trace]
    exact List.mem_map_of_mem hx

end

variable {filter : ProbeFilter} {g : Group} {calls : List Syscall} {probes teardown j : Journal}
  {left : g.Context}

theorem Share.calls_within (hg : g.Within calls) (h : Share filter g probes left teardown) :
    ∀ x ∈ (probes ++ teardown).trace, x.call.syscall ∈ calls := by
  cases h with
  | unreached => simp
  | reached turns tornDown =>
    obtain ⟨own, _, hown, hkernel, -⟩ := plays_tearDown tornDown
    rw [trace_append]
    refine List.forall_mem_append.mpr ⟨turns_calls hg.trials turns, fun x hx => ?_⟩
    rw [trace_eq_of_kernel hkernel] at hx
    refine (hg.teardown hown).calls x.call ?_
    rw [← map_call_trace]
    exact List.mem_map_of_mem hx

/-- What is true of the system calls of all groups is true of every call in their shares. -/
theorem Shares.calls_within {P : Syscall → Prop} {groups : List Group}
    (hgroups : ∀ g ∈ groups, ∃ calls, g.Within calls ∧ ∀ s ∈ calls, P s)
    (h : Shares filter groups j) : ∀ x ∈ j.trace, P x.call.syscall := by
  induction h with
  | done silent =>
    intro x hx
    rw [trace_eq_of_kernel (silent.trans kernel_nil.symm)] at hx
    cases hx
  | @share g gs front probes left teardown rest silent share others ih =>
    obtain ⟨calls, hg, hcalls⟩ := hgroups g List.mem_cons_self
    intro x hx
    rw [← List.append_assoc probes, trace_append, trace_append, List.mem_append,
      List.mem_append] at hx
    rcases hx with hx | hx | hx
    · rw [trace_eq_of_kernel (silent.trans kernel_nil.symm)] at hx
      cases hx
    · exact hcalls _ (share.calls_within hg x hx)
    · exact ih (fun g' hmem => hgroups g' (List.mem_cons_of_mem g hmem)) x hx

/-- What is true of the system calls of all other groups is true of every call outside the share of
a group. -/
theorem Shares.isolate {P : Syscall → Prop} {before after : List Group}
    (h : Shares filter (before ++ g :: after) j)
    (hbefore : ∀ g ∈ before, ∃ calls, g.Within calls ∧ ∀ s ∈ calls, P s)
    (hafter : ∀ g ∈ after, ∃ calls, g.Within calls ∧ ∀ s ∈ calls, P s) :
    ∃ (front probes teardown back : Journal) (left : g.Context),
      j = front ++ (probes ++ (teardown ++ back)) ∧ Share filter g probes left teardown ∧
        (∀ x ∈ front.trace, P x.call.syscall) ∧ ∀ x ∈ back.trace, P x.call.syscall := by
  obtain ⟨front, probes, teardown, back, left, hjournal, hfront, hshare, hback⟩ := h.split
  exact ⟨front, probes, teardown, back, left, hjournal, hshare, hfront.calls_within hbefore,
    hback.calls_within hafter⟩

end KernelProbe.Battery
