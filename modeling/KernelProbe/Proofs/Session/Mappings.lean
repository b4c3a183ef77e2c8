import KernelProbe.Host.Machine
import KernelProbe.Report.AuditLog
import KernelProbe.Proofs.Probe.Regions
import KernelProbe.Proofs.Program.Ledger
import KernelProbe.Proofs.Session.Roster
import KernelProbe.Proofs.Session.Shares

/-!
# Mappings are released once

`Memory.ledger` says which calls give a mapping, hand one back or need one. The probes of the memory
group keep the account of the mappings that their context holds (`trial_passage`), as no length
comes up twice, and the teardown hands back what is left (`teardown_passage`). So every mapping is
released once and used before only, whatever the kernel and the reporter answer; a release that
gives up in the teardown costs the mappings behind it.
-/

namespace KernelProbe.Memory

open Journal Staged

/-! ## The account -/

/-- `mmap` gives a mapping unless it starts at null, `munmap` hands its mapping back, and `mincore`
and `munmap` need theirs. -/
def ledger : Ledger MemoryRegion where
  acquires
    | ⟨.mmap _, reply⟩ =>
      match (reply.returned : Returned MemoryRegion) with
      | .value region => if region.base = 0 then 0 else {region}
      | _ => 0
    | _ => 0
  releases
    | ⟨.munmap region, _⟩ => {region}
    | _ => 0
  needs
    | ⟨.mincore region _, _⟩ | ⟨.munmap region, _⟩ => {region}
    | _ => 0

/-- The mappings that a context holds. -/
def held (c : Context) : Multiset MemoryRegion := c.regions.map (·.2)

/-- One of the calls made the mapping for its length. -/
def Made (t : List Exchange) (live : UInt64 × MemoryRegion) : Prop :=
  ∃ reply : Reply MemoryRegion, (⟨.mmap (.anonymousReadOnly live.1), reply⟩ : Exchange) ∈ t ∧
    reply.returned = .value live.2

/-- The calls lead from one context to another: they keep the account, and what comes in was made by
them. -/
structure Passage (c : Context) (t : List Exchange) (c' : Context) : Prop where
  keeps : ledger.Keeps (held c) t (held c')
  made : ∀ live ∈ c'.regions, live ∈ c.regions ∨ Made t live

variable {c c₁ c' : Context} {t t₁ t₂ : List Exchange} {length pageSize : UInt64}
  {region : MemoryRegion} {exam : Exam Context} {j : Journal} {r : Except Halt Unit}

theorem Passage.refl (c : Context) : Passage c [] c := ⟨rfl, fun _ hlive => .inl hlive⟩

theorem Passage.trans (h₁ : Passage c t₁ c₁) (h₂ : Passage c₁ t₂ c') : Passage c (t₁ ++ t₂) c' where
  keeps := Ledger.keeps_append.mpr ⟨_, h₁.keeps, h₂.keeps⟩
  made live hlive := by
    rcases h₂.made live hlive with hlive | ⟨reply, hmem, hvalue⟩
    · exact (h₁.made live hlive).imp_right fun ⟨reply, hmem, hvalue⟩ =>
        ⟨reply, List.mem_append_left _ hmem, hvalue⟩
    · exact .inr ⟨reply, List.mem_append_right _ hmem, hvalue⟩

theorem Passage.of_ignored (h : ∀ x ∈ t, ledger.Ignores x) : Passage c t c :=
  ⟨Ledger.keeps_of_ignored h, fun _ hlive => .inl hlive⟩

theorem held_insert (h : c.regions.find? length = none) :
    held ⟨c.regions.insert length region⟩ = held c + {region} := by
  have hperm : ((c.regions.insert length region).map Prod.snd).Perm
      (((length, region) :: c.regions).map Prod.snd) := (Regions.perm_insert h).map Prod.snd
  rw [held, Multiset.coe_eq_coe.mpr hperm, add_comm]
  rfl

theorem held_erase (hsorted : c.regions.Sorted) (h : c.regions.find? length = some region) :
    held c = {region} + held ⟨c.regions.erase length⟩ := by
  have hperm := (Regions.perm_erase hsorted h).map Prod.snd
  rw [held, Multiset.coe_eq_coe.mpr hperm]
  rfl

/-! ## Probes -/

theorem brk_passage (h : brkProbe.Course c j r exam) : Passage c j.trace exam.context := by
  obtain ⟨rfl, reply, rfl, -⟩ := brk_course h
  exact .of_ignored (by simp [trace_cons, Entry.exchange?, Ledger.Ignores, ledger])

/-- A mapping that is made is kept under its length. -/
theorem mmap_passage (hfresh : c.regions.find? length = none)
    (h : (mmapProbe length pageSize).Course c j r exam) :
    Passage c j.trace exam.context ∧
      (exam.context = c ∨ ∃ region, exam.context = ⟨c.regions.insert length region⟩) := by
  obtain ⟨reply, rfl, ⟨region, hvalue, hbase, hcontext, -⟩ | ⟨hnull, rfl, -⟩⟩ := mmap_course h
  · have hacquires : ledger.acquires ⟨.mmap (.anonymousReadOnly length), reply⟩ = {region} := by
      simp [ledger, hvalue, hbase]
    refine ⟨⟨⟨Multiset.zero_le _, held c, (zero_add _).symm, ?_⟩, ?_⟩, .inr ⟨region, hcontext⟩⟩
    · rw [hacquires, hcontext, ← held_insert hfresh]
      rfl
    · intro live hlive
      rw [hcontext] at hlive
      rcases List.mem_cons.mp ((Regions.perm_insert hfresh).mem_iff.mp hlive) with rfl | hlive
      · exact .inr ⟨reply, List.mem_cons_self, hvalue⟩
      · exact .inl hlive
  · have hacquires : ledger.acquires ⟨.mmap (.anonymousReadOnly length), reply⟩ = 0 := by
      cases hreturned : reply.returned with
      | value region => simp [ledger, hreturned, hnull region hreturned]
      | _ => simp [ledger, hreturned]
    refine ⟨.of_ignored ?_, .inl rfl⟩
    simpa [trace_cons, Entry.exchange?, Ledger.Ignores, hacquires] using ⟨rfl, rfl⟩

/-- A query goes to a mapping that is held. -/
theorem mincore_passage (hpage : pageSize ≠ 0)
    (h : (mincoreProbe length pageSize).Course c j r exam) :
    Passage c j.trace exam.context ∧ exam.context = c := by
  obtain ⟨rfl, ⟨rfl, -⟩ | ⟨region, capacity, reply, hfind, -, rfl, -⟩⟩ := mincore_course hpage h
  · exact ⟨.refl _, rfl⟩
  · refine ⟨⟨⟨?_, held _, (zero_add _).symm, (add_zero _).symm⟩, fun _ hlive => .inl hlive⟩, rfl⟩
    -- the query asks for the mapping that the context has under the length
    have hmem : region ∈ held exam.context :=
      List.mem_map_of_mem (f := Prod.snd) (Regions.mem_of_find? hfind)
    exact Multiset.singleton_le.mpr hmem

/-- The mapping that is released is one that is held, and is so no more. -/
theorem munmap_passage (hsorted : c.regions.Sorted) (h : (munmapProbe length).Course c j r exam) :
    Passage c j.trace exam.context ∧
      (exam.context = c ∨ exam.context = ⟨c.regions.erase length⟩) := by
  obtain ⟨rfl, -, rfl, -⟩ | ⟨region, reply, hfind, rfl, hcontext, -⟩ := munmap_course h
  · exact ⟨.refl _, .inl rfl⟩
  · have herase := held_erase hsorted hfind
    refine ⟨⟨⟨?_, held ⟨c.regions.erase length⟩, herase, ?_⟩, ?_⟩, .inr hcontext⟩
    · rw [herase]
      exact Multiset.le_add_right ..
    · rw [hcontext]
      exact (add_zero _).symm
    · intro live hlive
      rw [hcontext] at hlive
      exact .inl (List.mem_filter.mp hlive).1

/-! ## Turns -/

/-- The context suits the probes to come: its lengths ascend, and none of them is to be mapped. -/
structure Expects (pageSize : UInt64) (trials : List (Trial Context)) (c : Context) : Prop where
  members : ∀ t ∈ trials, t = brkProbe.trial ∨ ∃ length, t ∈ triad pageSize length
  distinct : (trials.map (·.spec.name)).Nodup
  sorted : c.regions.Sorted
  fresh : ∀ length, (mmapProbe length pageSize).trial ∈ trials → c.regions.find? length = none

variable {trial : Trial Context} {trials : List (Trial Context)} {outcome : Outcome}
  {evidence : Evidence}

theorem Expects.tail (h : Expects pageSize (trial :: trials) c) (hsorted : c'.regions.Sorted)
    (hfresh : ∀ length, (mmapProbe length pageSize).trial ∈ trials →
      c.regions.find? length = none → c'.regions.find? length = none) :
    Expects pageSize trials c' where
  members t hmem := h.members t (List.mem_cons_of_mem trial hmem)
  distinct := (List.nodup_cons.mp h.distinct).2
  sorted := hsorted
  fresh length hmem := hfresh length hmem (h.fresh length (List.mem_cons_of_mem trial hmem))

/-- A probe of the group passes on a context that suits the probes behind it. -/
theorem trial_passage (hpage : pageSize ≠ 0) (h : Expects pageSize (trial :: trials) c)
    (plays : (trial.run c).Plays j ((outcome, evidence), c')) :
    Passage c j.trace c' ∧ Expects pageSize trials c' := by
  rcases h.members trial List.mem_cons_self with rfl | ⟨length, hmem⟩
  · obtain ⟨own, r, hcourse, htrace⟩ := Probe.course_of_trial rfl plays
    obtain ⟨rfl, -⟩ := brk_course hcourse
    rw [htrace]
    exact ⟨brk_passage hcourse, h.tail h.sorted fun _ _ hfresh => hfresh⟩
  rcases List.mem_cons.mp hmem with rfl | hmem
  · obtain ⟨own, r, hcourse, htrace⟩ := Probe.course_of_trial rfl plays
    have hnone := h.fresh length List.mem_cons_self
    rw [htrace]
    obtain ⟨hpassage, rfl | ⟨region, rfl⟩⟩ := mmap_passage hnone hcourse
    · exact ⟨hpassage, h.tail h.sorted fun _ _ hfresh => hfresh⟩
    · refine ⟨hpassage, h.tail (Regions.sorted_insert h.sorted hnone) fun key hkey hfresh => ?_⟩
      -- the same length again would give the same name again
      have hne : key ≠ length := by
        rintro rfl
        exact (List.nodup_cons.mp h.distinct).1 (List.mem_map_of_mem hkey)
      rw [Regions.find?_insert_of_ne hne, hfresh]
  rcases List.mem_cons.mp hmem with rfl | hmem
  · obtain ⟨own, r, hcourse, htrace⟩ := Probe.course_of_trial rfl plays
    obtain ⟨hpassage, rfl⟩ := mincore_passage hpage hcourse
    rw [htrace]
    exact ⟨hpassage, h.tail h.sorted fun _ _ hfresh => hfresh⟩
  · obtain rfl := List.mem_singleton.mp hmem
    obtain ⟨own, r, hcourse, htrace⟩ := Probe.course_of_trial rfl plays
    rw [htrace]
    obtain ⟨hpassage, rfl | rfl⟩ := munmap_passage h.sorted hcourse
    · exact ⟨hpassage, h.tail h.sorted fun _ _ hfresh => hfresh⟩
    · refine ⟨hpassage, h.tail (Regions.sorted_erase h.sorted) fun key _ hfresh => ?_⟩
      by_cases hkey : key = length
      · rw [hkey, Regions.find?_erase_self]
      · rw [Regions.find?_erase_of_ne hkey, hfresh]

/-- The turns of the probes keep the account, and leave ascending lengths. -/
theorem turns_passage {filter : ProbeFilter} {group : String} {p p' : RunSummary × Context}
    {result : Except HarnessError Unit} (hpage : pageSize ≠ 0)
    (h : Each (Battery.execute filter group) trials p j result p')
    (hexpects : Expects pageSize trials p.2) :
    Passage p.2 j.trace p'.2 ∧ (p.2.regions.Sorted → p'.2.regions.Sorted) := by
  refine Battery.turns_preserve (Expects pageSize)
    (fun c t c' => Passage c t c' ∧ (c.regions.Sorted → c'.regions.Sorted))
    (fun c => ⟨.refl c, id⟩) ?_ ?_ ?_ h hexpects
  · rintro _ t₁ _ t₂ _ ⟨h₁, hsorted₁⟩ ⟨h₂, hsorted₂⟩
    exact ⟨h₁.trans h₂, hsorted₂ ∘ hsorted₁⟩
  · intro t ts c hexpects
    exact hexpects.tail hexpects.sorted fun _ _ hfresh => hfresh
  · intro t ts c own _ _ c' hexpects plays
    obtain ⟨hpassage, hexpects'⟩ := trial_passage hpage hexpects plays
    exact ⟨⟨hpassage, fun _ => hexpects'.sorted⟩, hexpects'⟩

/-! ## The teardown -/

theorem keeps_released {regions : Regions} {rest : Multiset MemoryRegion}
    (h : t.map (·.call) = regions.map (.munmap ·.2)) :
    ledger.Keeps (held ⟨regions⟩ + rest) t rest :=
  Ledger.keeps_of_releases (fun _ _ => ⟨rfl, rfl, rfl⟩) h

/-- The teardown hands back the mappings that are left, in the order of their lengths, up to a
release that gives up; the mappings behind that one stay. -/
theorem teardown_passage (hsorted : c.regions.Sorted) (h : teardown.Plays c j r c') :
    ((∀ x ∈ j.trace, ¬ x.Panicked) ∧ ledger.Keeps (held c) j.trace 0) ∨
      ∃ live ∈ c.regions, j.calls = (c.regions.filter (·.1 ≤ live.1)).map (.munmap ·.2) ∧
        (∀ x ∈ j.trace, x.Panicked → x.call = .munmap live.2) ∧
        (∃ x ∈ j.trace, x.Panicked) ∧
        ledger.Keeps (held c) j.trace (held ⟨c.regions.filter (live.1 < ·.1)⟩) := by
  obtain ⟨-, -, ⟨-, hcalls, hpanic⟩ |
    ⟨done, live, rest, before, last, -, hregions, htrace, hbefore, hlast, hgave, hwent⟩⟩ :=
    plays_teardown h
  · refine .inl ⟨hpanic, ?_⟩
    rw [← add_zero (held c)]
    exact keeps_released ((map_call_trace j).trans hcalls)
  · obtain ⟨hupTo, hbehind⟩ := Regions.filter_of_sorted (hregions ▸ hsorted)
    have hcalls : j.trace.map (·.call) = (done ++ [live]).map (.munmap ·.2) := by
      rw [htrace, List.map_append, List.map_append, hbefore, List.map_singleton, hlast,
        List.map_singleton]
    rw [hregions]
    refine .inr ⟨live, List.mem_append_right _ List.mem_cons_self, ?_, ?_, ?_, ?_⟩
    · rw [hupTo, ← map_call_trace, hcalls]
    · intro x hx hpanicked
      rw [htrace] at hx
      rcases List.mem_append.mp hx with hx | hx
      · exact absurd hpanicked (hwent x hx)
      · rw [List.mem_singleton.mp hx, hlast]
    · exact ⟨last, htrace ▸ List.mem_append_right _ List.mem_cons_self, hgave⟩
    -- what was handed back and what stays make up the context
    · have hheld : held c = held ⟨done ++ [live]⟩ + held ⟨rest⟩ := by
        rw [held, hregions, List.append_cons, List.map_append]
        rfl
      rw [hbehind, hheld]
      exact keeps_released hcalls

/-! ## The group's share of a run -/

variable {filter : ProbeFilter} {lengths : List UInt64} {probes tornDown : Journal} {left : Context}

theorem expects_start (hdistinct : lengths.Nodup) :
    Expects pageSize (brkProbe.trial :: lengths.flatMap (triad pageSize)) {} where
  members := by
    refine List.forall_mem_cons.mpr ⟨.inl rfl, fun t ht => ?_⟩
    obtain ⟨length, -, ht⟩ := List.mem_flatMap.mp ht
    exact .inr ⟨length, ht⟩
  distinct := nodup_names hdistinct pageSize
  sorted := .nil
  fresh _ _ := rfl

theorem share_passage (hpage : pageSize ≠ 0) (hdistinct : lengths.Nodup)
    (h : Battery.Share filter (group lengths pageSize) probes left tornDown) :
    Passage {} probes.trace left ∧ left.regions.Sorted ∧
      (((∀ x ∈ tornDown.trace, ¬ x.Panicked) ∧ ledger.Keeps (held left) tornDown.trace 0) ∨
        ∃ live ∈ left.regions,
          tornDown.calls = (left.regions.filter (·.1 ≤ live.1)).map (.munmap ·.2) ∧
          (∀ x ∈ tornDown.trace, x.Panicked → x.call = .munmap live.2) ∧
          (∃ x ∈ tornDown.trace, x.Panicked) ∧
          ledger.Keeps (held left) tornDown.trace (held ⟨left.regions.filter (live.1 < ·.1)⟩)) := by
  obtain ⟨rfl, rfl, rfl⟩ | ⟨⟨_, _, _, turns⟩, _, torn⟩ := h.idle_or_reached
  · exact ⟨.refl _, .nil, .inl ⟨by simp, rfl⟩⟩
  · obtain ⟨hpassage, hsorted⟩ := turns_passage hpage turns (expects_start hdistinct)
    obtain ⟨own, r, hown, hkernel, -⟩ := Battery.plays_tearDown torn
    have hleft : left.regions.Sorted := hsorted .nil
    rw [trace_eq_of_kernel hkernel, calls_eq_of_kernel hkernel]
    exact ⟨hpassage, hleft, teardown_passage hleft hown⟩

/-- Over a run of the standard battery, every mapping that the kernel gives is released once, and
queried only between. The one exception is a release that gives up in the teardown: it leaves the
mappings of greater lengths. -/
theorem standard_mappings {κ ρ : Type} (kernel : Kernel κ) (reporter : Reporter ρ) (k : κ) (r : ρ)
    {c : HarnessConfig} {b : Battery} (hb : Battery.standard c = .ok b) (runId : String)
    (startedAt : Int64) :
    ∃ (front probes tornDown back : Journal) (left : Context),
      ((b.run runId startedAt).run kernel reporter k r).journal
        = front ++ (probes ++ (tornDown ++ back)) ∧
      Battery.Share b.filter (group c.mapLengths c.pageSize) probes left tornDown ∧
      (∀ x ∈ front.trace ++ back.trace, x.call.syscall ∉ [.mmap, .mincore, .munmap]) ∧
      ledger.Covered (probes ++ tornDown).trace ∧
      left.regions.Sorted ∧ (∀ live ∈ left.regions, Made probes.trace live) ∧
      ledger.acquired probes.trace = held left + ledger.released probes.trace ∧
      ((∀ x ∈ tornDown.trace, ¬ x.Panicked) →
        ledger.released (probes ++ tornDown).trace = ledger.acquired (probes ++ tornDown).trace) ∧
      ∀ x ∈ tornDown.trace, x.Panicked → ∃ live ∈ left.regions, x.call = .munmap live.2 ∧
        tornDown.calls = (left.regions.filter (·.1 ≤ live.1)).map (.munmap ·.2) ∧
        ledger.acquired (probes ++ tornDown).trace
          = held ⟨left.regions.filter (live.1 < ·.1)⟩
            + ledger.released (probes ++ tornDown).trace := by
  obtain ⟨missing, existing, hc, rfl, hshares⟩ :=
    Battery.standard_shares kernel reporter k r hb runId startedAt
  change Battery.Shares c.filter
    ([Output.group c.outputFd, Identity.group c.tlsSlots c.threadIdModel, Files.group] ++
      group c.mapLengths c.pageSize ::
        [Concurrency.group c.waitTimeout c.joinTimeout, Uname.group,
          Lifecycle.group missing existing c.execModel]) _ at hshares
  obtain ⟨front, probes, tornDown, back, left, hjournal, hfront, hshare, hback⟩ := hshares.split
  obtain ⟨hpassage, hsorted, htorn⟩ := share_passage hc.pageSize hc.distinct hshare
  have hmade : ∀ live ∈ left.regions, Made probes.trace live := fun live hlive =>
    (hpassage.made live hlive).resolve_left List.not_mem_nil
  have hprobes := hpassage.keeps.balance
  rw [show held {} = 0 from rfl, zero_add] at hprobes
  -- one account over the probes and the teardown, whatever is left in the end
  obtain ⟨final, hkeeps⟩ : ∃ final, ledger.Keeps 0 (probes ++ tornDown).trace final := by
    rw [trace_append]
    rcases htorn with ⟨-, hkeeps⟩ | ⟨_, -, -, -, -, hkeeps⟩
    · exact ⟨0, Ledger.keeps_append.mpr ⟨held left, hpassage.keeps, hkeeps⟩⟩
    · exact ⟨_, Ledger.keeps_append.mpr ⟨held left, hpassage.keeps, hkeeps⟩⟩
  refine ⟨front, probes, tornDown, back, left, hjournal, hshare, ?_, ?_, hsorted, hmade,
    hprobes, ?_, ?_⟩
  · rw [List.forall_mem_append]
    refine ⟨hfront.calls_within (P := (· ∉ [.mmap, .mincore, .munmap])) ?_,
      hback.calls_within (P := (· ∉ [.mmap, .mincore, .munmap])) ?_⟩
    · exact List.forall_mem_cons.mpr ⟨⟨_, Output.group_within _, by decide⟩,
        List.forall_mem_cons.mpr ⟨⟨_, Identity.group_within .., by decide⟩,
          List.forall_mem_cons.mpr ⟨⟨_, Files.group_within, by decide⟩, List.forall_mem_nil _⟩⟩⟩
    · exact List.forall_mem_cons.mpr ⟨⟨_, Concurrency.group_within .., by decide⟩,
        List.forall_mem_cons.mpr ⟨⟨_, Uname.group_within, by decide⟩,
          List.forall_mem_cons.mpr ⟨⟨_, Lifecycle.group_within .., by decide⟩,
            List.forall_mem_nil _⟩⟩⟩
  · exact hkeeps.covered
  · intro hpanic
    rcases htorn with ⟨-, hreleased⟩ | ⟨_, -, -, -, ⟨x, hx, hgave⟩, -⟩
    · have hbalance := hreleased.balance
      rw [zero_add] at hbalance
      rw [trace_append, Ledger.acquired_append, Ledger.released_append, hprobes, ← hbalance]
      abel
    · exact absurd hgave (hpanic x hx)
  · intro x hx hgave
    rcases htorn with ⟨hpanic, -⟩ | ⟨live, hlive, hcalls, hcall, -, hreleased⟩
    · exact absurd hgave (hpanic x hx)
    · refine ⟨live, hlive, hcall x hx hgave, hcalls, ?_⟩
      have hbalance := hreleased.balance
      rw [trace_append, Ledger.acquired_append, Ledger.released_append, hprobes, add_right_comm,
        hbalance]
      abel

/-- A run of the default battery on the modelled machine releases every mapping that it makes,
unless the teardown gives up. -/
theorem standard_mappings_default : ∃ (b : Battery) (probes tornDown : Journal) (left : Context),
    Battery.standard {} = .ok b ∧
    Battery.Share b.filter (group [0x8000, 0x2001] 0x1000) probes left tornDown ∧
    ((∀ x ∈ tornDown.trace, ¬ x.Panicked) →
      ledger.released (probes ++ tornDown).trace = ledger.acquired (probes ++ tornDown).trace) := by
  obtain ⟨_, probes, tornDown, _, left, -, hshare, -, -, -, -, -, hreleased, -⟩ :=
    standard_mappings (c := {}) Host.Machine.kernel recording Host.Machine.start [] rfl "run" 0
  exact ⟨_, probes, tornDown, left, rfl, hshare, hreleased⟩

end KernelProbe.Memory
