import KernelProbe.Proofs.CommandLine.Arguments
import KernelProbe.Proofs.Session.Mappings

/-!
# The vectors of residency queries

A residency query is handed a vector, and the kernel writes one byte into it for each page of the
mapping. The battery sizes the vector by the configured page: over a run of the standard battery
every query goes to a mapping that was made before for one of the configured lengths, with one byte
for each configured page of that length and the guard bytes behind them (`standard_residency`).

The kernel writes by its own page. `pageCount_le_vector` and `vector_lt_pageCount` compare the two
for a kernel with pages of 4 KiB: the vector is long enough for a configured page that is no
greater, and for a mapping of at most 17 pages, and is too short for every greater page and every
mapping of more than 33 pages. Nothing refuses such a configuration (`short_vector`).
-/

namespace KernelProbe.Memory

open Journal Staged

/-! ## Sizes -/

/-- The size of a page of an x86-64 kernel. -/
def hardwarePage : UInt64 := 0x1000

variable {length pageSize : UInt64}

/-- The vector has room for every page of 4 KiB if the configured page is no greater, or if the
mapping has at most one such page more than there are guard bytes. -/
theorem pageCount_le_vector (hpage : pageSize ≠ 0)
    (h : pageSize ≤ hardwarePage ∨ length ≤ 0x11000) :
    pageCount length hardwarePage ≤ pageCount length pageSize + guardLength := by
  rw [pageCount_le_iff (by decide)]
  have hcovered : length.toNat ≤ pageCount length pageSize * pageSize.toNat :=
    (pageCount_le_iff hpage).mp (Nat.le_refl _)
  rcases h with hsmall | hshort
  · calc length.toNat ≤ pageCount length pageSize * pageSize.toNat := hcovered
      _ ≤ pageCount length pageSize * hardwarePage.toNat := Nat.mul_le_mul_left _ hsmall
      _ ≤ (pageCount length pageSize + guardLength) * hardwarePage.toNat :=
        Nat.mul_le_mul_right _ (Nat.le_add_right ..)
  · -- a mapping that is not empty has a configured page, which makes room for the last of the 17
    have hbound : length.toNat ≤ 0x11000 := hshort
    change length.toNat ≤ (pageCount length pageSize + 16) * 0x1000
    rcases Nat.eq_zero_or_pos (pageCount length pageSize) with hnone | hsome
    · rw [hnone, Nat.zero_mul] at hcovered
      omega
    · omega

/-- For pages of 8 KiB and more, the vector is too short for the pages of 4 KiB of every mapping
that has more than 33. -/
theorem vector_lt_pageCount (hpage : 0x2000 ≤ pageSize) (hlength : 0x21000 < length) :
    pageCount length pageSize + guardLength < pageCount length hardwarePage := by
  have hgreat : 0x2000 ≤ pageSize.toNat := hpage
  have hlong : 0x21000 < length.toNat := hlength
  have hne : pageSize ≠ 0 := by
    rintro rfl
    exact absurd hgreat (by decide)
  -- the configured pages are at most those of 8 KiB
  have hpages : pageCount length pageSize ≤ (length.toNat + 0x1fff) / 0x2000 := by
    rw [pageCount_le_iff hne]
    calc length.toNat ≤ (length.toNat + 0x1fff) / 0x2000 * 0x2000 := by omega
      _ ≤ (length.toNat + 0x1fff) / 0x2000 * pageSize.toNat := Nat.mul_le_mul_left _ hgreat
  rw [← Nat.not_le, pageCount_le_iff (by decide), Nat.not_le]
  change (pageCount length pageSize + 16) * 0x1000 < length.toNat
  omega

/-! ## Queries -/

/-- Every query among calls that follow others goes to a mapping that was made before for one of the
lengths, with a vector of its size. -/
def Sized (lengths : List UInt64) (pageSize : UInt64) (past t : List Exchange) : Prop :=
  ∀ before x after, t = before ++ x :: after →
    ∀ region capacity, x.call = .mincore region capacity →
      ∃ length ∈ lengths, Made (past ++ before) (length, region) ∧
        capacity = pageCount length pageSize + guardLength

variable {lengths : List UInt64} {past t t₁ t₂ : List Exchange} {c c₁ c' : Context} {j : Journal}

theorem Made.append_left {live : UInt64 × MemoryRegion} (h : Made t live) :
    Made (past ++ t) live := by
  obtain ⟨reply, hmem, hvalue⟩ := h
  exact ⟨reply, List.mem_append_right past hmem, hvalue⟩

theorem Made.append_right {live : UInt64 × MemoryRegion} (h : Made past live) :
    Made (past ++ t) live := by
  obtain ⟨reply, hmem, hvalue⟩ := h
  exact ⟨reply, List.mem_append_left t hmem, hvalue⟩

theorem Sized.append (h₁ : Sized lengths pageSize past t₁)
    (h₂ : Sized lengths pageSize (past ++ t₁) t₂) : Sized lengths pageSize past (t₁ ++ t₂) := by
  intro before x after h
  -- the call stands in the second part, or in the first with a part `mid` that begins with it
  rcases List.append_eq_append_iff.mp h with ⟨mid, rfl, hmid⟩ | ⟨mid, hbefore, hmid⟩
  · rw [← List.append_assoc]
    exact h₂ mid x after hmid
  · rcases List.cons_eq_append_iff.mp hmid with ⟨rfl, ht₂⟩ | ⟨mid', rfl, -⟩
    · rw [List.append_nil] at hbefore
      rw [← hbefore]
      simpa using h₂ [] x after ht₂
    · exact h₁ before x mid' hbefore

theorem sized_of_forall_ne (h : ∀ x ∈ t, x.call.syscall ≠ .mincore) :
    Sized lengths pageSize past t := by
  rintro before x after rfl region capacity hcall
  exact absurd (congrArg Call.syscall hcall)
    (h x (List.mem_append_right before List.mem_cons_self))

/-- The calls lead from one context to another: what comes in was made by them, and every query is
sized for a mapping of the first context or for one that was made before. -/
structure Queries (lengths : List UInt64) (pageSize : UInt64) (c : Context) (t : List Exchange)
    (c' : Context) : Prop where
  made : ∀ live ∈ c'.regions, live ∈ c.regions ∨ Made t live
  sized : ∀ past, (∀ live ∈ c.regions, Made past live) → Sized lengths pageSize past t

theorem Queries.refl (c : Context) : Queries lengths pageSize c [] c :=
  ⟨fun _ hlive => .inl hlive, fun _ _ => sized_of_forall_ne (by simp)⟩

theorem Queries.trans (h₁ : Queries lengths pageSize c t₁ c₁)
    (h₂ : Queries lengths pageSize c₁ t₂ c') : Queries lengths pageSize c (t₁ ++ t₂) c' where
  made live hlive := by
    rcases h₂.made live hlive with hlive | hmade
    · exact (h₁.made live hlive).imp_right Made.append_right
    · exact .inr hmade.append_left
  sized past hpast := by
    refine (h₁.sized past hpast).append (h₂.sized (past ++ t₁) fun live hlive => ?_)
    rcases h₁.made live hlive with hlive | hmade
    · exact (hpast live hlive).append_right
    · exact hmade.append_left

/-- A probe of the group asks, if at all, for a mapping of the context, with a vector of the size
for its length. -/
theorem trial_query {trial : Trial Context} {outcome : Outcome} {evidence : Evidence}
    (hpage : pageSize ≠ 0)
    (hmem : trial = brkProbe.trial ∨ ∃ length ∈ lengths, trial ∈ triad pageSize length)
    (plays : (trial.run c).Plays j ((outcome, evidence), c')) {x : Exchange} (hx : x ∈ j.trace)
    {region : MemoryRegion} {capacity : Nat} (hcall : x.call = .mincore region capacity) :
    ∃ length ∈ lengths, (length, region) ∈ c.regions ∧
      capacity = pageCount length pageSize + guardLength := by
  rcases hmem with rfl | ⟨length, hlength, hmem⟩
  · obtain ⟨own, r, hcourse, htrace⟩ := Probe.course_of_trial rfl plays
    obtain ⟨-, reply, rfl, -⟩ := brk_course hcourse
    obtain rfl : x = ⟨.brk 0, reply⟩ := by simpa [htrace, trace_cons, Entry.exchange?] using hx
    cases hcall
  rcases List.mem_cons.mp hmem with rfl | hmem
  · obtain ⟨own, r, hcourse, htrace⟩ := Probe.course_of_trial rfl plays
    obtain ⟨reply, rfl, -⟩ := mmap_course hcourse
    obtain rfl : x = ⟨.mmap (.anonymousReadOnly length), reply⟩ := by
      simpa [htrace, trace_cons, Entry.exchange?] using hx
    cases hcall
  rcases List.mem_cons.mp hmem with rfl | hmem
  · obtain ⟨own, r, hcourse, htrace⟩ := Probe.course_of_trial rfl plays
    obtain ⟨-, ⟨rfl, -⟩ | ⟨region', capacity', reply, hfind, hcapacity, rfl, -⟩⟩ :=
      mincore_course hpage hcourse
    · simp [htrace] at hx
    · obtain rfl : x = ⟨.mincore region' capacity', reply⟩ := by
        simpa [htrace, trace_cons, Entry.exchange?] using hx
      cases hcall
      exact ⟨length, hlength, Regions.mem_of_find? hfind, hcapacity⟩
  · obtain rfl := List.mem_singleton.mp hmem
    obtain ⟨own, r, hcourse, htrace⟩ := Probe.course_of_trial rfl plays
    obtain ⟨rfl, -⟩ | ⟨region', reply, -, rfl, -⟩ := munmap_course hcourse
    · simp [htrace] at hx
    · obtain rfl : x = ⟨.munmap region', reply⟩ := by
        simpa [htrace, trace_cons, Entry.exchange?] using hx
      cases hcall

/-- The turns of the probes keep the queries sized. -/
theorem turns_queries {filter : ProbeFilter} {group : String} {trials : List (Trial Context)}
    {p p' : RunSummary × Context} {result : Except HarnessError Unit} (hpage : pageSize ≠ 0)
    (h : Each (Battery.execute filter group) trials p j result p')
    (hexpects : Expects pageSize trials p.2)
    (hmem : ∀ t ∈ trials, t = brkProbe.trial ∨ ∃ length ∈ lengths, t ∈ triad pageSize length) :
    Queries lengths pageSize p.2 j.trace p'.2 := by
  refine Battery.turns_preserve
    (fun ts c => Expects pageSize ts c ∧
      ∀ t ∈ ts, t = brkProbe.trial ∨ ∃ length ∈ lengths, t ∈ triad pageSize length)
    (Queries lengths pageSize) .refl .trans ?_ ?_ h ⟨hexpects, hmem⟩
  · rintro t ts c ⟨hexpects, hmem⟩
    exact ⟨hexpects.tail hexpects.sorted fun _ _ hfresh => hfresh,
      fun t' ht' => hmem t' (List.mem_cons_of_mem t ht')⟩
  · rintro t ts c own _ _ c' ⟨hexpects, hmem⟩ plays
    obtain ⟨hpassage, hexpects'⟩ := trial_passage hpage hexpects plays
    refine ⟨⟨hpassage.made, ?_⟩, hexpects', fun t' ht' => hmem t' (List.mem_cons_of_mem t ht')⟩
    intro past hpast before x after htrace region capacity hcall
    have hx : x ∈ own.trace := by
      rw [htrace]
      exact List.mem_append_right before List.mem_cons_self
    obtain ⟨length, hlength, hlive, hcapacity⟩ :=
      trial_query hpage (hmem t List.mem_cons_self) plays hx hcall
    exact ⟨length, hlength, (hpast _ hlive).append_right, hcapacity⟩

/-! ## The run -/

/-- The teardown makes no calls but releases. -/
theorem teardown_releases {r : Except Halt Unit} (h : teardown.Plays c j r c') :
    ∀ x ∈ j.trace, x.call.syscall = .munmap := by
  intro x hx
  have hcall : x.call ∈ j.trace.map (·.call) := List.mem_map_of_mem hx
  obtain ⟨-, -, ⟨-, hcalls, -⟩ | ⟨done, live, _, before, last, -, -, htrace, hbefore, hlast, -⟩⟩ :=
    plays_teardown h
  · rw [map_call_trace, hcalls] at hcall
    obtain ⟨live, -, hcall⟩ := List.mem_map.mp hcall
    rw [← hcall]
    rfl
  · rw [htrace, List.map_append, hbefore, List.map_singleton, hlast, List.mem_append] at hcall
    rcases hcall with hcall | hcall
    · obtain ⟨live, -, hcall⟩ := List.mem_map.mp hcall
      rw [← hcall]
      rfl
    · rw [List.mem_singleton.mp hcall]
      rfl

theorem share_sized {filter : ProbeFilter} {probes tornDown : Journal} {left : Context}
    (hpage : pageSize ≠ 0) (hdistinct : lengths.Nodup)
    (h : Battery.Share filter (group lengths pageSize) probes left tornDown) :
    Sized lengths pageSize past (probes.trace ++ tornDown.trace) := by
  obtain ⟨rfl, rfl, rfl⟩ | ⟨⟨_, _, _, turns⟩, _, torn⟩ := h.idle_or_reached
  · exact sized_of_forall_ne (by simp)
  have hmem : ∀ t ∈ (group lengths pageSize).trials,
      t = brkProbe.trial ∨ ∃ length ∈ lengths, t ∈ triad pageSize length :=
    List.forall_mem_cons.mpr ⟨.inl rfl, fun t ht => .inr (List.mem_flatMap.mp ht)⟩
  have hqueries := turns_queries hpage turns (expects_start hdistinct) hmem
  obtain ⟨own, r, hown, hkernel, -⟩ := Battery.plays_tearDown torn
  rw [trace_eq_of_kernel hkernel]
  refine (hqueries.sized past fun live hlive => absurd hlive List.not_mem_nil).append
    (sized_of_forall_ne fun x hx => ?_)
  rw [teardown_releases hown x hx]
  decide

/-- Over a run of the standard battery, every residency query goes to a mapping that was made before
for one of the configured lengths, with a vector of one byte for each configured page and the guard
bytes. What a kernel with pages of 4 KiB writes fits it if the configured page is no greater, or the
mapping has at most 17 pages; it does not if the configured page is greater and the mapping has more
than 33. -/
theorem standard_residency {κ ρ : Type} (kernel : Kernel κ) (reporter : Reporter ρ) (k : κ) (r : ρ)
    {c : HarnessConfig} {b : Battery} (hb : Battery.standard c = .ok b) (runId : String)
    (startedAt : Int64) :
    ∀ before x after,
      ((b.run runId startedAt).run kernel reporter k r).journal.trace = before ++ x :: after →
      ∀ region capacity, x.call = .mincore region capacity →
        ∃ length ∈ c.mapLengths, Made before (length, region) ∧
          capacity = pageCount length c.pageSize + guardLength ∧
          (c.pageSize ≤ hardwarePage ∨ length ≤ 0x11000 →
            pageCount length hardwarePage ≤ capacity) ∧
          (0x2000 ≤ c.pageSize → 0x21000 < length →
            capacity < pageCount length hardwarePage) := by
  obtain ⟨missing, existing, hc, rfl, hshares⟩ :=
    Battery.standard_shares kernel reporter k r hb runId startedAt
  change Battery.Shares c.filter
    ([Output.group c.outputFd, Identity.group c.tlsSlots c.threadIdModel, Files.group] ++
      group c.mapLengths c.pageSize ::
        [Concurrency.group c.waitTimeout c.joinTimeout, Uname.group,
          Lifecycle.group missing existing c.execModel]) _ at hshares
  -- only the memory group makes queries
  obtain ⟨front, probes, tornDown, back, left, hjournal, hshare, hfront, hback⟩ :=
    hshares.isolate (P := (· ≠ .mincore))
      (List.forall_mem_cons.mpr ⟨⟨_, Output.group_within _, by decide⟩,
        List.forall_mem_cons.mpr ⟨⟨_, Identity.group_within .., by decide⟩,
          List.forall_mem_cons.mpr ⟨⟨_, Files.group_within, by decide⟩, List.forall_mem_nil _⟩⟩⟩)
      (List.forall_mem_cons.mpr ⟨⟨_, Concurrency.group_within .., by decide⟩,
        List.forall_mem_cons.mpr ⟨⟨_, Uname.group_within, by decide⟩,
          List.forall_mem_cons.mpr ⟨⟨_, Lifecycle.group_within .., by decide⟩,
            List.forall_mem_nil _⟩⟩⟩)
  have hsized : Sized c.mapLengths c.pageSize []
      (front.trace ++ ((probes.trace ++ tornDown.trace) ++ back.trace)) :=
    (sized_of_forall_ne hfront).append
      ((share_sized hc.pageSize hc.distinct hshare).append (sized_of_forall_ne hback))
  rw [hjournal, trace_append, trace_append, trace_append, ← List.append_assoc probes.trace]
  intro before x after htrace region capacity hcall
  obtain ⟨length, hlength, hmade, rfl⟩ := hsized before x after htrace region capacity hcall
  exact ⟨length, hlength, hmade, rfl, pageCount_le_vector hc.pageSize,
    fun hpage hlong => vector_lt_pageCount hpage hlong⟩

/-- In a run of the default battery on the modelled machine, all queries get long enough vectors. -/
theorem standard_residency_default : ∃ b, Battery.standard {} = .ok b ∧
    ∀ x ∈ ((b.run "run" 0).run Host.Machine.kernel recording Host.Machine.start []).journal.trace,
      ∀ region capacity, x.call = .mincore region capacity →
        ∃ length ∈ [0x8000, 0x2001], pageCount length hardwarePage ≤ capacity := by
  refine ⟨_, rfl, fun x hx region capacity hcall => ?_⟩
  obtain ⟨before, after, htrace⟩ := List.append_of_mem hx
  obtain ⟨length, hlength, -, -, henough, -⟩ := standard_residency (c := {}) Host.Machine.kernel
    recording Host.Machine.start [] rfl "run" 0 before x after htrace region capacity hcall
  exact ⟨length, hlength, henough (.inl (by decide))⟩

/-- The kernel stored more bytes in the vector of a query than it holds. -/
def overruns : Exchange → Bool
  | ⟨.mincore _ capacity, reply⟩ =>
    match (reply.returned : Returned (List UInt8)) with
    | .value bytes => capacity < bytes.length
    | _ => false
  | _ => false

/-- The command line builds a configuration with pages of 64 KiB and a mapping of 1 MiB, and it is
accepted. The vector of the query has 32 bytes, and the modelled machine, whose pages are of 4 KiB,
stores 256. -/
theorem short_vector :
    let c : HarnessConfig :=
      { pageSize := 0x10000, mapLengths := [0x100000], filter := { only := ["memory"] } }
    (CommandLine.parse
        ["--page-size", "0x10000", "--map-length", "0x100000", "--only", "memory"] []).map
        (·.config) = .ok c ∧
      c.validate = .ok () ∧
      ∃ b, Battery.standard c = .ok b ∧
        let journal := ((b.run "run" 0).run Host.Machine.kernel recording
          Host.Machine.start []).journal
        (∃ region, region.length = 0x100000 ∧ .mincore region 32 ∈ journal.calls) ∧
          journal.trace.any overruns = true ∧ pageCount 0x100000 hardwarePage = 256 := by
  have hread := CommandLine.parse_spell
    (l := [(.pageSize, "0x10000"), (.mapLength, "0x100000"), (.only, "memory")]) (by decide)
  refine ⟨congrArg (Except.map (·.config)) hread, by rfl, _, rfl,
    ⟨⟨0x7ffff7eff000, 0x100000, 1, 0x22⟩, rfl, ?_⟩, ?_, by rfl⟩
  · decide +kernel
  · decide +kernel

end KernelProbe.Memory
