import KernelProbe.Proofs.Probe.Regions
import KernelProbe.Proofs.Session.Criteria

/-!
# The probes keep to their criteria

The trials of every group of the standard battery conform to the criteria of their probes
(`group_conforms`). For each group whose probes share something there is one invariant, which says
what the context holds in terms of what earlier probes heard: a process id, descriptors, mappings, a
child.
-/

namespace KernelProbe

open Function

/-! ## Output -/

namespace Output

theorem group_conforms (c : HarnessConfig) :
    ConformAll c (fun _ _ => True) [.write, .writev] (group c.outputFd).trials := by
  refine .cons (conforms_of_course rfl rfl ?_) (.cons (conforms_of_course rfl rfl ?_) .nil)
  · intro heard s own r exam _ _ h
    obtain ⟨reply, rfl, hr⟩ := write_course h
    simpa [ProbeId.Passes, Request.toKernel] using hr
  · intro heard s own r exam _ _ h
    obtain ⟨reply, rfl, hr⟩ := writev_course h
    simpa [ProbeId.Passes, Request.toKernel] using hr

end Output

/-! ## Identity -/

namespace Identity

variable {c : HarnessConfig} {heard : Heard} {later : List ProbeId}

/-- Up to the gettid probe, the context holds the process id with which the getpid probe passed. -/
def KeepsPid (heard : Heard) (s : Context) : Prop :=
  heard .gettid = [] → ∀ pid, s.pid = some pid ↔ heard.Pid pid

theorem keepsPid_update {s : Context} {i : ProbeId} {own : Journal} (h : KeepsPid heard s)
    (hpid : i ≠ .getpid) (htid : i ≠ .gettid) : KeepsPid (update heard i own) s := by
  intro hnone pid
  rw [update_of_ne htid.symm] at hnone
  rw [h hnone pid, Heard.Pid, Heard.Pid, update_of_ne hpid.symm]

theorem setThreadArea_conforms
    (hslots : c.tlsSlots.contains ThreadAreaDescriptor.autoAssign = false) :
    Conforms c KeepsPid .setThreadArea later (setThreadAreaProbe c.tlsSlots).trial := by
  refine conforms_of_course rfl rfl ?_
  rintro heard s own r exam hinv - h
  obtain ⟨rfl, ⟨known, rfl, hknown, hr⟩ | ⟨reply, rfl, hr⟩⟩ := setThreadArea_course h
  · refine ⟨keepsPid_update hinv (by simp) (by simp), iff_of_false hr ?_⟩
    simp [ProbeId.Passes, Request.toKernel]
  · refine ⟨keepsPid_update hinv (by simp) (by simp), hr.trans ?_⟩
    have hassigned : ∀ slot, c.tlsSlots.contains slot = true →
        slot ≠ ThreadAreaDescriptor.autoAssign := by
      rintro slot hslot rfl
      rw [hslots] at hslot
      cases hslot
    constructor
    · rintro ⟨slot, hvalue, -, hslot⟩
      simpa [ProbeId.Passes, Request.toKernel] using ⟨slot, hvalue, hslot⟩
    · intro hpasses
      obtain ⟨-, slot, hcame, hslot⟩ := hpasses
      have hvalue : reply.returned = .value slot := by simpa [Request.toKernel] using hcame
      exact ⟨slot, hvalue, hassigned slot hslot, hslot⟩

theorem getpid_conforms : Conforms c KeepsPid .getpid later getpidProbe.trial := by
  refine conforms_of_course rfl rfl ?_
  rintro heard s own r exam hinv hfresh h
  have hnone : heard .getpid = [] := hfresh _ List.mem_cons_self
  obtain ⟨reply, rfl, ⟨pid, hvalue, hpos, hr, hcontext⟩ | ⟨hnot, hr, rfl⟩⟩ := getpid_course h
  · have hpid : ∀ pid', Heard.Pid (update heard .getpid [⟨.call .getpid, reply⟩]) pid' ↔
        pid' = pid := by
      intro pid'
      simp only [Heard.Pid, update_self, Journal.cameBack_call_self,
        Journal.not_cameBack_nil, or_false,
        hvalue, Returned.value.injEq]
      constructor
      · rintro ⟨rfl, -⟩
        rfl
      · rintro rfl
        exact ⟨rfl, hpos⟩
    refine ⟨fun _ pid' => ?_, iff_of_true hr ⟨pid, (hpid pid).mpr rfl⟩⟩
    rw [hcontext, Option.some.injEq, eq_comm]
    exact (hpid pid').symm
  · have hpid : ∀ pid', ¬ Heard.Pid (update heard .getpid [⟨.call .getpid, reply⟩]) pid' := by
      rintro pid' ⟨hcame, hpos⟩
      rw [update_self] at hcame
      exact hnot pid' (by simpa using hcame) hpos
    refine ⟨fun hgettid pid' => iff_of_false ?_ (hpid pid'), iff_of_false hr ?_⟩
    · rw [update_of_ne (by simp)] at hgettid
      rw [hinv hgettid, Heard.Pid, hnone]
      simp
    · rintro ⟨pid', hpid'⟩
      exact hpid pid' hpid'

theorem pid_update_gettid {own : Journal} {pid : Int32} :
    Heard.Pid (update heard .gettid own) pid ↔ heard.Pid pid := by
  simp [Heard.Pid]

/-- With the process id at hand, or no need for one, the reply to gettid decides. -/
theorem passes_gettid_known {s : Context} {reply : Reply Int32}
    (hkeeps : ∀ pid, s.pid = some pid ↔ heard.Pid pid)
    (hknown : s.pid ≠ none ∨ c.threadIdModel = .unchecked) :
    ProbeId.gettid.Passes c (update heard .gettid [⟨.call .gettid, reply⟩]) ↔
      ∃ tid, reply.returned = .value tid ∧ 0 < tid ∧
        ∀ pid, s.pid = some pid → c.threadIdModel.mismatch? tid pid = none := by
  refine exists_congr fun tid => and_congr ?_ (and_congr_right fun _ => ?_)
  · simp
  constructor
  · intro hall pid hs
    rw [ThreadIdModel.mismatch?_eq_none]
    by_cases hmodel : c.threadIdModel = .unchecked
    · rw [hmodel]
      trivial
    obtain ⟨pid', hadmits, hpid' | ⟨hno, -⟩⟩ := hall hmodel
    · have heq := (hkeeps pid').mpr (pid_update_gettid.mp hpid')
      rw [hs] at heq
      cases heq
      exact hadmits
    · exact absurd (pid_update_gettid.mpr ((hkeeps pid).mp hs)) (hno pid)
  · intro hall hmodel
    obtain ⟨pid, hs⟩ := Option.ne_none_iff_exists'.mp (hknown.resolve_right hmodel)
    exact ⟨pid, ThreadIdModel.mismatch?_eq_none.mp (hall pid hs),
      .inl (pid_update_gettid.mpr ((hkeeps pid).mp hs))⟩

/-- With the process id that the probe fetched itself, the reply to gettid decides. -/
theorem passes_gettid_fetched {reply₀ reply : Reply Int32} {pid : Int32}
    (hno : ∀ pid', ¬ heard.Pid pid') (hmodel : c.threadIdModel ≠ .unchecked)
    (hvalue : reply₀.returned = .value pid) :
    ProbeId.gettid.Passes c (update heard .gettid
        [⟨.call .getpid, reply₀⟩, ⟨.call .gettid, reply⟩]) ↔
      ∃ tid, reply.returned = .value tid ∧ 0 < tid ∧ c.threadIdModel.mismatch? tid pid = none := by
  refine exists_congr fun tid => and_congr ?_ (and_congr_right fun _ => ?_)
  · simp [Journal.cameBack_call_of_ne]
  have hcame : ∀ pid', Journal.CameBack [⟨.call .getpid, reply₀⟩, ⟨.call .gettid, reply⟩] .getpid
      (.value pid') ↔ pid' = pid := by
    intro pid'
    rw [Journal.cameBack_call_self, Journal.cameBack_call_of_ne (by simp), hvalue]
    simp [eq_comm]
  rw [ThreadIdModel.mismatch?_eq_none]
  constructor
  · intro hall
    obtain ⟨pid', hadmits, hpid' | ⟨-, hown⟩⟩ := hall hmodel
    · exact absurd (pid_update_gettid.mp hpid') (hno pid')
    · rw [update_self] at hown
      rwa [← (hcame pid').mp hown]
  · intro hadmits _
    refine ⟨pid, hadmits, .inr ⟨fun pid' hpid' => hno pid' (pid_update_gettid.mp hpid'), ?_⟩⟩
    rw [update_self]
    exact (hcame pid).mpr rfl

theorem gettid_conforms :
    Conforms c KeepsPid .gettid later (gettidProbe c.threadIdModel).trial := by
  refine conforms_of_course rfl rfl ?_
  rintro heard s own r exam hinv hfresh h
  have hkeeps : ∀ pid, s.pid = some pid ↔ heard.Pid pid := hinv (hfresh _ List.mem_cons_self)
  -- once the probe heard something, the context no longer matters
  have hheard : ∀ (e : Entry) (j : Journal),
      KeepsPid (update heard .gettid (e :: j)) exam.context := by
    intro e j hnone
    rw [update_self] at hnone
    cases hnone
  obtain ⟨-, -, -, hr, reply, rfl, -⟩ | ⟨fetch, reply, rfl, hfetch, hr⟩ := gettid_course h
  · refine ⟨hheard _ _, iff_of_false hr ?_⟩
    rintro ⟨tid, hcame, -⟩
    simp [Journal.CameBack, Request.toKernel] at hcame
  -- either the context settles the process id, or the probe fetched it
  obtain ⟨rfl, hcontext, hknown⟩ | ⟨hunknown, hmodel, reply₀, pid, rfl, hvalue, hcontext⟩ := hfetch
  · rw [hcontext] at hr
    exact ⟨hheard _ _, hr.trans (passes_gettid_known hkeeps hknown).symm⟩
  · have hno : ∀ pid', ¬ heard.Pid pid' := by
      intro pid' hpid'
      rw [← hkeeps, hunknown] at hpid'
      cases hpid'
    refine ⟨hheard _ _, hr.trans (Iff.trans ?_ (passes_gettid_fetched hno hmodel hvalue).symm)⟩
    simp [hcontext]

theorem schedYield_conforms : Conforms c KeepsPid .schedYield later schedYieldProbe.trial := by
  refine conforms_of_course rfl rfl ?_
  rintro heard s own r exam hinv - h
  obtain ⟨reply, rfl, hr, rfl⟩ := schedYield_course h
  refine ⟨keepsPid_update hinv (by simp) (by simp), hr.trans ?_⟩
  simp [ProbeId.Passes, Request.toKernel]

theorem group_conforms (hslots : c.tlsSlots.contains ThreadAreaDescriptor.autoAssign = false) :
    ConformAll c KeepsPid [.setThreadArea, .getpid, .gettid, .schedYield]
      (group c.tlsSlots c.threadIdModel).trials :=
  .cons (setThreadArea_conforms hslots) (.cons getpid_conforms (.cons gettid_conforms
    (.cons schedYield_conforms .nil)))

/-- Before anything was heard, no process id is held. -/
theorem keepsPid_start (h : heard .getpid = []) : KeepsPid heard {} := by
  intro _ pid
  simp [Heard.Pid, h]

end Identity

/-! ## Files -/

namespace Files

variable {c : HarnessConfig} {heard : Heard} {later : List ProbeId} {s : Context}

/-- Up to the close probe, the context holds descriptors if the probes opened any; up to the read
probe, it holds the descriptor with which the open probe passed. -/
def KeepsOpened (heard : Heard) (s : Context) : Prop :=
  heard .close = [] → (s.fds ≠ [] ↔ ∃ fd, heard.Opened fd) ∧
    (heard .read = [] → ∀ fd, s.readFd = some fd ↔ heard.ReadFd fd)

/-- A probe that opens nothing and comes to no descriptor leaves the invariant. -/
theorem keepsOpened_update {i : ProbeId} {own : Journal} (h : KeepsOpened heard s)
    (hclose : i ≠ .close)
    (hread : i ≠ .read) (hopened : ∀ fd, Heard.Opened (update heard i own) fd ↔ heard.Opened fd)
    (hfd : ∀ fd, Heard.ReadFd (update heard i own) fd ↔ heard.ReadFd fd) :
    KeepsOpened (update heard i own) s := by
  intro hnone
  rw [update_of_ne hclose.symm] at hnone
  obtain ⟨hfds, hreadFd⟩ := h hnone
  refine ⟨hfds.trans (exists_congr fun fd => (hopened fd).symm), fun hnone' fd => ?_⟩
  rw [update_of_ne hread.symm] at hnone'
  rw [hreadFd hnone', hfd]

theorem open_conforms : Conforms c KeepsOpened .openFile later (openProbe nullDevice).trial := by
  refine conforms_of_course rfl rfl ?_
  rintro heard s own r exam hinv hfresh h
  have hnone : heard .openFile = [] := hfresh _ List.mem_cons_self
  obtain ⟨known, rfl, hknown, hr, rfl⟩ | ⟨reply, rfl, ⟨fd, hvalue, hr, hcontext⟩ |
    ⟨hnot, hr, rfl⟩⟩ :=
    open_course h
  · refine ⟨keepsOpened_update hinv (by simp) (by simp) ?_ ?_, iff_of_false hr ?_⟩
    · simp [Heard.Opened, hnone, Request.toKernel]
    · simp [Heard.ReadFd, hnone, Request.toKernel]
    · simp [ProbeId.Passes, Heard.ReadFd, Request.toKernel]
  · have hreadFd : ∀ fd', Heard.ReadFd (update heard .openFile [⟨.supports .openFile, .ok true⟩,
        ⟨.call (.openFile nullDevice createFlag createMode), reply⟩]) fd' ↔ fd' = fd ∧ 0 ≤ fd := by
      intro fd'
      rw [Heard.ReadFd, update_self, Journal.cameBack_supports, Journal.cameBack_call_self, hvalue,
        or_iff_left Journal.not_cameBack_nil, Returned.value.injEq, eq_comm]
      exact and_congr_right fun heq => by rw [heq]
    refine ⟨fun hclose => ⟨iff_of_true ?_ ⟨fd, .inl ?_⟩, fun hread fd' => ?_⟩, hr.trans ?_⟩
    · rw [hcontext]
      exact List.append_ne_nil_of_right_ne_nil _ (List.cons_ne_nil fd [])
    · simp [hvalue, Request.toKernel]
    · refine Iff.trans ?_ (hreadFd fd').symm
      rw [hcontext]
      by_cases hfd : 0 ≤ fd
      · simp [hfd, eq_comm]
      · rw [update_of_ne (by simp)] at hclose hread
        simp [hfd, (hinv hclose).2 hread fd', Heard.ReadFd, hnone]
    · constructor
      · exact fun hpos => ⟨List.mem_cons_self, fd, (hreadFd fd).mpr ⟨rfl, hpos⟩⟩
      · rintro ⟨-, fd', hfd'⟩
        exact ((hreadFd fd').mp hfd').2
  · refine ⟨keepsOpened_update hinv (by simp) (by simp) ?_ ?_, iff_of_false hr ?_⟩
    · simp [Heard.Opened, hnone, hnot, Request.toKernel]
    · simp [Heard.ReadFd, hnone, hnot, Request.toKernel]
    · simp [ProbeId.Passes, Heard.ReadFd, hnot, Request.toKernel]

theorem openAt_conforms :
    Conforms c KeepsOpened .openAt later (openAtProbe bogusDirectory nullDevice).trial := by
  refine conforms_of_course rfl rfl ?_
  rintro heard s own r exam hinv hfresh h
  have hnone : heard .openAt = [] := hfresh _ List.mem_cons_self
  obtain ⟨reply, rfl, ⟨fd, hvalue, hr, hcontext⟩ | ⟨hnot, hr, rfl⟩⟩ := openAt_course h
  · refine ⟨fun hclose => ⟨iff_of_true ?_ ⟨fd, .inr (.inl ?_)⟩, fun hread fd' => ?_⟩, hr.trans ?_⟩
    · rw [hcontext]
      exact List.append_ne_nil_of_right_ne_nil _ (List.cons_ne_nil fd [])
    · simp [hvalue, Request.toKernel]
    · rw [update_of_ne (by simp)] at hclose hread
      rw [hcontext, Context.keep, (hinv hclose).2 hread fd']
      simp [Heard.ReadFd]
    · simp [ProbeId.Passes, hvalue, Request.toKernel]
  · refine ⟨keepsOpened_update hinv (by simp) (by simp) ?_ ?_, iff_of_false hr ?_⟩
    · simp [Heard.Opened, hnone, hnot, Request.toKernel]
    · simp [Heard.ReadFd]
    · simp [ProbeId.Passes, hnot, Request.toKernel]

/-- Once the read probe heard something, the descriptor to read from no longer matters. -/
theorem keepsOpened_read {e : Entry} {j : Journal}
    (h : s.fds ≠ [] ↔ ∃ fd, Heard.Opened (update heard .read (e :: j)) fd) :
    KeepsOpened (update heard .read (e :: j)) s := by
  refine fun _ => ⟨h, fun hnone => ?_⟩
  rw [update_self] at hnone
  cases hnone

theorem read_conforms : Conforms c KeepsOpened .read [.close] (readProbe nullDevice).trial := by
  refine conforms_of_course rfl rfl ?_
  rintro heard s own r exam hinv hfresh h
  have hnone : heard .read = [] := hfresh _ List.mem_cons_self
  obtain ⟨hfds, hreadFd⟩ := hinv (hfresh .close (by simp))
  have hreadFd := hreadFd hnone
  have hfd : ∀ own fd, Heard.ReadFd (update heard .read own) fd ↔ heard.ReadFd fd := by
    intro own fd
    simp [Heard.ReadFd]
  obtain ⟨-, hcontext, hr, reply, rfl, hnot⟩ | ⟨fetch, fd, reply, rfl, hfetch, hr⟩ := read_course h
  · rw [hcontext]
    refine ⟨keepsOpened_read (hfds.trans (exists_congr fun fd => ?_)), iff_of_false hr ?_⟩
    · simp [Heard.Opened, hnone, hnot]
    · rintro ⟨fd, data, hcame, -⟩
      simp [Journal.CameBack, Request.toKernel] at hcame
  -- either the descriptor comes from the open probe, or the probe opened one
  obtain ⟨rfl, hs, hcontext⟩ | ⟨hs, reply₀, rfl, hvalue, hcontext⟩ := hfetch
  · rw [hcontext]
    refine ⟨keepsOpened_read (hfds.trans (exists_congr fun fd => ?_)), hr.trans ?_⟩
    · simp [Heard.Opened, hnone, Journal.CameBack]
    constructor
    · rintro ⟨data, hdata, hcount⟩
      refine ⟨fd, data, ?_, hcount, .inl ((hfd _ fd).mpr ((hreadFd fd).mp hs))⟩
      simp [hdata, Request.toKernel]
    · rintro ⟨fd', data, ⟨answer, hmem, hdata⟩, hcount, -⟩
      rw [update_self] at hmem
      cases List.mem_singleton.mp hmem
      exact ⟨data, hdata, hcount⟩
  · refine ⟨keepsOpened_read (iff_of_true ?_ ⟨fd, .inr (.inr ?_)⟩), hr.trans ?_⟩
    · rw [hcontext]
      exact List.append_ne_nil_of_right_ne_nil _ (List.cons_ne_nil fd [])
    · simp [hvalue]
    have hno : ∀ fd', ¬ heard.ReadFd fd' := by
      intro fd' hfd'
      rw [← hreadFd, hs] at hfd'
      cases hfd'
    constructor
    · rintro ⟨data, hdata, hcount⟩
      refine ⟨fd, data, ?_, hcount, .inr ⟨fun fd' hfd' => hno fd' ((hfd _ fd').mp hfd'), ?_⟩⟩
      · simp [hdata, Request.toKernel, Journal.cameBack_call_of_ne]
      · simp [hvalue, Request.toKernel]
    · rintro ⟨fd', data, ⟨answer, hmem, hdata⟩, hcount, -⟩
      rw [update_self] at hmem
      rcases List.mem_cons.mp hmem with heq | hmem
      · cases heq
      · cases List.mem_singleton.mp hmem
        exact ⟨data, hdata, hcount⟩

theorem kernel_closings (closed : List (Int32 × Reply Unit)) :
    Journal.kernel (closed.map closing) = closed.map closing := by
  rw [Journal.kernel, List.filter_eq_self]
  intro e he
  obtain ⟨x, -, rfl⟩ := List.mem_map.mp he
  rfl

theorem close_conforms : Conforms c KeepsOpened .close later closeProbe.trial := by
  refine conforms_of_course rfl rfl ?_
  rintro heard s own r exam hinv hfresh h
  have hnone : heard .close = [] := hfresh _ List.mem_cons_self
  obtain ⟨hfds, -⟩ := hinv hnone
  obtain ⟨hempty, rfl, hr, hcontext⟩ | ⟨hheld, closed, left, hclosed, -, rfl, -, hr⟩ :=
    close_course h
  -- a close probe without descriptors hears nothing, as before
  · have hsame : update heard .close (Journal.kernel []) = heard := by
      rw [Journal.kernel_nil, ← hnone, update_eq_self]
    rw [hsame, hcontext]
    exact ⟨hinv, iff_of_false hr fun ⟨hopened, _⟩ => hfds.mpr hopened hempty⟩
  · rw [kernel_closings]
    have hopened : ∀ fd, Heard.Opened (update heard .close (closed.map closing)) fd ↔
        heard.Opened fd := by
      intro fd
      simp [Heard.Opened]
    refine ⟨fun hnone' => ?_, hr.trans ?_⟩
    · rw [update_self, List.map_eq_nil_iff] at hnone'
      exact absurd hnone' hclosed
    obtain ⟨fd, hfd⟩ := hfds.mp hheld
    constructor
    · intro hgood
      refine ⟨⟨fd, (hopened fd).mpr hfd⟩, fun fd' reply hmem => ?_⟩
      rw [update_self] at hmem
      obtain ⟨x, hx, heq⟩ := List.mem_map.mp hmem
      cases heq
      exact hgood x hx
    · rintro ⟨-, hgood⟩ x hx
      rw [update_self] at hgood
      exact hgood x.1 x.2 (List.mem_map_of_mem hx)

theorem group_conforms (c : HarnessConfig) :
    ConformAll c KeepsOpened [.openFile, .openAt, .read, .close] group.trials :=
  .cons open_conforms (.cons openAt_conforms (.cons read_conforms (.cons close_conforms .nil)))

/-- Before anything was heard, no descriptor is held. -/
theorem keepsOpened_start (hopen : heard .openFile = []) (hopenAt : heard .openAt = [])
    (hread : heard .read = []) : KeepsOpened heard {} := by
  refine fun _ => ⟨?_, fun _ fd => ?_⟩
  · simp [Heard.Opened, hopen, hopenAt, hread]
  · simp [Heard.ReadFd, hopen]

end Files

/-! ## Memory -/

namespace Memory

variable {c : HarnessConfig} {heard : Heard} {later : List ProbeId} {s : Context} {length : UInt64}

/-- Up to its munmap probe, the context holds the mapping of a length that its mmap probe made. -/
def KeepsMapped (heard : Heard) (s : Context) : Prop :=
  ∀ length, heard (.munmap length) = [] → ∀ region,
    s.regions.find? length = some region ↔ heard.Mapped length region

theorem keepsMapped_update {i : ProbeId} {own : Journal} (h : KeepsMapped heard s)
    (hmmap : ∀ key, i ≠ .mmap key) (hmunmap : ∀ key, i ≠ .munmap key) :
    KeepsMapped (update heard i own) s := by
  intro key hnone region
  rw [update_of_ne (hmunmap key).symm] at hnone
  rw [h key hnone region, Heard.Mapped, Heard.Mapped, update_of_ne (hmmap key).symm]

theorem brk_conforms : Conforms c KeepsMapped .brk later brkProbe.trial := by
  refine conforms_of_course rfl rfl ?_
  rintro heard s own r exam hinv - h
  obtain ⟨hcontext, reply, rfl, hr⟩ := brk_course h
  rw [hcontext]
  refine ⟨keepsMapped_update hinv (by simp) (by simp), hr.trans (exists_congr fun stop => ?_)⟩
  simp [Request.toKernel]

theorem mmap_conforms (hpage : c.pageSize ≠ 0) :
    Conforms c KeepsMapped (.mmap length) later (mmapProbe length c.pageSize).trial := by
  refine conforms_of_course rfl rfl ?_
  rintro heard s own r exam hinv hfresh h
  have hnone : heard (.mmap length) = [] := hfresh _ List.mem_cons_self
  -- for other lengths, nothing new was heard
  have hother : ∀ {key own region}, key ≠ length →
      (Heard.Mapped (update heard (.mmap length) own) key region ↔ heard.Mapped key region) := by
    intro key own region hkey
    rw [Heard.Mapped, Heard.Mapped, update_of_ne (by simpa using hkey)]
  obtain ⟨reply, rfl, ⟨region, hvalue, hbase, hcontext, hr⟩ | ⟨hnull, hcontext, hr⟩⟩ :=
    mmap_course h
  · have hmapped : ∀ region', Heard.Mapped (update heard (.mmap length)
        [⟨.call (.mmap (.anonymousReadOnly length)), reply⟩]) length region' ↔
        region' = region := by
      intro region'
      rw [Heard.Mapped, update_self, Journal.cameBack_call_self, hvalue,
        or_iff_left Journal.not_cameBack_nil, Returned.value.injEq, eq_comm]
      exact and_iff_left_of_imp fun heq => heq ▸ hbase
    refine ⟨fun key hkey region' => ?_, hr.trans ?_⟩
    · rw [hcontext]
      by_cases hlength : key = length
      · rw [hlength, Regions.find?_insert_self, Option.some.injEq, eq_comm]
        exact (hmapped region').symm
      · rw [update_of_ne (by simp)] at hkey
        rw [Regions.find?_insert_of_ne hlength, hinv key hkey, hother hlength]
    · rw [isPageAligned_iff hpage]
      constructor
      · exact fun haligned => ⟨region, (hmapped region).mpr rfl, haligned⟩
      · rintro ⟨region', hregion', haligned⟩
        rwa [← (hmapped region').mp hregion']
  · have hmapped : ∀ region', ¬ Heard.Mapped (update heard (.mmap length)
        [⟨.call (.mmap (.anonymousReadOnly length)), reply⟩]) length region' := by
      rintro region' ⟨hcame, hbase⟩
      rw [update_self, Journal.cameBack_call_self, or_iff_left Journal.not_cameBack_nil] at hcame
      exact hbase (hnull region' hcame)
    refine ⟨fun key hkey region' => ?_, iff_of_false hr fun ⟨region', h', _⟩ => hmapped region' h'⟩
    rw [hcontext]
    rw [update_of_ne (by simp)] at hkey
    by_cases hlength : key = length
    · rw [hlength] at hkey ⊢
      refine iff_of_false ?_ (hmapped region')
      rw [hinv length hkey, Heard.Mapped, hnone]
      simp
    · rw [hinv key hkey, hother hlength]

theorem mincore_conforms (hpage : c.pageSize ≠ 0) :
    Conforms c KeepsMapped (.mincore length) (.munmap length :: later)
      (mincoreProbe length c.pageSize).trial := by
  refine conforms_of_course rfl rfl ?_
  rintro heard s own r exam hinv hfresh h
  obtain ⟨hcontext, ⟨rfl, hr, -⟩ | ⟨region, capacity, reply, hfind, rfl, rfl, hr⟩⟩ :=
    mincore_course hpage h
  · rw [hcontext]
    refine ⟨keepsMapped_update hinv (by simp) (by simp), iff_of_false hr ?_⟩
    rintro ⟨region, bytes, -, hcame, -⟩
    simp at hcame
  · rw [hcontext]
    refine ⟨keepsMapped_update hinv (by simp) (by simp), hr.trans ?_⟩
    have hmapped : heard.Mapped length region :=
      (hinv length (hfresh (.munmap length) (by simp)) region).mp hfind
    constructor
    · rintro ⟨bytes, hbytes, hfilled⟩
      refine ⟨region, bytes, ?_, ?_, hfilled⟩
      · simpa [Heard.Mapped] using hmapped
      · simp [hbytes, Request.toKernel]
    · rintro ⟨region', bytes, -, ⟨answer, hmem, hbytes⟩, hfilled⟩
      rw [update_self] at hmem
      cases List.mem_singleton.mp hmem
      exact ⟨bytes, hbytes, hfilled⟩

theorem munmap_conforms : Conforms c KeepsMapped (.munmap length) later
    (munmapProbe length).trial := by
  refine conforms_of_course rfl rfl ?_
  rintro heard s own r exam hinv hfresh h
  have hnone : heard (.munmap length) = [] := hfresh _ List.mem_cons_self
  obtain ⟨rfl, hfind, hcontext, hr⟩ | ⟨region, reply, hfind, rfl, hcontext, hr⟩ := munmap_course h
  · have hsame : update heard (.munmap length) (Journal.kernel []) = heard := by
      rw [Journal.kernel_nil, ← hnone, update_eq_self]
    rw [hsame, hcontext]
    refine ⟨hinv, iff_of_false hr ?_⟩
    rintro ⟨region, hmapped, -⟩
    rw [← hinv length hnone, hfind] at hmapped
    cases hmapped
  · refine ⟨fun key hkey region' => ?_, hr.trans ?_⟩
    -- the released length has no claim on the context any more
    · have hne : key ≠ length := by
        rintro rfl
        rw [update_self] at hkey
        cases hkey
      rw [update_of_ne (by simpa using hne)] at hkey
      rw [hcontext, Regions.find?_erase_of_ne hne, hinv key hkey, Heard.Mapped, Heard.Mapped,
        update_of_ne (by simp)]
    constructor
    · intro hvalue
      refine ⟨region, ?_, ?_⟩
      · simpa [Heard.Mapped] using (hinv length hnone region).mp hfind
      · simp [hvalue, Request.toKernel]
    · rintro ⟨region', -, ⟨answer, hmem, hvalue⟩⟩
      rw [update_self] at hmem
      cases List.mem_singleton.mp hmem
      exact hvalue

theorem triads_conform (hpage : c.pageSize ≠ 0) (lengths : List UInt64) :
    ConformAll c KeepsMapped (lengths.flatMap fun n => [.mmap n, .mincore n, .munmap n])
      (lengths.flatMap (triad c.pageSize)) := by
  induction lengths with
  | nil => exact .nil
  | cons length lengths ih =>
    exact .cons (mmap_conforms hpage) (.cons (mincore_conforms hpage) (.cons munmap_conforms ih))

theorem group_conforms (hpage : c.pageSize ≠ 0) :
    ConformAll c KeepsMapped
      (.brk :: c.mapLengths.flatMap fun n => [.mmap n, .mincore n, .munmap n])
      (group c.mapLengths c.pageSize).trials :=
  .cons brk_conforms (triads_conform hpage c.mapLengths)

/-- Before anything was heard, no mapping is held. -/
theorem keepsMapped_start (h : ∀ length, heard (.mmap length) = []) : KeepsMapped heard {} := by
  intro length _ region
  simp [Heard.Mapped, h, Regions.find?]

end Memory

/-! ## Concurrency -/

namespace Concurrency

variable {c : HarnessConfig} {heard : Heard} {later : List ProbeId} {s s' : Context}

/-- Up to the join probe, a child is tracked if the clone probe made one. -/
def KeepsChild (heard : Heard) (s : Context) : Prop :=
  heard .cloneJoin = [] → (s.child ≠ none ↔ heard.Cloned)

theorem keepsChild_update {i : ProbeId} {own : Journal} (h : KeepsChild heard s)
    (hclone : i ≠ .clone) (hjoin : i ≠ .cloneJoin) (hchild : s'.child = s.child) :
    KeepsChild (update heard i own) s' := by
  intro hnone
  rw [update_of_ne hjoin.symm] at hnone
  rw [hchild, h hnone, Heard.Cloned, Heard.Cloned, update_of_ne hclone.symm]

theorem futexWait_conforms :
    Conforms c KeepsChild .futexWait later (futexWaitProbe c.waitTimeout).trial := by
  refine conforms_of_course rfl rfl ?_
  rintro heard s own r exam hinv - h
  obtain ⟨hchild, -, reply, hkernel, hr⟩ := futexWait_course h
  rw [hkernel]
  refine ⟨keepsChild_update hinv (by simp) (by simp) hchild, hr.trans (exists_congr fun e => ?_)⟩
  simp

theorem futexWake_conforms :
    Conforms c KeepsChild .futexWake later (futexWakeProbe wakeCount).trial := by
  refine conforms_of_course rfl rfl ?_
  rintro heard s own r exam hinv - h
  obtain ⟨hchild, reply, rfl, hr⟩ := futexWake_course h
  refine ⟨keepsChild_update hinv (by simp) (by simp) hchild, hr.trans ?_⟩
  constructor
  · intro hvalue
    exact ⟨s.word, by simp [hvalue, Request.toKernel]⟩
  · rintro ⟨word, answer, hmem, hvalue⟩
    rw [update_self] at hmem
    cases List.mem_singleton.mp hmem
    exact hvalue

theorem clone_conforms :
    Conforms c KeepsChild .clone [.cloneJoin] (cloneProbe stackSize childStatus).trial := by
  refine conforms_of_course rfl rfl ?_
  rintro heard s own r exam hinv hfresh h
  have hnone : heard .clone = [] := hfresh _ List.mem_cons_self
  -- a tracked child would be one that the probe itself made
  have huntracked : s.child = none := by
    by_contra hchild
    obtain ⟨stack, tid, hcame⟩ := (hinv (hfresh .cloneJoin (by simp))).mp hchild
    rw [hnone] at hcame
    exact Journal.not_cameBack_nil hcame
  obtain ⟨known, rfl, hknown, hcontext, hr⟩ | ⟨-, reply, rfl, ⟨tid, hvalue, hr, hcontext⟩ |
    ⟨hnot, hr, hcontext⟩⟩ := clone_course rfl h
  · refine ⟨fun _ => ?_, iff_of_false hr ?_⟩
    · rw [hcontext]
      exact iff_of_false (by simp [huntracked]) (by simp [Heard.Cloned, Request.toKernel])
    · simp [ProbeId.Passes, Request.toKernel]
  · refine ⟨fun _ => ?_, hr.trans ?_⟩
    · rw [hcontext]
      refine iff_of_true (by simp) ⟨_, tid, ?_⟩
      simp [hvalue, Request.toKernel]
    constructor
    · intro hpos
      refine ⟨by simp [Request.toKernel], ⟨stackSize⟩, tid, ?_, hpos⟩
      simp [hvalue, Request.toKernel]
    · rintro ⟨-, stack, tid', ⟨answer, hmem, hvalue'⟩, hpos⟩
      rw [update_self] at hmem
      rcases List.mem_cons.mp hmem with heq | hmem
      · cases heq
      · cases List.mem_singleton.mp hmem
        rw [hvalue] at hvalue'
        cases hvalue'
        exact hpos
  · have hcloned : ∀ stack tid, ¬ Journal.CameBack (update heard .clone
        [⟨.supports .clone, .ok true⟩,
        ⟨.call (.clone ⟨stackSize⟩ 0 childStatus), reply⟩] .clone) (.clone stack 0 childStatus)
          (.value tid) := by
      rintro stack tid ⟨answer, hmem, hvalue⟩
      rw [update_self] at hmem
      rcases List.mem_cons.mp hmem with heq | hmem
      · cases heq
      · cases List.mem_singleton.mp hmem
        exact hnot tid hvalue
    refine ⟨fun _ => ?_, iff_of_false hr ?_⟩
    · rw [hcontext]
      refine iff_of_false (by simp [huntracked]) ?_
      rintro ⟨stack, tid, hcame⟩
      exact hcloned stack tid hcame
    · rintro ⟨-, stack, tid, hcame, -⟩
      exact hcloned stack tid hcame

theorem join_conforms :
    Conforms c KeepsChild .cloneJoin later (joinProbe c.joinTimeout).trial := by
  refine conforms_of_course rfl rfl ?_
  rintro heard s own r exam hinv hfresh h
  have hnone : heard .cloneJoin = [] := hfresh _ List.mem_cons_self
  obtain ⟨-, hidle, hneeds, hr⟩ := join_course h
  constructor
  · intro hown
    rw [update_self] at hown
    rw [hidle hown, hown, ← hnone, update_eq_self]
    exact hinv hnone
  · have hcloned : Heard.Cloned (update heard .cloneJoin own.kernel) ↔ heard.Cloned := by
      simp [Heard.Cloned]
    constructor
    · intro hpass
      refine ⟨hcloned.mpr ((hinv hnone).mp fun hchild => hneeds hchild hpass), ?_⟩
      rw [update_self]
      exact Journal.readZero_kernel.mpr (hr.mp hpass)
    · rintro ⟨-, hzero⟩
      rw [update_self] at hzero
      exact hr.mpr (Journal.readZero_kernel.mp hzero)

theorem group_conforms (c : HarnessConfig) :
    ConformAll c KeepsChild [.futexWait, .futexWake, .clone, .cloneJoin]
      (group c.waitTimeout c.joinTimeout).trials :=
  .cons futexWait_conforms (.cons futexWake_conforms (.cons clone_conforms
    (.cons join_conforms .nil)))

/-- Before anything was heard, no child is tracked. -/
theorem keepsChild_start (h : heard .clone = []) : KeepsChild heard {} := by
  intro _
  simp [Heard.Cloned, h]

end Concurrency

/-! ## Uname -/

theorem Uname.group_conforms (c : HarnessConfig) :
    ConformAll c (fun _ _ => True) [.uname] group.trials := by
  refine .cons (conforms_of_course rfl rfl ?_) .nil
  intro heard s own r exam _ _ h
  obtain ⟨reply, rfl, hr⟩ := uname_course h
  refine ⟨trivial, hr.trans (exists_congr fun uts => ?_)⟩
  simp [Request.toKernel]

/-! ## Lifecycle -/

namespace Lifecycle

variable {c : HarnessConfig} {later : List ProbeId}

/-- No witness is open between probes. -/
abbrev NoWitness (_ : Heard) (s : Context) : Prop := s.witnessFd = none

theorem length_of_passes {heard : Heard} (h : ProbeId.execMissing.Passes c heard) :
    (heard .execMissing).length = 6 := by
  obtain ⟨_, _, _, _, _, _, _, _, _, _, _, -, hheard, -⟩ := h
  rw [hheard]
  rfl

/-- With a process id and a witness at hand, the last four replies decide. -/
theorem passes_execMissing {heard : Heard} {request : ExecRequest} {fd pid : Int32}
    {reply₁ reply₂ reply₄ : Reply Int32} {reply₃ : Reply Int64} {reply₅ : Reply ReadData}
    {reply₆ : Reply Unit} (hrequest : c.missingExecRequest = .ok request)
    (hheard : heard .execMissing = [⟨.call .getpid, reply₁⟩, ⟨.call openWitness, reply₂⟩,
      ⟨.call (.execve request), reply₃⟩, ⟨.call .getpid, reply₄⟩, ⟨.call (.read fd 1), reply₅⟩,
      ⟨.call (.close fd), reply₆⟩])
    (hpid : reply₁.returned = .value pid) (hfd : reply₂.returned = .value fd) :
    ProbeId.execMissing.Passes c heard ↔ ((∃ e, reply₃.returned = .failed e ∧ e.errno = .enoent) ∧
      reply₄.returned = .value pid ∧ ∃ data, reply₅.returned = .value data) ∧
        ∀ fault, reply₆.returned ≠ .panicked fault := by
  constructor
  · rintro ⟨_, pid', _, e, data, _, _, _, _, _, _, -, hheard', hpid', -, herror,
      hpid₂, hdata, hgave⟩
    rw [hheard] at hheard'
    cases hheard'
    rw [hpid] at hpid'
    cases hpid'
    exact ⟨⟨⟨e, herror⟩, hpid₂, data, hdata⟩, hgave⟩
  · rintro ⟨⟨⟨e, herror⟩, hpid₂, data, hdata⟩, hgave⟩
    exact ⟨request, pid, fd, e, data, _, _, _, _, _, _, hrequest, hheard, hpid, hfd, herror, hpid₂,
      hdata, hgave⟩

theorem execMissing_conforms {request : ExecRequest}
    (hrequest : c.missingExecRequest = .ok request) :
    Conforms c NoWitness .execMissing later (execMissingProbe request).trial where
  name := rfl
  judged {heard s own outcome evidence s'} hinv _ plays := by
    obtain ⟨j₁, r, context, j₂, cleanup, hcourse, hclean, rfl, hkernel, -⟩ :=
      Probe.plays_trial plays
    rw [hkernel, Probe.verdict_eq_pass]
    obtain ⟨hwitness, hr, hj₁⟩ | ⟨reply₁, pid, reply₂, fd, rest, hpid, hfd, rfl, htest⟩ :=
      execMissing_course hcourse
    · obtain ⟨hnone, rfl, -⟩ := cleanup_none (hwitness.trans hinv) hclean
      refine ⟨hnone, iff_of_false (fun h => hr h.1) fun h => ?_⟩
      -- a pass takes six calls, which a halt cuts short
      have hlength := length_of_passes h
      obtain ⟨reply, rfl, -⟩ | ⟨reply₁, reply₂, rfl, -⟩ := hj₁ <;>
        simp [Request.toKernel] at hlength
    · obtain ⟨hwitness, htest⟩ := execMissing_test htest
      obtain ⟨hnone, reply₆, hclose, hgave⟩ := cleanup_some hwitness hclean
      rw [hclose]
      refine ⟨hnone, ?_⟩
      obtain ⟨reply₃, ⟨hr, hrest⟩ | ⟨reply₄, reply₅, rfl, hr⟩⟩ := htest
      · refine iff_of_false (fun h => hr h.1) fun h => ?_
        have hlength := length_of_passes h
        obtain ⟨rfl, -⟩ | ⟨reply₄, rfl, -⟩ := hrest <;> simp [Request.toKernel] at hlength
      · have hheard := update_self ProbeId.execMissing (Journal.kernel [⟨.call .getpid, reply₁⟩,
          ⟨.call openWitness, reply₂⟩, ⟨.call (.execve request), reply₃⟩, ⟨.call .getpid, reply₄⟩,
          ⟨.call (.read fd 1), reply₅⟩] ++ [⟨.call (.close fd), reply₆⟩]) heard
        refine Iff.trans ?_ (passes_execMissing hrequest hheard hpid hfd).symm
        rw [hr]
        refine and_congr_right fun _ => ?_
        rw [← not_exists, ← not_exists, hgave]

theorem execExisting_conforms {request : ExecRequest} (hrequest : c.execRequest = .ok request) :
    Conforms c NoWitness .execExisting later (execExistingProbe request c.execModel).trial := by
  refine conforms_of_course rfl rfl ?_
  rintro heard s own r exam hinv - h
  obtain ⟨hcontext, reply, rfl, hr⟩ := execExisting_course h
  rw [hcontext]
  refine ⟨hinv, hr.trans (and_congr_right fun _ => ?_)⟩
  constructor
  · rintro ⟨ret, hvalue, hpos⟩
    refine ⟨request, ret, hrequest, ?_, hpos⟩
    simp [hvalue, Request.toKernel]
  · rintro ⟨request', ret, hrequest', hcame, hpos⟩
    cases hrequest.symm.trans hrequest'
    refine ⟨ret, ?_, hpos⟩
    simpa [Request.toKernel] using hcame

theorem group_conforms {missing existing : ExecRequest} (hc : c.Sound missing existing) :
    ConformAll c NoWitness [.execMissing, .execExisting]
      (group missing existing c.execModel).trials :=
  .cons (execMissing_conforms hc.missing) (.cons (execExisting_conforms hc.existing) .nil)

end Lifecycle

/-! ## The standard battery -/

/-- Every group of a standard battery keeps to the criteria of its probes. -/
theorem Battery.conforms_ofRequests {c : HarnessConfig} {missing existing : ExecRequest}
    (hc : c.Sound missing existing) :
    List.Forall₂ (GroupConforms c) (ofRequests c missing existing).groups
      (roster c.mapLengths) := by
  refine .cons ⟨_, fun _ _ => trivial, Output.group_conforms c⟩ ?_
  refine .cons ⟨Identity.KeepsPid, fun heard h => ?_, Identity.group_conforms hc.slots⟩ ?_
  · exact Identity.keepsPid_start (h .getpid rfl)
  refine .cons ⟨Files.KeepsOpened, fun heard h => ?_, Files.group_conforms c⟩ ?_
  · exact Files.keepsOpened_start (h .openFile rfl) (h .openAt rfl) (h .read rfl)
  refine .cons ⟨Memory.KeepsMapped, fun heard h => ?_, Memory.group_conforms hc.pageSize⟩ ?_
  · exact Memory.keepsMapped_start fun length => h (.mmap length) rfl
  refine .cons ⟨Concurrency.KeepsChild, fun heard h => ?_, Concurrency.group_conforms c⟩ ?_
  · exact Concurrency.keepsChild_start (h .clone rfl)
  refine .cons ⟨_, fun _ _ => trivial, Uname.group_conforms c⟩ ?_
  exact .cons ⟨Lifecycle.NoWitness, fun _ _ => rfl, Lifecycle.group_conforms hc⟩ .nil

end KernelProbe
