import Mathlib.Data.List.Nodup
import Mathlib.Tactic.FinCases
import KernelProbe.Session.Standard
import KernelProbe.Proofs.Probe.Repertoire
import KernelProbe.Proofs.Text.Numeral

/-!
# The roster of the standard battery

`HarnessConfig.Sound` collects what an accepted configuration guarantees; the standard battery is
set up for nothing else (`standard_eq_ok`). `ProbeId` has one member for every probe that the
battery can hold: those of fixed name, and three for every mapping length. Names tell them apart
(`ProbeId.name_inj`), and no probe comes up twice (`nodup_roster`).
-/

namespace KernelProbe

/-! ## Requests -/

namespace ExecRequest

/-- A sequence that gives a value gives one in both of its parts. -/
theorem bind_eq_ok {ε α β : Type} {x : Except ε α} {f : α → Except ε β} {b : β}
    (h : x >>= f = .ok b) : ∃ a, x = .ok a ∧ f a = .ok b := by
  cases x with
  | error e => cases h
  | ok a => exact ⟨a, rfl, h⟩

theorem text_of? {text : String} {t : CText} (h : CText.of? text = .ok t) : t.text = text := by
  unfold CText.of? at h
  split at h
  · cases h
  · cases h
    rfl

theorem map_text_of? {texts : List String} {ts : List CText} (h : texts.mapM CText.of? = .ok ts) :
    ts.map (·.text) = texts := by
  induction texts generalizing ts with
  | nil =>
    cases h
    rfl
  | cons text texts ih =>
    rw [List.mapM_cons] at h
    obtain ⟨t, ht, h⟩ := bind_eq_ok h
    obtain ⟨rest, hrest, h⟩ := bind_eq_ok h
    cases h
    rw [List.map_cons, text_of? ht, ih hrest]

/-- A request has the texts that it was made from. -/
theorem texts_of? {path : String} {argv envp : List String} {request : ExecRequest}
    (h : of? path argv envp = .ok request) :
    request.path.text = path ∧ request.argv.map (·.text) = argv ∧
      request.envp.map (·.text) = envp := by
  obtain ⟨p, hpath, h⟩ := bind_eq_ok h
  obtain ⟨as, hargv, h⟩ := bind_eq_ok h
  obtain ⟨es, henvp, h⟩ := bind_eq_ok h
  cases h
  exact ⟨text_of? hpath, map_text_of? hargv, map_text_of? henvp⟩

theorem texts_of_mapError {path : String} {argv envp : List String} {request : ExecRequest}
    {f : NulError → HarnessError} (h : (of? path argv envp).mapError f = .ok request) :
    request.path.text = path ∧ request.argv.map (·.text) = argv ∧
      request.envp.map (·.text) = envp := by
  cases hof : of? path argv envp with
  | error e =>
    rw [hof] at h
    cases h
  | ok request' =>
    rw [hof] at h
    cases h
    exact texts_of? hof

end ExecRequest

/-! ## Accepted configurations -/

namespace HarnessConfig

/-- The request for the existing program has the configured texts. -/
theorem execRequest_texts {c : HarnessConfig} {request : ExecRequest}
    (h : c.execRequest = .ok request) :
    request.path.text = c.execTarget ∧ request.argv.map (·.text) = c.execArgv ∧
      request.envp.map (·.text) = c.execEnvp :=
  ExecRequest.texts_of_mapError h

/-- The request for the path that does not exist has the configured texts. -/
theorem missingExecRequest_texts {c : HarnessConfig} {request : ExecRequest}
    (h : c.missingExecRequest = .ok request) :
    request.path.text = c.missingExecPath ∧ request.argv.map (·.text) = c.execArgv ∧
      request.envp.map (·.text) = c.execEnvp :=
  ExecRequest.texts_of_mapError h

/-- What an accepted configuration guarantees, with the requests for its two programs. -/
structure Sound (c : HarnessConfig) (missing existing : ExecRequest) : Prop where
  pageSize : c.pageSize ≠ 0
  distinct : c.mapLengths.Nodup
  slots : c.tlsSlots.contains ThreadAreaDescriptor.autoAssign = false
  missing : c.missingExecRequest = .ok missing
  existing : c.execRequest = .ok existing

/-- No length is met again if and only if none is listed twice or was seen before. -/
theorem firstRepeat_eq_none {seen lengths : List UInt64} :
    firstRepeat seen lengths = none ↔ lengths.Nodup ∧ ∀ n ∈ lengths, n ∉ seen := by
  induction lengths generalizing seen with
  | nil => simp [firstRepeat]
  | cons n lengths ih =>
    rw [firstRepeat]
    split
    next hseen => simp [hseen]
    next hseen =>
      rw [ih, List.nodup_cons]
      constructor
      · rintro ⟨hnodup, hfresh⟩
        refine ⟨⟨fun hn => hfresh n hn List.mem_cons_self, hnodup⟩, ?_⟩
        intro m hm
        rcases List.mem_cons.mp hm with rfl | hm
        · exact hseen
        · exact fun hms => hfresh m hm (List.mem_cons_of_mem n hms)
      · rintro ⟨⟨hn, hnodup⟩, hfresh⟩
        refine ⟨hnodup, fun m hm hms => ?_⟩
        rcases List.mem_cons.mp hms with rfl | hms
        · exact hn hm
        · exact hfresh m (List.mem_cons_of_mem n hm) hms

theorem of_validate_eq_ok {c : HarnessConfig} (h : c.validate = .ok ()) :
    c.pageSize ≠ 0 ∧ c.mapLengths.Nodup ∧
      c.tlsSlots.contains ThreadAreaDescriptor.autoAssign = false ∧
      c.execTarget ≠ c.missingExecPath := by
  unfold validate at h
  simp only [bind, Except.bind, pure, Except.pure, refuse] at h
  -- of the checks, those of the page size, of repeats, of the paths and of the slots are kept
  by_cases hpage : isPowerOfTwo c.pageSize = true
  · rw [if_neg (by simp [hpage])] at h
    split at h
    · cases h
    cases hrepeat : firstRepeat [] c.mapLengths with
    | some n =>
      rw [hrepeat] at h
      cases h
    | none =>
      simp only [hrepeat] at h
      split at h
      · cases h
      by_cases hpaths : c.execTarget = c.missingExecPath
      · rw [if_pos hpaths] at h
        cases h
      rw [if_neg hpaths] at h
      by_cases hslots : c.tlsSlots.contains ThreadAreaDescriptor.autoAssign = true
      · simp only [hslots, if_true] at h
        cases h
      · refine ⟨?_, (firstRepeat_eq_none.mp hrepeat).1, by simpa using hslots, hpaths⟩
        rintro hzero
        simp [isPowerOfTwo, hzero] at hpage
  · rw [if_pos (by simp [hpage])] at h
    cases h

theorem sound_of_requests {c : HarnessConfig} {missing existing : ExecRequest}
    (h : c.requests = .ok (missing, existing)) : c.Sound missing existing := by
  unfold requests at h
  simp only [bind, Except.bind, pure, Except.pure] at h
  cases hvalidate : c.validate with
  | error e =>
    rw [hvalidate] at h
    cases h
  | ok u =>
    obtain ⟨hpage, hdistinct, hslots, -⟩ := of_validate_eq_ok hvalidate
    cases hmissing : c.missingExecRequest with
    | error e =>
      simp only [hvalidate, hmissing] at h
      cases h
    | ok m =>
      cases hexisting : c.execRequest with
      | error e =>
        simp only [hvalidate, hmissing, hexisting] at h
        cases h
      | ok x =>
        simp only [hvalidate, hmissing, hexisting] at h
        cases h
        exact ⟨hpage, hdistinct, hslots, hmissing, hexisting⟩

end HarnessConfig

/-- The standard battery is set up for a sound configuration, and only for that. -/
theorem Battery.standard_eq_ok {c : HarnessConfig} {b : Battery} (h : standard c = .ok b) :
    ∃ missing existing, c.Sound missing existing ∧ b = ofRequests c missing existing := by
  rw [standard] at h
  split at h
  next missing existing hrequests =>
    cases h
    exact ⟨missing, existing, HarnessConfig.sound_of_requests hrequests, rfl⟩
  next => cases h

/-- The programs of a standard battery have different paths. -/
theorem Battery.paths_ne {c : HarnessConfig} {b : Battery} (h : standard c = .ok b) :
    c.execTarget ≠ c.missingExecPath := by
  rw [standard] at h
  split at h
  next missing existing hrequests =>
    obtain ⟨⟨⟩, hvalidate, -⟩ := ExecRequest.bind_eq_ok hrequests
    exact (HarnessConfig.of_validate_eq_ok hvalidate).2.2.2
  next => cases h

/-! ## Probes -/

/-- The probes that a standard battery can hold. -/
inductive ProbeId where
  | write | writev
  | setThreadArea | getpid | gettid | schedYield
  | openFile | openAt | read | close
  | brk | mmap (length : UInt64) | mincore (length : UInt64) | munmap (length : UInt64)
  | futexWait | futexWake | clone | cloneJoin
  | uname
  | execMissing | execExisting
deriving DecidableEq

namespace ProbeId

/-- The group of a probe. -/
def group : ProbeId → String
  | write | writev => Output.groupName
  | setThreadArea | getpid | gettid | schedYield => Identity.groupName
  | openFile | openAt | read | close => Files.groupName
  | brk | mmap _ | mincore _ | munmap _ => Memory.groupName
  | futexWait | futexWake | clone | cloneJoin => Concurrency.groupName
  | uname => Uname.groupName
  | execMissing | execExisting => Lifecycle.groupName

/-- The name of a probe. -/
def name : ProbeId → String
  | write => "write"
  | writev => "writev"
  | setThreadArea => "set_thread_area"
  | getpid => "getpid"
  | gettid => "gettid"
  | schedYield => "sched_yield"
  | openFile => "open"
  | openAt => "openat"
  | read => "read"
  | close => "close"
  | brk => "brk"
  | mmap length => Memory.lengthName "mmap" length
  | mincore length => Memory.lengthName "mincore" length
  | munmap length => Memory.lengthName "munmap" length
  | futexWait => "futex_wait_mismatch"
  | futexWake => "futex_wake"
  | clone => "clone"
  | cloneJoin => "clone_join"
  | uname => "uname"
  | execMissing => "execve_missing"
  | execExisting => "execve_existing"

/-- The part of a name in front of a bracket. -/
def stem : ProbeId → String
  | mmap _ => "mmap"
  | mincore _ => "mincore"
  | munmap _ => "munmap"
  | i => i.name

/-- The part of a name within brackets. -/
def index : ProbeId → String
  | mmap length | mincore length | munmap length => Text.hex length.toNat
  | _ => ""

theorem toList_lengthName (call : String) (length : UInt64) :
    (Memory.lengthName call length).toList
      = call.toList ++ '[' :: ((Text.hex length.toNat).toList ++ [']']) := by
  simp [Memory.lengthName]

/-- A name is its stem, with the index in brackets behind it if there is one. -/
theorem toList_name (i : ProbeId) :
    '[' ∉ i.stem.toList ∧ (i.name.toList = i.stem.toList ∧ i.index = "" ∨
      i.name.toList = i.stem.toList ++ '[' :: (i.index.toList ++ [']'])) := by
  have hstems : '[' ∉ "mmap".toList ∧ '[' ∉ "mincore".toList ∧ '[' ∉ "munmap".toList := by decide
  cases i with
  | mmap length => exact ⟨hstems.1, .inr (toList_lengthName "mmap" length)⟩
  | mincore length => exact ⟨hstems.2.1, .inr (toList_lengthName "mincore" length)⟩
  | munmap length => exact ⟨hstems.2.2, .inr (toList_lengthName "munmap" length)⟩
  | _ => exact ⟨by decide, .inl ⟨rfl, rfl⟩⟩

theorem takeWhile_name (i : ProbeId) : i.name.toList.takeWhile (· != '[') = i.stem.toList := by
  obtain ⟨hstem, ⟨hname, -⟩ | hname⟩ := toList_name i
  · rw [hname, List.takeWhile_eq_self_iff]
    intro x hx
    exact bne_iff_ne.mpr fun h => hstem (h ▸ hx)
  · rw [hname, List.takeWhile_append_of_pos fun x hx =>
      bne_iff_ne.mpr fun h : x = '[' => hstem (h ▸ hx)]
    simp

/-- Different probes have different names. -/
theorem name_inj {i k : ProbeId} (h : i.name = k.name) : i = k := by
  have hstem : i.stem = k.stem := by
    rw [← String.toList_inj, ← takeWhile_name, ← takeWhile_name, h]
  -- behind the same stem, either neither name has a bracket or both go on with the index
  have hindex : i.index = k.index := by
    obtain ⟨-, ⟨hi, hi'⟩ | hi⟩ := toList_name i <;> obtain ⟨-, ⟨hk, hk'⟩ | hk⟩ := toList_name k
    · rw [hi', hk']
    · rw [h, hk, hstem] at hi
      simp at hi
    · rw [h, hk, hstem] at hi
      simp at hi
    · rw [h, hk, hstem] at hi
      exact String.toList_inj.mp (by simpa using hi.symm)
  clear h
  cases i <;> cases k <;> simp_all [stem, index, name, Text.hex_toNat_inj]

end ProbeId

/-! ## The roster -/

/-- The probes of each group of the standard battery for a list of mapping lengths. -/
def roster (lengths : List UInt64) : List (List ProbeId) := [
  [.write, .writev],
  [.setThreadArea, .getpid, .gettid, .schedYield],
  [.openFile, .openAt, .read, .close],
  .brk :: lengths.flatMap fun n => [.mmap n, .mincore n, .munmap n],
  [.futexWait, .futexWake, .clone, .cloneJoin],
  [.uname],
  [.execMissing, .execExisting]]

/-- No probe comes up twice if no length does. -/
theorem nodup_roster {lengths : List UInt64} (h : lengths.Nodup) :
    (roster lengths).flatten.Nodup := by
  have hmemory : (lengths.flatMap fun n => [ProbeId.mmap n, .mincore n, .munmap n]).Nodup := by
    rw [List.nodup_flatMap]
    refine ⟨fun n _ => by simp, h.imp fun hne => ?_⟩
    simpa [Function.onFun, eq_comm] using hne
  -- the probes of a length are none of those in the groups behind
  have hapart : ∀ a, ∀ n ∈ lengths, a = ProbeId.mmap n ∨ a = .mincore n ∨ a = .munmap n →
      a ≠ .futexWait ∧ a ≠ .futexWake ∧ a ≠ .clone ∧ a ≠ .cloneJoin ∧ a ≠ .uname ∧
        a ≠ .execMissing ∧ a ≠ .execExisting := by
    rintro a n - (rfl | rfl | rfl) <;> simp
  simpa [roster, List.nodup_append, hmemory] using hapart

theorem Memory.names_group (lengths : List UInt64) (pageSize : UInt64) :
    ((brkProbe.trial :: lengths.flatMap (triad pageSize) : List (Trial Context)).map (·.spec.name))
      = (ProbeId.brk :: lengths.flatMap fun n => [.mmap n, .mincore n, .munmap n]).map
        ProbeId.name := by
  simp [List.map_flatMap, triad, Probe.trial, brkProbe, mmapProbe, mincoreProbe, munmapProbe,
    ProbeId.name]

/-- No two probes of the memory group share a name if no length comes up twice. -/
theorem Memory.nodup_names {lengths : List UInt64} (h : lengths.Nodup) (pageSize : UInt64) :
    ((brkProbe.trial :: lengths.flatMap (triad pageSize) : List (Trial Context)).map
      (·.spec.name)).Nodup := by
  rw [names_group]
  refine List.Nodup.map (fun _ _ => ProbeId.name_inj) ?_
  exact (List.nodup_flatten.mp (nodup_roster h)).1 _ (by simp [roster])

namespace Battery

variable {c : HarnessConfig} {missing existing : ExecRequest}

/-- The groups of a standard battery hold the probes of the roster. -/
theorem groups_ofRequests :
    List.Forall₂ (fun g ids => g.trials.map (·.spec.name) = ids.map ProbeId.name ∧
        ∀ i ∈ ids, i.group = g.name) (ofRequests c missing existing).groups
      (roster c.mapLengths) := by
  refine .cons ⟨rfl, ?_⟩ (.cons ⟨rfl, ?_⟩ (.cons ⟨rfl, ?_⟩ (.cons ⟨Memory.names_group .., ?_⟩
    (.cons ⟨rfl, ?_⟩ (.cons ⟨rfl, ?_⟩ (.cons ⟨rfl, ?_⟩ .nil))))))
  case refine_4 =>
    refine List.forall_mem_cons.mpr ⟨rfl, fun i hi => ?_⟩
    obtain ⟨n, -, hi⟩ := List.mem_flatMap.mp hi
    fin_cases hi <;> rfl
  all_goals
    intro i hi
    fin_cases hi <;> rfl

/-- The groups of a standard battery have different names. -/
theorem nodup_names : ((ofRequests c missing existing).groups.map (·.name)).Nodup := by
  show [Output.groupName, Identity.groupName, Files.groupName, Memory.groupName,
    Concurrency.groupName, Uname.groupName, Lifecycle.groupName].Nodup
  decide

/-- Every group of a standard battery stays within system calls. -/
theorem within_ofRequests (hc : c.Sound missing existing) :
    ∀ g ∈ (ofRequests c missing existing).groups, ∃ calls, g.Within calls := by
  refine List.forall_mem_cons.mpr ⟨⟨_, Output.group_within _⟩, ?_⟩
  refine List.forall_mem_cons.mpr ⟨⟨_, Identity.group_within ..⟩, ?_⟩
  refine List.forall_mem_cons.mpr ⟨⟨_, Files.group_within⟩, ?_⟩
  refine List.forall_mem_cons.mpr ⟨⟨_, Memory.group_within hc.pageSize _⟩, ?_⟩
  refine List.forall_mem_cons.mpr ⟨⟨_, Concurrency.group_within ..⟩, ?_⟩
  refine List.forall_mem_cons.mpr ⟨⟨_, Uname.group_within⟩, ?_⟩
  exact List.forall_mem_cons.mpr ⟨⟨_, Lifecycle.group_within ..⟩, List.forall_mem_nil _⟩

/-- A group's lines in a plan name the probes of its list. -/
theorem map_name_specs {g : Group} {ids : List ProbeId} (filter : ProbeFilter)
    (h : g.trials.map (·.spec.name) = ids.map ProbeId.name ∧ ∀ i ∈ ids, i.group = g.name) :
    (g.specs.map fun spec => (⟨g.name, spec, filter.allows g.name spec.name⟩ : PlanEntry)).map
        (fun entry => (entry.group, entry.spec.name))
      = ids.map fun i => (i.group, i.name) := by
  calc _ = (g.trials.map (·.spec.name)).map fun name => (g.name, name) := by
        simp only [Group.specs, List.map_map, Function.comp_def]
    _ = ids.map fun i => (g.name, i.name) := by
        rw [h.1, List.map_map]
        rfl
    _ = ids.map fun i => (i.group, i.name) :=
        List.map_congr_left fun i hi => by rw [h.2 i hi]

/-- The plan of a standard battery names the probes of the roster. -/
theorem map_name_plan :
    (ofRequests c missing existing).plan.map (fun entry => (entry.group, entry.spec.name))
      = (roster c.mapLengths).flatten.map fun i => (i.group, i.name) := by
  rw [plan, List.map_flatMap, List.flatMap_def, List.map_flatten]
  congr 1
  rw [← List.forall₂_eq_eq_eq, List.forall₂_map_left_iff, List.forall₂_map_right_iff]
  exact groups_ofRequests.imp fun _ _ h => map_name_specs _ h

/-- No probe comes up twice in the plan of a standard battery. -/
theorem nodup_plan (hc : c.Sound missing existing) :
    ((ofRequests c missing existing).plan.map
      fun entry => (entry.group, entry.spec.name)).Nodup := by
  rw [map_name_plan]
  exact (nodup_roster hc.distinct).map fun i k h => ProbeId.name_inj (Prod.ext_iff.mp h).2

end Battery

end KernelProbe
