import Mathlib.Data.List.TakeWhile
import Mathlib.Logic.Basic
import KernelProbe.Probe.Memory
import KernelProbe.Proofs.Probe.Course

/-!
# The courses of the memory probes

For each probe, and for the teardown of the group, everything that it can go through: what it asks,
what becomes of the mappings that the probes share, and when it comes to its end.
-/

namespace KernelProbe.Memory

variable {c c' : Context} {j : Journal} {r : Except Halt Unit} {exam : Exam Context}
  {length pageSize : UInt64}

/-! ## Making a mapping -/

theorem brk_course (h : brkProbe.Course c j r exam) :
    exam.context = c ∧ ∃ reply, j = [⟨.call (.brk 0), reply⟩] ∧
      (r = .ok () ↔ ∃ stop, reply.returned = .value stop ∧ stop ≠ 0) := by
  obtain ⟨reply, rfl, ⟨stop, hret, hcheck⟩ | ⟨hret, hr, rfl⟩⟩ := (h.test rfl).of_call (.brk 0) rfl
  · simp only [brkProbe, Judge.eval_bind, Judge.eval_note, Judge.eval_ite, Judge.eval_refute,
      Judge.eval_pure] at hcheck
    by_cases hstop : stop = 0
    · rw [if_pos hstop] at hcheck
      cases hcheck
      exact ⟨rfl, reply, rfl, by simp [hret, hstop]⟩
    · rw [if_neg hstop] at hcheck
      cases hcheck
      exact ⟨rfl, reply, rfl, by simp [hret, hstop]⟩
  · exact ⟨rfl, reply, rfl, by simp [hret, hr]⟩

/-- A mapping is aligned if its base is a multiple of the page size. -/
theorem isPageAligned_iff {region : MemoryRegion} (hpage : pageSize ≠ 0) :
    region.isPageAligned pageSize = true ↔ pageSize.toNat ∣ region.base.toNat := by
  rw [MemoryRegion.isPageAligned, bne_iff_ne.mpr hpage, Bool.true_and, beq_iff_eq,
    Nat.dvd_iff_mod_eq_zero, ← UInt64.toNat_inj, UInt64.toNat_mod]
  rfl

/-- A mapping is kept unless it starts at null, and suits if it starts at a page. -/
theorem eval_checkMapping {region : MemoryRegion}
    (h : ((mmapProbe length pageSize).check region).eval ⟨c, .empty⟩ = (r, exam)) :
    (region.base ≠ 0 ∧ exam.context = ⟨c.regions.insert length region⟩ ∧
        (r = .ok () ↔ region.isPageAligned pageSize = true)) ∨
      region.base = 0 ∧ exam.context = c ∧ r ≠ .ok () := by
  simp only [mmapProbe, Judge.eval_bind, Judge.eval_note, Judge.eval_ite, Judge.eval_refute,
    Judge.eval_update, Judge.eval_pure] at h
  by_cases hbase : region.base = 0
  · rw [if_pos hbase] at h
    cases h
    exact .inr ⟨hbase, rfl, by simp⟩
  · rw [if_neg hbase] at h
    by_cases halign : region.isPageAligned pageSize = true
    · rw [if_neg (by simp [halign])] at h
      cases h
      exact .inl ⟨hbase, rfl, by simp [halign]⟩
    · rw [if_pos (by simp [halign])] at h
      cases h
      exact .inl ⟨hbase, rfl, by simp [halign]⟩

theorem mmap_course (h : (mmapProbe length pageSize).Course c j r exam) :
    ∃ reply, j = [⟨.call (.mmap (.anonymousReadOnly length)), reply⟩] ∧
      ((∃ region, reply.returned = .value region ∧ region.base ≠ 0 ∧
          exam.context = ⟨c.regions.insert length region⟩ ∧
          (r = .ok () ↔ region.isPageAligned pageSize = true)) ∨
        (∀ region, reply.returned = .value region → region.base = 0) ∧ exam.context = c ∧
          r ≠ .ok ()) := by
  obtain ⟨reply, rfl, ⟨region, hret, hcheck⟩ | ⟨hret, hr, rfl⟩⟩ :=
    (h.test rfl).of_call (.mmap (.anonymousReadOnly length)) rfl
  · obtain ⟨hbase, hcontext, hr⟩ | ⟨hbase, hcontext, hr⟩ := eval_checkMapping hcheck
    · exact ⟨reply, rfl, .inl ⟨region, hret, hbase, hcontext, hr⟩⟩
    · refine ⟨reply, rfl, .inr ⟨fun region' hret' => ?_, hcontext, hr⟩⟩
      rw [hret] at hret'
      cases hret'
      exact hbase
  · exact ⟨reply, rfl, .inr ⟨fun region hregion => absurd hregion (hret region), rfl, hr⟩⟩

/-! ## Asking for resident pages -/

/-- A probe of a mapping goes on if a mapping of its length is live. -/
theorem plays_needRegion (h : (needRegion length).Plays c j r c') :
    j = [] ∧ c' = c ∧ (c.regions.find? length = none ∧ r ≠ .ok () ∨
      (∃ region, c.regions.find? length = some region) ∧ r = .ok ()) := by
  obtain ⟨rfl, rfl, ⟨hfind, rfl⟩ | ⟨hfind, rfl⟩⟩ := Step.plays_fail_if h
  · exact ⟨rfl, rfl, .inl ⟨by simpa using hfind, by simp⟩⟩
  · refine ⟨rfl, rfl, .inr ⟨Option.ne_none_iff_exists'.mp ?_, rfl⟩⟩
    simpa using hfind

/-- The number of pages that a mapping touches. -/
def pageCount (length pageSize : UInt64) : Nat :=
  (length.toNat + pageSize.toNat - 1) / pageSize.toNat

/-- Pages are enough if and only if together they are no shorter than the mapping. -/
theorem pageCount_le_iff (hpage : pageSize ≠ 0) {n : Nat} :
    pageCount length pageSize ≤ n ↔ length.toNat ≤ n * pageSize.toNat := by
  have hpos : 0 < pageSize.toNat :=
    Nat.pos_of_ne_zero fun h => hpage (UInt64.toNat_inj.mp h)
  rw [pageCount, ← Nat.lt_succ_iff, Nat.div_lt_iff_lt_mul hpos, Nat.succ_mul]
  omega

/-- Every expected entry of the vector was written, and no byte behind them. -/
def Filled (expected : Nat) (vector : List UInt8) : Prop :=
  (∀ b ∈ vector.take expected, b ≠ guardByte) ∧ ∀ b ∈ vector.drop expected, b = guardByte

theorem residencyLength_of_ne_zero (hpage : pageSize ≠ 0) :
    residencyLength length pageSize = .ok (pageCount length pageSize) := by
  rw [residencyLength, if_neg hpage, pageCount]

theorem vectorLength_of_ne_zero (hpage : pageSize ≠ 0) : vectorLength length pageSize =
    if UInt64.size ≤ pageCount length pageSize + guardLength then .error .addOverflow
    else if maxBufferLength < pageCount length pageSize + guardLength then
      .error .capacityOverflow
    else .ok (pageCount length pageSize + guardLength) := by
  rw [vectorLength, residencyLength_of_ne_zero hpage]
  change (if _ then _ else _) = _
  split
  · rfl
  · split <;> rfl

theorem eq_of_vectorLength_eq_ok {capacity : Nat} (hpage : pageSize ≠ 0)
    (h : vectorLength length pageSize = .ok capacity) :
    capacity = pageCount length pageSize + guardLength := by
  rw [vectorLength_of_ne_zero hpage] at h
  split at h
  · cases h
  · split at h <;> cases h
    rfl

/-- A vector does not exist if its length cannot be counted, or counted but not stored. -/
theorem of_vectorLength_eq_error {fault : Fault} (hpage : pageSize ≠ 0)
    (h : vectorLength length pageSize = .error fault) :
    (UInt64.size ≤ pageCount length pageSize + guardLength ∧ fault = .addOverflow) ∨
      (pageCount length pageSize + guardLength < UInt64.size ∧
        maxBufferLength < pageCount length pageSize + guardLength ∧
        fault = .capacityOverflow) := by
  rw [vectorLength_of_ne_zero hpage] at h
  split at h
  next hsize =>
    cases h
    exact .inl ⟨hsize, rfl⟩
  next hsize =>
    split at h
    next hmax =>
      cases h
      exact .inr ⟨Nat.not_le.mp hsize, hmax, rfl⟩
    next => cases h

/-- A vector of the length that its mapping needs exists if it can be counted and stored. -/
theorem vectorLength_eq_ok (hpage : pageSize ≠ 0)
    (hsize : pageCount length pageSize + guardLength < UInt64.size)
    (hmax : pageCount length pageSize + guardLength ≤ maxBufferLength) :
    vectorLength length pageSize = .ok (pageCount length pageSize + guardLength) := by
  rw [vectorLength_of_ne_zero hpage, if_neg (Nat.not_le.mpr hsize), if_neg (Nat.not_lt.mpr hmax)]

theorem length_filledVector (capacity : Nat) (stored : List UInt8) :
    (filledVector capacity stored).length = capacity := by
  rw [filledVector, List.length_append, List.length_take, List.length_replicate]
  omega

/-- With all entries stored, and nothing more, the vector is filled. -/
theorem filled_filledVector (stored : List UInt8) (hstored : ∀ b ∈ stored, b ≠ guardByte) :
    Filled stored.length (filledVector (stored.length + guardLength) stored) := by
  have hvector : filledVector (stored.length + guardLength) stored
      = stored ++ List.replicate guardLength guardByte := by
    rw [filledVector, List.take_of_length_le (Nat.le_add_right ..), Nat.add_sub_cancel_left]
  rw [hvector]
  refine ⟨?_, ?_⟩
  · rw [List.take_left]
    exact hstored
  · rw [List.drop_left]
    exact fun b => List.eq_of_mem_replicate

/-- All entries count as filled if and only if none is a guard byte. -/
theorem length_takeWhile_eq (l : List UInt8) :
    (l.takeWhile (· != guardByte)).length = l.length ↔ ∀ b ∈ l, b ≠ guardByte := by
  constructor
  · intro h b hb
    have hself := (List.takeWhile_prefix (· != guardByte)).eq_of_length h
    rw [List.takeWhile_eq_self_iff] at hself
    simpa using hself b hb
  · intro h
    rw [List.takeWhile_eq_self_iff.mpr (by simpa using h)]

/-- The vector is judged by whether it is filled. -/
theorem eval_checkVector {vector : List UInt8} (hpage : pageSize ≠ 0)
    (hlength : vector.length = pageCount length pageSize + guardLength)
    (h : ((mincoreProbe length pageSize).check vector).eval ⟨c, .empty⟩ = (r, exam)) :
    exam.context = c ∧ (r = .ok () ↔ Filled (pageCount length pageSize) vector) := by
  -- the two parts of the vector are counted apart: entries from the front, guard bytes behind
  have htake : (vector.take (pageCount length pageSize)).length = pageCount length pageSize := by
    rw [List.length_take]
    omega
  have hentries := length_takeWhile_eq (vector.take (pageCount length pageSize))
  have hguards : (vector.drop (pageCount length pageSize)).countP (· != guardByte) = 0 ↔
      ∀ b ∈ vector.drop (pageCount length pageSize), b = guardByte := by
    simp [List.countP_eq_zero]
  simp only [mincoreProbe, residencyLength_of_ne_zero hpage, Judge.eval_bind,
    Judge.eval_ofExcept_ok, Judge.eval_note, Judge.eval_noteNat, Judge.eval_ite, Judge.eval_refute,
    Judge.eval_panic, Judge.eval_pure, List.splitAt_eq] at h
  rw [if_neg (by omega)] at h
  split at h
  next hfilled =>
    cases h
    have hnot : ¬ Filled (pageCount length pageSize) vector := by
      rintro ⟨hall, -⟩
      rw [hentries.mpr hall, htake] at hfilled
      simp at hfilled
    exact ⟨rfl, by simp [hnot]⟩
  next hfilled =>
    rw [bne_iff_ne, not_not] at hfilled
    split at h
    next hoverrun =>
      cases h
      have hnot : ¬ Filled (pageCount length pageSize) vector := by
        rintro ⟨-, hall⟩
        rw [hguards.mpr hall] at hoverrun
        simp at hoverrun
      exact ⟨rfl, by simp [hnot]⟩
    next hoverrun =>
      rw [bne_iff_ne, not_not] at hoverrun
      cases h
      exact ⟨rfl, iff_of_true rfl ⟨hentries.mp (hfilled.trans htake.symm), hguards.mp hoverrun⟩⟩

/-- The query goes to the live mapping, with a vector of one entry a page and the guard bytes. -/
theorem plays_mincore {region : MemoryRegion} (hfind : c.regions.find? length = some region)
    {r : Except Halt (List UInt8)} (h : (mincoreProbe length pageSize).invoke.Plays c j r c') :
    c' = c ∧
      ((j = [] ∧ (∃ halt, r = .error halt) ∧
          ∀ capacity, vectorLength length pageSize ≠ .ok capacity) ∨
        ∃ capacity reply, vectorLength length pageSize = .ok capacity ∧
          j = [⟨.call (.mincore region capacity), reply⟩] ∧
          ((∃ bytes, reply.returned = .value bytes ∧ r = .ok (filledVector capacity bytes)) ∨
            (∀ bytes, reply.returned ≠ .value bytes) ∧ ∃ halt, r = .error halt)) := by
  change Staged.Plays (get >>= _) c j r c' at h
  rw [Staged.plays_get_bind, hfind] at h
  cases hcapacity : vectorLength length pageSize with
  | error fault =>
    rw [hcapacity] at h
    obtain ⟨rfl, rfl, rfl⟩ := Staged.plays_throw_bind.mp h
    exact ⟨rfl, .inl ⟨rfl, ⟨_, rfl⟩, by simp⟩⟩
  | ok capacity =>
    rw [hcapacity] at h
    obtain ⟨reply, ⟨halt, hret, rfl, rfl, rfl⟩ | ⟨bytes, j, hret, rfl, h₁⟩⟩ :=
      Step.plays_call_bind.mp h
    · exact ⟨rfl, .inr ⟨capacity, reply, rfl, rfl,
        .inr ⟨Returned.ne_value_of_orHalt hret, halt, rfl⟩⟩⟩
    · obtain ⟨rfl, rfl, rfl⟩ := Staged.plays_pure.mp h₁
      exact ⟨rfl, .inr ⟨capacity, reply, rfl, rfl, .inl ⟨bytes, hret, rfl⟩⟩⟩

theorem mincore_course (hpage : pageSize ≠ 0)
    (h : (mincoreProbe length pageSize).Course c j r exam) :
    exam.context = c ∧
      ((j = [] ∧ r ≠ .ok () ∧ (c.regions.find? length = none ∨
          ∀ capacity, vectorLength length pageSize ≠ .ok capacity)) ∨
        ∃ region capacity reply, c.regions.find? length = some region ∧
          capacity = pageCount length pageSize + guardLength ∧
          j = [⟨.call (.mincore region capacity), reply⟩] ∧
          (r = .ok () ↔ ∃ bytes, reply.returned = .value bytes ∧
            Filled (pageCount length pageSize) (filledVector capacity bytes))) := by
  cases h with
  | setupHalts setup =>
    obtain ⟨rfl, rfl, ⟨hfind, -⟩ | ⟨-, heq⟩⟩ := plays_needRegion setup
    · exact ⟨rfl, .inl ⟨rfl, by simp, .inl hfind⟩⟩
    · cases heq
  | tested setup test =>
    obtain ⟨rfl, rfl, ⟨-, heq⟩ | ⟨⟨region, hfind⟩, -⟩⟩ := plays_needRegion setup
    · exact absurd rfl heq
    cases test with
    | halts invoke =>
      obtain ⟨rfl, ⟨rfl, -, hnot⟩ | ⟨capacity, reply, hcapacity, rfl, ⟨_, _, heq⟩ | ⟨hret, -⟩⟩⟩ :=
        plays_mincore hfind invoke
      · exact ⟨rfl, .inl ⟨rfl, by simp, .inr hnot⟩⟩
      · cases heq
      · exact ⟨rfl, .inr ⟨region, capacity, reply, hfind,
          eq_of_vectorLength_eq_ok hpage hcapacity, rfl,
          by simp [hret]⟩⟩
    | judged invoke check =>
      obtain ⟨rfl, ⟨-, ⟨_, heq⟩, -⟩ | ⟨capacity, reply, hcapacity, rfl, ⟨bytes, hret, heq⟩ |
        ⟨-, _, heq⟩⟩⟩ :=
        plays_mincore hfind invoke
      · cases heq
      · cases heq
        have hcap := eq_of_vectorLength_eq_ok hpage hcapacity
        obtain ⟨hcontext, hr⟩ :=
          eval_checkVector hpage ((length_filledVector capacity bytes).trans hcap) check
        exact ⟨hcontext, .inr ⟨region, capacity, reply, hfind, hcap, rfl, by simp [hr, hret]⟩⟩
      · cases heq

/-! ## Releasing a mapping -/

/-- The mapping leaves the context before it is released. -/
theorem plays_munmap {region : MemoryRegion} (hfind : c.regions.find? length = some region)
    {r : Except Halt UInt64} (h : (munmapProbe length).invoke.Plays c j r c') :
    c' = ⟨c.regions.erase length⟩ ∧ ∃ reply, j = [⟨.call (.munmap region), reply⟩] ∧
      ((reply.returned = .value () ∧ r = .ok region.base) ∨
        reply.returned ≠ .value () ∧ ∃ halt, r = .error halt) := by
  change Staged.Plays (get >>= _) c j r c' at h
  rw [Staged.plays_get_bind, hfind] at h
  replace h := Staged.plays_modify_bind.mp h
  obtain ⟨reply, ⟨halt, hret, rfl, rfl, rfl⟩ | ⟨⟨⟩, j, hret, rfl, h₁⟩⟩ := Step.plays_call_bind.mp h
  · exact ⟨rfl, reply, rfl, .inr ⟨Returned.ne_value_of_orHalt hret (), halt, rfl⟩⟩
  · obtain ⟨rfl, rfl, rfl⟩ := Staged.plays_pure.mp h₁
    exact ⟨rfl, reply, rfl, .inl ⟨hret, rfl⟩⟩

theorem munmap_course (h : (munmapProbe length).Course c j r exam) :
    (j = [] ∧ c.regions.find? length = none ∧ exam.context = c ∧ r ≠ .ok ()) ∨
      ∃ region reply, c.regions.find? length = some region ∧
        j = [⟨.call (.munmap region), reply⟩] ∧ exam.context = ⟨c.regions.erase length⟩ ∧
        (r = .ok () ↔ reply.returned = .value ()) := by
  cases h with
  | setupHalts setup =>
    obtain ⟨rfl, rfl, ⟨hfind, -⟩ | ⟨-, heq⟩⟩ := plays_needRegion setup
    · exact .inl ⟨rfl, hfind, rfl, by simp⟩
    · cases heq
  | tested setup test =>
    obtain ⟨rfl, rfl, ⟨-, heq⟩ | ⟨⟨region, hfind⟩, -⟩⟩ := plays_needRegion setup
    · exact absurd rfl heq
    cases test with
    | halts invoke =>
      obtain ⟨rfl, reply, rfl, ⟨-, heq⟩ | ⟨hret, -⟩⟩ := plays_munmap hfind invoke
      · cases heq
      · exact .inr ⟨region, reply, hfind, rfl, rfl, by simp [hret]⟩
    | judged invoke check =>
      obtain ⟨rfl, reply, rfl, ⟨hret, heq⟩ | ⟨-, _, heq⟩⟩ := plays_munmap hfind invoke
      · cases heq
        cases check
        exact .inr ⟨region, reply, hfind, rfl, rfl, by simp [hret]⟩
      · cases heq

/-! ## The teardown -/

/-- The teardown releases the mappings that are left, the shortest first, up to a release that gives
up. -/
theorem plays_teardown (h : teardown.Plays c j r c') :
    c' = ⟨[]⟩ ∧ j.reports = [] ∧
      ((r = .ok () ∧ j.calls = c.regions.map (.munmap ·.2) ∧
          ∀ x ∈ j.trace, ¬ x.Panicked) ∨
        ∃ done live rest before last, r ≠ .ok () ∧ c.regions = done ++ live :: rest ∧
          j.trace = before ++ [last] ∧ before.map (·.call) = done.map (.munmap ·.2) ∧
          last.call = .munmap live.2 ∧ last.Panicked ∧ ∀ x ∈ before, ¬ x.Panicked) := by
  change Staged.Plays (get >>= _) c j r c' at h
  rw [Staged.plays_get_bind] at h
  exact Step.plays_inTurn rfl (fun _ _ => rfl) (fun _ _ _ => rfl) (fun _ _ _ => rfl)
    (Staged.plays_modify_bind.mp h)

/-- The teardown makes no calls but releases. -/
theorem teardown_calls (h : teardown.Plays c j r c') :
    ∀ x ∈ j.calls, ∃ region, x = .munmap region := by
  intro x hx
  obtain ⟨-, -, ⟨-, hcalls, -⟩ |
    ⟨done, live, _, before, last, -, -, htrace, hbefore, hlast, -⟩⟩ := plays_teardown h
  · rw [hcalls] at hx
    obtain ⟨live, -, rfl⟩ := List.mem_map.mp hx
    exact ⟨live.2, rfl⟩
  · rw [← Journal.map_call_trace, htrace, List.map_append, hbefore, List.map_singleton,
      hlast] at hx
    rcases List.mem_append.mp hx with hx | hx
    · obtain ⟨live, -, rfl⟩ := List.mem_map.mp hx
      exact ⟨live.2, rfl⟩
    · exact ⟨live.2, List.mem_singleton.mp hx⟩

end KernelProbe.Memory
