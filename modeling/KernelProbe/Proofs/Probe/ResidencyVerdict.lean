import Mathlib.Order.Bounds.Defs
import KernelProbe.Kernel.Scripted
import KernelProbe.Proofs.Probe.Containment
import KernelProbe.Proofs.Probe.Memory
import KernelProbe.Report.AuditLog

/-!
# The verdict on a residency vector

What a kernel stored in a residency vector shows only by the guard bytes that it left. The check
counts the entries in front of the first guard byte (`entriesFilled`) and the bytes behind the
entries that are not guard bytes any more (`overrun`). `vectorResult` is its result for every vector
that a kernel can leave.

Of a kernel that stores bytes from the start, none of them a guard byte, the two counts tell how
many it stored, up to the end of the vector: `mincore_verdict` says that the probe passes if and
only if they are as many as the mapping has pages, and what it says of every other number.
-/

namespace KernelProbe.Memory

variable {c c' : Context} {j : Journal} {length pageSize : UInt64} {expected : Nat}
  {bytes vector : List UInt8}

/-! ## The number of pages -/

theorem pageCount_le_length (hpage : pageSize ≠ 0) : pageCount length pageSize ≤ length.toNat := by
  have hpos : 0 < pageSize.toNat :=
    Nat.pos_of_ne_zero fun h => hpage (UInt64.toNat_inj.mp h)
  exact (pageCount_le_iff hpage).mpr (Nat.le_mul_of_pos_right _ hpos)

/-- A mapping has the least number of pages that together are no shorter than it. -/
theorem pageCount_isLeast (hpage : pageSize ≠ 0) :
    IsLeast { n | length.toNat ≤ n * pageSize.toNat } (pageCount length pageSize) :=
  ⟨(pageCount_le_iff hpage).mp (Nat.le_refl _), fun _ hn => (pageCount_le_iff hpage).mpr hn⟩

/-! ## The check of a vector -/

/-- The entries in front of the first guard byte. -/
def entriesFilled (expected : Nat) (vector : List UInt8) : List UInt8 :=
  (vector.take expected).takeWhile (· != guardByte)

/-- The number of bytes behind the entries that are no guard bytes. -/
def overrun (expected : Nat) (vector : List UInt8) : Nat :=
  (vector.drop expected).countP (· != guardByte)

/-- The finding that a number of entries is filled. -/
def shortFill (filled expected : Nat) : ProbeError :=
  .assertion ("kernel filled " ++ Text.decimal filled ++ " of " ++ Text.decimal expected
    ++ " residency entries") (some (.ok 0))

/-- The finding that a number of bytes behind the entries is written. -/
def pastEntries (overrun expected : Nat) : ProbeError :=
  .assertion ("kernel wrote " ++ Text.decimal overrun ++ " bytes past the "
    ++ Text.decimal expected ++ " residency entries") (some (.ok 0))

/-- What the check of a vector comes to. -/
def vectorResult (expected : Nat) (vector : List UInt8) : Except Halt Unit :=
  if (entriesFilled expected vector).length != expected then
    .error (.failed (shortFill (entriesFilled expected vector).length expected))
  else if overrun expected vector != 0 then
    .error (.failed (pastEntries (overrun expected vector) expected))
  else .ok ()

/-- What is noted of a number of entries that are expected, and of those that are filled. -/
def vectorEvidence (expected : Nat) (filled : List UInt8) : Evidence :=
  ⟨[("expected_entries", Text.decimal expected),
    ("residency", " ".intercalate (filled.map fun b => Text.decimal (b.toNat % 2)))]⟩

theorem toNat_and_one (b : UInt8) : (b &&& 1).toNat = b.toNat % 2 := by
  rw [UInt8.toNat_and]
  exact Nat.and_one_is_mod b.toNat

/-- The check comes to its result for every vector that has the expected entries. -/
theorem eval_checkVector_eq (hpage : pageSize ≠ 0)
    (hlength : pageCount length pageSize ≤ vector.length) :
    ((mincoreProbe length pageSize).check vector).eval ⟨c, .empty⟩ =
      (vectorResult (pageCount length pageSize) vector,
        ⟨c, vectorEvidence (pageCount length pageSize)
          (entriesFilled (pageCount length pageSize) vector)⟩) := by
  simp only [mincoreProbe, residencyLength_of_ne_zero hpage, Judge.eval_bind,
    Judge.eval_ofExcept_ok, Judge.eval_note, Judge.eval_noteNat, Judge.eval_ite, Judge.eval_refute,
    Judge.eval_pure, List.splitAt_eq, if_neg (Nat.not_lt.mpr hlength), toNat_and_one]
  by_cases hshort : ((entriesFilled (pageCount length pageSize) vector).length
      != pageCount length pageSize) = true
  · rw [vectorResult, if_pos hshort]
    exact if_pos hshort
  · rw [vectorResult, if_neg hshort]
    refine (if_neg hshort).trans ?_
    by_cases hpast : (overrun (pageCount length pageSize) vector != 0) = true
    · rw [if_pos hpast]
      exact if_pos hpast
    · rw [if_neg hpast]
      exact if_neg hpast

theorem vectorResult_ne_panicked (expected : Nat) (vector : List UInt8) (fault : Fault) :
    vectorResult expected vector ≠ .error (.panicked fault) := by
  unfold vectorResult
  split
  · simp
  · split <;> simp

/-! ## Bytes stored from the start -/

/-- The bytes that the kernel stored stand in front of guard bytes. -/
theorem entriesFilled_filledVector (hbytes : ∀ b ∈ bytes, b ≠ guardByte) :
    entriesFilled expected (filledVector (expected + guardLength) bytes) = bytes.take expected := by
  have hstored : ∀ b ∈ bytes.take expected, (b != guardByte) = true := fun b hb => by
    simpa using hbytes b (List.mem_of_mem_take hb)
  rw [entriesFilled, filledVector, List.take_append, List.take_take,
    Nat.min_eq_left (Nat.le_add_right ..), List.take_replicate,
    List.takeWhile_append_of_pos hstored, List.takeWhile_replicate, if_neg (by simp),
    List.append_nil]

/-- The bytes behind the entries count until the vector ends. -/
theorem overrun_filledVector (hbytes : ∀ b ∈ bytes, b ≠ guardByte) :
    overrun expected (filledVector (expected + guardLength) bytes) =
      min bytes.length (expected + guardLength) - expected := by
  have hstored : ((bytes.take (expected + guardLength)).drop expected).countP (· != guardByte) =
      min bytes.length (expected + guardLength) - expected := by
    rw [List.countP_eq_length.mpr, List.length_drop, List.length_take, Nat.min_comm]
    intro b hb
    simpa using hbytes b (List.mem_of_mem_take (List.mem_of_mem_drop hb))
  rw [overrun, filledVector, List.drop_append, List.countP_append, hstored, List.drop_replicate,
    List.countP_replicate, if_neg (by simp), Nat.add_zero]

/-- What a probe says of a kernel that stored bytes where a number of entries is expected. -/
structure Judged (expected : Nat) (bytes : List UInt8) (outcome : Outcome) (evidence : Evidence) :
    Prop where
  /-- The probe passes if the kernel stored as many as expected. -/
  pass : outcome = .pass ↔ bytes.length = expected
  /-- Fewer leave entries out. -/
  short : bytes.length < expected →
    outcome = .fail (.of .assertionFailure ("kernel filled " ++ Text.decimal bytes.length ++ " of "
      ++ Text.decimal expected ++ " residency entries") (some (.ok 0)))
  /-- More are counted up to the end of the vector. -/
  beyond : expected < bytes.length →
    outcome = .fail (.of .assertionFailure ("kernel wrote "
      ++ Text.decimal (min bytes.length (expected + guardLength) - expected) ++ " bytes past the "
      ++ Text.decimal expected ++ " residency entries") (some (.ok 0)))
  /-- The lowest bits of the entries are noted. -/
  evidence : evidence = vectorEvidence expected (bytes.take (min bytes.length expected))

/-- Bytes stored from the start are judged by how many they are. -/
theorem vectorResult_filledVector (hbytes : ∀ b ∈ bytes, b ≠ guardByte) :
    vectorResult expected (filledVector (expected + guardLength) bytes) =
      if bytes.length < expected then .error (.failed (shortFill bytes.length expected))
      else if expected < bytes.length then .error (.failed
        (pastEntries (min bytes.length (expected + guardLength) - expected) expected))
      else .ok () := by
  rw [vectorResult, entriesFilled_filledVector hbytes, overrun_filledVector hbytes,
    List.length_take]
  obtain hless | heq | hmore := Nat.lt_trichotomy bytes.length expected
  · rw [Nat.min_eq_right hless.le, if_pos (by simpa using hless.ne), if_pos hless]
  · simp [heq]
  · have hpast : min bytes.length (expected + guardLength) - expected ≠ 0 := by
      simp only [guardLength]
      omega
    rw [Nat.min_eq_left hmore.le, if_neg (by simp), if_pos (by simpa using hpast),
      if_neg hmore.not_gt, if_pos hmore]

theorem judged_filledVector (hbytes : ∀ b ∈ bytes, b ≠ guardByte) :
    Judged expected bytes
      (Probe.verdict (vectorResult expected (filledVector (expected + guardLength) bytes)) (.ok ()))
      (vectorEvidence expected
        (entriesFilled expected (filledVector (expected + guardLength) bytes))) := by
  rw [vectorResult_filledVector hbytes, entriesFilled_filledVector hbytes]
  refine ⟨?_, fun hless => by rw [if_pos hless]; rfl, fun hmore => ?_, ?_⟩
  · rw [Probe.verdict_eq_pass]
    obtain hless | heq | hmore := Nat.lt_trichotomy bytes.length expected
    · simp [if_pos hless, hless.ne]
    · simp [heq]
    · simp [if_neg hmore.not_gt, if_pos hmore, hmore.ne']
  · rw [if_neg hmore.not_gt, if_pos hmore]
    rfl
  · rw [List.take_eq_take_min, Nat.min_comm]

/-! ## The query -/

/-- With a live mapping and a vector that can be had, the query is the one call, and the vector that
it leaves is judged. -/
theorem mincore_course_of_live {r : Except Halt Unit} {exam : Exam Context} {region : MemoryRegion}
    {capacity : Nat} (hcapacity : vectorLength length pageSize = .ok capacity)
    (hfind : c.regions.find? length = some region)
    (h : (mincoreProbe length pageSize).Course c j r exam) :
    ∃ reply, j = [⟨.call (.mincore region capacity), reply⟩] ∧
      ∀ bytes, reply.returned = .value bytes →
        ((mincoreProbe length pageSize).check (filledVector capacity bytes)).eval ⟨c, .empty⟩ =
          (r, exam) := by
  cases h with
  | setupHalts setup =>
    obtain ⟨-, -, ⟨hnone, -⟩ | ⟨-, heq⟩⟩ := plays_needRegion setup
    · simp [hfind] at hnone
    · cases heq
  | tested setup test =>
    obtain ⟨rfl, rfl, -⟩ := plays_needRegion setup
    cases test with
    | halts invoke =>
      obtain ⟨rfl, ⟨-, -, hnot⟩ | ⟨_, reply, hcapacity', rfl, ⟨_, _, heq⟩ | ⟨hret, -⟩⟩⟩ :=
        plays_mincore hfind invoke
      · exact absurd hcapacity (hnot capacity)
      · cases heq
      · obtain rfl := Except.ok.inj (hcapacity.symm.trans hcapacity')
        exact ⟨reply, rfl, fun bytes hbytes => absurd hbytes (hret bytes)⟩
    | judged invoke check =>
      obtain ⟨rfl, ⟨-, ⟨_, heq⟩, -⟩ | ⟨_, reply, hcapacity', rfl, ⟨bytes, hret, heq⟩ |
        ⟨-, _, heq⟩⟩⟩ := plays_mincore hfind invoke
      · cases heq
      · obtain rfl := Except.ok.inj (hcapacity.symm.trans hcapacity')
        cases heq
        refine ⟨reply, rfl, fun bytes' hbytes' => ?_⟩
        obtain rfl := Returned.value.inj (hret.symm.trans hbytes')
        exact check
      · cases heq

/-- A residency query expects the least number of entries whose pages are no shorter than the
mapping, whatever its length. If a vector of that many and the guard bytes can be had, then the
check of no such vector gives up; and of a kernel that stores bytes from the start, none of them a
guard byte, the probe passes if and only if they are as many as expected, and else says how many
are missing or too many. -/
theorem mincore_verdict (length pageSize : UInt64) (hpage : 0 < pageSize) :
    ∃ expected, residencyLength length pageSize = .ok expected ∧ expected < UInt64.size ∧
      IsLeast { n | length.toNat ≤ n * pageSize.toNat } expected ∧
      (expected + guardLength ≤ maxBufferLength →
        (∀ (c : Context) (vector : List UInt8), vector.length = expected + guardLength →
          ∀ fault, (((mincoreProbe length pageSize).check vector).eval ⟨c, .empty⟩).1 ≠
            .error (.panicked fault)) ∧
        ∀ (κ ρ : Type) (kernel : Kernel κ) (reporter : Reporter ρ) (k : κ) (r : ρ) (c : Context)
          (region : MemoryRegion) (bytes : List UInt8),
          c.regions.find? length = some region →
          (kernel.call (.mincore region (expected + guardLength)) k).1.returned = .value bytes →
          (∀ b ∈ bytes, b ≠ guardByte) →
          let run := ((mincoreProbe length pageSize).run c).run kernel reporter k r
          run.journal.calls = [.mincore region (expected + guardLength)] ∧
            Judged expected bytes run.result.1.1 run.result.1.2 ∧ run.result.2 = c) := by
  have hne : pageSize ≠ 0 := by
    rintro rfl
    exact absurd hpage (by decide)
  have hsize : pageCount length pageSize < UInt64.size :=
    (pageCount_le_length hne).trans_lt length.toNat_lt_size
  refine ⟨pageCount length pageSize, residencyLength_of_ne_zero hne, hsize, pageCount_isLeast hne,
    fun hmax => ⟨fun c vector hvector fault => ?_, ?_⟩⟩
  · rw [eval_checkVector_eq hne (by omega)]
    exact vectorResult_ne_panicked _ vector fault
  · intro κ ρ kernel reporter k r c region bytes hfind hanswer hbytes run
    have hcapacity := vectorLength_eq_ok hne (hmax.trans_lt (by decide)) hmax
    obtain ⟨hplays, hanswered⟩ := Program.run_eq_iff.mp
      (rfl : run = ⟨run.result, run.kernel, run.reporter, run.journal⟩)
    obtain ⟨own, logs, life, hjournal, hcourse, houtcome, hlogs⟩ :=
      Probe.plays_run_of_no_cleanup rfl hplays
    obtain ⟨reply, rfl, hcheck⟩ := mincore_course_of_live hcapacity hfind hcourse
    -- the query is the first question, so that its reply is the kernel's answer
    rw [hjournal] at hanswered
    obtain rfl : (kernel.call _ k).1 = reply := hanswered.1
    have heval := hcheck bytes hanswer
    rw [eval_checkVector_eq hne (by rw [length_filledVector]; omega)] at heval
    obtain ⟨rfl, hexam⟩ := Prod.mk.inj heval
    obtain ⟨hcontext, hevidence⟩ := Exam.mk.inj hexam
    refine ⟨?_, ?_, hcontext.symm⟩
    · rw [hjournal, Journal.calls_append, hlogs.calls]
      rfl
    · rw [houtcome, ← hevidence]
      exact judged_filledVector hbytes

/-- A kernel that stores ten bytes where eight are expected is found to have written two too
many. -/
theorem mincore_verdict_overrun :
    let region : MemoryRegion := ⟨0x7f0000000000, 0x8000, 1, 0x22⟩
    let start : ScriptedKernel := { mock := { mincoreEntries := some 10 } }
    let run := ((mincoreProbe 0x8000 0x1000).run { regions := [(0x8000, region)] }).run
      ScriptedKernel.machine recording start []
    (0 : UInt64) < 0x1000 ∧ residencyLength 0x8000 0x1000 = .ok 8 ∧
      Judged 8 (List.replicate 10 0) run.result.1.1 run.result.1.2 ∧
      run.result.1.1 = .fail (.of .assertionFailure
        "kernel wrote 2 bytes past the 8 residency entries" (some (.ok 0))) := by
  intro region start run
  have hexpected : residencyLength 0x8000 0x1000 = .ok 8 := by decide +kernel
  obtain ⟨expected, heq, -, -, hverdict⟩ := mincore_verdict 0x8000 0x1000 (by decide)
  obtain rfl : 8 = expected := Except.ok.inj (hexpected.symm.trans heq)
  have hbytes : ∀ b ∈ List.replicate 10 (0 : UInt8), b ≠ guardByte := fun b hb => by
    rw [List.eq_of_mem_replicate hb]
    decide
  obtain ⟨-, hjudged, -⟩ := (hverdict (by decide)).2 _ _ ScriptedKernel.machine recording start []
    { regions := [(0x8000, region)] } region _ (by decide +kernel) rfl hbytes
  exact ⟨by decide, hexpected, hjudged, by decide +kernel⟩

end KernelProbe.Memory
