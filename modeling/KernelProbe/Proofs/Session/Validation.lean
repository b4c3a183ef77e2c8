import Mathlib.Algebra.Group.Nat.Defs
import Mathlib.Data.List.Basic
import KernelProbe.Proofs.Session.Roster
import KernelProbe.Proofs.Text.Utf8

/-!
# Accepted configurations

`HarnessConfig.Sensible` has the conditions that a configuration has to meet. What it can be refused
for is a `Flaw`; `HarnessConfig.Flawed` says of a flaw when a configuration has it and how it is
told. A configuration is accepted if and only if it is sensible, and else refused for the first of
its flaws (`validate_decides`); the standard battery is refused for the same reason and no other.
-/

namespace KernelProbe

/-! ## Texts for the kernel -/

/-- Whether a zero character would end the text early. -/
def holdsNul (text : String) : Bool := text.toList.contains '\x00'

/-- The error for a text that holds a zero byte: it tells where the first one stands. -/
def nulIn (text : String) : NulError := ⟨(Text.encode text).idxOf 0⟩

/-- The bytes in front of the first zero character are those in front of the first zero byte. -/
theorem idxOf_zero_flatMap {chars : List Char} (h : '\x00' ∈ chars) :
    (chars.flatMap String.utf8EncodeChar).idxOf 0
      = ((chars.takeWhile (· != '\x00')).map (·.utf8Size)).foldr (· + ·) 0 := by
  induction chars with
  | nil => cases h
  | cons c chars ih =>
    by_cases hc : c = '\x00'
    · subst hc
      rfl
    · have hnot : (0 : UInt8) ∉ String.utf8EncodeChar c :=
        fun h => hc (Text.zero_mem_utf8EncodeChar.mp h)
      have hrest : '\x00' ∈ chars := (List.mem_cons.mp h).resolve_left (Ne.symm hc)
      rw [List.flatMap_cons, List.idxOf_append, if_neg hnot, ih hrest,
        List.takeWhile_cons_of_pos (by simpa using hc), List.map_cons, List.foldr_cons,
        String.length_utf8EncodeChar, Nat.add_comm]

namespace CText

theorem of?_eq_error {text : String} (h : holdsNul text = true) :
    of? text = .error (nulIn text) := by
  have hmem : '\x00' ∈ text.toList := by simpa [holdsNul] using h
  rw [of?, dif_pos hmem, nulIn, Text.encode, idxOf_zero_flatMap hmem]

theorem exists_of?_eq_ok {text : String} (h : holdsNul text = false) :
    ∃ t, of? text = .ok t := by
  have hmem : '\x00' ∉ text.toList := by simpa [holdsNul] using h
  exact ⟨⟨text, hmem⟩, by rw [of?, dif_neg hmem]⟩

/-- Texts are taken up one after another until one holds a zero byte. -/
theorem mapM_of? (texts : List String) :
    (∃ ts, texts.find? holdsNul = none ∧ texts.mapM of? = .ok ts) ∨
      ∃ text, texts.find? holdsNul = some text ∧ texts.mapM of? = .error (nulIn text) := by
  induction texts with
  | nil => exact .inl ⟨[], rfl, rfl⟩
  | cons text texts ih =>
    rw [List.mapM_cons]
    cases hnul : holdsNul text with
    | true =>
      refine .inr ⟨text, List.find?_cons_of_pos hnul, ?_⟩
      rw [of?_eq_error hnul]
      rfl
    | false =>
      obtain ⟨t, ht⟩ := exists_of?_eq_ok hnul
      rw [List.find?_cons_of_neg (by simp [hnul]), ht]
      obtain ⟨ts, hnone, hts⟩ | ⟨first, hsome, hts⟩ := ih
      · refine .inl ⟨t :: ts, hnone, ?_⟩
        rw [hts]
        rfl
      · refine .inr ⟨first, hsome, ?_⟩
        rw [hts]
        rfl

end CText

/-- A request is refused for the first of its texts that holds a zero byte. -/
theorem ExecRequest.of?_cases (path : String) (argv envp : List String) :
    (∃ request, (path :: (argv ++ envp)).find? holdsNul = none ∧
        of? path argv envp = .ok request) ∨
      ∃ text, (path :: (argv ++ envp)).find? holdsNul = some text ∧
        of? path argv envp = .error (nulIn text) := by
  unfold of?
  cases hpath : holdsNul path with
  | true =>
    refine .inr ⟨path, List.find?_cons_of_pos hpath, ?_⟩
    rw [CText.of?_eq_error hpath]
    rfl
  | false =>
    obtain ⟨p, hp⟩ := CText.exists_of?_eq_ok hpath
    rw [List.find?_cons_of_neg (by simp [hpath]), List.find?_append, hp]
    obtain ⟨as, hnone, has⟩ | ⟨text, hsome, has⟩ := CText.mapM_of? argv
    · obtain ⟨es, hnone', hes⟩ | ⟨text, hsome, hes⟩ := CText.mapM_of? envp
      · refine .inl ⟨⟨p, as, es⟩, by rw [hnone, hnone']; rfl, ?_⟩
        rw [has, hes]
        rfl
      · refine .inr ⟨text, by rw [hnone, hsome]; rfl, ?_⟩
        rw [has, hes]
        rfl
    · refine .inr ⟨text, by rw [hsome]; rfl, ?_⟩
      rw [has]
      rfl

theorem Duration.isZero_iff {d : Duration} : d.isZero = true ↔ d = .zero := by
  obtain ⟨nanos⟩ := d
  simp [isZero, zero]

/-- No slot lies behind the number that asks for any slot. -/
theorem SlotRange.contains_autoAssign {slots : SlotRange} :
    slots.contains ThreadAreaDescriptor.autoAssign = true ↔
      slots.hi = ThreadAreaDescriptor.autoAssign := by
  have hmax (slot : UInt32) : slot ≤ ThreadAreaDescriptor.autoAssign := by
    have hlt := slot.toNat_lt_size
    exact UInt32.le_iff_toNat_le.mpr (Nat.le_of_lt_succ hlt)
  rw [contains, Bool.and_eq_true, decide_eq_true_iff, decide_eq_true_iff]
  constructor
  · rintro ⟨-, hhi⟩
    exact UInt32.le_antisymm (hmax _) hhi
  · intro hhi
    exact ⟨hmax _, hhi ▸ UInt32.le_refl _⟩

namespace HarnessConfig

/-! ## Conditions and flaws -/

/-- The texts that are handed to the kernel, in the order in which they are looked at. -/
def texts (c : HarnessConfig) : List String :=
  (c.execTarget :: (c.execArgv ++ c.execEnvp)) ++ [c.missingExecPath]

/-- What an acceptable configuration meets. -/
structure Sensible (c : HarnessConfig) : Prop where
  /-- The page size is a power of two. -/
  pageSize : ∃ k, c.pageSize.toNat = 2 ^ k
  /-- There is a mapping to make, and none is empty. -/
  lengths : c.mapLengths ≠ [] ∧ 0 ∉ c.mapLengths
  /-- No two mappings have the same length. -/
  distinct : c.mapLengths.Nodup
  /-- Both waits take time. -/
  timeouts : c.waitTimeout ≠ .zero ∧ c.joinTimeout ≠ .zero
  /-- The existing program is not at the path that does not exist. -/
  paths : c.execTarget ≠ c.missingExecPath
  /-- The last slot is not the number that asks for any slot. -/
  slots : c.tlsSlots.hi ≠ ThreadAreaDescriptor.autoAssign
  /-- The kernel can read every text to its end. -/
  readable : ∀ text ∈ c.texts, '\x00' ∉ text.toList

/-- What a configuration can be refused for. -/
inductive Flaw where
  | pageSize | lengths | repetition | timeouts | paths | slots | nul

/-- Every flaw, in the order in which they are looked for. -/
def Flaw.all : List Flaw := [.pageSize, .lengths, .repetition, .timeouts, .paths, .slots, .nul]

/-- The configuration has the flaw, and this is the error that tells of it. -/
inductive Flawed (c : HarnessConfig) : Flaw → HarnessError → Prop
  | pageSize (odd : ∀ k, c.pageSize.toNat ≠ 2 ^ k) : c.Flawed .pageSize
      (.config ("page size " ++ Text.hex c.pageSize.toNat ++ " is not a power of two"))
  | lengths (bad : c.mapLengths = [] ∨ 0 ∈ c.mapLengths) : c.Flawed .lengths
      (.config "mapping lengths must be non-empty and non-zero")
  /-- The first length that equals an earlier one is named. -/
  | repetition {front : List UInt64} {n : UInt64} {back : List UInt64}
      (lengths : c.mapLengths = front ++ n :: back) (first : front.Nodup) (again : n ∈ front) :
      c.Flawed .repetition
        (.config ("mapping length " ++ Text.hex n.toNat ++ " is listed more than once"))
  | timeouts (none : c.waitTimeout = .zero ∨ c.joinTimeout = .zero) : c.Flawed .timeouts
      (.config "wait timeouts must be non-zero")
  | paths (same : c.execTarget = c.missingExecPath) : c.Flawed .paths
      (.config ("exec target and missing path are both " ++ c.execTarget))
  | slots (reserved : c.tlsSlots.hi = ThreadAreaDescriptor.autoAssign) : c.Flawed .slots
      (.config "TLS slot range must not contain the auto-assign sentinel")
  /-- The first text that holds a zero byte is told by the place of its first one. -/
  | nul {text : String} (first : c.texts.find? holdsNul = some text) : c.Flawed .nul
      (.config ("interior NUL byte in argument: "
        ++ ("nul byte found in provided data at position: "
          ++ Text.decimal ((Text.encode text).idxOf 0))))

/-! ## The checks -/

theorem isPowerOfTwo_iff {n : UInt64} : isPowerOfTwo n = true ↔ ∃ k, n.toNat = 2 ^ k := by
  rw [isPowerOfTwo, Bool.and_eq_true, bne_iff_ne, beq_iff_eq]
  have hsub (hpos : n.toNat ≠ 0) : (n &&& (n - 1)).toNat = n.toNat &&& (n.toNat - 1) := by
    have hle : (1 : UInt64) ≤ n := UInt64.le_iff_toNat_le.mpr (Nat.one_le_iff_ne_zero.mpr hpos)
    rw [UInt64.toNat_and, UInt64.toNat_sub_of_le _ _ hle]
    rfl
  constructor
  · rintro ⟨hne, hand⟩
    have hpos : n.toNat ≠ 0 := fun h => hne (UInt64.toNat_inj.mp h)
    refine (Nat.and_sub_one_eq_zero_iff_isPowerOfTwo hpos).mp ?_
    rw [← hsub hpos, hand]
    rfl
  · rintro hpower
    have hpos : n.toNat ≠ 0 := by
      obtain ⟨k, hk⟩ := hpower
      exact hk ▸ (Nat.two_pow_pos k).ne'
    refine ⟨fun h => hpos (congrArg UInt64.toNat h), UInt64.toNat_inj.mp ?_⟩
    rw [hsub hpos, (Nat.and_sub_one_eq_zero_iff_isPowerOfTwo hpos).mpr hpower]
    rfl

/-- The length that is met again is the first that equals one in front of it, or one seen before. -/
theorem firstRepeat_eq_some {seen lengths : List UInt64} {n : UInt64} :
    firstRepeat seen lengths = some n ↔ ∃ front back, lengths = front ++ n :: back ∧
      front.Nodup ∧ (∀ m ∈ front, m ∉ seen) ∧ (n ∈ front ∨ n ∈ seen) := by
  induction lengths generalizing seen with
  | nil => simp [firstRepeat]
  | cons m lengths ih =>
    rw [firstRepeat]
    split
    next hseen =>
      constructor
      · rintro ⟨⟩
        exact ⟨[], lengths, rfl, List.nodup_nil, by simp, .inr hseen⟩
      · rintro ⟨_ | ⟨m', front⟩, back, heq, -, hfresh, -⟩
        · cases heq
          rfl
        · cases heq
          exact absurd hseen (hfresh _ List.mem_cons_self)
    next hseen =>
      rw [ih]
      constructor
      · rintro ⟨front, back, rfl, hnodup, hfresh, hagain⟩
        refine ⟨m :: front, back, rfl, ?_, ?_, ?_⟩
        · exact List.nodup_cons.mpr ⟨fun h => hfresh m h List.mem_cons_self, hnodup⟩
        · exact List.forall_mem_cons.mpr
            ⟨hseen, fun k hk hks => hfresh k hk (List.mem_cons_of_mem m hks)⟩
        · simpa [or_assoc, or_comm, or_left_comm] using hagain
      · rintro ⟨_ | ⟨m', front⟩, back, heq, hnodup, hfresh, hagain⟩
        · cases heq
          simp [hseen] at hagain
        · cases heq
          obtain ⟨hm, hnodup⟩ := List.nodup_cons.mp hnodup
          refine ⟨front, back, rfl, hnodup, fun k hk hks => ?_, ?_⟩
          · rcases List.mem_cons.mp hks with rfl | hks
            · exact hm hk
            · exact hfresh k (List.mem_cons_of_mem _ hk) hks
          · simpa [or_assoc, or_comm, or_left_comm] using hagain

/-- The two requests can be made unless a text holds a zero byte; the first such text refuses the
first request that it is in. -/
theorem requests_cases (c : HarnessConfig) :
    (∃ missing existing, c.texts.find? holdsNul = none ∧ c.missingExecRequest = .ok missing ∧
        c.execRequest = .ok existing) ∨
      ∃ text, c.texts.find? holdsNul = some text ∧
        (c.execRequest >>= fun _ => c.missingExecRequest) = .error (.ofNul (nulIn text)) := by
  unfold texts execRequest missingExecRequest
  rw [List.find?_append]
  obtain ⟨existing, hnone, hexisting⟩ | ⟨text, hsome, hexisting⟩ :=
    ExecRequest.of?_cases c.execTarget c.execArgv c.execEnvp
  · rw [hnone, hexisting]
    -- the arguments and the environment are those of the first request
    have hargs : (c.execArgv ++ c.execEnvp).find? holdsNul = none := by
      rw [List.find?_eq_none] at hnone ⊢
      exact fun text htext => hnone text (List.mem_cons_of_mem _ htext)
    obtain ⟨missing, hnone', hmissing⟩ | ⟨text, hsome', hmissing⟩ :=
      ExecRequest.of?_cases c.missingExecPath c.execArgv c.execEnvp
    · refine .inl ⟨missing, existing, ?_, by rw [hmissing]; rfl, rfl⟩
      cases hpath : holdsNul c.missingExecPath with
      | true => rw [List.find?_cons_of_pos hpath] at hnone'; cases hnone'
      | false => simp [hpath]
    · refine .inr ⟨text, ?_, by rw [hmissing]; rfl⟩
      cases hpath : holdsNul c.missingExecPath with
      | true =>
        rw [List.find?_cons_of_pos hpath] at hsome'
        simpa [hpath] using hsome'
      | false =>
        rw [List.find?_cons_of_neg (by simp [hpath]), hargs] at hsome'
        cases hsome'
  · refine .inr ⟨text, by rw [hsome]; rfl, ?_⟩
    rw [hexisting]
    rfl

/-! ## The first flaw -/

/-- What comes of looking for flaws in turn: the first that the configuration has is told. -/
def Finds (c : HarnessConfig) (flaws : List Flaw) : Except HarnessError Unit → Prop
  | .ok () => ∀ f ∈ flaws, ∀ e, ¬ c.Flawed f e
  | .error e => ∃ before f after, flaws = before ++ f :: after ∧
      (∀ g ∈ before, ∀ e', ¬ c.Flawed g e') ∧ c.Flawed f e

variable {c : HarnessConfig} {f : Flaw} {flaws : List Flaw} {e e' : HarnessError}
  {x : Except HarnessError Unit}

theorem Finds.found (h : c.Flawed f e) : c.Finds (f :: flaws) (.error e) :=
  ⟨[], f, flaws, rfl, by simp, h⟩

theorem Finds.clear (hf : ∀ e, ¬ c.Flawed f e) (h : c.Finds flaws x) : c.Finds (f :: flaws) x := by
  rcases x with e | ⟨⟩
  · obtain ⟨before, g, after, rfl, hbefore, hg⟩ := h
    exact ⟨f :: before, g, after, rfl, List.forall_mem_cons.mpr ⟨hf, hbefore⟩, hg⟩
  · exact List.forall_mem_cons.mpr ⟨hf, h⟩

/-- A check that refuses under a condition finds the flaw that the condition is. -/
theorem Finds.check {p : Prop} [Decidable p] {reason : String}
    {rest : Unit → Except HarnessError Unit}
    (hf : ∀ e, c.Flawed f e ↔ p ∧ e = .config reason) (h : c.Finds flaws (rest ())) :
    c.Finds (f :: flaws) (if p then refuse reason >>= rest else rest ()) := by
  by_cases hp : p
  · rw [if_pos hp]
    exact .found ((hf _).mpr ⟨hp, rfl⟩)
  · rw [if_neg hp]
    exact .clear (fun e he => hp ((hf e).mp he).1) h

theorem flawed_pageSize : c.Flawed .pageSize e ↔ (!isPowerOfTwo c.pageSize) = true ∧
    e = .config ("page size " ++ Text.hex c.pageSize.toNat ++ " is not a power of two") := by
  rw [Bool.not_eq_true', Bool.eq_false_iff, Ne, isPowerOfTwo_iff, not_exists]
  constructor
  · intro h
    cases h with
    | pageSize odd => exact ⟨odd, rfl⟩
  · rintro ⟨odd, rfl⟩
    exact .pageSize odd

theorem flawed_lengths : c.Flawed .lengths e ↔
    (c.mapLengths.isEmpty || c.mapLengths.contains 0) = true ∧
      e = .config "mapping lengths must be non-empty and non-zero" := by
  rw [Bool.or_eq_true, List.isEmpty_iff, List.contains_iff_mem]
  constructor
  · intro h
    cases h with
    | lengths bad => exact ⟨bad, rfl⟩
  · rintro ⟨bad, rfl⟩
    exact .lengths bad

/-- The flaw of a repeated length is told by the length that is met again first. -/
theorem flawed_repetition : c.Flawed .repetition e ↔ ∃ n, firstRepeat [] c.mapLengths = some n ∧
    e = .config ("mapping length " ++ Text.hex n.toNat ++ " is listed more than once") := by
  constructor
  · intro h
    cases h with
    | repetition hlengths hfirst hagain =>
      refine ⟨_, firstRepeat_eq_some.mpr ⟨_, _, hlengths, hfirst, ?_, .inl hagain⟩, rfl⟩
      simp
  · rintro ⟨n, hsome, rfl⟩
    obtain ⟨front, back, hlengths, hfirst, -, hagain⟩ := firstRepeat_eq_some.mp hsome
    exact .repetition hlengths hfirst (by simpa using hagain)

theorem flawed_timeouts : c.Flawed .timeouts e ↔
    (c.waitTimeout.isZero || c.joinTimeout.isZero) = true ∧
      e = .config "wait timeouts must be non-zero" := by
  rw [Bool.or_eq_true, Duration.isZero_iff, Duration.isZero_iff]
  constructor
  · intro h
    cases h with
    | timeouts none => exact ⟨none, rfl⟩
  · rintro ⟨none, rfl⟩
    exact .timeouts none

theorem flawed_paths : c.Flawed .paths e ↔ c.execTarget = c.missingExecPath ∧
    e = .config ("exec target and missing path are both " ++ c.execTarget) := by
  constructor
  · intro h
    cases h with
    | paths same => exact ⟨same, rfl⟩
  · rintro ⟨same, rfl⟩
    exact .paths same

theorem flawed_slots : c.Flawed .slots e ↔
    c.tlsSlots.contains ThreadAreaDescriptor.autoAssign = true ∧
      e = .config "TLS slot range must not contain the auto-assign sentinel" := by
  rw [SlotRange.contains_autoAssign]
  constructor
  · intro h
    cases h with
    | slots reserved => exact ⟨reserved, rfl⟩
  · rintro ⟨reserved, rfl⟩
    exact .slots reserved

/-- The flaw of a zero byte is told by the first text that holds one. -/
theorem flawed_nul : c.Flawed .nul e ↔ ∃ text, c.texts.find? holdsNul = some text ∧
    e = .config ("interior NUL byte in argument: "
      ++ ("nul byte found in provided data at position: "
        ++ Text.decimal ((Text.encode text).idxOf 0))) := by
  constructor
  · intro h
    cases h with
    | nul first => exact ⟨_, first, rfl⟩
  · rintro ⟨text, first, rfl⟩
    exact .nul first

/-- A flaw is told in one way only. -/
theorem Flawed.functional (h : c.Flawed f e) (h' : c.Flawed f e') : e = e' := by
  cases f with
  | repetition =>
    obtain ⟨n, hsome, rfl⟩ := flawed_repetition.mp h
    obtain ⟨n', hsome', rfl⟩ := flawed_repetition.mp h'
    rw [Option.some.inj (hsome.symm.trans hsome')]
  | nul =>
    obtain ⟨text, hsome, rfl⟩ := flawed_nul.mp h
    obtain ⟨text', hsome', rfl⟩ := flawed_nul.mp h'
    rw [Option.some.inj (hsome.symm.trans hsome')]
  | _ =>
    cases h
    cases h'
    rfl

/-- Looking for flaws in turn comes to one thing only. -/
theorem Finds.functional {x' : Except HarnessError Unit} (h : c.Finds flaws x)
    (h' : c.Finds flaws x') : x = x' := by
  rcases x with e | ⟨⟩ <;> rcases x' with e' | ⟨⟩
  · obtain ⟨before, f, after, rfl, hbefore, hf⟩ := h
    obtain ⟨before', f', after', heq, hbefore', hf'⟩ := h'
    -- of two first flaws neither stands in front of the other
    rcases List.append_eq_append_iff.mp heq with
      ⟨_ | ⟨g, mid⟩, rfl, hmid⟩ | ⟨_ | ⟨g, mid⟩, rfl, hmid⟩
    · cases hmid
      rw [hf.functional hf']
    · cases hmid
      exact (hbefore' f (by simp) e hf).elim
    · cases hmid
      rw [hf.functional hf']
    · cases hmid
      exact (hbefore f' (by simp) e' hf').elim
  · obtain ⟨before, f, after, rfl, -, hf⟩ := h
    exact (h' f (by simp) e hf).elim
  · obtain ⟨before, f, after, rfl, -, hf⟩ := h'
    exact (h f (by simp) e' hf).elim
  · rfl

/-- The checks look for the flaws in their order. -/
theorem validate_finds (c : HarnessConfig) : c.Finds Flaw.all c.validate := by
  unfold validate
  refine .check (fun _ => flawed_pageSize) (.check (fun _ => flawed_lengths) ?_)
  cases hrepeat : firstRepeat [] c.mapLengths with
  | some n => exact .found (flawed_repetition.mpr ⟨n, hrepeat, rfl⟩)
  | none =>
    refine .clear (fun e he => ?_) (.check (fun _ => flawed_timeouts)
      (.check (fun _ => flawed_paths) (.check (fun _ => flawed_slots) ?_)))
    · obtain ⟨n, hsome, -⟩ := flawed_repetition.mp he
      cases hrepeat.symm.trans hsome
    -- what is left is to make the two requests, that for the existing program first
    show c.Finds [.nul] (c.execRequest >>= fun _ => c.missingExecRequest >>= fun _ => pure ())
    obtain ⟨missing, existing, hnone, hmissing, hexisting⟩ | ⟨text, hsome, herror⟩ :=
      c.requests_cases
    · rw [hexisting, hmissing]
      intro f hf e he
      rw [List.mem_singleton.mp hf] at he
      obtain ⟨text, hsome, -⟩ := flawed_nul.mp he
      cases hnone.symm.trans hsome
    · rw [← bind_assoc, herror]
      exact .found (flawed_nul.mpr ⟨text, hsome, rfl⟩)

/-! ## What is accepted -/

/-- A configuration is sensible if and only if it has no flaw. -/
theorem sensible_iff : c.Sensible ↔ ∀ f ∈ Flaw.all, ∀ e, ¬ c.Flawed f e := by
  constructor
  · intro h f _ e he
    cases he with
    | pageSize odd =>
      obtain ⟨k, hk⟩ := h.pageSize
      exact odd k hk
    | lengths bad => exact bad.elim h.lengths.1 h.lengths.2
    | repetition hlengths first again =>
      have hdistinct := h.distinct
      rw [hlengths, List.nodup_middle, List.nodup_cons] at hdistinct
      exact hdistinct.1 (List.mem_append_left _ again)
    | timeouts none => exact none.elim h.timeouts.1 h.timeouts.2
    | paths same => exact h.paths same
    | slots reserved => exact h.slots reserved
    | nul first =>
      refine h.readable _ (List.mem_of_find?_eq_some first) ?_
      simpa [holdsNul] using List.find?_some first
  · intro h
    have hno {f : Flaw} (hf : f ∈ Flaw.all) {e : HarnessError} : ¬ c.Flawed f e := h f hf e
    refine ⟨?_, ?_, ?_, ?_, ?_, ?_, ?_⟩
    · by_contra hodd
      exact hno (by simp [Flaw.all]) (.pageSize (not_exists.mp hodd))
    · exact not_or.mp fun hbad => hno (by simp [Flaw.all]) (.lengths hbad)
    · cases hrepeat : firstRepeat [] c.mapLengths with
      | none => exact (firstRepeat_eq_none.mp hrepeat).1
      | some n => exact (hno (by simp [Flaw.all]) (flawed_repetition.mpr ⟨n, hrepeat, rfl⟩)).elim
    · exact not_or.mp fun hnone => hno (by simp [Flaw.all]) (.timeouts hnone)
    · exact fun hsame => hno (by simp [Flaw.all]) (.paths hsame)
    · exact fun hreserved => hno (by simp [Flaw.all]) (.slots hreserved)
    · cases hfirst : c.texts.find? holdsNul with
      | none => simpa [holdsNul] using List.find?_eq_none.mp hfirst
      | some text => exact (hno (by simp [Flaw.all]) (.nul hfirst)).elim

theorem validate_eq_ok : c.validate = .ok () ↔ c.Sensible := by
  rw [sensible_iff]
  constructor
  · intro h
    have hfinds := c.validate_finds
    rwa [h] at hfinds
  · intro h
    exact c.validate_finds.functional h

theorem validate_eq_error : c.validate = .error e ↔ ∃ before f after,
    Flaw.all = before ++ f :: after ∧ (∀ g ∈ before, ∀ e', ¬ c.Flawed g e') ∧ c.Flawed f e := by
  constructor
  · intro h
    have hfinds := c.validate_finds
    rwa [h] at hfinds
  · intro h
    exact c.validate_finds.functional h

/-- The standard battery is set up for the configurations that are accepted, and is refused for the
reason for which the others are. -/
theorem standard_eq_validate (c : HarnessConfig) :
    (Battery.standard c).map (fun _ => ()) = c.validate := by
  unfold Battery.standard requests
  cases hvalidate : c.validate with
  | error e => rfl
  | ok =>
    obtain ⟨missing, existing, -, hmissing, hexisting⟩ | ⟨text, hsome, -⟩ := c.requests_cases
    · rw [hmissing, hexisting]
      rfl
    · exact (sensible_iff.mp (validate_eq_ok.mp hvalidate) _ (by simp [Flaw.all]) _
        (.nul hsome)).elim

/-- A configuration is accepted if and only if it is sensible, and else refused for the first of its
flaws, in the words for that flaw. The standard battery is set up for the configurations that are
accepted, and is refused for the reason for which the others are. -/
theorem validate_decides (c : HarnessConfig) :
    (c.validate = .ok () ↔ c.Sensible) ∧
    (∀ e, c.validate = .error e ↔ ∃ before f after, Flaw.all = before ++ f :: after ∧
      (∀ g ∈ before, ∀ e', ¬ c.Flawed g e') ∧ c.Flawed f e) ∧
    ((∃ b, Battery.standard c = .ok b) ↔ c.validate = .ok ()) ∧
    ∀ e, Battery.standard c = .error e ↔ c.validate = .error e := by
  refine ⟨validate_eq_ok, fun e => validate_eq_error, ?_, fun e => ?_⟩
  · rw [← standard_eq_validate]
    cases Battery.standard c <;> simp [Except.map]
  · rw [← standard_eq_validate]
    cases Battery.standard c <;> simp [Except.map]

example : HarnessConfig.validate { execEnvp := ["K=é\x00", "L\x00"], missingExecPath := "\x00" }
    = .error (.config ("interior NUL byte in argument: "
        ++ "nul byte found in provided data at position: 4")) := by decide +kernel

end HarnessConfig

end KernelProbe
