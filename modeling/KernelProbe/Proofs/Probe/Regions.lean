import KernelProbe.Probe.Memory

/-!
# Live mappings

`Regions` is a list sorted by length with one entry for a length (`Regions.Sorted`). Keeping a
mapping under a new length adds one entry (`perm_insert`), releasing one takes its entry out
(`perm_erase`), and both leave the mappings of other lengths as they are.
-/

namespace KernelProbe.Memory.Regions

variable {regions : Regions} {length key : UInt64} {region : MemoryRegion}

/-- The lengths ascend. -/
def Sorted (regions : Regions) : Prop := regions.Pairwise fun x y => x.1 < y.1

theorem find?_cons (live : UInt64 × MemoryRegion) :
    find? length (live :: regions)
      = if length = live.1 then some live.2 else find? length regions := by
  rw [find?, List.lookup_cons]
  by_cases hkey : length = live.1
  · rw [if_pos hkey, hkey, BEq.rfl]
  · rw [if_neg hkey, beq_false_of_ne hkey, find?]

theorem mem_of_find? (h : find? length regions = some region) : (length, region) ∈ regions := by
  induction regions with
  | nil => cases h
  | cons live regions ih =>
    rw [find?_cons] at h
    split at h
    next hkey =>
      cases h
      rw [hkey]
      exact List.mem_cons_self
    next => exact List.mem_cons_of_mem live (ih h)

theorem find?_eq_none : find? length regions = none ↔ ∀ live ∈ regions, live.1 ≠ length := by
  induction regions with
  | nil => simp [find?]
  | cons live regions ih =>
    rw [find?_cons, List.forall_mem_cons, ← ih, ne_comm]
    split
    next hkey => simp [hkey]
    next hkey => simp [hkey]

/-! ## Keeping -/

@[simp] theorem find?_insert_self : find? length (insert length region regions) = some region := by
  induction regions with
  | nil => simp [insert, find?_cons]
  | cons live regions ih =>
    unfold insert
    by_cases hlt : length < live.1
    · simp [hlt, find?_cons]
    · by_cases hkey : length = live.1
      · simp [hkey, find?_cons]
      · simp [hlt, hkey, find?_cons, ih]

theorem find?_insert_of_ne (h : key ≠ length) :
    find? key (insert length region regions) = find? key regions := by
  induction regions with
  | nil => simp [insert, find?_cons, h]
  | cons live regions ih =>
    unfold insert
    by_cases hlt : length < live.1
    · simp [hlt, find?_cons, h]
    · by_cases hkey : length = live.1
      · simp [find?_cons, ← hkey, h]
      · simp [hlt, hkey, find?_cons, ih]

/-- Under a new length, one entry comes in. -/
theorem perm_insert (h : find? length regions = none) :
    (insert length region regions).Perm ((length, region) :: regions) := by
  induction regions with
  | nil => exact .refl _
  | cons live regions ih =>
    rw [find?_cons] at h
    unfold insert
    by_cases hlt : length < live.1
    · rw [if_pos hlt]
    · by_cases hkey : length = live.1
      · rw [if_pos hkey] at h
        cases h
      · rw [if_neg hkey] at h
        rw [if_neg hlt, if_neg hkey]
        -- the entry passes the head of the list on its way in
        exact ((ih h).cons live).trans (.swap ..)

theorem sorted_insert (hsorted : Sorted regions) (h : find? length regions = none) :
    Sorted (insert length region regions) := by
  induction regions with
  | nil => exact List.pairwise_singleton ..
  | cons live regions ih =>
    obtain ⟨hlive, hrest⟩ := List.pairwise_cons.mp hsorted
    rw [find?_cons] at h
    unfold insert
    by_cases hlt : length < live.1
    · rw [if_pos hlt]
      refine List.pairwise_cons.mpr ⟨fun x hx => ?_, hsorted⟩
      rcases List.mem_cons.mp hx with rfl | hx
      · exact hlt
      · exact UInt64.lt_trans hlt (hlive x hx)
    · by_cases hkey : length = live.1
      · rw [if_pos hkey] at h
        cases h
      · rw [if_neg hkey] at h
        rw [if_neg hlt, if_neg hkey]
        refine List.pairwise_cons.mpr ⟨fun x hx => ?_, ih hrest h⟩
        rcases List.mem_cons.mp ((perm_insert h).mem_iff.mp hx) with rfl | hx
        · exact (UInt64.lt_or_lt_of_ne hkey).resolve_left hlt
        · exact hlive x hx

/-! ## Releasing -/

@[simp] theorem find?_erase_self : find? length (erase length regions) = none := by
  rw [find?_eq_none]
  intro live hlive
  simpa using (List.mem_filter.mp hlive).2

theorem find?_erase_of_ne (h : key ≠ length) :
    find? key (erase length regions) = find? key regions := by
  induction regions with
  | nil => rfl
  | cons live regions ih =>
    rw [erase] at ih ⊢
    by_cases hkey : live.1 = length
    · rw [List.filter_cons_of_neg (by simp [hkey]), ih, find?_cons, if_neg (hkey ▸ h)]
    · rw [List.filter_cons_of_pos (by simp [hkey]), find?_cons, find?_cons, ih]

theorem sorted_erase (hsorted : Sorted regions) : Sorted (erase length regions) := hsorted.filter _

/-- Releasing a mapping takes one entry out. -/
theorem perm_erase (hsorted : Sorted regions) (h : find? length regions = some region) :
    regions.Perm ((length, region) :: erase length regions) := by
  induction regions with
  | nil => cases h
  | cons live regions ih =>
    obtain ⟨hlive, hrest⟩ := List.pairwise_cons.mp hsorted
    rw [find?_cons] at h
    rw [erase]
    split at h
    next hkey =>
      cases h
      -- the lengths behind are greater, so that nothing else goes
      have hkept : regions.filter (·.1 != length) = regions := by
        rw [List.filter_eq_self]
        intro x hx
        have hlt := hlive x hx
        rw [← hkey] at hlt
        simpa using (UInt64.ne_of_lt hlt).symm
      rw [List.filter_cons_of_neg (by simp [hkey]), hkept, hkey]
    next hkey =>
      rw [List.filter_cons_of_pos (by simpa using Ne.symm hkey)]
      exact ((ih hrest h).cons live).trans (.swap ..)

/-- An entry splits sorted mappings into those of smaller and those of greater lengths. -/
theorem filter_of_sorted {before after : Regions} {live : UInt64 × MemoryRegion}
    (hsorted : Sorted (before ++ live :: after)) :
    (before ++ live :: after).filter (·.1 ≤ live.1) = before ++ [live] ∧
      (before ++ live :: after).filter (live.1 < ·.1) = after := by
  obtain ⟨-, hafter, hbefore⟩ := List.pairwise_append.mp hsorted
  obtain ⟨hlive, -⟩ := List.pairwise_cons.mp hafter
  have hsmaller : ∀ x ∈ before, x.1 < live.1 := fun x hx => hbefore x hx live List.mem_cons_self
  constructor
  · have hnone : after.filter (·.1 ≤ live.1) = [] := by
      rw [List.filter_eq_nil_iff]
      intro x hx
      simpa using hlive x hx
    rw [List.filter_append, List.filter_cons_of_pos (by simp), hnone, List.append_left_inj,
      List.filter_eq_self]
    intro x hx
    simpa using UInt64.le_of_lt (hsmaller x hx)
  · have hnone : before.filter (live.1 < ·.1) = [] := by
      rw [List.filter_eq_nil_iff]
      intro x hx
      simpa using UInt64.le_of_lt (hsmaller x hx)
    rw [List.filter_append, List.filter_cons_of_neg (by simp), hnone, List.nil_append,
      List.filter_eq_self]
    intro x hx
    simpa using hlive x hx

end KernelProbe.Memory.Regions
