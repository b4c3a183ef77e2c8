import KernelProbe.Text.Utf8

/-!
# Bytes of a text

In UTF-8 the bytes below 0x80 stand for themselves: one is found in the bytes of a text only if the
text has that character. So a text without control characters has no control bytes either.
-/

namespace KernelProbe.Text

/-- A byte of a character is the character itself or none of ASCII. -/
theorem mem_utf8EncodeChar {c : Char} {b : UInt8} (h : b ∈ String.utf8EncodeChar c) :
    b.toNat = c.toNat ∨ 0x80 ≤ b.toNat := by
  have hc : c.toNat = c.val.toNat := rfl
  unfold String.utf8EncodeChar at h
  dsimp only at h
  split at h
  next hascii =>
    rw [List.mem_singleton.mp h, UInt8.toNat_ofNat']
    omega
  next =>
    -- every byte of a longer form has its top bit set
    refine .inr ?_
    split at h
    · simp only [List.mem_cons, List.not_mem_nil, or_false] at h
      rcases h with rfl | rfl <;> rw [UInt8.toNat_ofNat'] <;> omega
    · split at h <;> simp only [List.mem_cons, List.not_mem_nil, or_false] at h
      · rcases h with rfl | rfl | rfl <;> rw [UInt8.toNat_ofNat'] <;> omega
      · rcases h with rfl | rfl | rfl | rfl <;> rw [UInt8.toNat_ofNat'] <;> omega

/-- Only the zero character has a zero byte. -/
theorem zero_mem_utf8EncodeChar {c : Char} : 0 ∈ String.utf8EncodeChar c ↔ c = '\x00' := by
  constructor
  · intro h
    rcases mem_utf8EncodeChar h with heq | hhigh
    · exact Char.ext (UInt32.toNat_inj.mp heq.symm)
    · exact absurd hhigh (by decide)
  · rintro rfl
    decide

/-- A text without control characters has no control bytes. -/
theorem le_of_mem_encode {s : String} (hs : ∀ c ∈ s.toList, 0x20 ≤ c.toNat) {b : UInt8}
    (h : b ∈ encode s) : 0x20 ≤ b := by
  obtain ⟨c, hc, hb⟩ := List.mem_flatMap.mp h
  rw [UInt8.le_iff_toNat_le]
  rcases mem_utf8EncodeChar hb with heq | hhigh
  · rw [heq]
    exact hs c hc
  · exact Nat.le_trans (by decide) hhigh

end KernelProbe.Text
