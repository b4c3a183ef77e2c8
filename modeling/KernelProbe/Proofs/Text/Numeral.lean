import KernelProbe.Text.Numeral

/-!
# Numerals tell numbers apart

Two numbers with the same digits in base sixteen are the same.
-/

namespace KernelProbe.Text

theorem digitChar_inj {m n : Nat} (hm : m < 16) (hn : n < 16) (h : m.digitChar = n.digitChar) :
    m = n := by
  have hall : ∀ i < 16, ∀ k < 16, Nat.digitChar i = Nat.digitChar k → i = k := by decide
  exact hall m hm n hn h

theorem toDigits_inj {m n : Nat} (h : Nat.toDigits 16 m = Nat.toDigits 16 n) : m = n := by
  induction m using Nat.strongRecOn generalizing n with
  | ind m ih =>
    rw [Nat.toDigits_eq_if (by decide), Nat.toDigits_eq_if (n := n) (by decide)] at h
    by_cases hm : m < 16 <;> by_cases hn : n < 16
    · rw [if_pos hm, if_pos hn] at h
      exact digitChar_inj hm hn (List.cons.inj h).1
    · rw [if_pos hm, if_neg hn] at h
      have hlength := congrArg List.length h
      simp at hlength
    · rw [if_neg hm, if_pos hn] at h
      have hlength := congrArg List.length h
      simp at hlength
    · rw [if_neg hm, if_neg hn] at h
      obtain ⟨hfront, hlast⟩ := List.append_inj' h rfl
      have hquotient := ih (m / 16) (by omega) hfront
      have hrest := digitChar_inj (m := m % 16) (n := n % 16) (by omega) (by omega)
        (List.cons.inj hlast).1
      omega

theorem hex_inj {m n : Nat} (h : hex m = hex n) : m = n := by
  have hdigits := congrArg String.toList h
  rw [toList_hex, toList_hex] at hdigits
  exact toDigits_inj (List.cons.inj (List.cons.inj hdigits).2).2

theorem hex_toNat_inj {m n : UInt64} : hex m.toNat = hex n.toNat ↔ m = n :=
  ⟨fun h => UInt64.toNat_inj.mp (hex_inj h), fun h => h ▸ rfl⟩

end KernelProbe.Text
