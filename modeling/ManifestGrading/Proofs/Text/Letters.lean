import Mathlib.Logic.Basic

/-! The letters from A to Z in either case. What holds of the 128 characters of ASCII, one after the other, and of all
that have no case of this sort, holds of every character. -/

namespace ManifestGrading.Text

variable {c : Char}

theorem toUpper_eq_self (h : 128 ≤ c.toNat) : c.toUpper = c := by
  refine dif_neg fun hlower => ?_
  have hle : c.toNat ≤ 122 := UInt32.le_iff_toNat_le.1 hlower.2
  omega

theorem toLower_eq_self (h : 128 ≤ c.toNat) : c.toLower = c := by
  refine dif_neg fun hupper => ?_
  have hle : c.toNat ≤ 90 := UInt32.le_iff_toNat_le.1 hupper.2
  omega

theorem forall_of_ascii {p : Char → Prop} (hascii : ∀ n ∈ List.range 128, p (Char.ofNat n))
    (hbeyond : ∀ c : Char, 128 ≤ c.toNat → p c) (c : Char) : p c := by
  rcases Nat.lt_or_ge c.toNat 128 with h | h
  · exact Char.ofNat_toNat c ▸ hascii c.toNat (List.mem_range.2 h)
  · exact hbeyond c h

theorem toLower_toUpper (c : Char) : c.toUpper.toLower = c.toLower :=
  forall_of_ascii (p := fun c => c.toUpper.toLower = c.toLower) (by decide +kernel)
    (fun _ h => by rw [toUpper_eq_self h]) c

theorem toUpper_toLower (c : Char) : c.toLower.toUpper = c.toUpper :=
  forall_of_ascii (p := fun c => c.toLower.toUpper = c.toUpper) (by decide +kernel)
    (fun _ h => by rw [toLower_eq_self h]) c

theorem toList_toLower (s : String) : s.toLower.toList = s.toList.map Char.toLower := String.toList_map

end ManifestGrading.Text
