import Mathlib.Algebra.BigOperators.Group.List.Basic
import Mathlib.Algebra.GroupWithZero.Nat
import ManifestGrading.Grade

/-! Groups of grades. The worst grade of a group is the least of its values; a threshold is reached by the worst grade
if it is reached by any; and counting the grades one by one counts all of them. -/

namespace ManifestGrading.Grade

theorem name_injective {a b : Grade} (h : a.name = b.name) : a = b := by
  cases a <;> cases b <;> simp_all [name]

/-- Of several grades and the best one, which is that of no grades at all, the worst one reaches a threshold if any of
them does. -/
theorem worst_le_iff {t : Grade} {gs : List Grade} : worst gs ≤ t ↔ (∃ g ∈ gs, g ≤ t) ∨ t = allOk := by
  induction gs with
  | nil => cases t <;> decide
  | cons g rest ih =>
      have hworse : worse g (worst rest) ≤ t ↔ g ≤ t ∨ worst rest ≤ t := by
        unfold worse
        split
        · next hle => exact ⟨Or.inl, fun h => h.elim id fun h => le_trans hle h⟩
        · next hle => exact ⟨Or.inr, fun h => h.elim (le_trans ((le_total g _).resolve_left hle)) id⟩
      rw [worst, hworse, ih, List.exists_mem_cons_iff, or_assoc]

theorem worst_mem {gs : List Grade} (h : gs ≠ []) : worst gs ∈ gs := by
  rcases worst_le_iff.1 (le_refl (worst gs)) with ⟨g, hg, hle⟩ | hbest
  · exact le_antisymm hle (worst_le hg) ▸ hg
  · -- where the worst grade is the best one, all grades are
    obtain ⟨g, hg⟩ := List.exists_mem_of_ne_nil gs h
    have hg' : g = worst gs := le_antisymm (hbest ▸ le_allOk g) (worst_le hg)
    exact hg' ▸ hg

theorem worst_eq_of_perm {gs hs : List Grade} (h : gs.Perm hs) : worst gs = worst hs := by
  apply le_antisymm
  · exact le_worst_iff.2 fun g hg => worst_le (h.symm.subset hg)
  · exact le_worst_iff.2 fun g hg => worst_le (h.subset hg)

/-- The value of the worst grade of a group is the least value in it. -/
theorem min?_map_value {gs : List Grade} (h : gs ≠ []) : (gs.map value).min? = some (worst gs).value := by
  rw [List.min?_eq_some_iff]
  refine ⟨List.mem_map_of_mem (worst_mem h), fun n hn => ?_⟩
  obtain ⟨g, hg, rfl⟩ := List.mem_map.1 hn
  exact worst_le hg

/-- There are as many grades up to a threshold as there are of each of them together. -/
theorem sum_count_le (t : Grade) (gs : List Grade) :
    ((all.filter (· ≤ t)).map fun g => gs.count g).sum = gs.countP (· ≤ t) := by
  induction gs with
  | nil => cases t <;> rfl
  | cons a rest ih =>
      have hone : ((all.filter (· ≤ t)).map fun g => if a = g then 1 else 0).sum = if a ≤ t then 1 else 0 := by
        cases a <;> cases t <;> rfl
      simp only [List.count_cons, List.countP_cons, beq_iff_eq, List.sum_map_add, ih, hone, decide_eq_true_eq]

theorem sum_count (gs : List Grade) : (all.map fun g => gs.count g).sum = gs.length := by
  have hall : gs.countP (· ≤ allOk) = gs.length := List.countP_eq_length.2 fun g _ => by simpa using le_allOk g
  rw [← hall, ← sum_count_le]
  rfl

end ManifestGrading.Grade
