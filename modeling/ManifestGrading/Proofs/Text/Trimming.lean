import Mathlib.Data.List.DropRight
import ManifestGrading.Proofs.Text.Halves

/-! Texts without the blanks at their ends. What is left begins and ends with code points that are not blank, so that a
second removal finds nothing; blanks that are put around a text go away with its own; and the removal takes nothing
from the middle. A text with a half of a pair in it keeps the half, since no half is blank. -/

namespace ManifestGrading.RawText

variable {ps before behind : List CodePoint}

theorem trimStart_append_of_blank (h : ∀ p ∈ before, isBlank p) (ps : List CodePoint) :
    trimStart (before ++ ps) = trimStart ps := List.dropWhile_append_of_pos h

theorem trimEnd_append_of_blanks (ps : List CodePoint) (h : ∀ p ∈ behind, isBlank p) :
    trimEnd (ps ++ behind) = trimEnd ps := by
  rw [trimEnd, List.reverse_append, List.dropWhile_append_of_pos fun p hp => h p (List.mem_reverse.1 hp), ← trimEnd]

/-- Behind a code point that is not blank, the end of a text is trimmed as if it stood alone. -/
theorem trimEnd_append_cons {p : CodePoint} (h : isBlank p = false) (front rest : List CodePoint) :
    trimEnd (front ++ p :: rest) = front ++ p :: trimEnd rest := by
  have hfront : (p :: front.reverse).dropWhile isBlank = p :: front.reverse := by simp [h]
  have hreverse : (front ++ p :: rest).reverse = rest.reverse ++ p :: front.reverse := by simp
  rw [trimEnd, trimEnd, hreverse, List.dropWhile_append, hfront]
  by_cases hnil : rest.reverse.dropWhile isBlank = []
  · simp [hnil]
  · simp [hnil]

/-- A text with a code point that is not blank in it is trimmed on both sides of it. -/
theorem trim_append_cons {p : CodePoint} (h : isBlank p = false) (front rest : List CodePoint) :
    trim ⟨front ++ p :: rest⟩ = ⟨trimStart front ++ p :: trimEnd rest⟩ := by
  have hstart : trimStart (front ++ p :: rest) = trimStart front ++ p :: rest := by
    rw [trimStart, trimStart, List.dropWhile_append]
    by_cases hnil : front.dropWhile isBlank = [] <;> simp [hnil, h]
  rw [trim, hstart, trimEnd_append_cons h]

theorem trim_of_blanks (h : ∀ p ∈ ps, isBlank p) : trim ⟨ps⟩ = ofString "" := by
  rw [trim, trimStart, List.dropWhile_eq_nil_iff.2 h]
  rfl

theorem trim_padded {front back : RawText} (hfront : ∀ p ∈ front.points, isBlank p) (t : RawText)
    (hback : ∀ p ∈ back.points, isBlank p) : trim (front ++ t ++ back) = trim t := by
  have hstart : trimStart (front ++ t ++ back).points = trimStart (t.points ++ back.points) := by
    rw [points_append, points_append, List.append_assoc, trimStart_append_of_blank hfront]
  rw [trim, hstart, trimStart, List.dropWhile_append]
  split
  · next hnil =>
    rw [List.isEmpty_iff] at hnil
    rw [List.dropWhile_eq_nil_iff.2 hback, trim, trimStart, hnil]
  · rw [trimEnd_append_of_blanks _ hback, trim, trimStart]

theorem trim_trim (t : RawText) : t.trim.trim = t.trim := by
  obtain ⟨ps⟩ := t
  by_cases hblank : ∀ p ∈ ps, isBlank p
  · rw [trim_of_blanks hblank]
    rfl
  · -- on both sides of a code point that is not blank, nothing is left for a second removal
    obtain ⟨p, hp, hnot⟩ := not_forall₂.1 hblank
    obtain ⟨front, rest, rfl⟩ := List.append_of_mem hp
    have hvisible : isBlank p = false := by simpa using hnot
    have hstart : trimStart (trimStart front) = trimStart front := List.dropWhile_idempotent isBlank front
    have hend : trimEnd (trimEnd rest) = trimEnd rest := List.rdropWhile_idempotent isBlank rest
    rw [trim_append_cons hvisible, trim_append_cons hvisible, hstart, hend]

theorem trimEnd_sublist (ps : List CodePoint) : (trimEnd ps).Sublist ps :=
  (List.rdropWhile_prefix isBlank (l := ps)).sublist

theorem trim_sublist (t : RawText) : t.trim.points.Sublist t.points :=
  (trimEnd_sublist _).trans (List.dropWhile_sublist isBlank)

/-- A text is a string without its blanks exactly if it is one with them. -/
theorem string?_trim (t : RawText) : t.trim.string? = t.string?.map Text.trim := by
  cases hs : t.string? with
  | some s => rw [eq_ofString_of_string? hs, trim_ofString, string?_ofString, Option.map_some]
  | none =>
      obtain ⟨place, hplace⟩ := string?_eq_none_iff.1 hs
      refine string?_eq_none_iff.2 ⟨place, ?_⟩
      have hkept {ps : List CodePoint} (hmem : CodePoint.half place ∈ ps) :
          CodePoint.half place ∈ ps.dropWhile isBlank := by
        obtain ⟨front, rest, rfl⟩ := List.append_of_mem hmem
        rw [List.dropWhile_append]
        split <;> simp [isBlank, CodePoint.char?]
      exact List.mem_reverse.2 (hkept (List.mem_reverse.2 (hkept hplace)))

end ManifestGrading.RawText
