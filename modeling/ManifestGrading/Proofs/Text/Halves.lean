import Mathlib.Data.List.TakeWhile
import ManifestGrading.Text.Utf8

/-! Texts with halves of pairs in them. They are no strings, and they are the only texts that cannot be written in
UTF-8. -/

namespace ManifestGrading

namespace RawText

theorem eq_ofString_of_string? {t : RawText} {s : String} (h : t.string? = some s) : t = ofString s := by
  have hpoints {ps : List CodePoint} {cs : List Char} (hcs : ps.mapM CodePoint.char? = some cs) :
      ps = cs.map CodePoint.char := by
    induction ps generalizing cs with
    | nil =>
        obtain rfl := Option.some.inj hcs
        rfl
    | cons p rest ih =>
        rw [List.mapM_cons] at hcs
        obtain ⟨c, hc, hcs⟩ := Option.bind_eq_some_iff.1 hcs
        obtain ⟨more, hmore, hcs⟩ := Option.bind_eq_some_iff.1 hcs
        obtain rfl := Option.some.inj hcs
        cases p with
        | char d =>
            obtain rfl := Option.some.inj hc
            rw [List.map_cons, ← ih hmore]
        | half place => cases hc
  obtain ⟨cs, hcs, rfl⟩ := Option.map_eq_some_iff.1 h
  refine RawText.ext ?_
  rw [hpoints hcs, points_ofString, String.toList_ofList]

theorem string?_eq_none_iff {t : RawText} : t.string? = none ↔ ∃ place, CodePoint.half place ∈ t.points := by
  obtain ⟨points⟩ := t
  rw [string?, Option.map_eq_none_iff]
  induction points with
  | nil => simp
  | cons p rest ih =>
      cases p with
      | half place =>
          simp only [List.mem_cons, List.mapM_cons]
          exact iff_of_true rfl ⟨place, Or.inl rfl⟩
      | char c =>
          have hstep : (CodePoint.char c :: rest).mapM CodePoint.char? =
              (rest.mapM CodePoint.char?).map (c :: ·) := by
            rw [List.mapM_cons]
            cases rest.mapM CodePoint.char? <;> rfl
          rw [hstep, Option.map_eq_none_iff, ih]
          simp

end RawText

namespace Text.Utf8

/-- The texts that can be written in UTF-8 are the strings. -/
theorem encode_eq_ok_iff {t : RawText} {bytes : List UInt8} :
    encode t = .ok bytes ↔ ∃ s, t.string? = some s ∧ bytes = s.toUTF8.toList := by
  constructor
  · intro h
    simp only [encode] at h
    split at h
    · next hdrop =>
      have hleading : t.points.takeWhile (fun p => !p.isHalf) <+: t.points := List.takeWhile_prefix _
      have hwhole := hleading.eq_of_length_le (List.drop_eq_nil_iff.1 hdrop)
      have hpoint : ∀ p ∈ t.points, CodePoint.char p.shown = p := by
        intro p hp
        have hchar : (!p.isHalf) = true := List.takeWhile_eq_self_iff.1 hwhole p hp
        cases p with
        | char c => rfl
        | half place => cases hchar
      have hshown : t = RawText.ofString t.shown := by
        refine RawText.ext ?_
        rw [RawText.points_ofString, RawText.shown, String.toList_ofList, RawText.chars, List.map_map]
        exact ((List.map_congr_left hpoint).trans (List.map_id _)).symm
      refine ⟨t.shown, ?_, ?_⟩
      · rw [hshown, RawText.string?_ofString, RawText.shown_ofString]
      · exact (Except.ok.inj h).symm
    · cases h
  · rintro ⟨s, hs, rfl⟩
    rw [RawText.eq_ofString_of_string? hs]
    have hall : (RawText.ofString s).points.takeWhile (fun p => !p.isHalf) = (RawText.ofString s).points := by
      rw [List.takeWhile_eq_self_iff, RawText.points_ofString]
      simp [CodePoint.isHalf, CodePoint.char?]
    simp only [encode, hall, List.drop_length, RawText.shown_ofString]

theorem exists_encode_error_iff {t : RawText} : (∃ fault, encode t = .error fault) ↔ t.string? = none := by
  cases h : encode t with
  | ok bytes =>
      obtain ⟨s, hs, _⟩ := encode_eq_ok_iff.1 h
      simp [hs]
  | error fault =>
      refine iff_of_true ⟨fault, rfl⟩ ?_
      cases hs : t.string? with
      | none => rfl
      | some s => cases h.symm.trans (encode_eq_ok_iff.2 ⟨s, hs, rfl⟩)

/-- Either all of several texts are strings, and are written, or those before the first that is none. -/
theorem writeEach_cases (texts : List RawText) :
    (∃ lines : List String, texts = lines.map RawText.ofString ∧ writeEach texts = (lines, none)) ∨
      ∃ (lines : List String) (text : RawText) (behind : List RawText) (fault : WritingFault),
        texts = lines.map RawText.ofString ++ text :: behind ∧ encode text = .error fault ∧
          writeEach texts = (lines, some fault) := by
  induction texts with
  | nil => exact Or.inl ⟨[], rfl, rfl⟩
  | cons text rest ih =>
      cases hencode : encode text with
      | error fault => exact Or.inr ⟨[], text, rest, fault, rfl, hencode, by rw [writeEach, hencode]⟩
      | ok bytes =>
          obtain ⟨s, hs, _⟩ := encode_eq_ok_iff.1 hencode
          have htext := RawText.eq_ofString_of_string? hs
          have hfirst (lines : List String) (fault : Option WritingFault) (h : writeEach rest = (lines, fault)) :
              writeEach (text :: rest) = (s :: lines, fault) := by
            rw [writeEach, hencode, h, htext, RawText.shown_ofString]
          rcases ih with ⟨lines, hlines, hwritten⟩ | ⟨lines, other, behind, fault, hlines, hother, hwritten⟩
          · exact Or.inl ⟨s :: lines, by rw [List.map_cons, ← hlines, ← htext], hfirst lines none hwritten⟩
          · refine Or.inr ⟨s :: lines, other, behind, fault, ?_, hother, hfirst lines (some fault) hwritten⟩
            rw [hlines, List.map_cons, List.cons_append, ← htext]

end Text.Utf8

end ManifestGrading
