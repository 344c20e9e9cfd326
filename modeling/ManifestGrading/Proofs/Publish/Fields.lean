import ManifestGrading.Proofs.FirstFailure
import ManifestGrading.Proofs.Report.Document
import ManifestGrading.Publish.Annotation

/-! How the publisher reads the entries of a report. What was put under a name is found under it, texts come back as
they were, and the name of a grade names that grade. -/

namespace ManifestGrading

namespace Publish

open Report

theorem field_named (name : String) (entries : List (String × Value)) :
    (named entries).field name = .ok ((named entries).member name) := rfl

@[simp] theorem fieldOr_named_cons (name key : String) (default v : Value) (rest : List (String × Value)) :
    fieldOr name default (named ((key, v) :: rest)) =
      if key = name then .ok v else fieldOr name default (named rest) := by
  simp only [fieldOr, named, List.map_cons, Value.entriesFor, Value.mapping?_map, Attempt.ok_map, get?_text_cons]
  split <;> rfl

theorem elements_orElse_list (items : List Value) : ((Value.list items).orElse (.list [])).elements = .ok items := by
  cases items <;> rfl

theorem itemsOf_of_field {name : String} {v : Value} {items : List Value} (h : v.field name = .ok (.list items)) :
    itemsOf name v = .ok items := by
  rw [itemsOf, h]
  exact elements_orElse_list items

theorem isTruthy_optionalText (text : Option RawText) :
    (optionalText text).isTruthy = decide (text.getD "" ≠ "") := by
  cases text with
  | none => rfl
  | some t => rw [optionalText, Option.elim_some, Value.isTruthy, RawText.isEmpty_eq, decide_not, Option.getD_some]

theorem display_optionalText {text : Option RawText} (h : text.getD "" ≠ "") :
    (optionalText text).display = .ok (text.getD "") := by
  cases text with
  | none => exact absurd rfl h
  | some s => rfl

/-- A text that may be missing is read as it is without its blanks, and as the empty one where it is missing. -/
theorem trimmedField_of_field {name : String} {v : Value} {text : Option RawText}
    (h : v.field name = .ok (optionalText text)) : trimmedField name v = .ok (text.getD "").trim := by
  rw [trimmedField, h, Attempt.ok_bind, isTruthy_optionalText]
  by_cases hgiven : text.getD "" = RawText.ofString ""
  · rw [hgiven]
    rfl
  · rw [if_pos (decide_eq_true hgiven), display_optionalText hgiven, Attempt.ok_map]

@[simp] theorem gradeNamed?_name (g : Grade) : gradeNamed? g.name = some g := by
  cases g <;> decide +kernel

@[simp] theorem titleOf_name (g : Grade) : titleOf g.name = gradeTitle g := by simp [titleOf]

end Publish

end ManifestGrading
