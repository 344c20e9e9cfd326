import ManifestGrading.Proofs.Publish.Fields

/-! The annotations for the report on a scorecard. Each outcome that is not entirely healthy has one, in the order of
the resources and of their outcomes; its parts are those of the outcome, and nothing in the report on a scorecard
ends the annotations early. -/

namespace ManifestGrading

/-- The identifier of the check that an outcome is the verdict of; empty where there is none. -/
def Outcome.id (o : Outcome) : RawText := (o.check.map Check.id).getD ""

/-- The outcomes of a record that are not entirely healthy. -/
def Record.failing (r : Record) : List Outcome := r.outcomes.filter (·.grade ≠ .allOk)

namespace Publish

open Report

/-- The level of the annotation for an outcome that is not entirely healthy. -/
def levelFor : Grade → String
  | .critical => "error"
  | .warning => "warning"
  | _ => "notice"

/-- The title of the annotation for a grade and the identifier of a check, which may be empty. -/
def titleWith (g : Grade) (id : RawText) : RawText :=
  if id = "" then gradeTitle g else RawText.ofString (gradeTitle g ++ " - ") ++ id

/-- What a comment says in a message: its summary behind its path; nothing without a summary. -/
def remarkOn (c : Comment) : List RawText :=
  let summary := c.summary.trim
  let path := c.path.trim
  if summary = "" then [] else [if path = "" then summary else path ++ RawText.ofString ": " ++ summary]

/-- The parts of the message for an outcome of the resource with a reference. -/
def partsFor (s : Scorecard) (ref : RawText) (o : Outcome) : List RawText :=
  let remark := o.remark.trim
  (if remark = "" then [] else [remark]) ++ ((s.commentsOn o).map remarkOn).flatten ++
    if ref = "" then [] else [RawText.ofString "Resource: " ++ ref]

/-- The annotation for an outcome of the resource with a reference. -/
def annotationFor (s : Scorecard) (ref : RawText) (o : Outcome) : Annotation :=
  ⟨levelFor o.grade, titleWith o.grade o.id.trim, RawText.intercalate "; "
    (if (partsFor s ref o).isEmpty then ["Check reported without details."] else partsFor s ref o)⟩

theorem gradeTitle_ne_empty (g : Grade) : gradeTitle g ≠ "" := by cases g <;> decide

theorem intercalate_title (g : Grade) (id : RawText) :
    RawText.intercalate " - " ([RawText.ofString (gradeTitle g), id].filter (· != "")) = titleWith g id := by
  unfold titleWith
  split
  · next h =>
    have hkept : [RawText.ofString (gradeTitle g), id].filter (· != RawText.ofString "") =
        [RawText.ofString (gradeTitle g)] := by
      simp [gradeTitle_ne_empty, h]
    rw [hkept, RawText.intercalate_singleton]
  · next h =>
    have hkept : [RawText.ofString (gradeTitle g), id].filter (· != RawText.ofString "") =
        [RawText.ofString (gradeTitle g), id] := by
      simp [gradeTitle_ne_empty, h]
    rw [hkept, RawText.intercalate_cons_cons, RawText.intercalate_singleton, RawText.ofString_append]

variable (s : Scorecard)

theorem commentPart_commentValue (c : Comment) : commentPart (commentValue c) = .ok (remarkOn c) := by
  have hsummary : (commentValue c).field "summary" = .ok (optionalText (some c.summary)) := by
    simp [commentValue, field_named, optionalText]
  have hpath : (commentValue c).field "path" = .ok (optionalText (some c.path)) := by
    simp [commentValue, field_named, optionalText]
  rw [commentPart, trimmedField_of_field hsummary, trimmedField_of_field hpath]
  rfl

theorem bodyParts_outcomeValue (ref : RawText) (o : Outcome) :
    bodyParts ref (outcomeValue s o) = .ok
      (if (partsFor s ref o).isEmpty then ["Check reported without details."] else partsFor s ref o) := by
  have hremark : (outcomeValue s o).field "remark" = .ok (optionalText (some o.remark)) := by
    simp [outcomeValue, field_named, optionalText]
  have hcomments : itemsOf "comments" (outcomeValue s o) = .ok ((s.commentsOn o).map commentValue) :=
    itemsOf_of_field (by simp [outcomeValue, field_named])
  have hparts : ((s.commentsOn o).map commentValue).mapM commentPart = .ok ((s.commentsOn o).map remarkOn) := by
    rw [List.mapM_map]
    exact Attempt.mapM_eq_ok fun c _ => commentPart_commentValue c
  rw [bodyParts, trimmedField_of_field hremark, Attempt.ok_bind, hcomments, Attempt.ok_bind, hparts]
  rfl

theorem annotation_outcomeValue (ref : RawText) (o : Outcome) :
    annotation ref (outcomeValue s o) = .ok (if o.grade = .allOk then none else some (annotationFor s ref o)) := by
  have hgrade : fieldOr "grade" (.text "") (outcomeValue s o) = .ok (.text o.grade.name) := by simp [outcomeValue]
  have hid : trimmedField "id" (outcomeValue s o) = .ok o.id.trim :=
    trimmedField_of_field (by simp [outcomeValue, field_named])
  unfold annotation
  rw [hgrade, Attempt.ok_bind, Value.display_text, Attempt.ok_bind, gradeNamed?_name, hid,
    bodyParts_outcomeValue]
  simp only [Attempt.ok_bind, intercalate_title, annotationFor]
  cases o.grade <;> rfl

theorem checkAnnotations_map (ref : RawText) (outcomes : List Outcome) :
    checkAnnotations ref (outcomes.map (outcomeValue s)) =
      ⟨(outcomes.filter (·.grade ≠ .allOk)).map (annotationFor s ref), none⟩ := by
  induction outcomes with
  | nil => rfl
  | cons o rest ih =>
      rw [List.map_cons, checkAnnotations, annotation_outcomeValue, ih]
      by_cases h : o.grade = .allOk <;> simp [h]

theorem resourceAnnotations_recordValue (r : Record) :
    resourceAnnotations (recordValue s r) = ⟨r.failing.map (annotationFor s r.identity.ref.trim), none⟩ := by
  have href : fieldOr "ref" (.text "") (recordValue s r) = .ok (.text r.identity.ref) := by
    simp [recordValue, recordMembers]
  have hchecks : itemsOf "checks" (recordValue s r) = .ok (r.outcomes.map (outcomeValue s)) :=
    itemsOf_of_field (by simp [recordValue, recordMembers, field_named])
  simp only [resourceAnnotations, href, hchecks, Attempt.ok_bind, Value.display_text]
  exact checkAnnotations_map s _ r.outcomes

theorem allAnnotations_map (records : List Record) :
    allAnnotations (records.map (recordValue s)) =
      ⟨records.flatMap fun r => r.failing.map (annotationFor s r.identity.ref.trim), none⟩ := by
  induction records with
  | nil => rfl
  | cons r rest ih => simp [allAnnotations, resourceAnnotations_recordValue, ih]

/-- Each outcome that is not entirely healthy has an annotation, in the order of the resources and their outcomes. -/
theorem annotations_toValue (metadata : Entries) :
    annotations (toValue ⟨s, metadata⟩) =
      ⟨s.records.flatMap fun r => r.failing.map (annotationFor s r.identity.ref.trim), none⟩ := by
  have hresources : itemsOf "resources" (toValue ⟨s, metadata⟩) = .ok (s.records.map (recordValue s)) :=
    itemsOf_of_field (by simp [toValue, field_named])
  rw [annotations, hresources]
  exact allAnnotations_map s s.records

end Publish

end ManifestGrading
