import ManifestGrading.Proofs.Publish.Annotations

/-! The summary for the report on a scorecard, line by line: how many resources there are and how bad the worst of them
is, the numbers of resources by grade, what is known about the scoring in the order of the names, and the failing
resources, of which only the first ones are listed. -/

namespace ManifestGrading

/-- The records that are not entirely healthy. -/
def Scorecard.failing (s : Scorecard) : List Record := s.records.filter (·.grade ≠ .allOk)

namespace Value

end Value

namespace Publish

open Report

/-! ### The parts of the page -/

/-- The identifiers that are listed for a failing record: those of its failing outcomes that are not empty. -/
def idsFor (r : Record) : List RawText := (r.failing.map Outcome.id).filter (· ≠ "")

def plainBulletFor (r : Record) : RawText :=
  RawText.ofString ("- **" ++ gradeTitle r.grade ++ "** `") ++ r.identity.ref.trim ++ RawText.ofString "`"

def bulletFor (r : Record) : RawText :=
  if idsFor r = [] then plainBulletFor r
  else plainBulletFor r ++ RawText.ofString " - " ++ RawText.intercalate ", " (idsFor r)

def bulletsOf (s : Scorecard) : List RawText := (s.failing.take 10).map bulletFor

/-- How many failing records have no line. -/
def restOf (s : Scorecard) : Nat := s.failing.length - 10

def moreLine (n : Nat) : RawText := RawText.ofString ("- ...and " ++ toString n ++ " more resources.")

def listOf (s : Scorecard) : List RawText :=
  if s.failing = [] then []
  else headLines "Resources" ++ bulletsOf s ++ if 0 < restOf s then [moreLine (restOf s)] else []

variable (s : Scorecard)

theorem isFailing_of_field {v : Value} {g : Grade} (h : v.field "grade" = .ok (.text g.name)) :
    isFailing v = .ok (decide (g ≠ .allOk)) := by
  have hbest : (Value.text (RawText.ofString g.name)).isText Grade.allOk.name = decide (g = .allOk) := by
    cases g <;> rfl
  rw [isFailing, h, Attempt.ok_map, hbest, decide_not]

theorem failingIds_map (outcomes : List Outcome) :
    failingIds (outcomes.map (outcomeValue s)) =
      .ok (((outcomes.filter (·.grade ≠ .allOk)).map Outcome.id).filter (· ≠ "")) := by
  induction outcomes with
  | nil => rfl
  | cons o rest ih =>
      have hid : (outcomeValue s o).field "id" = .ok (optionalText (o.check.map Check.id)) := by
        simp [outcomeValue, field_named]
      have hfailing : isFailing (outcomeValue s o) = .ok (decide (o.grade ≠ .allOk)) :=
        isFailing_of_field (by simp [outcomeValue, field_named])
      rw [List.map_cons, failingIds, hid, Attempt.ok_bind, hfailing, Attempt.ok_bind, isTruthy_optionalText, ih,
        List.filter_cons]
      by_cases hbest : o.grade = .allOk
      · simp [hbest]
      -- an identifier counts as given if it is not empty, and is then shown as it is
      · by_cases hgiven : o.id = RawText.ofString ""
        · have hnone : (o.check.map Check.id).getD "" = RawText.ofString "" := hgiven
          simp [hbest, hgiven, hnone]
        · have hsome : (o.check.map Check.id).getD "" = o.id := rfl
          rw [display_optionalText (hsome ▸ hgiven), hsome]
          simp [hbest, hgiven, pure, Except.pure]

theorem failingAmong_map (records : List Record) :
    failingAmong (records.map (recordValue s)) = .ok ((records.filter (·.grade ≠ .allOk)).map (recordValue s)) := by
  induction records with
  | nil => rfl
  | cons r rest ih =>
      have hfailing : isFailing (recordValue s r) = .ok (decide (r.grade ≠ .allOk)) :=
        isFailing_of_field (by simp [recordValue, recordMembers, field_named])
      rw [List.map_cons, failingAmong, hfailing, ih]
      by_cases h : r.grade = .allOk <;> simp [h, pure, Except.pure]

theorem resourceLine_recordValue (r : Record) : resourceLine (recordValue s r) = .ok (bulletFor r) := by
  have href : fieldOr "ref" (.text "") (recordValue s r) = .ok (.text r.identity.ref) := by
    simp [recordValue, recordMembers]
  have hgrade : fieldOr "grade" (.text "") (recordValue s r) = .ok (.text r.grade.name) := by
    simp [recordValue, recordMembers]
  have hchecks : itemsOf "checks" (recordValue s r) = .ok (r.outcomes.map (outcomeValue s)) :=
    itemsOf_of_field (by simp [recordValue, recordMembers, field_named])
  have hids : failingIds (r.outcomes.map (outcomeValue s)) = .ok (idsFor r) :=
    failingIds_map s r.outcomes
  rw [resourceLine, href, hgrade, hchecks]
  simp only [Attempt.ok_bind, Value.display_text, hids, titleOf_name, List.isEmpty_iff, bulletFor, plainBulletFor,
    RawText.ofString_append]
  by_cases hnil : idsFor r = []
  · rw [if_pos hnil]
    rfl
  · rw [if_neg hnil]
    rfl

theorem resourceLines_failing :
    resourceLines (s.failing.map (recordValue s)) = .ok (listOf s) := by
  have hlines : ((s.failing.map (recordValue s)).take listLimit).mapM resourceLine = .ok (bulletsOf s) := by
    rw [← List.map_take, List.mapM_map, bulletsOf]
    exact Attempt.mapM_eq_ok fun r _ => resourceLine_recordValue s r
  have hrest : s.failing.length - listLimit = restOf s := rfl
  rw [resourceLines, hlines, Attempt.ok_bind, List.length_map, hrest, listOf]
  simp only [List.isEmpty_iff, List.map_eq_nil_iff]
  by_cases hnil : s.failing = []
  · rw [if_pos hnil, if_pos hnil]
    rfl
  · rw [if_neg hnil, if_neg hnil]
    rcases Nat.eq_zero_or_pos (restOf s) with hzero | hpos
    · rw [if_pos hzero, if_neg (by omega)]
      rfl
    · rw [if_neg (by omega), if_pos hpos]
      rfl

/-! ### The page -/

end Publish

end ManifestGrading
