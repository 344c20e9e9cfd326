import ManifestGrading.Proofs.Gate.Agreement
import ManifestGrading.Proofs.Publish.Page
import ManifestGrading.Report.Human

/-! Outcomes that are entirely healthy count for nothing. A scorecard from which they are taken away keeps its records and
their grades, also where nothing is left of a record, and with them all that a gate below the best grade, the
publisher and a reader of the text without them get to see. The readers tell such outcomes in ways of their own: by the
least value, by a default, by a level that a grade does not have, by the name of a grade. That these agree is what is
shown here. -/

namespace ManifestGrading

namespace Grade

theorem worse_allOk (g : Grade) : worse allOk g = g := by cases g <;> rfl

theorem worst_filter_ne_allOk (gs : List Grade) : worst (gs.filter (· ≠ allOk)) = worst gs := by
  induction gs with
  | nil => rfl
  | cons g rest ih =>
      by_cases h : g = allOk
      · rw [List.filter_cons_of_neg (by simpa using h), ih, worst, h, worse_allOk]
      · rw [List.filter_cons_of_pos (by simpa using h), worst, worst, ih]

/-- Below the best grade a threshold is reached without the best grades if it is reached with them. -/
theorem any_filter_ne_allOk {t : Grade} (ht : t ≠ allOk) (gs : List Grade) :
    (gs.filter (· ≠ allOk)).any (· ≤ t) = gs.any (· ≤ t) := by
  have hbelow {g : Grade} (h : g ≤ t) : g ≠ allOk := by
    rintro rfl
    exact ht (le_antisymm (le_allOk t) h)
  rw [Bool.eq_iff_iff, List.any_eq_true, List.any_eq_true]
  constructor
  · rintro ⟨g, hg, hle⟩
    exact ⟨g, (List.mem_filter.1 hg).1, hle⟩
  · rintro ⟨g, hg, hle⟩
    exact ⟨g, List.mem_filter.2 ⟨hg, decide_eq_true (hbelow (of_decide_eq_true hle))⟩, hle⟩

end Grade

namespace Record

/-- A record without its outcomes that are entirely healthy. -/
def withoutHealthy (r : Record) : Record := { r with outcomes := r.failing }

variable (r : Record)

theorem grades_withoutHealthy : r.withoutHealthy.grades = r.grades.filter (· ≠ .allOk) := by
  rw [grades, grades, List.filter_map]
  rfl

@[simp] theorem grade_withoutHealthy : r.withoutHealthy.grade = r.grade := by
  rw [grade, grades_withoutHealthy, Grade.worst_filter_ne_allOk, grade]

@[simp] theorem failing_withoutHealthy : r.withoutHealthy.failing = r.failing := by
  rw [failing, withoutHealthy, failing, List.filter_filter]
  simp only [Bool.and_self]

theorem anyAtOrBelow_withoutHealthy {t : Grade} (ht : t ≠ .allOk) :
    r.withoutHealthy.anyAtOrBelow t = r.anyAtOrBelow t := by
  rw [anyAtOrBelow, grades_withoutHealthy, Grade.any_filter_ne_allOk ht, anyAtOrBelow]

end Record

namespace Scorecard

/-- A scorecard without the outcomes that are entirely healthy. -/
def withoutHealthy (s : Scorecard) : Scorecard where
  records := s.records.map Record.withoutHealthy
  postings := s.postings
  distinct := by
    rw [List.map_map]
    exact s.distinct

variable (s : Scorecard)

@[simp] theorem records_withoutHealthy : s.withoutHealthy.records = s.records.map Record.withoutHealthy := rfl

theorem map_grade_withoutHealthy : s.withoutHealthy.records.map Record.grade = s.records.map Record.grade := by
  rw [records_withoutHealthy, List.map_map]
  exact List.map_congr_left fun r _ => r.grade_withoutHealthy

theorem count_withoutHealthy (g : Grade) : s.withoutHealthy.count g = s.count g := by
  rw [count_eq_count, count_eq_count, map_grade_withoutHealthy]

theorem lowest_withoutHealthy : s.withoutHealthy.lowest = s.lowest := by
  rw [lowest, lowest, map_grade_withoutHealthy]

theorem size_withoutHealthy : s.withoutHealthy.size = s.size := List.length_map _

theorem failing_withoutHealthy : s.withoutHealthy.failing = s.failing.map Record.withoutHealthy := by
  rw [failing, records_withoutHealthy, List.filter_map, failing]
  simp only [Function.comp_def, Record.grade_withoutHealthy]

theorem anyAtOrBelow_withoutHealthy {t : Grade} (ht : t ≠ .allOk) :
    s.withoutHealthy.anyAtOrBelow t = s.anyAtOrBelow t := by
  rw [anyAtOrBelow, records_withoutHealthy, List.any_map, anyAtOrBelow]
  exact List.any_congr rfl fun r => r.anyAtOrBelow_withoutHealthy ht

end Scorecard

namespace Gate

/-- The gate ends in the same status with a threshold below the best grade, in whatever way it is given. -/
theorem exitStatus_withoutHealthy (s : Scorecard) {onWarning : Bool} {threshold : Option Value} {t : Grade}
    (h : Grade.ofValue (threshold.getD (defaultThreshold onWarning).toValue) = .ok t) (ht : t ≠ .allOk) :
    exitStatus s.withoutHealthy onWarning threshold = exitStatus s onWarning threshold := by
  have hgrades : (gradesOf s.withoutHealthy).any (· ≤ t) = (gradesOf s).any (· ≤ t) := by
    rw [gradesOf, gradesOf, List.any_flatMap, List.any_flatMap]
    exact s.anyAtOrBelow_withoutHealthy ht
  rw [exitStatus, exitStatus, anyAtOrBelow_of_ofValue h, anyAtOrBelow_of_ofValue h, hgrades]

end Gate

namespace Report

variable (s : Scorecard)

theorem summaryValue_withoutHealthy : summaryValue s.withoutHealthy = summaryValue s := by
  have hlowest : lowest? s.withoutHealthy = lowest? s := by
    rw [lowest?, lowest?, s.lowest_withoutHealthy, s.records_withoutHealthy, List.isEmpty_map]
  have hcounts : s.withoutHealthy.counts = s.counts := by
    rw [Scorecard.counts, funext s.count_withoutHealthy, Scorecard.counts]
  rw [summaryValue, countsValue, hlowest, hcounts, s.size_withoutHealthy, summaryValue, countsValue]

theorem shownOutcomes_withoutHealthy (r : Record) :
    shownOutcomes true r.withoutHealthy = shownOutcomes false r := by
  have hall : shownOutcomes true r.withoutHealthy = r.failing := List.filter_eq_self.2 fun _ _ => rfl
  have hsome : shownOutcomes false r = r.failing := by
    refine List.filter_congr fun o _ => ?_
    cases o.grade <;> rfl
  rw [hall, hsome]

/-- The text with all outcomes is the one that leaves the healthy ones out. -/
theorem human_withoutHealthy (useColor : Bool) : human useColor true s.withoutHealthy = human useColor false s := by
  have hlines (r : Record) :
      recordLines useColor true s.withoutHealthy r.withoutHealthy = recordLines useColor false s r := by
    rw [recordLines, shownOutcomes_withoutHealthy, r.grade_withoutHealthy]
    rfl
  rw [human, human, s.records_withoutHealthy, List.isEmpty_map, List.flatMap_map]
  simp only [hlines]

end Report

namespace Publish

open Report

theorem bulletFor_withoutHealthy (r : Record) : bulletFor r.withoutHealthy = bulletFor r := by
  have hids : idsFor r.withoutHealthy = idsFor r := by rw [idsFor, r.failing_withoutHealthy, idsFor]
  rw [bulletFor, bulletFor, hids, plainBulletFor, plainBulletFor, r.grade_withoutHealthy]
  rfl

theorem listOf_withoutHealthy (s : Scorecard) : listOf s.withoutHealthy = listOf s := by
  have hbullets : bulletsOf s.withoutHealthy = bulletsOf s := by
    rw [bulletsOf, s.failing_withoutHealthy, ← List.map_take, List.map_map, bulletsOf]
    exact List.map_congr_left fun r _ => bulletFor_withoutHealthy r
  have hrest : restOf s.withoutHealthy = restOf s := by
    rw [restOf, s.failing_withoutHealthy, List.length_map, restOf]
  rw [listOf, listOf, hbullets, hrest, s.failing_withoutHealthy]
  simp only [List.map_eq_nil_iff]

/-- Of the resources in a report its summary shows only the list of the failing ones. -/
theorem summaryLines_congr {s t : Scorecard} (hsummary : summaryValue s = summaryValue t) (hlist : listOf s = listOf t)
    (metadata : Entries) : summaryLines (toValue ⟨s, metadata⟩) = summaryLines (toValue ⟨t, metadata⟩) := by
  have hfields (s : Scorecard) :
      (toValue ⟨s, metadata⟩).field "summary" = .ok (summaryValue s) ∧
      (toValue ⟨s, metadata⟩).field "metadata" = .ok (.map metadata) ∧
      (toValue ⟨s, metadata⟩).field "resources" = .ok (.list (s.records.map (recordValue s))) := by
    simp [toValue, field_named]
  have hfailing (s : Scorecard) : failingAmong (s.records.map (recordValue s)) = .ok (s.failing.map (recordValue s)) :=
    failingAmong_map s s.records
  simp only [summaryLines, hfields, Attempt.ok_bind, elements_orElse_list, hfailing, resourceLines_failing, hsummary,
    hlist]

theorem summary_withoutHealthy (s : Scorecard) (metadata : Entries) :
    summary (toValue ⟨s.withoutHealthy, metadata⟩) = summary (toValue ⟨s, metadata⟩) := by
  rw [summary, summary, summaryLines_congr (summaryValue_withoutHealthy s) (listOf_withoutHealthy s)]

theorem annotations_withoutHealthy (s : Scorecard) (metadata : Entries) :
    annotations (toValue ⟨s.withoutHealthy, metadata⟩) = annotations (toValue ⟨s, metadata⟩) := by
  rw [annotations_toValue, annotations_toValue, s.records_withoutHealthy, List.flatMap_map]
  simp only [Record.failing_withoutHealthy]
  rfl

end Publish

namespace Report

open Publish

/-- Outcomes that are entirely healthy can be taken away from a scorecard. Every record keeps its grade, and the scorecard
its lowest grade and its numbers by grade. A gate below the best grade ends in the same status, whether its threshold
is given or not. The summary of the report and its annotations are the same, with the same faults if there are any,
and so is the text without the healthy outcomes, in colour or not: it is the text with all that is left. -/
theorem healthy_outcomes_are_neutral (s : Scorecard) :
    s.withoutHealthy.records.map (fun r => (r.identity, r.grade)) = s.records.map (fun r => (r.identity, r.grade)) ∧
    s.withoutHealthy.counts = s.counts ∧ s.withoutHealthy.lowest = s.lowest ∧
    (∀ t : Grade, t ≠ .allOk → s.withoutHealthy.anyAtOrBelow t = s.anyAtOrBelow t ∧
      ∀ r ∈ s.records, r.withoutHealthy.anyAtOrBelow t = r.anyAtOrBelow t) ∧
    (∀ (onWarning : Bool) (threshold : Value) (t : Grade), Grade.ofValue threshold = .ok t → t ≠ .allOk →
      Gate.exitStatus s.withoutHealthy onWarning (some threshold) = Gate.exitStatus s onWarning (some threshold)) ∧
    (∀ onWarning : Bool, Gate.exitStatus s.withoutHealthy onWarning none = Gate.exitStatus s onWarning none) ∧
    (∀ metadata : Entries,
      summary (toValue ⟨s.withoutHealthy, metadata⟩) = summary (toValue ⟨s, metadata⟩) ∧
      annotations (toValue ⟨s.withoutHealthy, metadata⟩) = annotations (toValue ⟨s, metadata⟩)) ∧
    ∀ useColor : Bool, human useColor false s = human useColor true s.withoutHealthy := by
  refine ⟨?_, ?_, s.lowest_withoutHealthy, fun t ht => ⟨s.anyAtOrBelow_withoutHealthy ht, fun r _ => ?_⟩, ?_, ?_, ?_, ?_⟩
  · rw [s.records_withoutHealthy, List.map_map]
    exact List.map_congr_left fun r _ => congrArg (Prod.mk r.identity) r.grade_withoutHealthy
  · rw [Scorecard.counts, funext s.count_withoutHealthy, Scorecard.counts]
  · exact r.anyAtOrBelow_withoutHealthy ht
  · exact fun onWarning threshold t h ht => Gate.exitStatus_withoutHealthy s h ht
  · intro onWarning
    have hbelow : Gate.defaultThreshold onWarning ≠ .allOk := by cases onWarning <;> decide
    exact Gate.exitStatus_withoutHealthy s (Grade.ofValue_toValue _) hbelow
  · exact fun metadata => ⟨summary_withoutHealthy s metadata, annotations_withoutHealthy s metadata⟩
  · exact fun useColor => (human_withoutHealthy s useColor).symm

/-- A resource with healthy outcomes only, and one with a warning among them. -/
def mostlyHealthy : Scorecard :=
  ⟨[⟨⟨"Service", "v1", "default", "api"⟩, [], .empty, [⟨.allOk, "", some { id := "ports" }, [], none⟩]⟩,
    ⟨⟨"Deployment", "apps/v1", "default", "web"⟩, [], .empty,
      [⟨.allOk, "fine", some { id := "labels" }, [], none⟩, ⟨.warning, "one", some { id := "replicas" }, [], some 0⟩]⟩],
    [⟨0, ⟨"spec.replicas", "is 1", ""⟩⟩], by decide⟩

theorem healthy_outcomes_are_neutral_mostlyHealthy :
    (Grade.warning ≠ .allOk ∧ Grade.ofValue (.int 5) = .ok .warning) ∧
    mostlyHealthy.withoutHealthy.records.map (·.outcomes.length) = [0, 1] ∧
    mostlyHealthy.withoutHealthy.anyAtOrBelow .warning = true ∧
    (∀ r ∈ mostlyHealthy.records, r.withoutHealthy.anyAtOrBelow .warning = r.anyAtOrBelow .warning) ∧
    Gate.exitStatus mostlyHealthy.withoutHealthy false (some (.int 5)) = .ok 1 ∧
    Gate.exitStatus mostlyHealthy.withoutHealthy false none = .ok 0 := by
  obtain ⟨_, _, _, hany, hgate, hdefault, _⟩ := healthy_outcomes_are_neutral mostlyHealthy
  have hfive : Grade.ofValue (.int 5) = .ok .warning := by decide
  refine ⟨⟨by decide, hfive⟩, by decide, ?_, (hany .warning (by decide)).2, ?_, ?_⟩
  · rw [(hany .warning (by decide)).1]
    decide
  · rw [hgate false (.int 5) .warning hfive (by decide)]
    decide
  · rw [hdefault false]
    decide

end Report

end ManifestGrading
