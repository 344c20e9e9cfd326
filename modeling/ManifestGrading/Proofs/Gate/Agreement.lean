import ManifestGrading.Gate
import ManifestGrading.Proofs.Report.Document
import ManifestGrading.Proofs.Value.Unwritable

/-! The gate against the report. The gate looks at all outcomes, the summary of a report at the worst of each
resource, and its table at how many resources there are of each grade; below the best grade they agree on
whether a threshold is reached. At the best grade they part: a resource without outcomes is graded so in the
report, and the gate has nothing to look at. -/

namespace ManifestGrading

/-- Whether a fault says of a value that it is no grade, and shows the value if it has a text. -/
def GradeFault.Refuses (fault : GradeFault) (v : Value) : Prop :=
  (∃ expression, v.expression = .ok expression ∧ fault = .notAGrade expression) ∨
    ∃ e, e.IsUnwritable ∧ v.expression = .error e ∧ fault = .value e

namespace Grade

theorem ofValue_eq_error_iff {v : Value} :
    (∃ fault, ofValue v = .error fault) ↔ ∀ g : Grade, v.sameKey g.toValue = false := by
  unfold ofValue
  cases hfind : all.find? fun g => v.sameKey (.int g.value) with
  | some g =>
      have hg : v.sameKey g.toValue = true := by simpa [toValue] using List.find?_some hfind
      simp only [reduceCtorEq, exists_false, false_iff, not_forall]
      exact ⟨g, by simp [hg]⟩
  | none =>
      have hnone (g : Grade) : v.sameKey g.toValue = false := by
        simpa [toValue] using List.find?_eq_none.1 hfind g (mem_all g)
      simp only [hnone, implies_true, iff_true]
      cases v.expression <;> exact ⟨_, rfl⟩

/-- A fault in a grade is that of the value: that it is none, as its text shows, or that it has no text to show. -/
theorem refuses_of_ofValue {v : Value} {fault : GradeFault} (h : ofValue v = .error fault) : fault.Refuses v := by
  unfold ofValue at h
  split at h
  · cases h
  · cases hv : v.expression with
    | ok expression =>
        rw [hv] at h
        exact Or.inl ⟨expression, hv, (Except.error.inj h).symm⟩
    | error e =>
        rw [hv] at h
        exact Or.inr ⟨e, Value.expression_error hv, hv, (Except.error.inj h).symm⟩

end Grade

namespace Scorecard

variable (s : Scorecard)

theorem anyAtOrBelow_iff {t : Grade} : s.anyAtOrBelow t ↔ ∃ r ∈ s.records, ∃ o ∈ r.outcomes, o.grade ≤ t := by
  simp [anyAtOrBelow, Record.anyAtOrBelow, Record.grades]

/-- Below the best grade a resource is graded up to a threshold if one of its outcomes is. -/
theorem anyAtOrBelow_iff_grade {t : Grade} (ht : t ≠ .allOk) :
    s.anyAtOrBelow t ↔ ∃ r ∈ s.records, r.grade ≤ t := by
  rw [anyAtOrBelow_iff]
  refine exists_congr fun r => and_congr_right fun _ => ?_
  rw [Record.grade, Grade.worst_le_iff, or_iff_left ht, Record.grades]
  simp

theorem anyAtOrBelow_iff_lowest {t : Grade} (ht : t ≠ .allOk) :
    s.anyAtOrBelow t ↔ s.records ≠ [] ∧ s.lowest ≤ t := by
  rw [anyAtOrBelow_iff_grade s ht, lowest, Grade.worst_le_iff, or_iff_left ht]
  simp only [List.mem_map, exists_exists_and_eq_and]
  exact ⟨fun ⟨r, hr, hle⟩ => ⟨List.ne_nil_of_mem hr, r, hr, hle⟩, fun h => h.2⟩

theorem anyAtOrBelow_iff_counts {t : Grade} (ht : t ≠ .allOk) :
    s.anyAtOrBelow t ↔ 0 < ((Grade.all.filter (· ≤ t)).map s.count).sum := by
  rw [anyAtOrBelow_iff_grade s ht, funext s.count_eq_count, Grade.sum_count_le, List.countP_pos_iff]
  simp

theorem anyAtOrBelow_allOk_iff : s.anyAtOrBelow .allOk ↔ ∃ r ∈ s.records, r.outcomes ≠ [] := by
  rw [anyAtOrBelow_iff]
  refine exists_congr fun r => and_congr_right fun _ => ?_
  exact ⟨fun ⟨o, ho, _⟩ => List.ne_nil_of_mem ho,
    fun h => ⟨r.outcomes.head h, List.head_mem h, Grade.le_allOk _⟩⟩

theorem anyAtOrBelow_mono {t u : Grade} (h : t ≤ u) (hs : s.anyAtOrBelow t) : s.anyAtOrBelow u := by
  obtain ⟨r, hr, o, ho, hle⟩ := s.anyAtOrBelow_iff.1 hs
  exact s.anyAtOrBelow_iff.2 ⟨r, hr, o, ho, Grade.le_trans hle h⟩

end Scorecard

namespace Gate

variable (s : Scorecard) (onWarning : Bool)

theorem gradesOf_ne_nil_iff : gradesOf s ≠ [] ↔ ∃ r ∈ s.records, r.outcomes ≠ [] := by
  simp [gradesOf, Record.grades, List.flatMap_eq_nil_iff]

theorem anyAtOrBelow_of_ofValue {v : Value} {t : Grade} (h : Grade.ofValue v = .ok t) (grades : List Grade) :
    anyAtOrBelow grades v = .ok (grades.any (· ≤ t)) := by
  unfold anyAtOrBelow
  rw [h]
  cases grades <;> rfl

/-- The gate does not look at the order of the grades. -/
theorem exitStatus_eq_of_perm {s t : Scorecard} (h : (gradesOf s).Perm (gradesOf t)) (onWarning : Bool)
    (threshold : Option Value) : exitStatus s onWarning threshold = exitStatus t onWarning threshold := by
  have hany (limit : Grade) : (gradesOf s).any (· ≤ limit) = (gradesOf t).any (· ≤ limit) := h.any_eq
  simp only [exitStatus, anyAtOrBelow, h.isEmpty_eq, hany]

theorem exitStatus_toValue (t : Grade) :
    exitStatus s onWarning (some t.toValue) = .ok (if s.anyAtOrBelow t then 1 else 0) := by
  rw [exitStatus, Option.getD_some, anyAtOrBelow_of_ofValue (Grade.ofValue_toValue t), gradesOf, List.any_flatMap]
  rfl

/-- Whether a gate with a threshold ends in the status of a failure. -/
def Closes (t : Grade) : Prop := exitStatus s onWarning (some t.toValue) = .ok 1

theorem closes_iff {t : Grade} : Closes s onWarning t ↔ s.anyAtOrBelow t := by
  rw [Closes, exitStatus_toValue]
  cases s.anyAtOrBelow t <;> simp

theorem exitStatus_eq_zero_or_closes (t : Grade) :
    exitStatus s onWarning (some t.toValue) = .ok 0 ∨ Closes s onWarning t := by
  rw [Closes, exitStatus_toValue]
  cases s.anyAtOrBelow t <;> simp

/-- A threshold that is no grade is looked at only if there is an outcome. -/
theorem exitStatus_of_ofValue_error {v : Value} {fault : GradeFault} (h : Grade.ofValue v = .error fault) :
    exitStatus s onWarning (some v) = if gradesOf s = [] then .ok 0 else .error fault := by
  unfold exitStatus anyAtOrBelow
  rw [Option.getD_some, h]
  cases gradesOf s <;> rfl

open Report in
/-- The gate fails a scorecard if the report on it has a check graded up to the threshold. Below the best grade that can
be seen from the lowest grade in its summary, and from the counts; at the best grade it takes an outcome. A higher
threshold fails more. A threshold that is given counts whatever the setting for warnings is, which else chooses one.
What is given as a threshold and is no grade is a fault as soon as there is an outcome. -/
theorem exitStatus_agrees_with_report (s : Scorecard) (metadata : Entries) (onWarning : Bool) :
    (∀ t : Grade,
      (exitStatus s onWarning (some t.toValue) = .ok 0 ∨ Closes s onWarning t) ∧
      (Closes s onWarning t ↔
        ∃ resource ∈ resourcesIn (toValue ⟨s, metadata⟩), ∃ check ∈ checksIn resource, IsAtOrBelow t check) ∧
      (t ≠ .allOk →
        (Closes s onWarning t ↔
          ∃ g : Grade, (summaryIn (toValue ⟨s, metadata⟩)).member "lowest_grade" = .text g.name ∧ g ≤ t) ∧
        (Closes s onWarning t ↔
          0 < ((Grade.all.filter (· ≤ t)).map fun g => (countIn (toValue ⟨s, metadata⟩) g).amount).sum)) ∧
      ∀ u, t ≤ u → Closes s onWarning t → Closes s onWarning u) ∧
    (Closes s onWarning .allOk ↔ ∃ r ∈ s.records, r.outcomes ≠ []) ∧
    (∀ threshold, exitStatus s true (some threshold) = exitStatus s false (some threshold)) ∧
    exitStatus s true none = exitStatus s true (some Grade.warning.toValue) ∧
    exitStatus s false none = exitStatus s false (some Grade.critical.toValue) ∧
    ∀ v : Value, (∀ g : Grade, v.sameKey g.toValue = false) →
      ((∃ fault, exitStatus s onWarning (some v) = .error fault) ↔ ∃ r ∈ s.records, r.outcomes ≠ []) ∧
      ((¬∃ r ∈ s.records, r.outcomes ≠ []) → exitStatus s onWarning (some v) = .ok 0) ∧
      ∀ fault, exitStatus s onWarning (some v) = .error fault → fault.Refuses v := by
  simp only [closes_iff]
  refine ⟨fun t => ⟨?_, ?_, fun ht => ⟨?_, ?_⟩, fun u h => s.anyAtOrBelow_mono h⟩, s.anyAtOrBelow_allOk_iff, fun _ => rfl,
    rfl, rfl, fun v hv => ?_⟩
  · simpa only [closes_iff] using exitStatus_eq_zero_or_closes s onWarning t
  · simp only [resourcesIn_toValue, List.mem_map, exists_exists_and_eq_and, checksIn_recordValue, isAtOrBelow_outcomeValue]
    exact s.anyAtOrBelow_iff
  · rw [s.anyAtOrBelow_iff_lowest ht, summaryIn_toValue]
    simp only [lowest_eq_text_iff]
    exact ⟨fun h => ⟨_, ⟨h.1, rfl⟩, h.2⟩, fun ⟨_, ⟨hne, hlowest⟩, hle⟩ => ⟨hne, hlowest ▸ hle⟩⟩
  · simp only [countIn_toValue, amount_number]
    exact s.anyAtOrBelow_iff_counts ht
  · obtain ⟨fault, hfault⟩ := Grade.ofValue_eq_error_iff.2 hv
    rw [← gradesOf_ne_nil_iff, exitStatus_of_ofValue_error s onWarning hfault]
    by_cases hnil : gradesOf s = []
    · simp [hnil]
    · simp [hnil, Grade.refuses_of_ofValue hfault]

/-- A resource that no check looked at, and one with a warning. -/
def halfChecked : Scorecard :=
  ⟨[⟨⟨"ConfigMap", "v1", "", "settings"⟩, [], .empty, []⟩,
    ⟨⟨"Deployment", "apps/v1", "default", "web"⟩, [], .empty,
      [⟨.allOk, "", some { id := "labels" }, [], none⟩, ⟨.warning, "", some { id := "replicas" }, [], none⟩]⟩],
    [], by decide⟩

open Report in
theorem exitStatus_agrees_with_report_halfChecked :
    (Grade.warning ≠ .allOk ∧ Grade.warning ≤ Grade.almostOk ∧ (∀ g : Grade, (Value.int 3).sameKey g.toValue = false) ∧
      ¬∃ r ∈ Scorecard.empty.records, r.outcomes ≠ []) ∧
    (summaryIn (toValue ⟨halfChecked, []⟩)).member "lowest_grade" = .text Grade.warning.name ∧
    Closes halfChecked false .warning ∧ Closes halfChecked false .almostOk ∧
    exitStatus halfChecked false none = .ok 0 ∧
    (∃ fault, exitStatus halfChecked false (some (.int 3)) = .error fault) ∧
    exitStatus .empty false (some (.int 3)) = .ok 0 := by
  have hthree : ∀ g : Grade, (Value.int 3).sameKey g.toValue = false := by
    intro g
    cases g <;> decide
  have hnone : ¬∃ r ∈ Scorecard.empty.records, r.outcomes ≠ [] := by simp [Scorecard.empty]
  have hlowest : (summaryIn (toValue ⟨halfChecked, []⟩)).member "lowest_grade" = .text Grade.warning.name := by
    rw [summaryIn_toValue, lowest_eq_text_iff]
    exact ⟨List.cons_ne_nil _ _, by decide⟩
  obtain ⟨hthreshold, _, _, _, _, hstray⟩ := exitStatus_agrees_with_report halfChecked [] false
  have hwarning := ((hthreshold .warning).2.2.1 (by decide)).1.2 ⟨.warning, hlowest, by decide⟩
  refine ⟨⟨by decide, by decide, hthree, hnone⟩, hlowest, hwarning, ?_, by decide, ?_, ?_⟩
  · exact (hthreshold .warning).2.2.2 .almostOk (by decide) hwarning
  · exact (hstray (.int 3) hthree).1.2 ⟨_, List.mem_cons_of_mem _ List.mem_cons_self, List.cons_ne_nil _ _⟩
  · exact ((exitStatus_agrees_with_report .empty [] false).2.2.2.2.2 (.int 3) hthree).2.1 hnone

end Gate

end ManifestGrading
