import ManifestGrading.Proofs.Grade.Group
import ManifestGrading.Report.Basic
import ManifestGrading.Scoring

/-! The report as a document that others read. A reader knows the names of its members, not how it came about, so
what is said about a report is said in terms of what stands under these names: the entries for resources, and
in each of them the entries for checks. -/

namespace ManifestGrading

namespace Value

/-- What a mapping holds under a name: null where there is nothing, and no mapping holds anything else. -/
def member (name : String) (v : Value) : Value := Entries.get name (v.mapping?.getD [])

/-- The items of a list. -/
def items : Value → List Value
  | list items => items
  | _ => []

/-- How many things a value counts; none if it is no number of things. -/
def amount : Value → Nat
  | int n => n.toNat
  | _ => 0

@[simp] theorem items_list (items : List Value) : (list items).items = items := rfl

theorem member_map (name : String) (entries : Entries) : (map entries).member name = Entries.get name entries := rfl

end Value

theorem Scorecard.count_eq_count (s : Scorecard) (g : Grade) : s.count g = (s.records.map Record.grade).count g := by
  rw [List.count_eq_countP, List.countP_map, List.countP_eq_length_filter]
  rfl

theorem ScoringResult.map_metadata (r : ScoringResult) :
    Value.map r.metadata =
      Report.named [("paths", .list (r.paths.map fun (p : String) => .text p)),
        ("document_count", Report.number r.documentCount), ("resource_count", Report.number r.scorecard.size),
        ("check_count", Report.number r.checkCount)] := rfl

namespace Report

theorem get?_text_cons (name key : String) (v : Value) (rest : Entries) :
    Entries.get? name ((.text key, v) :: rest) = if key = name then some v else Entries.get? name rest := by
  have hkey : (Value.text (RawText.ofString key)).isText name ↔ key = name := by
    rw [Value.isText_iff, Value.text.injEq]
    exact ⟨RawText.ofString_injective, congrArg RawText.ofString⟩
  simp only [Entries.get?, hkey]

@[simp] theorem member_named_cons (name key : String) (v : Value) (rest : List (String × Value)) :
    (named ((key, v) :: rest)).member name = if key = name then v else (named rest).member name := by
  simp only [named, List.map_cons, Value.member_map, Entries.get, get?_text_cons]
  split <;> rfl

/-- The summary in a report. -/
def summaryIn (report : Value) : Value := report.member "summary"

/-- The entries for resources in a report. -/
def resourcesIn (report : Value) : List Value := (report.member "resources").items

/-- The entries for checks in the entry for a resource. -/
def checksIn (resource : Value) : List Value := (resource.member "checks").items

/-- The number that the summary of a report gives for a grade. -/
def countIn (report : Value) (g : Grade) : Value := ((summaryIn report).member "counts").member g.name

/-- Whether an entry has the value of a grade up to another one. -/
def IsAtOrBelow (threshold : Grade) (entry : Value) : Prop :=
  ∃ n : Nat, entry.member "grade_value" = number n ∧ n ≤ threshold.value

/-! ### What stands in a report -/

@[simp] theorem amount_number (n : Nat) : (number n).amount = n := rfl

theorem number_injective {m n : Nat} (h : number m = number n) : m = n := Int.ofNat.inj (Value.int.inj h)

variable (s : Scorecard) (metadata : Entries)

theorem metadata_toValue : (toValue ⟨s, metadata⟩).member "metadata" = .map metadata := by
  simp [toValue]

theorem summaryIn_toValue : summaryIn (toValue ⟨s, metadata⟩) = summaryValue s := by
  simp [summaryIn, toValue]

theorem resourcesIn_toValue : resourcesIn (toValue ⟨s, metadata⟩) = s.records.map (recordValue s) := by
  simp [resourcesIn, toValue]

theorem checksIn_recordValue (r : Record) : checksIn (recordValue s r) = r.outcomes.map (outcomeValue s) := by
  simp [checksIn, recordValue, recordMembers]

theorem gradeValue_recordValue (r : Record) : (recordValue s r).member "grade_value" = number r.grade.value := by
  simp [recordValue, recordMembers]

theorem gradeValue_outcomeValue (o : Outcome) : (outcomeValue s o).member "grade_value" = number o.grade.value := by
  simp [outcomeValue]

theorem isAtOrBelow_outcomeValue {t : Grade} {o : Outcome} : IsAtOrBelow t (outcomeValue s o) ↔ o.grade ≤ t := by
  rw [IsAtOrBelow, gradeValue_outcomeValue]
  constructor
  · rintro ⟨n, heq, hle⟩
    obtain rfl := number_injective heq
    exact hle
  · exact fun h => ⟨_, rfl, h⟩

theorem lowest_summaryValue :
    (summaryValue s).member "lowest_grade" = optionalText ((lowest? s).map fun g => RawText.ofString g.name) := by
  simp [summaryValue]

theorem lowest_eq_null_iff : (summaryValue s).member "lowest_grade" = .null ↔ s.records = [] := by
  rw [lowest_summaryValue, lowest?]
  cases s.records <;> simp [optionalText]

theorem lowest_eq_text_iff {g : Grade} :
    (summaryValue s).member "lowest_grade" = .text g.name ↔ s.records ≠ [] ∧ s.lowest = g := by
  rw [lowest_summaryValue, lowest?]
  cases s.records with
  | nil => simp [optionalText]
  | cons r rest =>
      simp only [optionalText, List.isEmpty_cons, Bool.false_eq_true, if_false, Option.map_some, Option.elim_some,
        Value.text.injEq, ne_eq, reduceCtorEq, not_false_eq_true, true_and]
      exact ⟨fun h => Grade.name_injective (RawText.ofString_injective h), fun h => h ▸ rfl⟩

theorem total_summaryValue : (summaryValue s).member "total_resources" = number s.size := by
  simp [summaryValue]

theorem counts_summaryValue : (summaryValue s).member "counts" = countsValue s := by
  simp [summaryValue]

theorem countIn_toValue (g : Grade) : countIn (toValue ⟨s, metadata⟩) g = number (s.count g) := by
  rw [countIn, summaryIn_toValue, counts_summaryValue]
  cases g <;> simp [countsValue, Scorecard.counts, Grade.all, Grade.name]

end Report

end ManifestGrading
