import ManifestGrading.Proofs.FirstFailure
import ManifestGrading.Proofs.Report.Document
import ManifestGrading.Proofs.Runner.Quiet
import ManifestGrading.Proofs.Scorecard.Reachable

/-! The report agrees with itself. Its summary, its entries for resources and the entries for checks in them come
about one beside the other, and they say the same: what the summary counts are the entries, and what an entry is
graded is the least of its checks. Of a scorecard with a history, no two entries are of one resource, and no entry
lists a check that it ignores. What a scoring says about the number of resources is the number of entries. -/

namespace ManifestGrading

namespace Report

/-- Whether an entry has a grade, by its name and by its value. -/
def IsGraded (g : Grade) (entry : Value) : Prop :=
  entry.member "grade" = .text g.name ∧ entry.member "grade_value" = number g.value

/-- What tells the resource of an entry apart from others. -/
def identityIn (entry : Value) : List Value := ["kind", "api_version", "namespace", "name"].map entry.member

/-- The identity of a resource as it stands in its entry. -/
def identityValue (i : Identity) : List Value := i.parts.map .text

/-- An entry for a resource whose parts agree. Its grade has the least value among its checks, or is the best one where
it has no checks; the checks that it ignores stand in increasing order, and its checks have identifiers other than
these. -/
structure IsConsistentEntry (entry : Value) : Prop where
  graded : ∃ (g : Grade) (checks : List Grade), IsGraded g entry ∧ List.Forall₂ IsGraded checks (checksIn entry) ∧
    g.value = (checks.map Grade.value).min?.getD Grade.allOk.value
  ignoring : ∃ ids : List RawText, entry.member "ignored_checks" = .list (ids.map .text) ∧
    ids.Pairwise (· < ·) ∧ ∀ check ∈ checksIn entry, ∃ id : RawText, check.member "id" = .text id ∧ id ∉ ids

/-- A report whose parts agree. The total is the number of entries and the sum of the counts; the counts are those of
the entries by grade, for the four grades and nothing else; the lowest grade is null if there are no entries, and has
the least value of them otherwise; and no two entries are of one resource. -/
structure IsConsistent (report : Value) : Prop where
  total : (summaryIn report).member "total_resources" = number (resourcesIn report).length
  sum : (Grade.all.map fun g => (countIn report g).amount).sum = (resourcesIn report).length
  counts : (summaryIn report).member "counts" = named (Grade.all.map fun g =>
    (g.name, number ((resourcesIn report).countP fun entry => (entry.member "grade").isText g.name)))
  lowest_null : (summaryIn report).member "lowest_grade" = .null ↔ resourcesIn report = []
  lowest_least : resourcesIn report ≠ [] → ∃ (g : Grade) (grades : List Grade),
    (summaryIn report).member "lowest_grade" = .text g.name ∧ List.Forall₂ IsGraded grades (resourcesIn report) ∧
      (grades.map Grade.value).min? = some g.value
  entries : ∀ entry ∈ resourcesIn report, IsConsistentEntry entry
  distinct : ((resourcesIn report).map identityIn).Nodup

/-! ### Entries -/

theorem identityValue_injective : Function.Injective identityValue := by
  intro i j h
  obtain ⟨kind, apiVersion, space, name⟩ := i
  obtain ⟨kind', apiVersion', space', name'⟩ := j
  simp only [identityValue, Identity.parts, List.map_cons, List.map_nil, List.cons.injEq, Value.text.injEq] at h
  obtain ⟨hkind, hversion, hspace, hname, _⟩ := h
  rw [hkind, hversion, hspace, hname]

theorem forall₂_map_map {α β γ : Type} {R : β → γ → Prop} {f : α → β} {g : α → γ} {l : List α}
    (h : ∀ a ∈ l, R (f a) (g a)) : List.Forall₂ R (l.map f) (l.map g) := by
  rwa [List.forall₂_map_left_iff, List.forall₂_map_right_iff, List.forall₂_same]

variable (s : Scorecard) (metadata : Entries)

theorem isGraded_recordValue (r : Record) : IsGraded r.grade (recordValue s r) :=
  ⟨by simp [recordValue, recordMembers], gradeValue_recordValue s r⟩

theorem isGraded_outcomeValue (o : Outcome) : IsGraded o.grade (outcomeValue s o) :=
  ⟨by simp [outcomeValue], gradeValue_outcomeValue s o⟩

theorem identityIn_recordValue (r : Record) : identityIn (recordValue s r) = identityValue r.identity := by
  simp [identityIn, recordValue, recordMembers, identityValue, Identity.parts]

theorem isConsistentEntry_recordValue {r : Record} (h : r.IsStamped) : IsConsistentEntry (recordValue s r) where
  graded := by
    refine ⟨r.grade, r.grades, isGraded_recordValue s r, ?_, ?_⟩
    · rw [checksIn_recordValue]
      exact forall₂_map_map fun o _ => isGraded_outcomeValue s o
    · rw [Record.grade]
      by_cases hnil : r.grades = []
      · rw [hnil]
        rfl
      · rw [Grade.min?_map_value hnil]
        rfl
  ignoring := by
    refine ⟨r.ignored.ids, by simp [recordValue, recordMembers], r.ignored.increasing, fun check hcheck => ?_⟩
    rw [checksIn_recordValue] at hcheck
    obtain ⟨o, ho, rfl⟩ := List.mem_map.1 hcheck
    obtain ⟨definition, hdefinition, hcounts⟩ := h o ho
    exact ⟨definition.id, by simp [outcomeValue, hdefinition, optionalText], hcounts⟩

/-! ### The whole report -/

theorem forall₂_isGraded_resourcesIn :
    List.Forall₂ IsGraded (s.records.map Record.grade) (resourcesIn (toValue ⟨s, metadata⟩)) := by
  rw [resourcesIn_toValue]
  exact forall₂_map_map fun r _ => isGraded_recordValue s r

theorem countP_resourcesIn (g : Grade) :
    (resourcesIn (toValue ⟨s, metadata⟩)).countP (fun entry => (entry.member "grade").isText g.name) = s.count g := by
  rw [resourcesIn_toValue, List.countP_map, Scorecard.count, List.countP_eq_length_filter]
  refine congrArg List.length (List.filter_congr fun r _ => ?_)
  have hname : (RawText.ofString r.grade.name = RawText.ofString g.name) ↔ r.grade = g :=
    ⟨fun h => Grade.name_injective (RawText.ofString_injective h), fun h => h ▸ rfl⟩
  rw [Function.comp, (isGraded_recordValue s r).1, Value.isText]
  exact decide_eq_decide.2 hname

theorem map_identityIn_resourcesIn :
    (resourcesIn (toValue ⟨s, metadata⟩)).map identityIn = s.identities.map identityValue := by
  rw [resourcesIn_toValue, List.map_map, Scorecard.identities, List.map_map]
  exact List.map_congr_left fun r _ => identityIn_recordValue s r

theorem isConsistent_toValue {s : Scorecard} (h : s.IsStamped) (metadata : Entries) :
    IsConsistent (toValue ⟨s, metadata⟩) where
  total := by rw [summaryIn_toValue, total_summaryValue, resourcesIn_toValue, List.length_map, Scorecard.size]
  sum := by
    simp only [countIn_toValue, amount_number, s.count_eq_count]
    rw [Grade.sum_count, resourcesIn_toValue, List.length_map, List.length_map]
  counts := by
    simp only [countP_resourcesIn, summaryIn_toValue, counts_summaryValue, countsValue, Scorecard.counts, List.map_map]
    rfl
  lowest_null := by rw [summaryIn_toValue, lowest_eq_null_iff, resourcesIn_toValue, List.map_eq_nil_iff]
  lowest_least := by
    intro hne
    have hrecords : s.records ≠ [] := by simpa [resourcesIn_toValue] using hne
    refine ⟨s.lowest, s.records.map Record.grade, ?_, forall₂_isGraded_resourcesIn s metadata, ?_⟩
    · rw [summaryIn_toValue, lowest_eq_text_iff]
      exact ⟨hrecords, rfl⟩
    · exact Grade.min?_map_value (by simpa using hrecords)
  entries := by
    intro entry hentry
    rw [resourcesIn_toValue] at hentry
    obtain ⟨r, hr, rfl⟩ := List.mem_map.1 hentry
    exact isConsistentEntry_recordValue s (h r hr)
  distinct := by
    rw [map_identityIn_resourcesIn]
    exact s.distinct.map identityValue_injective

end Report

/-! ### Scoring -/

namespace Scoring

/-- What a scoring with a result has done: it has run a runner over the resources in the documents, without a fault. -/
theorem run_of_score {here : Surroundings} {request : ScoringRequest} {result : ScoringResult}
    (h : score here request = .ok result) :
    ∃ documents resources, ∃ runner : Runner,
      Manifest.load Yaml.readAll here.files here.input request.paths = .ok documents ∧
        Resource.ofDocuments Value.callLimit documents = .ok resources ∧
        runner.run resources .empty = (result.scorecard, none) := by
  rw [score, scoreFrom] at h
  obtain ⟨documents, hdocuments, h⟩ := Attempt.bind_ok_iff.1 h
  obtain ⟨resources, hresources, h⟩ := Attempt.bind_ok_iff.1 h
  obtain ⟨packs, _, h⟩ := Attempt.bind_ok_iff.1 h
  obtain ⟨rules, _, h⟩ := Attempt.bind_ok_iff.1 h
  obtain ⟨runner, _, h⟩ := Attempt.bind_ok_iff.1 h
  refine ⟨documents, resources, runner, Attempt.mapError_ok_iff.1 hdocuments, Attempt.mapError_ok_iff.1 hresources, ?_⟩
  cases hrun : runner.run resources .empty with
  | mk s fault =>
      rw [hrun] at h
      cases fault with
      | some fault => cases h
      | none =>
          obtain rfl := Except.ok.inj h
          rfl

end Scoring

namespace Report

/-- The report on a scorecard agrees with itself after every history of registrations, additions, comments and runs,
and its entries are those of the resources in the order of their first registrations. What a scoring says about
the number of resources is the number of different resources in its documents. -/
theorem report_is_consistent :
    (∀ (history : List Scorecard.Step) (metadata : Entries),
      IsConsistent (toValue ⟨.after history, metadata⟩) ∧
        (resourcesIn (toValue ⟨.after history, metadata⟩)).map identityIn =
          (Scorecard.empty.log history).eraseDups.map identityValue) ∧
    ∀ (here : Surroundings) (request : ScoringRequest) (result : ScoringResult),
      Scoring.score here request = .ok result →
        ∃ documents resources, ∃ runner : Runner,
          Manifest.load Yaml.readAll here.files here.input request.paths = .ok documents ∧
          Resource.ofDocuments Value.callLimit documents = .ok resources ∧
          result.scorecard = .after [.run runner resources] ∧
          ((toValue ⟨result.scorecard, result.metadata⟩).member "metadata").member "resource_count" =
            number (resources.map Resource.identity).eraseDups.length ∧
          (summaryIn (toValue ⟨result.scorecard, result.metadata⟩)).member "total_resources" =
            number (resources.map Resource.identity).eraseDups.length := by
  refine ⟨fun history metadata => ⟨isConsistent_toValue (Scorecard.isStamped_after history) metadata, ?_⟩, ?_⟩
  · rw [map_identityIn_resourcesIn, Scorecard.identities_after]
  · intro here request result h
    obtain ⟨documents, resources, runner, hdocuments, hresources, hrun⟩ := Scoring.run_of_score h
    have hidentities : result.scorecard.identities = (resources.map Resource.identity).eraseDups := by
      rw [Runner.identities_of_run hrun, Scorecard.empty_append_eraseDups]
    have hsize : result.scorecard.size = (resources.map Resource.identity).eraseDups.length := by
      rw [← hidentities, Scorecard.identities, List.length_map, Scorecard.size]
    refine ⟨documents, resources, runner, hdocuments, hresources, ?_, ?_, ?_⟩
    · exact (congrArg Prod.fst hrun).symm
    · rw [← hsize, metadata_toValue, result.map_metadata]
      simp
    · rw [summaryIn_toValue, total_summaryValue, hsize]

/-- A manifest with one resource in two documents. -/
def podTwice : Surroundings := ⟨⟨[(["m.yaml"], .file "kind: Pod\n---\nkind: Pod\n".toUTF8.toList)]⟩, [], []⟩

/-- A request to score it by a check that warns of every resource. -/
def warnOfAll : ScoringRequest where
  paths := ["m.yaml"]
  rules := [⟨{ id := "replicas" }, fun _ => ⟨[], .ok [.outcome { grade := .warning }]⟩⟩]

theorem report_is_consistent_podTwice :
    ∃ result, Scoring.score podTwice warnOfAll = .ok result ∧
      IsConsistent (toValue ⟨result.scorecard, result.metadata⟩) ∧
      ((toValue ⟨result.scorecard, result.metadata⟩).member "metadata").member "resource_count" = number 1 ∧
      countIn (toValue ⟨result.scorecard, result.metadata⟩) .warning = number 1 := by
  have hvalue : (Scoring.score podTwice warnOfAll).toOption.map
      (fun result => (result.scorecard.size, result.scorecard.count .warning)) = some (1, 1) := by decide +kernel
  cases hscore : Scoring.score podTwice warnOfAll with
  | error fault => simp [hscore, Except.toOption] at hvalue
  | ok result =>
      obtain ⟨hsize, hcount⟩ : result.scorecard.size = 1 ∧ result.scorecard.count .warning = 1 := by
        simpa [hscore, Except.toOption] using hvalue
      obtain ⟨_, resources, runner, _, _, hafter, hnumber, htotal⟩ := report_is_consistent.2 _ _ _ hscore
      rw [summaryIn_toValue, total_summaryValue, hsize] at htotal
      refine ⟨result, rfl, ?_, hnumber.trans htotal.symm, by rw [countIn_toValue, hcount]⟩
      rw [hafter]
      exact (report_is_consistent.1 [.run runner resources] result.metadata).1

end Report

end ManifestGrading
