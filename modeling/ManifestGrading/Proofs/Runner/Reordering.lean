import ManifestGrading.Proofs.Runner.Reference
import ManifestGrading.Proofs.Scorecard.Requests

/-! Runs in another order. Which rule comes first decides the order of the outcomes in each record and nothing else, and
which resource comes first decides the order of the records and nothing else, as long as the resources of one
identity keep theirs. Grades, counts and gates do not look at either order. -/

namespace ManifestGrading

/-- Whether two records differ in the order of their outcomes alone. -/
structure Record.IsShuffle (r q : Record) : Prop where
  identity : q.identity = r.identity
  metadata : q.metadata = r.metadata
  ignored : q.ignored = r.ignored
  outcomes : q.outcomes.Perm r.outcomes

namespace Record.IsShuffle

variable {r q : Record}

theorem refl (r : Record) : r.IsShuffle r := ⟨rfl, rfl, rfl, .refl _⟩

theorem grades (h : r.IsShuffle q) : q.grades.Perm r.grades := h.outcomes.map Outcome.grade

theorem grade (h : r.IsShuffle q) : q.grade = r.grade := Grade.worst_eq_of_perm h.grades

variable {records records' : List Record}

theorem map_grade_eq (h : List.Forall₂ IsShuffle records records') :
    records'.map Record.grade = records.map Record.grade := by
  induction h with
  | nil => rfl
  | cons hhead _ ih => rw [List.map_cons, List.map_cons, hhead.grade, ih]

theorem flatMap_grades_perm (h : List.Forall₂ IsShuffle records records') :
    (records'.flatMap Record.grades).Perm (records.flatMap Record.grades) := by
  induction h with
  | nil => exact .nil
  | cons hhead _ ih => exact hhead.grades.append ih

end Record.IsShuffle

namespace Scorecard

/-- Whether two scorecards have the same grades, counts and gates. -/
structure SameVerdicts (s t : Scorecard) : Prop where
  grade : ∀ i, (t.get? i).map Record.grade = (s.get? i).map Record.grade
  counts : t.counts = s.counts
  lowest : t.lowest = s.lowest
  exitStatus : ∀ onWarning threshold, Gate.exitStatus t onWarning threshold = Gate.exitStatus s onWarning threshold

variable {s t : Scorecard}

/-- The records of two scorecards with the same ones but for the order of outcomes stand in pairs, once those of the
second scorecard are in the order of the first. -/
theorem exists_perm_records (h : ∀ i, Option.Rel Record.IsShuffle (s.get? i) (t.get? i)) :
    ∃ records, List.Forall₂ Record.IsShuffle s.records records ∧ records.Perm t.records := by
  have hmem (i : Identity) : i ∈ s.identities ↔ i ∈ t.identities := by
    have hrel := h i
    rw [← Decidable.not_iff_not, ← get?_eq_none_iff, ← get?_eq_none_iff]
    cases hs : s.get? i <;> cases ht : t.get? i <;> simp_all
  have hperm : s.identities.Perm t.identities := (List.perm_ext_iff_of_nodup s.distinct t.distinct).2 hmem
  refine ⟨s.identities.filterMap t.get?, ?_, ?_⟩
  · rw [records_eq_filterMap s]
    induction s.identities with
    | nil => exact .nil
    | cons i rest ih =>
        have hrel := h i
        rw [List.filterMap_cons, List.filterMap_cons]
        generalize s.get? i = a, t.get? i = b at hrel
        cases hrel with
        | none => exact ih
        | some hrel => exact .cons hrel ih
  · rw [records_eq_filterMap t]
    exact hperm.filterMap t.get?

theorem sameVerdicts_of_isShuffle (h : ∀ i, Option.Rel Record.IsShuffle (s.get? i) (t.get? i)) : s.SameVerdicts t := by
  obtain ⟨records, hpairs, hperm⟩ := exists_perm_records h
  have hgrades : (t.records.map Record.grade).Perm (s.records.map Record.grade) :=
    Record.IsShuffle.map_grade_eq hpairs ▸ (hperm.map Record.grade).symm
  have houtcomes : (Gate.gradesOf t).Perm (Gate.gradesOf s) :=
    (hperm.symm.flatMap_right Record.grades).trans (Record.IsShuffle.flatMap_grades_perm hpairs)
  refine ⟨fun i => ?_, ?_, Grade.worst_eq_of_perm hgrades, Gate.exitStatus_eq_of_perm houtcomes⟩
  · have hrel := h i
    generalize s.get? i = a, t.get? i = b at hrel
    cases hrel with
    | none => rfl
    | some hrel => exact congrArg some hrel.grade
  · rw [counts, counts, funext t.count_eq_count, funext s.count_eq_count]
    exact List.map_congr_left fun g _ => congrArg (g, ·) (hgrades.count_eq g)

end Scorecard

namespace Runner

variable {runner runner' : Runner} {rules rules' : List Rule} {resources resources' : List Resource}
  {s t t' : Scorecard}

/-! ### Rules in another order -/

theorem yieldAt_outcomes_perm (h : rules.Perm rules') {ignored : IdSet} {i : Identity}
    (hfault : (yieldAt rules resources ignored i).fault = none)
    (hfault' : (yieldAt rules' resources ignored i).fault = none) :
    (yieldAt rules' resources ignored i).outcomes.Perm (yieldAt rules resources ignored i).outcomes := by
  cases hfind : resources.find? (·.identity = i) with
  | none =>
      rw [yieldAt_of_none hfind, yieldAt_of_none hfind]
  | some first =>
      rw [yieldAt_of_some hfind] at hfault hfault' ⊢
      rw [yieldAt_of_some hfind, Rule.yieldAll_of_fault_eq_none hfault, Rule.yieldAll_of_fault_eq_none hfault']
      exact h.symm.flatMap_right _

theorem run_snd_eq_none_iff_of_perm (h : runner.rules.Perm runner'.rules) :
    (runner.run resources s).2 = none ↔ (runner'.run resources s).2 = none := by
  rw [run_snd_eq_none_iff_opening, run_snd_eq_none_iff_opening]
  refine forall₂_congr fun first _ => exists_congr fun r => and_congr_right fun _ => ?_
  rw [Rule.yieldAll_fault_eq_none_iff, Rule.yieldAll_fault_eq_none_iff]
  exact forall_congr' fun rule => imp_congr_left h.mem_iff

theorem isShuffle_of_perm (h : runner.rules.Perm runner'.rules) (hrun : runner.run resources s = (t, none))
    (hrun' : runner'.run resources s = (t', none)) (i : Identity) :
    Option.Rel Record.IsShuffle (t.get? i) (t'.get? i) := by
  rw [get?_of_run hrun, get?_of_run hrun']
  cases hr : s.opening (resources.map Resource.registration) i with
  | none => exact .none
  | some r =>
      have hperm := yieldAt_outcomes_perm h (yieldAt_fault_of_run hrun hr) (yieldAt_fault_of_run hrun' hr)
      exact .some ⟨rfl, rfl, rfl, hperm.append_left r.outcomes⟩

/-! ### Resources in another order -/

section Resources

variable (h : ∀ i, resources'.filter (·.identity = i) = resources.filter (·.identity = i))
include h

theorem find?_eq_of_filter_eq (i : Identity) :
    resources'.find? (·.identity = i) = resources.find? (·.identity = i) := by
  rw [← List.head?_filter, ← List.head?_filter, h]

theorem run_snd_eq_none_iff_of_filter_eq :
    (runner.run resources s).2 = none ↔ (runner.run resources' s).2 = none := by
  rw [run_snd_eq_none_iff_opening, run_snd_eq_none_iff_opening]
  refine forall_congr' fun first => ?_
  rw [find?_eq_of_filter_eq h, Scorecard.opening_eq_of_find?_eq s (find?_eq_of_filter_eq h first.identity)]

theorem get?_eq_of_filter_eq (hrun : runner.run resources s = (t, none)) (hrun' : runner.run resources' s = (t', none))
    (i : Identity) : t'.get? i = t.get? i := by
  have hfind := find?_eq_of_filter_eq h i
  rw [get?_of_run hrun, get?_of_run hrun', Scorecard.opening_eq_of_find?_eq s hfind]
  simp only [yieldAt_eq_of_find?_eq hfind]

end Resources

/-! ### Verdicts -/

/-- Verdicts do not depend on order. With the rules in another order a run fails if it did, and otherwise leaves the same
records in the same order but for the order of their outcomes. With the resources in another order, which is the same
among those of one identity, a run fails if it did, and otherwise leaves the same record of each resource. Either way
grades, counts and gates are the same. -/
theorem verdicts_of_reordering (ignored optional : List RawText) (workers : Int) (s : Scorecard) :
    (∀ (rules rules' : List Rule) (resources : List Resource), rules.Perm rules' →
      (((Runner.new rules ignored optional workers).run resources s).2 = none ↔
        ((Runner.new rules' ignored optional workers).run resources s).2 = none) ∧
      ∀ t t', (Runner.new rules ignored optional workers).run resources s = (t, none) →
        (Runner.new rules' ignored optional workers).run resources s = (t', none) →
          t'.identities = t.identities ∧
          (∀ i, Option.Rel Record.IsShuffle (t.get? i) (t'.get? i)) ∧
          ((∀ rule ∈ rules, rule.IsSilent) → t'.postings = t.postings) ∧
          t.SameVerdicts t') ∧
    ∀ (rules : List Rule) (resources resources' : List Resource),
      (∀ i, resources'.filter (·.identity = i) = resources.filter (·.identity = i)) →
      (((Runner.new rules ignored optional workers).run resources s).2 = none ↔
        ((Runner.new rules ignored optional workers).run resources' s).2 = none) ∧
      ∀ t t', (Runner.new rules ignored optional workers).run resources s = (t, none) →
        (Runner.new rules ignored optional workers).run resources' s = (t', none) →
          (∀ i, t'.get? i = t.get? i) ∧
          ((∀ rule ∈ rules, rule.IsSilent) → t'.postings = t.postings) ∧
          t.SameVerdicts t' := by
  refine ⟨fun rules rules' resources hrules => ?_, fun rules resources resources' hsame => ?_⟩
  · have hperm : (Runner.new rules ignored optional workers).rules.Perm
        (Runner.new rules' ignored optional workers).rules := hrules.filter _
    refine ⟨run_snd_eq_none_iff_of_perm hperm, fun t t' hrun hrun' => ?_⟩
    have hshuffle := isShuffle_of_perm hperm hrun hrun'
    refine ⟨?_, hshuffle, fun hsilent => ?_, Scorecard.sameVerdicts_of_isShuffle hshuffle⟩
    · rw [identities_of_run hrun, identities_of_run hrun']
    · have hsilent' : ∀ rule ∈ rules', rule.IsSilent := fun rule hrule => hsilent rule (hrules.mem_iff.2 hrule)
      rw [postings_of_run hrun (isSilent_of_mem_new hsilent ignored optional workers),
        postings_of_run hrun' (isSilent_of_mem_new hsilent' ignored optional workers)]
  · refine ⟨run_snd_eq_none_iff_of_filter_eq hsame, fun t t' hrun hrun' => ?_⟩
    have hget := get?_eq_of_filter_eq hsame hrun hrun'
    refine ⟨hget, fun hsilent => ?_, Scorecard.sameVerdicts_of_isShuffle fun i => ?_⟩
    · have hsilent' := isSilent_of_mem_new hsilent ignored optional workers
      rw [postings_of_run hrun hsilent', postings_of_run hrun' hsilent']
    · rw [hget]
      cases t.get? i with
      | none => exact .none
      | some r => exact .some (.refl r)

/-- A rule that warns of each resource, with the place of its manifest. -/
def warning (check : Check) : Rule := ⟨check, fun r => { result := .ok [.outcome ⟨.warning, r.source, none, [], none⟩] }⟩

/-- The resources of `webTwice` with those of one identity last. -/
def webLast : List Resource :=
  [⟨⟨"Service", "v1", "", "api"⟩, .null, .null, "b.yaml"⟩,
    ⟨⟨"Deployment", "apps/v1", "", "web"⟩, .null, .null, "a.yaml"⟩,
    ⟨⟨"Deployment", "apps/v1", "", "web"⟩, .null, .null, "c.yaml"⟩]

theorem verdicts_of_reordering_webLast :
    [locating { id := "labels" }, warning { id := "ports" }].Perm [warning { id := "ports" }, locating { id := "labels" }] ∧
      (∀ i, webLast.filter (·.identity = i) = webTwice.filter (·.identity = i)) ∧
      ∃ t t' u, (Runner.new [locating { id := "labels" }, warning { id := "ports" }] [] [] 1).run webTwice .empty =
          (t, none) ∧
        (Runner.new [warning { id := "ports" }, locating { id := "labels" }] [] [] 1).run webTwice .empty = (t', none) ∧
        (Runner.new [locating { id := "labels" }, warning { id := "ports" }] [] [] 1).run webLast .empty = (u, none) ∧
        t.SameVerdicts t' ∧ t.SameVerdicts u ∧ t.identities ≠ u.identities ∧
        found t =
          [[verdict "labels" "a.yaml", verdict "ports" "a.yaml"], [verdict "labels" "b.yaml", verdict "ports" "b.yaml"]] ∧
        found t' =
          [[verdict "ports" "a.yaml", verdict "labels" "a.yaml"],
            [verdict "ports" "b.yaml", verdict "labels" "b.yaml"]] := by
  have hrules : [locating { id := "labels" }, warning { id := "ports" }].Perm
      [warning { id := "ports" }, locating { id := "labels" }] := .swap _ _ []
  have hsame : ∀ i, webLast.filter (·.identity = i) = webTwice.filter (·.identity = i) := by
    intro i
    by_cases hweb : (⟨"Deployment", "apps/v1", "", "web"⟩ : Identity) = i
    · subst hweb
      rfl
    · simp [webLast, webTwice, hweb, List.filter_cons]
  obtain ⟨hshuffled, hreordered⟩ := verdicts_of_reordering [] [] 1 .empty
  have hrun : ((Runner.new [locating { id := "labels" }, warning { id := "ports" }] [] [] 1).run webTwice .empty).2 =
      none := by decide +kernel
  obtain ⟨hquiet, hverdicts⟩ := hshuffled _ _ webTwice hrules
  obtain ⟨hquiet', hverdicts'⟩ := hreordered [locating { id := "labels" }, warning { id := "ports" }] _ _ hsame
  refine ⟨hrules, hsame, _, _, _, Prod.ext rfl hrun, Prod.ext rfl (hquiet.1 hrun), Prod.ext rfl (hquiet'.1 hrun),
    ?_, ?_, by decide +kernel, by decide +kernel, by decide +kernel⟩
  · exact (hverdicts _ _ (Prod.ext rfl hrun) (Prod.ext rfl (hquiet.1 hrun))).2.2.2
  · exact (hverdicts' _ _ (Prod.ext rfl hrun) (Prod.ext rfl (hquiet'.1 hrun))).2.2

end Runner

end ManifestGrading
