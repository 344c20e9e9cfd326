import ManifestGrading.Proofs.Gate.Agreement
import ManifestGrading.Proofs.Runner.Reference
import ManifestGrading.Proofs.Scorecard.History
import ManifestGrading.Proofs.Suppression.Annotation

/-! Suppression is erasure. A run may leave a check out because it is ignored, or look at it and discard what it found
because the resource does not count it; either way the records are those of the run without the suppression, less
the outcomes of the check. Rules that do not look at annotations cannot tell the two apart. With outcomes only taken
away, no grade gets worse and no gate closes that was open. -/

namespace ManifestGrading

/-- Whether a resource is another one that names more checks in its annotation. -/
structure Resource.NamesMore (r r' : Resource) : Prop where
  same : r'.unannotated = r.unannotated
  metadata : r'.metadata.IsMetadata
  named : ∀ id ∈ Suppression.ofMetadata r.metadata, id ∈ Suppression.ofMetadata r'.metadata

namespace Record

/-- A record without the outcomes of the checks that are dropped. -/
def without (drops : RawText → Bool) (r : Record) : Record :=
  { r with outcomes := r.outcomes.filter fun o => !o.check.any fun check => drops check.id }

/-- A record with one more check in the annotation of its resource. -/
def mark (x : RawText) (r : Record) : Record :=
  { r with metadata := (Suppression.marked x (.map r.metadata)).mapping?.getD [], ignored := r.ignored.insert x }

theorem fresh_marked {x : RawText} (hx : Suppression.IsListable x) (i : Identity) (metadata : Value) :
    fresh i (Suppression.marked x metadata) = (fresh i metadata).mark x := by
  rw [fresh, mark, fresh, Suppression.marked_map_mapping?, Suppression.ofMetadata_marked hx]

theorem grade_le_of_sublist {r q : Record} (h : q.outcomes.Sublist r.outcomes) : r.grade ≤ q.grade := by
  rw [grade, grade, Grade.le_worst_iff]
  intro g hg
  have hmem : g ∈ r.grades := (h.map Outcome.grade).subset hg
  exact Grade.worst_le hmem

end Record

namespace Scorecard

/-- Scorecards with one order whose records are the images of each other have their records in the same way. -/
theorem records_eq_map {s t : Scorecard} {f : Record → Record} (horder : t.identities = s.identities)
    (hget : ∀ i, t.get? i = (s.get? i).map f) : t.records = s.records.map f := by
  rw [records_eq_filterMap t, records_eq_filterMap s, List.map_filterMap, horder]
  exact List.filterMap_congr fun i _ => hget i

/-- Whether every record of one scorecard is there in another one with at most its outcomes. -/
def HasAtMost (s t : Scorecard) : Prop :=
  ∀ i, Option.Rel (fun r q : Record => q.outcomes.Sublist r.outcomes) (s.get? i) (t.get? i)

variable {s t : Scorecard}

theorem HasAtMost.exists_of_mem (h : s.HasAtMost t) {q : Record} (hq : q ∈ t.records) :
    ∃ r ∈ s.records, q.outcomes.Sublist r.outcomes := by
  have hrel := h q.identity
  rw [get?_of_mem hq] at hrel
  cases hget : s.get? q.identity with
  | none => simp [hget] at hrel
  | some r =>
      rw [hget, Option.rel_some_some] at hrel
      exact ⟨r, (get?_eq_some_iff.1 hget).1, hrel⟩

theorem HasAtMost.grade_le (h : s.HasAtMost t) {i : Identity} {r : Record} (hr : s.get? i = some r) :
    ∃ q, t.get? i = some q ∧ r.grade ≤ q.grade := by
  have hrel := h i
  rw [hr] at hrel
  cases hget : t.get? i with
  | none => simp [hget] at hrel
  | some q =>
      rw [hget, Option.rel_some_some] at hrel
      exact ⟨q, rfl, Record.grade_le_of_sublist hrel⟩

theorem HasAtMost.lowest_le (h : s.HasAtMost t) : s.lowest ≤ t.lowest := by
  rw [lowest, lowest, Grade.le_worst_iff]
  intro g hg
  obtain ⟨q, hq, rfl⟩ := List.mem_map.1 hg
  obtain ⟨r, hr, hsub⟩ := h.exists_of_mem hq
  have hworst : Grade.worst (s.records.map Record.grade) ≤ r.grade := Grade.worst_le (List.mem_map_of_mem hr)
  exact Grade.le_trans hworst (Record.grade_le_of_sublist hsub)

theorem HasAtMost.gradesOf_subset (h : s.HasAtMost t) : Gate.gradesOf t ⊆ Gate.gradesOf s := by
  intro g hg
  obtain ⟨q, hq, hg⟩ := List.mem_flatMap.1 hg
  obtain ⟨r, hr, hsub⟩ := h.exists_of_mem hq
  exact List.mem_flatMap.2 ⟨r, hr, (hsub.map Outcome.grade).subset hg⟩

end Scorecard

namespace Gate

theorem anyAtOrBelow_eq_false_iff {grades : List Grade} {threshold : Value} :
    anyAtOrBelow grades threshold = .ok false ↔
      grades = [] ∨ ∃ t, Grade.ofValue threshold = .ok t ∧ ∀ g ∈ grades, ¬g ≤ t := by
  unfold anyAtOrBelow
  cases grades with
  | nil => simp
  | cons g rest => cases Grade.ofValue threshold <;> simp [Except.map]

theorem exitStatus_eq_zero_iff {s : Scorecard} {onWarning : Bool} {threshold : Option Value} :
    exitStatus s onWarning threshold = .ok 0 ↔
      anyAtOrBelow (gradesOf s) (threshold.getD (defaultThreshold onWarning).toValue) = .ok false := by
  unfold exitStatus
  cases anyAtOrBelow (gradesOf s) (threshold.getD (defaultThreshold onWarning).toValue) with
  | error fault => simp [Except.map]
  | ok closed => cases closed <;> simp [Except.map]

/-- A gate that is open stays open with fewer grades to look at, whatever the threshold is. -/
theorem exitStatus_eq_zero_of_subset {s t : Scorecard} (h : gradesOf t ⊆ gradesOf s) {onWarning : Bool}
    {threshold : Option Value} (hopen : exitStatus s onWarning threshold = .ok 0) :
    exitStatus t onWarning threshold = .ok 0 := by
  rw [exitStatus_eq_zero_iff, anyAtOrBelow_eq_false_iff] at hopen ⊢
  rcases hopen with hnone | ⟨limit, hlimit, habove⟩
  · left
    rw [hnone] at h
    exact List.subset_nil.1 h
  · right
    exact ⟨limit, hlimit, fun g hg => habove g (h hg)⟩

end Gate

namespace Rule

/-- A rule that says the same of any two resources which differ by their annotations alone. -/
def IgnoresAnnotations (rule : Rule) : Prop :=
  ∀ r r' : Resource, r'.unannotated = r.unannotated → rule.evaluate r' = rule.evaluate r

variable {ignored ignored' optional : List RawText} {first first' : Resource} {suppressed suppressed' : IdSet}
  {drops : RawText → Bool} {rule : Rule}

theorem without_contribution (hrule : rule.IgnoresAnnotations) (hsame : first'.unannotated = first.unannotated)
    (hdrops : (rule.check.id ∈ Suppression.trimmed ignored' ∨ rule.check.id ∈ suppressed') ↔
      rule.check.id ∈ Suppression.trimmed ignored ∨ rule.check.id ∈ suppressed ∨ drops rule.check.id) :
    rule.contribution ignored' optional first' suppressed' =
      (rule.contribution ignored optional first suppressed).filter
        fun o => !o.check.any fun check => drops check.id := by
  have houtcomes : rule.outcomesOn first' = rule.outcomesOn first := by
    rw [outcomesOn, outcomesOn, hrule first first' hsame]
  have hkind : first'.kind = first.kind := congrArg Identity.kind (Resource.identity_of_unannotated hsame)
  have hfilter : ((rule.outcomesOn first).map (·.stamped rule.check)).filter
      (fun o => !o.check.any fun check => drops check.id) =
        if drops rule.check.id then [] else (rule.outcomesOn first).map (·.stamped rule.check) := by
    rw [List.filter_map]
    cases hdrop : drops rule.check.id with
    | true => simp [Function.comp_def, Outcome.stamped, hdrop]
    | false => simp [Function.comp_def, Outcome.stamped, hdrop]
  have hcounts : (rule.Looks ignored' optional first' ∧ rule.check.id ∉ suppressed') ↔
      (rule.Looks ignored optional first ∧ rule.check.id ∉ suppressed) ∧ ¬drops rule.check.id := by
    rw [Looks, Looks, hkind]
    tauto
  unfold contribution
  rw [houtcomes, if_congr hcounts rfl rfl]
  by_cases hlooks : rule.Looks ignored optional first ∧ rule.check.id ∉ suppressed
  · rw [if_pos hlooks, hfilter]
    by_cases hdrop : drops rule.check.id <;> simp [hlooks, hdrop]
  · rw [if_neg hlooks, if_neg fun h => hlooks h.1, List.filter_nil]

end Rule

namespace Runner

/-- The record of a resource that comes first with its identity in a run from the empty scorecard. -/
def recordOf (rules : List Rule) (ignored optional : List RawText) (first : Resource) : Record :=
  (Record.fresh first.identity first.metadata).extend
    (rules.flatMap (Rule.contribution ignored optional first (Suppression.ofMetadata first.metadata)))

variable {rules : List Rule} {ignored ignored' optional : List RawText} {resources resources' : List Resource}
  {drops : Resource → RawText → Bool}

/-- A run from the empty scorecard in which nothing goes wrong, in closed form. -/
theorem run_empty_eq (workers : Int) (hmetadata : ∀ r ∈ resources, r.metadata.IsMetadata)
    (hquiet : NothingRaises rules ignored optional resources .empty) :
    ∃ t, (Runner.new rules ignored optional workers).run resources .empty = (t, none) ∧
      t.identities = (resources.map Resource.identity).eraseDups ∧
      (∀ i, t.get? i = (resources.find? (·.identity = i)).map (recordOf rules ignored optional)) ∧
      ((∀ rule ∈ rules, rule.IsSilent) → t.postings = []) := by
  have hrun : (Runner.new rules ignored optional workers).run resources .empty = (_, none) :=
    Prod.ext rfl ((run_snd_eq_none_iff workers).2 hquiet)
  refine ⟨_, hrun, ?_, fun i => ?_, fun hsilent => ?_⟩
  · rw [identities_of_run hrun, Scorecard.empty_append_eraseDups]
  · have hkept : ∀ r ∈ resources.map Resource.registration, r.2.IsMetadata := by
      simpa [Resource.registration] using hmetadata
    rw [get?_of_run hrun, Scorecard.opening_of_isMetadata hkept, Resource.lookup_registration]
    cases hfind : resources.find? (·.identity = i) with
    | none => rfl
    | some first =>
        obtain rfl : first.identity = i := by simpa using List.find?_some hfind
        obtain ⟨r, hr, hrules⟩ := hquiet first hfind
        have hfresh := Record.new_of_isMetadata (hmetadata first (List.mem_of_find?_eq_some hfind)) first.identity
        obtain rfl : Record.fresh first.identity first.metadata = r := by
          rcases hr with hold | ⟨_, hnew⟩
          · cases hold
          · exact Except.ok.inj (hfresh.symm.trans hnew)
        show some (Record.extend _ (yieldAt _ resources _ first.identity).outcomes) = some (recordOf _ _ _ first)
        rw [yieldAt_of_some hfind, yieldAll_new_outcomes workers hrules]
        rfl
  · exact postings_of_run hrun (isSilent_of_mem_new hsilent ignored optional workers)

/-- What a resource becomes where more checks do not count: only its annotations differ, and the checks that are
ignored or do not count for it are those that were, and the dropped ones. -/
structure Restricts (ignored ignored' : List RawText) (drops : Resource → RawText → Bool) (r r' : Resource) : Prop where
  same : r'.unannotated = r.unannotated
  metadata : r'.metadata.IsMetadata
  kept : ∀ id ∈ Suppression.trimmed ignored, id ∈ Suppression.trimmed ignored'
  dropped : ∀ id, (id ∈ Suppression.trimmed ignored' ∨ id ∈ Suppression.ofMetadata r'.metadata) ↔
    id ∈ Suppression.trimmed ignored ∨ id ∈ Suppression.ofMetadata r.metadata ∨ drops r' id

theorem Restricts.identity {r r' : Resource} (h : Restricts ignored ignored' drops r r') :
    r'.identity = r.identity := Resource.identity_of_unannotated h.same

theorem Restricts.outcomes_recordOf {r r' : Resource} (h : Restricts ignored ignored' drops r r')
    (hrules : ∀ rule ∈ rules, rule.IgnoresAnnotations) (optional : List RawText) :
    (recordOf rules ignored' optional r').outcomes =
      ((recordOf rules ignored optional r).without (drops r')).outcomes := by
  show [] ++ rules.flatMap _ = ([] ++ rules.flatMap _).filter _
  rw [List.nil_append, List.nil_append, List.filter_flatMap]
  refine List.flatMap_congr fun rule hrule => ?_
  exact Rule.without_contribution (hrules rule hrule) h.same (h.dropped rule.check.id)

theorem rel_find? {R : Resource → Resource → Prop} (hidentity : ∀ r r', R r r' → r'.identity = r.identity)
    (h : List.Forall₂ R resources resources') (i : Identity) :
    Option.Rel R (resources.find? (·.identity = i)) (resources'.find? (·.identity = i)) := by
  induction h with
  | nil => exact .none
  | @cons r r' rest rest' hhead _ ih =>
      have hsame := hidentity r r' hhead
      by_cases hi : r.identity = i
      · rw [List.find?_cons_of_pos (by simpa using hi), List.find?_cons_of_pos (by simpa using hsame.trans hi)]
        exact .some hhead
      · rw [List.find?_cons_of_neg (by simpa using hi), List.find?_cons_of_neg (by simpa [hsame] using hi)]
        exact ih

theorem Restricts.identities (h : List.Forall₂ (Restricts ignored ignored' drops) resources resources') :
    resources'.map Resource.identity = resources.map Resource.identity := by
  induction h with
  | nil => rfl
  | cons hhead _ ih => rw [List.map_cons, List.map_cons, hhead.identity, ih]

/-- Where nothing goes wrong, nothing goes wrong with more checks that do not count. -/
theorem Restricts.nothingRaises (h : List.Forall₂ (Restricts ignored ignored' drops) resources resources')
    (hrules : ∀ rule ∈ rules, rule.IgnoresAnnotations)
    (hquiet : NothingRaises rules ignored optional resources .empty) :
    NothingRaises rules ignored' optional resources' .empty := by
  intro first' hfirst'
  have hrel := rel_find? (fun _ _ hrel => hrel.identity) h first'.identity
  rw [hfirst'] at hrel
  cases hfind : resources.find? (·.identity = first'.identity) with
  | none => simp [hfind] at hrel
  | some first =>
      rw [hfind, Option.rel_some_some] at hrel
      refine ⟨Record.fresh first'.identity first'.metadata,
        Or.inr ⟨rfl, Record.new_of_isMetadata hrel.metadata _⟩, fun rule hrule hlooks => ?_⟩
      rw [hrel.identity] at hfind
      obtain ⟨r, hr, hsucceeds⟩ := hquiet first hfind
      have hignored : r.ignored = Suppression.ofMetadata first.metadata := by
        rcases hr with hold | ⟨_, hnew⟩
        · cases hold
        · exact (Record.identity_new hnew).2.1
      have hkind : first'.kind = first.kind := congrArg Identity.kind hrel.identity
      have hlooksBefore : rule.Looks ignored optional first := by
        rw [Rule.Looks, hkind] at hlooks
        exact ⟨fun hmem => hlooks.1 (hrel.kept _ hmem), hlooks.2⟩
      obtain ⟨findings, hresult, houtcomes⟩ := hsucceeds rule hrule hlooksBefore
      refine ⟨findings, ?_, fun hcounts => houtcomes ?_⟩
      · rw [hrules rule hrule first first' hrel.same]
        exact hresult
      · rw [hignored]
        intro hmem
        rcases (hrel.dropped rule.check.id).2 (Or.inr (Or.inl hmem)) with hin | hin
        · exact hlooks.1 hin
        · exact hcounts hin

theorem Restricts.isMetadata (h : List.Forall₂ (Restricts ignored ignored' drops) resources resources') :
    ∀ r' ∈ resources', r'.metadata.IsMetadata := by
  induction h with
  | nil => simp
  | cons hhead _ ih =>
      intro r' hr'
      rcases List.mem_cons.1 hr' with rfl | hr'
      · exact hhead.metadata
      · exact ih r' hr'

/-- Of two runs let the second have more checks that do not count. It succeeds where the first one does, with the same
resources in the same order, and the record of each is what the rules contribute to it as it is there. -/
theorem exists_run_of_restricts (workers : Int)
    (h : List.Forall₂ (Restricts ignored ignored' drops) resources resources')
    (hmetadata : ∀ r ∈ resources, r.metadata.IsMetadata) (hrules : ∀ rule ∈ rules, rule.IgnoresAnnotations)
    (hquiet : NothingRaises rules ignored optional resources .empty) {R : Scorecard}
    (hR : (Runner.new rules ignored optional workers).run resources .empty = (R, none)) :
    ∃ S, (Runner.new rules ignored' optional workers).run resources' .empty = (S, none) ∧
      S.identities = R.identities ∧
      (∀ i, R.get? i = (resources.find? (·.identity = i)).map (recordOf rules ignored optional)) ∧
      (∀ i, S.get? i = (resources'.find? (·.identity = i)).map (recordOf rules ignored' optional)) ∧
      ((∀ rule ∈ rules, rule.IsSilent) → S.postings = R.postings) := by
  obtain ⟨T, hT, horder, hget, hsaid⟩ := run_empty_eq workers hmetadata hquiet
  obtain rfl : T = R := congrArg Prod.fst (hT.symm.trans hR)
  obtain ⟨S, hS, horder', hget', hsaid'⟩ :=
    run_empty_eq workers (Restricts.isMetadata h) (Restricts.nothingRaises h hrules hquiet)
  refine ⟨S, hS, ?_, hget, hget', fun hsilent => ?_⟩
  · rw [horder', horder, Restricts.identities h]
  · rw [hsaid hsilent, hsaid' hsilent]

/-! ### Ways to suppress -/

theorem mem_trimmed_insert {x : RawText} (hx : Suppression.IsListable x) (before behind : List RawText) (id : RawText) :
    id ∈ Suppression.trimmed (before ++ x :: behind) ↔ id ∈ Suppression.trimmed (before ++ behind) ∨ id = x := by
  have hself : Suppression.trimmed [x] = [x] := by
    simp [Suppression.trimmed, hx.trimmed, hx.ne_empty]
  rw [show before ++ x :: behind = before ++ ([x] ++ behind) from rfl, Suppression.trimmed_append,
    Suppression.trimmed_append, Suppression.trimmed_append, hself]
  simp only [List.mem_append, List.mem_singleton]
  tauto

theorem restricts_ignore {x : RawText} (hx : Suppression.IsListable x) (before behind : List RawText) {r : Resource}
    (hmetadata : r.metadata.IsMetadata) :
    Restricts (before ++ behind) (before ++ x :: behind) (fun _ id => id = x) r r := by
  refine ⟨rfl, hmetadata, fun id hid => ?_, fun id => ?_⟩
  · exact (mem_trimmed_insert hx before behind id).2 (Or.inl hid)
  · rw [mem_trimmed_insert hx, decide_eq_true_iff]
    tauto

theorem restricts_mark {x : RawText} (hx : Suppression.IsListable x) (ignored : List RawText) {r r' : Resource}
    (h : Resource.IsMarked x r r') : Restricts ignored ignored (fun _ id => id = x) r r' := by
  refine ⟨h.2, ?_, fun id hid => hid, fun id => ?_⟩
  · rw [h.1]
    exact Or.inr rfl
  · rw [h.1, Suppression.ofMetadata_marked hx, IdSet.mem_insert, decide_eq_true_iff]
    tauto

theorem restricts_of_namesMore (hignored : ∀ id ∈ Suppression.trimmed ignored, id ∈ Suppression.trimmed ignored')
    {r r' : Resource} (h : Resource.NamesMore r r') :
    Restricts ignored ignored'
      (fun r id => id ∈ Suppression.trimmed ignored' ∨ id ∈ Suppression.ofMetadata r.metadata) r r' := by
  refine ⟨h.same, h.metadata, hignored, fun id => ?_⟩
  have hin : id ∈ Suppression.trimmed ignored → id ∈ Suppression.trimmed ignored' := hignored id
  have hnamed : id ∈ Suppression.ofMetadata r.metadata → id ∈ Suppression.ofMetadata r'.metadata := h.named id
  rw [decide_eq_true_iff]
  tauto

theorem recordOf_ignore {x : RawText} (hx : Suppression.IsListable x) (before behind : List RawText) {r : Resource}
    (hmetadata : r.metadata.IsMetadata) (hrules : ∀ rule ∈ rules, rule.IgnoresAnnotations) :
    recordOf rules (before ++ x :: behind) optional r =
      (recordOf rules (before ++ behind) optional r).without fun id => id = x := by
  have houtcomes := (restricts_ignore hx before behind hmetadata).outcomes_recordOf hrules optional
  calc recordOf rules (before ++ x :: behind) optional r
      = { Record.fresh r.identity r.metadata with
          outcomes := (recordOf rules (before ++ x :: behind) optional r).outcomes } := rfl
    _ = (recordOf rules (before ++ behind) optional r).without fun id => id = x := by rw [houtcomes]; rfl

theorem recordOf_mark {x : RawText} (hx : Suppression.IsListable x) {r r' : Resource} (h : Resource.IsMarked x r r')
    (hrules : ∀ rule ∈ rules, rule.IgnoresAnnotations) :
    recordOf rules ignored optional r' =
      ((recordOf rules ignored optional r).without fun id => id = x).mark x := by
  have hrestricts := restricts_mark hx ignored h
  have houtcomes := hrestricts.outcomes_recordOf hrules optional
  calc recordOf rules ignored optional r'
      = { Record.fresh r'.identity r'.metadata with outcomes := (recordOf rules ignored optional r').outcomes } := rfl
    _ = { (Record.fresh r.identity r.metadata).mark x with
          outcomes := ((recordOf rules ignored optional r).without fun id => id = x).outcomes } := by
        rw [hrestricts.identity, h.1, Record.fresh_marked hx, houtcomes]
    _ = ((recordOf rules ignored optional r).without fun id => id = x).mark x := rfl

/-! ### Suppression -/

variable {x : RawText} {before behind : List RawText}

/-- To ignore a check takes its outcomes from all records, and so does naming it in the annotations of all resources.
Whatever else is ignored or named in annotations besides, no record and no scorecard gets a worse grade by it, and no
gate closes. -/
theorem suppression_erases (workers : Int) (hx : Suppression.IsListable x)
    (hmetadata : ∀ r ∈ resources, r.metadata.IsMetadata) (hrules : ∀ rule ∈ rules, rule.IgnoresAnnotations)
    (hquiet : NothingRaises rules (before ++ behind) optional resources .empty) :
    ∃ R, (Runner.new rules (before ++ behind) optional workers).run resources .empty = (R, none) ∧
      (∃ S, (Runner.new rules (before ++ x :: behind) optional workers).run resources .empty = (S, none) ∧
        S.records = R.records.map (·.without fun id => id = x) ∧
        ((∀ rule ∈ rules, rule.IsSilent) → S.postings = R.postings)) ∧
      (∀ marked, List.Forall₂ (Resource.IsMarked x) resources marked →
        ∃ S, (Runner.new rules (before ++ behind) optional workers).run marked .empty = (S, none) ∧
          S.records = R.records.map (fun r => (r.without fun id => id = x).mark x) ∧
          ((∀ rule ∈ rules, rule.IsSilent) → S.postings = R.postings)) ∧
      ∀ ignored' resources',
        (∀ id ∈ Suppression.trimmed (before ++ behind), id ∈ Suppression.trimmed ignored') →
        List.Forall₂ Resource.NamesMore resources resources' →
        ∃ S, (Runner.new rules ignored' optional workers).run resources' .empty = (S, none) ∧
          S.identities = R.identities ∧
          (∀ i r, R.get? i = some r → ∃ q, S.get? i = some q ∧ r.grade ≤ q.grade) ∧
          R.lowest ≤ S.lowest ∧
          ∀ onWarning threshold, Gate.exitStatus R onWarning threshold = .ok 0 →
            Gate.exitStatus S onWarning threshold = .ok 0 := by
  obtain ⟨R, hR, _⟩ := run_empty_eq workers hmetadata hquiet
  refine ⟨R, hR, ?_, fun marked hmarked => ?_, fun ignored' resources' hignored hmore => ?_⟩
  · have hrestricts : List.Forall₂ (Restricts (before ++ behind) (before ++ x :: behind) fun _ id => id = x)
        resources resources :=
      List.forall₂_same.2 fun r hr => restricts_ignore hx before behind (hmetadata r hr)
    obtain ⟨S, hS, horder, hget, hget', hsaid⟩ :=
      exists_run_of_restricts workers hrestricts hmetadata hrules hquiet hR
    refine ⟨S, hS, Scorecard.records_eq_map horder fun i => ?_, hsaid⟩
    rw [hget, hget', Option.map_map]
    refine Option.map_congr fun r hr => ?_
    exact recordOf_ignore hx before behind (hmetadata r (List.mem_of_find?_eq_some hr)) hrules
  · have hrestricts : List.Forall₂ (Restricts (before ++ behind) (before ++ behind) fun _ id => id = x)
        resources marked := hmarked.imp fun r r' h => restricts_mark hx _ h
    obtain ⟨S, hS, horder, hget, hget', hsaid⟩ :=
      exists_run_of_restricts workers hrestricts hmetadata hrules hquiet hR
    refine ⟨S, hS, Scorecard.records_eq_map horder fun i => ?_, hsaid⟩
    rw [hget, hget']
    have hfirst := rel_find? (fun r r' h => Resource.identity_of_unannotated h.2) hmarked i
    generalize resources.find? _ = first, marked.find? _ = first' at hfirst
    cases hfirst with
    | none => rfl
    | some h => exact congrArg some (recordOf_mark hx h hrules)
  · have hrestricts := hmore.imp fun r r' h => restricts_of_namesMore hignored h
    obtain ⟨S, hS, horder, hget, hget', _⟩ :=
      exists_run_of_restricts workers hrestricts hmetadata hrules hquiet hR
    have hatMost : R.HasAtMost S := by
      intro i
      rw [hget, hget']
      have hfirst := rel_find? (fun r r' h => h.identity) hrestricts i
      generalize resources.find? _ = first, resources'.find? _ = first' at hfirst
      cases hfirst with
      | none => exact .none
      | some h =>
          rw [Option.map_some, Option.map_some, Option.rel_some_some, h.outcomes_recordOf hrules optional]
          exact List.filter_sublist
    refine ⟨S, hS, horder, fun i r hr => hatMost.grade_le hr, hatMost.lowest_le, fun onWarning threshold hopen => ?_⟩
    exact Gate.exitStatus_eq_zero_of_subset hatMost.gradesOf_subset hopen

theorem ignoresAnnotations_locating (check : Check) : (locating check).IgnoresAnnotations := by
  intro r r' h
  have hsource : r'.source = r.source := by
    have heq := congrArg Resource.source h
    exact heq
  simp [locating, hsource]

/-- Resources of which one comes twice, and names a check in its annotation when it first comes. -/
def annotatedWebTwice : List Resource :=
  [⟨⟨"Deployment", "apps/v1", "", "web"⟩, Scorecard.metadataIgnoring "labels", .null, "a.yaml"⟩,
    ⟨⟨"Service", "v1", "", "api"⟩, .null, .null, "b.yaml"⟩,
    ⟨⟨"Deployment", "apps/v1", "", "web"⟩, .null, .null, "c.yaml"⟩]

/-- The identifiers of the checks under which outcomes are recorded, record by record. -/
def checksOf (s : Scorecard) : List (List (Option String)) :=
  s.records.map fun r => r.outcomes.map fun o => o.check.map (·.id.shown)

theorem suppression_erases_annotatedWebTwice :
    Suppression.IsListable "probes" ∧ (∀ r ∈ annotatedWebTwice, r.metadata.IsMetadata) ∧
      (∀ rule ∈ locatingRules, rule.IgnoresAnnotations) ∧
      NothingRaises locatingRules ([RawText.ofString "old "] ++ []) ["beta"] annotatedWebTwice .empty ∧
      ∃ R, (Runner.new locatingRules ["old "] ["beta"] 1).run annotatedWebTwice .empty = (R, none) ∧
        checksOf R = [[some "probes", some "beta"], [some "labels", some "probes", some "beta", some "ports"]] ∧
        (∃ S, (Runner.new locatingRules ["old ", "probes"] ["beta"] 1).run annotatedWebTwice .empty = (S, none) ∧
          checksOf S = [[some "beta"], [some "labels", some "beta", some "ports"]]) ∧
        (∃ S, (Runner.new locatingRules ["old "] ["beta"] 1).run (annotatedWebTwice.map (·.mark "probes")) .empty =
            (S, none) ∧
          checksOf S = [[some "beta"], [some "labels", some "beta", some "ports"]] ∧
          S.records.map (fun r => r.ignored.ids.map RawText.shown) = [["labels", "probes"], ["probes"]]) ∧
        ∃ S, (Runner.new locatingRules ["old ", "beta"] ["beta"] 1).run (annotatedWebTwice.map (·.mark "probes")) .empty =
            (S, none) ∧ R.lowest ≤ S.lowest := by
  have hx : Suppression.IsListable "probes" := ⟨by decide, by decide, by decide⟩
  have hmetadata : ∀ r ∈ annotatedWebTwice, r.metadata.IsMetadata := by
    simp [annotatedWebTwice, Value.IsMetadata, Scorecard.metadataIgnoring, Value.mapping?_map]
  have hrules : ∀ rule ∈ locatingRules, rule.IgnoresAnnotations := by
    simp [locatingRules, ignoresAnnotations_locating]
  have hquiet : NothingRaises locatingRules ([RawText.ofString "old "] ++ []) ["beta"] annotatedWebTwice .empty :=
    (run_snd_eq_none_iff 1).1 (by decide +kernel)
  have hmarked : List.Forall₂ (Resource.IsMarked "probes") annotatedWebTwice (annotatedWebTwice.map (·.mark "probes")) :=
    List.forall₂_map_right_iff.2 (List.forall₂_same.2 fun r _ => Resource.isMarked_mark "probes" r)
  have hmore : List.Forall₂ Resource.NamesMore annotatedWebTwice (annotatedWebTwice.map (·.mark "probes")) := by
    refine hmarked.imp fun r r' h => ⟨h.2, ?_, fun id hid => ?_⟩
    · rw [h.1]
      exact Or.inr rfl
    · rw [h.1, Suppression.ofMetadata_marked hx, IdSet.mem_insert]
      exact Or.inr hid
  obtain ⟨R, hR, ⟨S, hS, hrecords, _⟩, hannotated, hsuppressed⟩ := suppression_erases 1 hx hmetadata hrules hquiet
  obtain rfl : _ = R := congrArg Prod.fst hR
  obtain ⟨T, hT, hTrecords, _⟩ := hannotated _ hmarked
  obtain ⟨U, hU, _, _, hlowest, _⟩ := hsuppressed ["old ", "beta"] _ (by decide) hmore
  refine ⟨hx, hmetadata, hrules, hquiet, _, hR, by decide +kernel, ⟨S, hS, ?_⟩, ⟨T, hT, ?_, ?_⟩, U, hU, hlowest⟩
  · rw [checksOf, hrecords]
    decide +kernel
  · rw [checksOf, hTrecords]
    decide +kernel
  · rw [hTrecords]
    decide +kernel

end Runner

end ManifestGrading
