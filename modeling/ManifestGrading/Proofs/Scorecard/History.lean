import Mathlib.Data.List.Induction
import ManifestGrading.Proofs.Runner.Visits

/-! Scorecards as the outcome of their history. A history is any sequence of registrations, additions, comments and
runs that starts with the empty scorecard. What its registrations ask for decides which records there are, in
which order, and which checks count for them: the first registration of a resource wins. What its steps offer
decides the outcomes: a record only grows, by outcomes that a step offers to it under a check that counts, each
stamped with that check. -/

namespace ManifestGrading

/-- Metadata as resources have it: none at all, or a mapping. -/
def Value.IsMetadata (v : Value) : Prop := v = .null ∨ v.mapping?.isSome

namespace Record

/-- The new record of a resource with the given metadata. -/
def fresh (identity : Identity) (metadata : Value) : Record :=
  ⟨identity, metadata.mapping?.getD [], Suppression.ofMetadata metadata, []⟩

theorem new_of_isMetadata {metadata : Value} (h : metadata.IsMetadata) (identity : Identity) :
    new identity metadata = .ok (fresh identity metadata) := by
  rcases h with rfl | h
  · rfl
  · obtain ⟨entries, hentries⟩ := Option.isSome_iff_exists.1 h
    have hkept : (metadata.orElse (.map [])).toEntries = .ok entries := by
      by_cases htruthy : metadata.isTruthy
      · rw [Value.orElse_of_truthy htruthy, Value.toEntries, hentries]
      · -- of all mappings only the empty one does not count as given
        cases metadata with
        | map given =>
            obtain rfl : given = entries := Option.some.inj hentries
            obtain rfl : given = [] := by simpa [Value.isTruthy] using htruthy
            rfl
        | knot cells root => simp [Value.isTruthy] at htruthy
        | _ => simp [Value.mapping?, Value.opened] at hentries
    simp [new, hkept, hentries, fresh, bind, Except.bind, pure, Except.pure]

theorem ignored_fresh_of_isMetadata {metadata : Value} (h : metadata.IsMetadata) (identity : Identity) :
    (fresh identity metadata).ignored = Suppression.ofMetadata (.map (fresh identity metadata).metadata) := by
  rcases h with rfl | h
  · rfl
  · obtain ⟨entries, hentries⟩ := Option.isSome_iff_exists.1 h
    simp [fresh, hentries, Suppression.ofMetadata, Suppression.annotationText?, Value.mapping?_map]

/-- A record grown from another one by outcomes that are offered under checks that count for it. -/
def Grows (offered : Outcome → Check → Prop) (r r' : Record) : Prop :=
  ∃ added, r' = r.extend added ∧
    ∀ o ∈ added, ∃ original check, offered original check ∧ check.id ∉ r.ignored ∧ o = original.stamped check

theorem Grows.refl (offered : Outcome → Check → Prop) (r : Record) : r.Grows offered r := ⟨[], by simp⟩

theorem Grows.mono {offered offered' : Outcome → Check → Prop} (h : ∀ o c, offered o c → offered' o c)
    {r r' : Record} (hgrows : r.Grows offered r') : r.Grows offered' r' := by
  obtain ⟨added, hadded, hfrom⟩ := hgrows
  refine ⟨added, hadded, fun o ho => ?_⟩
  obtain ⟨original, check, hoffered, hcounts, rfl⟩ := hfrom o ho
  exact ⟨original, check, h _ _ hoffered, hcounts, rfl⟩

theorem Grows.trans {offered : Outcome → Check → Prop} {a b c : Record} (hab : a.Grows offered b)
    (hbc : b.Grows offered c) : a.Grows offered c := by
  obtain ⟨first, rfl, hfirst⟩ := hab
  obtain ⟨second, rfl, hsecond⟩ := hbc
  refine ⟨first ++ second, extend_extend a first second, fun o ho => ?_⟩
  rcases List.mem_append.1 ho with ho | ho
  · exact hfirst o ho
  · exact hsecond o ho

section Rel

variable {offered offered' : Outcome → Check → Prop} {a b c : Option Record}

theorem Grows.rel_refl (o : Option Record) : Option.Rel (Grows offered) o o := by
  cases o with
  | none => exact .none
  | some r => exact .some (.refl offered r)

theorem Grows.rel_mono (h : ∀ o c, offered o c → offered' o c) (hab : Option.Rel (Grows offered) a b) :
    Option.Rel (Grows offered') a b := by
  cases hab with
  | none => exact .none
  | some hab => exact .some (hab.mono h)

theorem Grows.rel_trans (hab : Option.Rel (Grows offered) a b) (hbc : Option.Rel (Grows offered) b c) :
    Option.Rel (Grows offered) a c := by
  cases hab with
  | none => exact hbc
  | some hab =>
      cases hbc with
      | some hbc => exact .some (hab.trans hbc)

theorem Grows.rel_or (hab : Option.Rel (Grows offered) a b) (c : Option Record) :
    Option.Rel (Grows offered) (a.or c) (b.or c) := by
  cases hab with
  | none => exact rel_refl c
  | some hab => exact .some hab

end Rel

end Record

namespace Scorecard

theorem mem_of_lookup_eq_some {registrations : List (Identity × Value)} {i : Identity} {metadata : Value}
    (h : registrations.lookup i = some metadata) : (i, metadata) ∈ registrations := by
  obtain ⟨before, behind, hsplit, _⟩ := List.lookup_eq_some_iff.1 h
  simp [hsplit]

theorem opening_of_isMetadata {registrations : List (Identity × Value)} (h : ∀ r ∈ registrations, r.2.IsMetadata)
    (s : Scorecard) (i : Identity) :
    s.opening registrations i = (s.get? i).or ((registrations.lookup i).map (Record.fresh i)) := by
  unfold opening
  cases hlookup : registrations.lookup i with
  | none => rfl
  | some metadata =>
      simp [Record.new_of_isMetadata (h _ (mem_of_lookup_eq_some hlookup)), Except.toOption]

theorem register_of_isMetadata {metadata : Value} (h : metadata.IsMetadata) (s : Scorecard) (identity : Identity) :
    ∃ t, s.register identity metadata = .ok t := by
  by_cases hmem : s.contains identity
  · exact ⟨s, register_of_contains hmem metadata⟩
  · exact ⟨s.insert (Record.fresh identity metadata), by
      simp [register, hmem, Record.new_of_isMetadata h, Except.map]⟩

theorem registerAll_of_isMetadata {resources : List Resource}
    (h : ∀ r ∈ resources.map Resource.registration, r.2.IsMetadata) (s : Scorecard) :
    ∃ t, s.registerAll resources = (t, none) := by
  have hnone : (s.registerAll resources).2 = none := by
    refine registerAll_snd_eq_none_iff.2 fun r hr _ => ⟨_, Record.new_of_isMetadata (h r.registration ?_) _⟩
    exact List.mem_map_of_mem (List.mem_of_find?_eq_some (Resource.mem_firsts_iff.1 hr))
  exact ⟨_, Prod.ext rfl hnone⟩

/-- One thing that is done with a scorecard. -/
inductive Step where
  | register (identity : Identity) (metadata : Value)
  | add (identity : Identity) (original : Outcome) (check : Check)
  | comment (target : Outcome) (note : Comment)
  | run (runner : Runner) (resources : List Resource)

namespace Step

/-- The scorecard after a step. A refused registration and a run that fails leave what they have done so far. -/
def apply (s : Scorecard) : Step → Scorecard
  | register identity metadata =>
    match s.register identity metadata with
    | .ok t => t
    | .error _ => s
  | add identity original check => s.add identity original check
  | comment target note => s.post (target.thread.toList.map fun thread => ⟨thread, note⟩)
  | run runner resources => (runner.run resources s).1

/-- The registrations that a step asks for, in order. -/
def registrations : Step → List (Identity × Value)
  | register identity metadata => [(identity, metadata)]
  | run _ resources => resources.map Resource.registration
  | _ => []

/-- Whether a step offers an outcome to the record of a resource, and the check that it is added under. -/
def Offers (step : Step) (identity : Identity) (original : Outcome) (check : Check) : Prop :=
  match step with
  | add i o c => i = identity ∧ o = original ∧ c = check
  | run runner resources =>
    ∃ resource ∈ resources, resource.identity = identity ∧ ∃ rule ∈ runner.rules, rule.check = check ∧
      ∃ findings, (rule.evaluate resource).result = .ok findings ∧ .outcome original ∈ findings
  | _ => False

/-- A step whose registrations all come with metadata as resources have it. -/
def IsProper (step : Step) : Prop := ∀ r ∈ step.registrations, r.2.IsMetadata

end Step

/-- The scorecard after a history. -/
def after (history : List Step) : Scorecard := history.foldl Step.apply empty

theorem after_concat (history : List Step) (step : Step) : after (history ++ [step]) = step.apply (after history) := by
  simp [after]

/-! ### One step -/

namespace Step

variable {step : Step}

/-- A visit offers what the rules find to the record of the resource. -/
theorem grows_visitAll (s : Scorecard) {runner : Runner} {resources pending : List Resource}
    (h : ∀ r ∈ pending, r ∈ resources) (i : Identity) :
    Option.Rel (Record.Grows ((run runner resources).Offers i)) (s.get? i)
      ((s.visitAll runner.rules pending).1.get? i) := by
  rw [get?_visitAll]
  cases hget : s.get? i with
  | none => exact .none
  | some r =>
      refine .some ⟨_, rfl, fun o ho => ?_⟩
      obtain ⟨resource, hresource, ho⟩ := List.mem_flatMap.1 ho
      split at ho
      · next hi =>
        rw [yieldOf, hi, hget] at ho
        obtain ⟨rule, hrule, ho⟩ := Rule.mem_yieldAll_outcomes ho
        obtain ⟨findings, original, hresult, hmem, hcounts, rfl⟩ := Rule.mem_yield_outcomes ho
        exact ⟨original, rule.check, ⟨resource, h resource hresource, hi, rule, hrule, rfl, findings, hresult, hmem⟩,
          hcounts, rfl⟩
      · cases ho

theorem identities_apply (h : step.IsProper) (s : Scorecard) :
    (step.apply s).identities =
      s.identities ++ ((step.registrations.map Prod.fst).removeAll s.identities).eraseDups := by
  cases step with
  | register identity metadata =>
      obtain ⟨t, ht⟩ := register_of_isMetadata (h _ List.mem_cons_self) s identity
      simp only [apply, ht]
      exact identities_register ht
  | add identity original check => simp [apply, registrations, Scorecard.add]
  | comment target note => simp [apply, registrations]
  | run runner resources =>
      obtain ⟨t, ht⟩ := registerAll_of_isMetadata h s
      simp only [apply, Runner.run_of_registerAll ht, identities_visitAll, (registerAll_of_none ht).1, registrations,
        List.map_map]
      rfl

/-- A step grows the records that there are and the new records for its registrations. -/
theorem grows_apply (h : step.IsProper) (s : Scorecard) (i : Identity) :
    Option.Rel (Record.Grows (step.Offers i)) (s.opening step.registrations i) ((step.apply s).get? i) := by
  cases step with
  | register identity metadata =>
      obtain ⟨t, ht⟩ := register_of_isMetadata (h _ List.mem_cons_self) s identity
      simp only [apply, ht, get?_register ht]
      exact Record.Grows.rel_refl _
  | add identity original check =>
      simp only [apply, registrations, opening, List.lookup_nil, Option.bind_none, Option.or_none, Scorecard.add,
        get?_modify]
      cases hget : s.get? i with
      | none => exact .none
      | some r =>
          by_cases hi : r.identity = identity
          · refine .some ⟨if check.id ∈ r.ignored then [] else [original.stamped check], ?_, fun o ho => ?_⟩
            · simp [changedAt, Record.add_eq_extend, hi, Record.extend]
            · split at ho
              · cases ho
              · next hcounts =>
                exact ⟨original, check, ⟨hi.symm.trans (get?_eq_some_iff.1 hget).2, rfl, rfl⟩, hcounts,
                  List.mem_singleton.1 ho⟩
          · simpa [changedAt, hi] using Option.Rel.some (Record.Grows.refl _ r)
  | comment target note =>
      simp only [apply, registrations, opening, List.lookup_nil, Option.bind_none, Option.or_none, get?_post]
      exact Record.Grows.rel_refl _
  | run runner resources =>
      obtain ⟨t, ht⟩ := registerAll_of_isMetadata h s
      obtain ⟨pending, hpending, hrun⟩ := Runner.exists_visitAll runner resources s
      rw [apply, hrun, ht, registrations, ← (registerAll_of_none ht).2.1]
      exact grows_visitAll t hpending i

end Step

/-! ### Histories -/

/-- What every scorecard with a history has: its order is that of the first registrations, and each record has grown
from the new record for the first metadata of its resource by what the steps of the history offer. -/
structure HasHistory (history : List Step) (s : Scorecard) : Prop where
  order : s.identities = ((history.flatMap Step.registrations).map Prod.fst).eraseDups
  grown : ∀ i, Option.Rel (Record.Grows fun original check => ∃ step ∈ history, step.Offers i original check)
    (((history.flatMap Step.registrations).lookup i).map (Record.fresh i)) (s.get? i)

theorem hasHistory_empty : HasHistory [] empty := ⟨rfl, fun _ => .none⟩

theorem HasHistory.apply {history : List Step} {s : Scorecard} (hs : HasHistory history s) {step : Step}
    (h : step.IsProper) : HasHistory (history ++ [step]) (step.apply s) := by
  refine ⟨?_, fun i => ?_⟩
  · rw [Step.identities_apply h, hs.order, List.flatMap_append, List.map_append, List.eraseDups_append]
    have hsame (l : List Identity) : l.removeAll ((history.flatMap Step.registrations).map Prod.fst).eraseDups =
        l.removeAll ((history.flatMap Step.registrations).map Prod.fst) :=
      List.filter_congr fun x _ => by simp only [List.elem_eq_mem, List.mem_eraseDups]
    rw [hsame, List.flatMap_singleton]
  · rw [List.flatMap_append, List.flatMap_singleton, List.lookup_append, Option.map_or]
    refine Record.Grows.rel_trans (b := (s.get? i).or ((step.registrations.lookup i).map (Record.fresh i))) ?_ ?_
    · refine Record.Grows.rel_or (Record.Grows.rel_mono ?_ (hs.grown i)) _
      exact fun _ _ ⟨earlier, hearlier, ho⟩ => ⟨earlier, List.mem_append_left _ hearlier, ho⟩
    · rw [← opening_of_isMetadata h]
      exact Record.Grows.rel_mono (fun _ _ ho => ⟨step, by simp, ho⟩) (Step.grows_apply h s i)

theorem hasHistory_after {history : List Step} (h : ∀ step ∈ history, step.IsProper) :
    HasHistory history (after history) := by
  induction history using List.reverseRecOn with
  | nil => exact hasHistory_empty
  | append_singleton history step ih =>
      rw [after_concat]
      exact (ih fun step hstep => h step (List.mem_append_left _ hstep)).apply (h step (by simp))

/-- A scorecard that an earlier one turns into by a step: its order starts with the old one, and each old record is
there still and has grown by what the step offers. -/
def ContinuedBy (step : Step) (s t : Scorecard) : Prop :=
  s.identities <+: t.identities ∧
    ∀ r ∈ s.records, ∃ r' ∈ t.records, r'.identity = r.identity ∧ r.Grows (step.Offers r.identity) r'

theorem continuedBy_apply {step : Step} (h : step.IsProper) (s : Scorecard) : s.ContinuedBy step (step.apply s) := by
  refine ⟨?_, fun r hr => ?_⟩
  · rw [Step.identities_apply h]
    exact List.prefix_append _ _
  · have hgrows := Step.grows_apply h s r.identity
    rw [opening, get?_of_mem hr, Option.some_or] at hgrows
    cases hget : (step.apply s).get? r.identity with
    | none => simp [hget] at hgrows
    | some r' =>
        rw [hget, Option.rel_some_some] at hgrows
        obtain ⟨hr', hidentity⟩ := get?_eq_some_iff.1 hget
        exact ⟨r', hr', hidentity, hgrows⟩

/-- After every history of registrations, additions, comments and runs the records are those of the first registrations
in their order, each found under its identity and with the metadata and the ignored checks of its first registration;
every outcome is stamped with the check that a step offered it under, which the record does not ignore; and every
further step only adds to what is there. -/
theorem after_first_wins (history : List Step) (h : ∀ step ∈ history, step.IsProper) :
    (after history).identities = ((history.flatMap Step.registrations).map Prod.fst).eraseDups ∧
      (after history).identities.Nodup ∧
      (∀ r ∈ (after history).records,
        (after history).get? r.identity = some r ∧
        (∃ metadata, (history.flatMap Step.registrations).lookup r.identity = some metadata ∧
          r.metadata = metadata.mapping?.getD [] ∧ r.ignored = Suppression.ofMetadata metadata ∧
          r.ignored = Suppression.ofMetadata (.map r.metadata)) ∧
        (∀ o ∈ r.outcomes, ∃ original check, (∃ step ∈ history, step.Offers r.identity original check) ∧
          check.id ∉ r.ignored ∧ o = original.stamped check ∧ o.check = some check)) ∧
      ∀ step : Step, step.IsProper → (after history).ContinuedBy step (after (history ++ [step])) := by
  have hs := hasHistory_after h
  refine ⟨hs.order, (after history).distinct, fun r hr => ⟨get?_of_mem hr, ?_⟩, fun step hstep => ?_⟩
  · have hgrown := hs.grown r.identity
    rw [get?_of_mem hr] at hgrown
    cases hlookup : (history.flatMap Step.registrations).lookup r.identity with
    | none => simp [hlookup] at hgrown
    | some metadata =>
        simp only [hlookup, Option.map_some, Option.rel_some_some] at hgrown
        obtain ⟨added, hadded, hfrom⟩ := hgrown
        have hmetadata : metadata.IsMetadata := by
          obtain ⟨step, hstep, hmem⟩ := List.mem_flatMap.1 (mem_of_lookup_eq_some hlookup)
          exact h step hstep _ hmem
        have hkept : r.metadata = metadata.mapping?.getD [] := by rw [hadded]; rfl
        have hignored : r.ignored = Suppression.ofMetadata metadata := by rw [hadded]; rfl
        refine ⟨⟨metadata, rfl, hkept, hignored, ?_⟩, fun o ho => ?_⟩
        · rw [hignored, hkept]
          exact Record.ignored_fresh_of_isMetadata hmetadata r.identity
        · rw [hadded, Record.outcomes_extend] at ho
          rw [hignored]
          obtain ⟨original, check, hoffered, hcounts, rfl⟩ := hfrom o ho
          exact ⟨original, check, hoffered, hcounts, rfl, rfl⟩
  · rw [after_concat]
    exact continuedBy_apply hstep _

/-- The metadata of a resource for which a check does not count. -/
def metadataIgnoring (id : RawText) : Value :=
  .map [(.text "annotations", .map [(.text Suppression.annotation, .text id)])]

/-- A resource registered twice with different annotations, and outcomes added under both checks. -/
def twiceRegistered : List Step :=
  [.register ⟨"Deployment", "apps/v1", "default", "web"⟩ (metadataIgnoring "check-a"),
    .register ⟨"Service", "v1", "", "api"⟩ .null,
    .run ⟨[], .empty, .empty, 1⟩ [⟨⟨"Deployment", "apps/v1", "default", "web"⟩, metadataIgnoring "check-b", .null, ""⟩],
    .add ⟨"Deployment", "apps/v1", "default", "web"⟩ { grade := .critical } { id := "check-a" },
    .add ⟨"Deployment", "apps/v1", "default", "web"⟩ { grade := .warning, check := some { id := "other" } }
      { id := "check-b" }]

theorem after_first_wins_twiceRegistered :
    (∀ step ∈ twiceRegistered, step.IsProper) ∧
      (after twiceRegistered).identities =
        [⟨"Deployment", "apps/v1", "default", "web"⟩, ⟨"Service", "v1", "", "api"⟩] ∧
      (after twiceRegistered).records.map (fun r => r.ignored.ids) = [[RawText.ofString "check-a"], []] ∧
      (after twiceRegistered).records.map (fun r => r.outcomes.map Outcome.check) =
        [[some { id := "check-b" }], []] := by
  have hproper : ∀ step ∈ twiceRegistered, step.IsProper := by
    simp [twiceRegistered, Step.IsProper, Step.registrations, Resource.registration, Value.IsMetadata,
      metadataIgnoring, Value.mapping?_map]
  have hwins := after_first_wins twiceRegistered hproper
  exact ⟨hproper, hwins.1.trans (by decide +kernel), by decide +kernel, by decide +kernel⟩

end Scorecard

end ManifestGrading
