import ManifestGrading.Proofs.Runner.Reference

/-! How a run comes apart. A run of many rules is a run of some of them and then one of the others, and a run over many
resources is one over some of them and then one over the others, as long as no resource is among both. The loop over
the resources is the outer one and that over the rules the inner one; they can be exchanged, since each resource
has a record of its own and a rule does not look at it. What is known about which resources were seen already does
not last from one run to the next, and does not have to. -/

namespace ManifestGrading

namespace Runner

/-- A run and then another one on what it leaves, which does not come about behind a fault. -/
def runThen (first : Runner) (resources : List Resource) (second : Runner) (more : List Resource) (s : Scorecard) :
    Scorecard × Option RunFault :=
  match first.run resources s with
  | (t, none) => second.run more t
  | failed => failed

variable {first second whole : Runner} {resources more : List Resource} {s t u : Scorecard}

theorem runThen_of_run (h : first.run resources s = (t, none)) (second : Runner) (more : List Resource) :
    first.runThen resources second more s = second.run more t := by
  rw [runThen, h]

theorem runThen_snd_eq_none_iff :
    (first.runThen resources second more s).2 = none ↔
      ∃ t, first.run resources s = (t, none) ∧ (second.run more t).2 = none := by
  cases hrun : first.run resources s with
  | mk t fault => cases fault <;> simp [runThen, hrun]

/-- The identities after two runs are those that the first and then the second one registers. -/
theorem identities_of_runThen (hfirst : first.run resources s = (t, none)) (hsecond : second.run more t = (u, none)) :
    u.identities =
      s.identities ++ (((resources ++ more).map Resource.identity).removeAll s.identities).eraseDups := by
  rw [identities_of_run hsecond, identities_of_run hfirst, List.map_append]
  exact Scorecard.append_eraseDups_removeAll_append _ _ _

/-! ### Rules -/

theorem yieldAt_append_rules (rules later : List Rule) (resources : List Resource) (ignored : IdSet) (i : Identity) :
    yieldAt (rules ++ later) resources ignored i =
      (yieldAt rules resources ignored i).andThen (yieldAt later resources ignored i) := by
  cases hfind : resources.find? (·.identity = i) with
  | none =>
      rw [yieldAt_of_none hfind, yieldAt_of_none hfind, yieldAt_of_none hfind]
      rfl
  | some r =>
      rw [yieldAt_of_some hfind, yieldAt_of_some hfind, yieldAt_of_some hfind]
      exact Rule.yieldAll_append rules later

section Rules

variable (hrules : whole.rules = first.rules ++ second.rules)
include hrules

theorem run_append_rules_snd_eq_none_iff :
    (whole.run resources s).2 = none ↔ (first.runThen resources second resources s).2 = none := by
  rw [runThen_snd_eq_none_iff, run_snd_eq_none_iff_opening]
  simp only [hrules, Rule.yieldAll_append, Yield.andThen_fault_eq_none_iff]
  constructor
  · intro h
    have hquiet : (first.run resources s).2 = none := run_snd_eq_none_iff_opening.2 fun r hr => by
      obtain ⟨q, hq, hfault, _⟩ := h r hr
      exact ⟨q, hq, hfault⟩
    have hfirst : first.run resources s = (_, none) := Prod.ext rfl hquiet
    refine ⟨_, hfirst, run_snd_eq_none_iff_opening.2 fun r hr => ?_⟩
    obtain ⟨q, hq, _, hfault⟩ := h r hr
    exact ⟨q.extend (yieldAt first.rules resources q.ignored r.identity).outcomes,
      by rw [opening_of_run hfirst, get?_of_run hfirst, hq, Option.map_some], hfault⟩
  · rintro ⟨t, hfirst, hsecond⟩ r hr
    obtain ⟨q, hq, hfault⟩ := run_snd_eq_none_iff_opening.1 (congrArg Prod.snd hfirst) r hr
    obtain ⟨q', hq', hfault'⟩ := run_snd_eq_none_iff_opening.1 hsecond r hr
    rw [opening_of_run hfirst, get?_of_run hfirst, hq, Option.map_some, Option.some.injEq] at hq'
    subst hq'
    exact ⟨q, hq, hfault, hfault'⟩

/-- What the second run finds of a resource is what the first one left, with its checks that do not count. -/
theorem run_append_rules_eq (hsilent : ∀ rule ∈ whole.rules, rule.IsSilent)
    (h : (whole.run resources s).2 = none) :
    first.runThen resources second resources s = whole.run resources s := by
  have hwhole : whole.run resources s = (_, none) := Prod.ext rfl h
  obtain ⟨t, hfirst, hquiet⟩ := runThen_snd_eq_none_iff.1 ((run_append_rules_snd_eq_none_iff hrules).1 h)
  have hsecond : second.run resources t = (_, none) := Prod.ext rfl hquiet
  rw [runThen_of_run hfirst, hsecond, hwhole]
  refine congrArg (·, none) (Scorecard.ext_get? ?_ (fun i => ?_) ?_)
  · have hagain : (resources.map Resource.identity).removeAll t.identities = [] :=
      List.filter_eq_nil_iff.2 fun i hi => by simp [(mem_identities_of_run hfirst).2 (Or.inr hi)]
    rw [identities_of_run hsecond, hagain, identities_of_run hfirst, identities_of_run hwhole]
    exact List.append_nil _
  · rw [get?_of_run hsecond, opening_of_run hfirst, get?_of_run hfirst, get?_of_run hwhole, Option.map_map]
    refine Option.map_congr fun r hr => ?_
    have hfault := yieldAt_fault_of_run hfirst hr
    rw [Function.comp_apply, Record.extend_extend, hrules, yieldAt_append_rules, Yield.andThen_of_none hfault]
    rfl
  · rw [hrules] at hsilent
    rw [postings_of_run hwhole (hrules ▸ hsilent),
      postings_of_run hsecond fun rule hrule => hsilent rule (List.mem_append_right _ hrule),
      postings_of_run hfirst fun rule hrule => hsilent rule (List.mem_append_left _ hrule)]

end Rules

/-! ### Resources -/

section Resources

variable {runner : Runner} (hdisjoint : ∀ r ∈ resources, ∀ q ∈ more, r.identity ≠ q.identity)
include hdisjoint

/-- A resource is looked for in one of two lists that have no resource in common. -/
theorem find?_append_cases (i : Identity) :
    (resources ++ more).find? (·.identity = i) = resources.find? (·.identity = i) ∧
        more.find? (·.identity = i) = none ∨
      (resources ++ more).find? (·.identity = i) = more.find? (·.identity = i) ∧
        resources.find? (·.identity = i) = none := by
  rw [List.find?_append]
  cases hfind : resources.find? (·.identity = i) with
  | none => exact Or.inr ⟨rfl, rfl⟩
  | some r =>
      have hi : r.identity = i := by simpa using List.find?_some hfind
      refine Or.inl ⟨rfl, List.find?_eq_none.2 fun q hq hqi => ?_⟩
      exact hdisjoint r (List.mem_of_find?_eq_some hfind) q hq (hi.trans (of_decide_eq_true hqi).symm)

theorem run_append_snd_eq_none_iff :
    (runner.run (resources ++ more) s).2 = none ↔ (runner.runThen resources runner more s).2 = none := by
  rw [runThen_snd_eq_none_iff]
  constructor
  · intro h
    rw [run_snd_eq_none_iff_opening] at h
    have hquiet : (runner.run resources s).2 = none := run_snd_eq_none_iff_opening.2 fun r hr => by
      rcases find?_append_cases hdisjoint r.identity with ⟨hsame, _⟩ | ⟨_, hnone⟩
      · rw [← Scorecard.opening_eq_of_find?_eq s hsame]
        exact h r (hsame.trans hr)
      · exact absurd (hr.symm.trans hnone) nofun
    have hfirst : runner.run resources s = (_, none) := Prod.ext rfl hquiet
    refine ⟨_, hfirst, run_snd_eq_none_iff_opening.2 fun r hr => ?_⟩
    rcases find?_append_cases hdisjoint r.identity with ⟨_, hnone⟩ | ⟨hsame, hnone⟩
    · exact absurd (hr.symm.trans hnone) nofun
    · rw [Scorecard.opening_eq_of_get?_eq (get?_of_run_of_none hfirst hnone), ← Scorecard.opening_eq_of_find?_eq s hsame]
      exact h r (hsame.trans hr)
  · rintro ⟨t, hfirst, hsecond⟩
    refine run_snd_eq_none_iff_opening.2 fun r hr => ?_
    rcases find?_append_cases hdisjoint r.identity with ⟨hsame, _⟩ | ⟨hsame, hnone⟩
    · rw [Scorecard.opening_eq_of_find?_eq s hsame]
      exact run_snd_eq_none_iff_opening.1 (congrArg Prod.snd hfirst) r (hsame.symm.trans hr)
    · rw [Scorecard.opening_eq_of_find?_eq s hsame, ← Scorecard.opening_eq_of_get?_eq (get?_of_run_of_none hfirst hnone)]
      exact run_snd_eq_none_iff_opening.1 hsecond r (hsame.symm.trans hr)

theorem run_append_eq (hsilent : ∀ rule ∈ runner.rules, rule.IsSilent)
    (h : (runner.run (resources ++ more) s).2 = none) :
    runner.runThen resources runner more s = runner.run (resources ++ more) s := by
  have hwhole : runner.run (resources ++ more) s = (_, none) := Prod.ext rfl h
  obtain ⟨t, hfirst, hquiet⟩ := runThen_snd_eq_none_iff.1 ((run_append_snd_eq_none_iff hdisjoint).1 h)
  have hsecond : runner.run more t = (_, none) := Prod.ext rfl hquiet
  rw [runThen_of_run hfirst, hsecond, hwhole]
  refine congrArg (·, none) (Scorecard.ext_get? ?_ (fun i => ?_) ?_)
  · rw [identities_of_runThen hfirst hsecond, identities_of_run hwhole]
  · rcases find?_append_cases hdisjoint i with ⟨hsame, hnone⟩ | ⟨hsame, hnone⟩
    -- a resource of the first list is not looked at again
    · rw [get?_of_run_of_none hsecond hnone, get?_of_run hfirst, get?_of_run hwhole,
        Scorecard.opening_eq_of_find?_eq s hsame]
      simp only [yieldAt_eq_of_find?_eq hsame]
    -- one of the second list was not looked at before
    · rw [get?_of_run hsecond, Scorecard.opening_eq_of_get?_eq (get?_of_run_of_none hfirst hnone), get?_of_run hwhole,
        Scorecard.opening_eq_of_find?_eq s hsame]
      simp only [yieldAt_eq_of_find?_eq hsame]
  · rw [postings_of_run hwhole hsilent, postings_of_run hsecond hsilent, postings_of_run hfirst hsilent]

end Resources

/-! ### Both -/

theorem rules_new_append (rules later : List Rule) (ignored optional : List RawText) (workers : Int) :
    (Runner.new (rules ++ later) ignored optional workers).rules =
      (Runner.new rules ignored optional workers).rules ++ (Runner.new later ignored optional workers).rules :=
  List.filter_append ..

/-- Proper rules never fail. Where a run does not fail, it leaves the scorecard that a run of the first of its rules and
then one of the others leave, and that a run over the first of its resources and then one over the others leave if
these have no resource in common; where it fails, one of the two runs does. -/
theorem run_decomposes (ignored optional : List RawText) (workers : Int) (s : Scorecard) :
    (∀ (rules : List Rule) (resources : List Resource),
      (∀ rule ∈ rules, rule.IsProper) → (∀ r ∈ resources, r.metadata.IsMetadata) →
        ((Runner.new rules ignored optional workers).run resources s).2 = none) ∧
    (∀ (rules later : List Rule) (resources : List Resource),
      (((Runner.new (rules ++ later) ignored optional workers).run resources s).2 = none ↔
        ((Runner.new rules ignored optional workers).runThen resources
          (Runner.new later ignored optional workers) resources s).2 = none) ∧
      ((∀ rule ∈ rules ++ later, rule.IsSilent) →
        ((Runner.new (rules ++ later) ignored optional workers).run resources s).2 = none →
        (Runner.new rules ignored optional workers).runThen resources
            (Runner.new later ignored optional workers) resources s =
          (Runner.new (rules ++ later) ignored optional workers).run resources s)) ∧
    ∀ (rules : List Rule) (resources more : List Resource),
      (∀ r ∈ resources, ∀ q ∈ more, r.identity ≠ q.identity) →
      (((Runner.new rules ignored optional workers).run (resources ++ more) s).2 = none ↔
        ((Runner.new rules ignored optional workers).runThen resources
          (Runner.new rules ignored optional workers) more s).2 = none) ∧
      ((∀ rule ∈ rules, rule.IsSilent) →
        ((Runner.new rules ignored optional workers).run (resources ++ more) s).2 = none →
        (Runner.new rules ignored optional workers).runThen resources
            (Runner.new rules ignored optional workers) more s =
          (Runner.new rules ignored optional workers).run (resources ++ more) s) := by
  refine ⟨fun rules resources hrules hmetadata => ?_, fun rules later resources => ?_,
    fun rules resources more hdisjoint => ?_⟩
  · exact run_snd_of_isProper hrules hmetadata ignored optional workers s
  · have hparts := rules_new_append rules later ignored optional workers
    refine ⟨run_append_rules_snd_eq_none_iff hparts, fun hsilent => run_append_rules_eq hparts ?_⟩
    exact isSilent_of_mem_new hsilent ignored optional workers
  · refine ⟨run_append_snd_eq_none_iff hdisjoint, fun hsilent => run_append_eq hdisjoint ?_⟩
    exact isSilent_of_mem_new hsilent ignored optional workers

/-- Resources of other identities than those of `webTwice`. -/
def databases : List Resource :=
  [⟨⟨"StatefulSet", "apps/v1", "", "db"⟩, .null, .null, "d.yaml"⟩,
    ⟨⟨"Deployment", "apps/v1", "test", "web"⟩, .null, .null, "d.yaml"⟩]

theorem run_decomposes_webTwice :
    (∀ rule ∈ locatingRules ++ [locating { id := "probes" }], rule.IsProper ∧ rule.IsSilent) ∧
      (∀ r ∈ webTwice ++ databases, r.metadata.IsMetadata) ∧
      (∀ r ∈ webTwice, ∀ q ∈ databases, r.identity ≠ q.identity) ∧
      ∃ t, (Runner.new (locatingRules ++ [locating { id := "probes" }]) ["old"] ["beta"] 1).run
          (webTwice ++ databases) ignoringProbes = (t, none) ∧
        (Runner.new locatingRules ["old"] ["beta"] 1).runThen (webTwice ++ databases)
          (Runner.new [locating { id := "probes" }] ["old"] ["beta"] 1) (webTwice ++ databases) ignoringProbes =
            (t, none) ∧
        (Runner.new (locatingRules ++ [locating { id := "probes" }]) ["old"] ["beta"] 1).runThen webTwice
          (Runner.new (locatingRules ++ [locating { id := "probes" }]) ["old"] ["beta"] 1) databases ignoringProbes =
            (t, none) ∧
        found t =
          [[verdict "labels" "a.yaml", verdict "beta" "a.yaml"],
            [verdict "labels" "b.yaml", verdict "probes" "b.yaml", verdict "beta" "b.yaml", verdict "ports" "b.yaml",
              verdict "probes" "b.yaml"],
            [verdict "labels" "d.yaml", verdict "probes" "d.yaml", verdict "beta" "d.yaml", verdict "probes" "d.yaml"],
            [verdict "labels" "d.yaml", verdict "probes" "d.yaml", verdict "beta" "d.yaml",
              verdict "probes" "d.yaml"]] := by
  have hlocating (check : Check) : (locating check).IsProper ∧ (locating check).IsSilent :=
    ⟨fun r => ⟨[_], rfl⟩, fun _ => rfl⟩
  have hrules : ∀ rule ∈ locatingRules ++ [locating { id := "probes" }], rule.IsProper ∧ rule.IsSilent := by
    simp [locatingRules, hlocating]
  have hmetadata : ∀ r ∈ webTwice ++ databases, r.metadata.IsMetadata := by
    simp [webTwice, databases, Value.IsMetadata]
  have hdisjoint : ∀ r ∈ webTwice, ∀ q ∈ databases, r.identity ≠ q.identity := by
    simp [webTwice, databases]
  obtain ⟨hproper, hlater, hmore⟩ := run_decomposes ["old"] ["beta"] 1 ignoringProbes
  have hquiet := hproper _ _ (fun rule hrule => (hrules rule hrule).1) hmetadata
  have hsilent := fun rule hrule => (hrules rule hrule).2
  refine ⟨hrules, hmetadata, hdisjoint, _, Prod.ext rfl hquiet, ?_, ?_, by decide +kernel⟩
  · exact ((hlater _ _ _).2 hsilent hquiet).trans (Prod.ext rfl hquiet)
  · exact ((hmore _ _ _ hdisjoint).2 hsilent hquiet).trans (Prod.ext rfl hquiet)

end Runner

end ManifestGrading
