import ManifestGrading.Proofs.Runner.Quiet
import ManifestGrading.Proofs.Scorecard.History

/-! What a successful run leaves, said without the run. Each resource is looked at as it first comes in the list,
while the checks that do not count for it are those of its first registration ever. The old outcomes stay in
front; behind them come, check by check, the outcomes that each check found, if it is not ignored, asked for if
it is optional, made for resources of the kind, and counted by the record. -/

namespace ManifestGrading

namespace Suppression

theorem mem_setOf {a : RawText} {texts : List RawText} : a ∈ setOf texts ↔ a ∈ trimmed texts := IdSet.mem_ofList

end Suppression

namespace Rule

/-- Whether a run takes a rule to a resource: its check is not ignored, asked for if it is optional, and made for
resources of the kind. -/
def Looks (ignored optional : List RawText) (resource : Resource) (rule : Rule) : Prop :=
  rule.check.id ∉ Suppression.trimmed ignored ∧
    (rule.check.isOptional = true → rule.check.id ∈ Suppression.trimmed optional) ∧
    (rule.check.target = "*" ∨ rule.check.target = "" ∨ rule.check.target = resource.kind)

instance (ignored optional : List RawText) (resource : Resource) (rule : Rule) :
    Decidable (rule.Looks ignored optional resource) :=
  inferInstanceAs (Decidable (_ ∧ _))

/-- The outcomes that a rule finds. -/
def outcomesOn (resource : Resource) (rule : Rule) : List Outcome :=
  match (rule.evaluate resource).result with
  | .ok findings => findings.filterMap Finding.outcome?
  | .error _ => []

/-- What a rule contributes to the record of a resource, each outcome as the verdict of its check. -/
def contribution (ignored optional : List RawText) (resource : Resource) (suppressed : IdSet) (rule : Rule) :
    List Outcome :=
  if rule.Looks ignored optional resource ∧ rule.check.id ∉ suppressed then
    (rule.outcomesOn resource).map (·.stamped rule.check)
  else []

/-- A rule that finds something at a resource, and outcomes only if its check counts. -/
def Succeeds (resource : Resource) (suppressed : IdSet) (rule : Rule) : Prop :=
  ∃ findings, (rule.evaluate resource).result = .ok findings ∧
    (rule.check.id ∉ suppressed → ∀ f ∈ findings, ∃ o, f = .outcome o)

/-- A rule that finds outcomes at every resource and nothing else. -/
def IsProper (rule : Rule) : Prop :=
  ∀ resource, ∃ outcomes : List Outcome, (rule.evaluate resource).result = .ok (outcomes.map .outcome)

theorem IsProper.succeeds {rule : Rule} (h : rule.IsProper) (resource : Resource) (suppressed : IdSet) :
    rule.Succeeds resource suppressed := by
  obtain ⟨outcomes, houtcomes⟩ := h resource
  refine ⟨_, houtcomes, fun _ f hf => ?_⟩
  obtain ⟨o, _, rfl⟩ := List.mem_map.1 hf
  exact ⟨o, rfl⟩

theorem looks_iff {ignored optional : List RawText} {resource : Resource} {rule : Rule} :
    rule.Looks ignored optional resource ↔
      rule.isEnabled (Suppression.setOf ignored) (Suppression.setOf optional) ∧ rule.appliesTo resource.kind := by
  simp only [Looks, isEnabled, appliesTo, Suppression.mem_setOf, Bool.and_eq_true, Bool.or_eq_true,
    decide_eq_true_eq, Bool.not_eq_true', or_assoc, and_assoc]
  cases rule.check.isOptional <;> simp

theorem yield_fault_eq_none_iff {resource : Resource} {suppressed : IdSet} {rule : Rule} :
    (rule.yield resource suppressed).fault = none ↔
      (rule.appliesTo resource.kind → rule.Succeeds resource suppressed) := by
  unfold yield Succeeds
  split
  · next happlies =>
    split
    · next reason hresult => simp [hresult, happlies]
    · next findings hresult =>
      by_cases hcounts : rule.check.id ∈ suppressed
      · simp [Check.yield, hcounts, hresult, Yield.nothing]
      · simp [Check.yield, hcounts, hresult, happlies, Finding.firstStray?_eq_none_iff]
  · next happlies => simp [happlies, Yield.nothing]

theorem yield_outcomes_of_fault_eq_none {resource : Resource} {suppressed : IdSet} {rule : Rule}
    (h : (rule.yield resource suppressed).fault = none) :
    (rule.yield resource suppressed).outcomes =
      if rule.appliesTo resource.kind ∧ rule.check.id ∉ suppressed then
        (rule.outcomesOn resource).map (·.stamped rule.check)
      else [] := by
  have hsucceeds := yield_fault_eq_none_iff.1 h
  by_cases happlies : rule.appliesTo resource.kind
  · obtain ⟨findings, hresult, houtcomes⟩ := hsucceeds happlies
    by_cases hcounts : rule.check.id ∈ suppressed
    · simp [yield, happlies, hresult, Check.yield, hcounts, Yield.nothing]
    · have hnone := Finding.firstStray?_eq_none_iff.2 (houtcomes hcounts)
      simp [yield, happlies, hresult, Check.yield, hcounts, outcomesOn,
        Finding.leading_of_firstStray?_eq_none hnone]
  · simp [yield, happlies, Yield.nothing]

theorem flatMap_filter_eq {α β : Type} {p : α → Bool} {f g : α → List β} {l : List α}
    (hkept : ∀ a ∈ l, p a = true → f a = g a) (hleft : ∀ a ∈ l, p a = false → g a = []) :
    (l.filter p).flatMap f = l.flatMap g := by
  induction l with
  | nil => rfl
  | cons a rest ih =>
      have hrest := ih (fun b hb => hkept b (List.mem_cons_of_mem a hb))
        fun b hb => hleft b (List.mem_cons_of_mem a hb)
      cases hp : p a with
      | true => simp [hp, hrest, hkept a List.mem_cons_self hp]
      | false => simp [hp, hrest, hleft a List.mem_cons_self hp]

/-- Enabled rules that nothing goes wrong with yield what all rules contribute. -/
theorem yieldAll_outcomes_eq (rules : List Rule) (ignored optional : List RawText) {resource : Resource}
    {suppressed : IdSet}
    (h : (yieldAll resource suppressed
      (rules.filter (·.isEnabled (Suppression.setOf ignored) (Suppression.setOf optional)))).fault = none) :
    (yieldAll resource suppressed
      (rules.filter (·.isEnabled (Suppression.setOf ignored) (Suppression.setOf optional)))).outcomes =
      rules.flatMap (contribution ignored optional resource suppressed) := by
  rw [yieldAll_of_fault_eq_none h]
  refine flatMap_filter_eq (fun rule hrule henabled => ?_) fun rule _ hdisabled => ?_
  · have hfault := yieldAll_fault_eq_none_iff.1 h rule (List.mem_filter.2 ⟨hrule, henabled⟩)
    simp [contribution, looks_iff, henabled, yield_outcomes_of_fault_eq_none hfault]
  · simp [contribution, looks_iff, hdisabled]

end Rule

namespace Runner

/-- Whether nothing goes wrong in a run: every resource that comes first with its identity has a record or metadata to
make one from, and every rule that the run takes to it succeeds there. -/
def NothingRaises (rules : List Rule) (ignored optional : List RawText) (resources : List Resource)
    (s : Scorecard) : Prop :=
  ∀ first, resources.find? (·.identity = first.identity) = some first →
    ∃ r, (s.get? first.identity = some r ∨
        s.get? first.identity = none ∧ Record.new first.identity first.metadata = .ok r) ∧
      ∀ rule ∈ rules, rule.Looks ignored optional first → rule.Succeeds first r.ignored

variable {rules : List Rule} {ignored optional : List RawText} {workers : Int} {resources : List Resource}
  {s t : Scorecard}

/-- A resource that comes first with its identity has the record that it had, or one that is made from its metadata. -/
theorem opening_eq_some_iff {first : Resource}
    (hfirst : resources.find? (·.identity = first.identity) = some first) {r : Record} :
    s.opening (resources.map Resource.registration) first.identity = some r ↔
      s.get? first.identity = some r ∨
        s.get? first.identity = none ∧ Record.new first.identity first.metadata = .ok r := by
  rw [Scorecard.opening_of_find? hfirst]
  cases s.get? first.identity with
  | some old => simp
  | none => cases Record.new first.identity first.metadata <;> simp [Except.toOption]

theorem get?_of_registerAll (h : s.registerAll resources = (t, none)) {first : Resource}
    (hfirst : resources.find? (·.identity = first.identity) = some first) {r : Record} :
    t.get? first.identity = some r ↔
      s.get? first.identity = some r ∨
        s.get? first.identity = none ∧ Record.new first.identity first.metadata = .ok r := by
  rw [(Scorecard.registerAll_of_none h).2.1, opening_eq_some_iff hfirst]

/-- What the rules of a runner yield for a resource ends in no fault if each rule that is taken to it succeeds. -/
theorem yieldAll_new_fault_eq_none_iff {first : Resource} {suppressed : IdSet} (workers : Int) :
    (Rule.yieldAll first suppressed (Runner.new rules ignored optional workers).rules).fault = none ↔
      ∀ rule ∈ rules, rule.Looks ignored optional first → rule.Succeeds first suppressed := by
  simp only [Rule.yieldAll_fault_eq_none_iff, Rule.yield_fault_eq_none_iff, Runner.new, List.mem_filter,
    Rule.looks_iff, and_imp]

theorem yieldAll_new_outcomes {first : Resource} {suppressed : IdSet} (workers : Int)
    (h : ∀ rule ∈ rules, rule.Looks ignored optional first → rule.Succeeds first suppressed) :
    (Rule.yieldAll first suppressed (Runner.new rules ignored optional workers).rules).outcomes =
      rules.flatMap (Rule.contribution ignored optional first suppressed) :=
  Rule.yieldAll_outcomes_eq rules ignored optional ((yieldAll_new_fault_eq_none_iff workers).2 h)

/-- A run succeeds if nothing goes wrong in it, however many workers there are. -/
theorem run_snd_eq_none_iff (workers : Int) :
    ((Runner.new rules ignored optional workers).run resources s).2 = none ↔
      NothingRaises rules ignored optional resources s := by
  rw [run_snd_eq_none_iff_opening, NothingRaises]
  refine forall₂_congr fun first hfirst => exists_congr fun r => ?_
  rw [opening_eq_some_iff hfirst, yieldAll_new_fault_eq_none_iff]

/-- Nothing goes wrong in a run of proper rules over resources with metadata. -/
theorem run_snd_of_isProper (hrules : ∀ rule ∈ rules, rule.IsProper) (hmetadata : ∀ r ∈ resources, r.metadata.IsMetadata)
    (ignored optional : List RawText) (workers : Int) (s : Scorecard) :
    ((Runner.new rules ignored optional workers).run resources s).2 = none := by
  rw [run_snd_eq_none_iff]
  intro first hfirst
  have hnew := Record.new_of_isMetadata (hmetadata first (List.mem_of_find?_eq_some hfirst)) first.identity
  cases hget : s.get? first.identity with
  | some r => exact ⟨r, Or.inl rfl, fun rule hrule _ => (hrules rule hrule).succeeds first r.ignored⟩
  | none => exact ⟨_, Or.inr ⟨rfl, hnew⟩, fun rule hrule _ => (hrules rule hrule).succeeds first _⟩

/-- A run in which nothing goes wrong is that of all visits, one for each first resource. -/
theorem run_of_nothingRaises (workers : Int) (h : NothingRaises rules ignored optional resources s) :
    ∃ t, s.registerAll resources = (t, none) ∧
      (∀ r ∈ Resource.firsts resources,
        (t.yieldOf (Runner.new rules ignored optional workers).rules r).fault = none) ∧
      (Runner.new rules ignored optional workers).run resources s =
        ((t.visitAll (Runner.new rules ignored optional workers).rules (Resource.firsts resources)).1, none) :=
  run_of_snd_eq_none ((run_snd_eq_none_iff workers).2 h)

/-- A run in which nothing goes wrong returns. It leaves the registered resources and then the new ones as they first
come; the outcomes of each resource in the list are the old ones and then what the rules contribute, one after the
other, at its first resource in the list; other records stay as they are. -/
theorem run_eq_reference (rules : List Rule) (ignored optional : List RawText) (workers : Int)
    (resources : List Resource) (s : Scorecard) (h : NothingRaises rules ignored optional resources s) :
    ∃ t, (Runner.new rules ignored optional workers).run resources s = (t, none) ∧
      t.identities = s.identities ++ ((resources.map Resource.identity).removeAll s.identities).eraseDups ∧
      (∀ first, resources.find? (·.identity = first.identity) = some first →
        ∃ r, (s.get? first.identity = some r ∨
            s.get? first.identity = none ∧ Record.new first.identity first.metadata = .ok r) ∧
          t.get? first.identity =
            some (r.extend (rules.flatMap (Rule.contribution ignored optional first r.ignored)))) ∧
      (∀ i, i ∉ resources.map Resource.identity → t.get? i = s.get? i) ∧
      ((∀ rule ∈ rules, rule.IsSilent) → t.postings = s.postings) := by
  obtain ⟨t, hregister, hquiet, hrun⟩ := run_of_nothingRaises workers h
  have hregistered := Scorecard.registerAll_of_none hregister
  refine ⟨_, hrun, ?_, fun first hfirst => ?_, fun i hi => ?_, fun hsilent => ?_⟩
  · rw [Scorecard.identities_visitAll, hregistered.1]
  · obtain ⟨r, hr, _⟩ := h first hfirst
    have hmem := Resource.mem_firsts_iff.2 hfirst
    have hget := (get?_of_registerAll hregister hfirst).2 hr
    have hfault := hquiet first hmem
    refine ⟨r, hr, ?_⟩
    rw [Scorecard.get?_visitAll, hget, Scorecard.outcomesFor_of_mem _ _ (Resource.nodup_firsts resources) hmem]
    simp only [Scorecard.yieldOf, hget] at hfault ⊢
    rw [Option.map_some, Runner.new, Rule.yieldAll_outcomes_eq rules ignored optional hfault]
  · have hnot : i ∉ (Resource.firsts resources).map Resource.identity := by
      intro hmem
      obtain ⟨r, hr, rfl⟩ := List.mem_map.1 hmem
      exact hi (List.mem_map_of_mem (List.mem_of_find?_eq_some (Resource.mem_firsts_iff.1 hr)))
    have hnone : resources.find? (fun r => decide (r.identity = i)) = none := by
      rw [List.find?_eq_none]
      exact fun r hr heq => hi (by simpa [← of_decide_eq_true heq] using List.mem_map_of_mem hr)
    rw [Scorecard.get?_visitAll, Scorecard.outcomesFor_of_not_mem _ _ hnot, hregistered.2.1, Scorecard.opening,
      Resource.lookup_registration, hnone]
    simp
  · rw [Scorecard.postings_visitAll_of_isSilent _ (isSilent_of_mem_new hsilent ignored optional workers),
      hregistered.2.2]

/-- A rule that finds one outcome at each resource, which tells where its manifest stands. -/
def locating (check : Check) : Rule := ⟨check, fun r => { result := .ok [.outcome ⟨.allOk, r.source, none, [], none⟩] }⟩

/-- Rules that count, that do not count for a record, that are asked for or not, ignored, and of another kind. -/
def locatingRules : List Rule :=
  [locating { id := "labels" }, locating { id := "probes" }, locating { id := "beta", isOptional := true },
    locating { id := "gamma", isOptional := true }, locating { id := "old" },
    locating { id := "ports", target := "Service" }]

/-- A scorecard with a record that ignores a check. -/
def ignoringProbes : Scorecard :=
  ⟨[⟨⟨"Deployment", "apps/v1", "", "web"⟩, [], .ofList ["probes"], []⟩], [], List.nodup_singleton _⟩

/-- Resources of which one comes twice. -/
def webTwice : List Resource :=
  [⟨⟨"Deployment", "apps/v1", "", "web"⟩, .null, .null, "a.yaml"⟩,
    ⟨⟨"Service", "v1", "", "api"⟩, .null, .null, "b.yaml"⟩,
    ⟨⟨"Deployment", "apps/v1", "", "web"⟩, .null, .null, "c.yaml"⟩]

/-- The checks that the outcomes of each record are verdicts of, and their remarks. -/
def found (s : Scorecard) : List (List (Option RawText × RawText)) :=
  s.records.map fun r => r.outcomes.map fun o => (o.check.map Check.id, o.remark)

/-- The verdict of a check with a remark. -/
def verdict (id remark : RawText) : Option RawText × RawText := (some id, remark)

theorem run_eq_reference_webTwice :
    NothingRaises locatingRules ["old "] [" beta", ""] webTwice ignoringProbes ∧
      ∃ t, (Runner.new locatingRules ["old "] [" beta", ""] 1).run webTwice ignoringProbes = (t, none) ∧
        t.identities = [⟨"Deployment", "apps/v1", "", "web"⟩, ⟨"Service", "v1", "", "api"⟩] ∧
        found t =
          [[verdict "labels" "a.yaml", verdict "beta" "a.yaml"],
            [verdict "labels" "b.yaml", verdict "probes" "b.yaml", verdict "beta" "b.yaml",
              verdict "ports" "b.yaml"]] := by
  have hquiet : NothingRaises locatingRules ["old "] [" beta", ""] webTwice ignoringProbes :=
    (run_snd_eq_none_iff 1).1 (by decide +kernel)
  obtain ⟨t, hrun, horder, _⟩ := run_eq_reference locatingRules ["old "] [" beta", ""] 1 webTwice ignoringProbes hquiet
  refine ⟨hquiet, t, hrun, horder.trans (by decide +kernel), ?_⟩
  obtain rfl : _ = t := congrArg Prod.fst hrun
  decide +kernel

end Runner

end ManifestGrading
