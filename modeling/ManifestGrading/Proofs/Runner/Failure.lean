import ManifestGrading.Proofs.Runner.Reference

/-! What a failed run with one worker leaves. It stops at a rule that looks at a resource: all resources are registered
by then, those in front of this one have been looked at by every rule, this one by the rules in front of that one, and
no other. A rule fails there in one of two ways. Either it gives a reason instead of findings, and then nothing that
it would have found is recorded; or one of its findings is no outcome, and then those in front of it are. The second
way is open only to a rule whose check counts for the record; the first one is open to all. -/

namespace ManifestGrading

theorem Finding.exists_of_firstStray? {findings : List Finding} {kind : String}
    (h : firstStray? findings = some kind) :
    ∃ behind, findings = (leading findings).map .outcome ++ .stray kind :: behind := by
  induction findings with
  | nil => cases h
  | cons f rest ih =>
      cases f with
      | outcome o =>
          obtain ⟨behind, hrest⟩ := ih h
          exact ⟨behind, congrArg (Finding.outcome o :: ·) hrest⟩
      | stray found =>
          obtain rfl : found = kind := Option.some.inj h
          exact ⟨rest, rfl⟩

namespace Rule

/-- How a rule fails at a resource, with the outcomes that are recorded of it nevertheless. -/
inductive FailsWith (rule : Rule) (resource : Resource) (suppressed : IdSet) : RunFault → List Outcome → Prop
  | raised (reason : RawText) (h : (rule.evaluate resource).result = .error reason) :
      FailsWith rule resource suppressed (.check rule.check.id resource.identity.ref reason) []
  | strayed (before : List Outcome) (kind : String) (behind : List Finding)
      (h : (rule.evaluate resource).result = .ok (before.map .outcome ++ .stray kind :: behind))
      (hcounts : rule.check.id ∉ suppressed) :
      FailsWith rule resource suppressed (.stray kind) (before.map (·.stamped rule.check))

theorem FailsWith.message {rule : Rule} {resource : Resource} {suppressed : IdSet} {fault : RunFault}
    {taken : List Outcome} (h : rule.FailsWith resource suppressed fault taken) {reason : RawText}
    (hreason : (rule.evaluate resource).result = .error reason) :
    fault.message = "Check '" ++ rule.check.id ++ "' failed on " ++ resource.identity.ref ++ ": " ++ reason := by
  cases h with
  | raised found hfound =>
      obtain rfl : found = reason := Except.error.inj (hfound.symm.trans hreason)
      rfl
  | strayed before kind behind hfindings _ =>
      rw [hfindings] at hreason
      cases hreason

/-- What a rule adds to the record of a resource where it succeeds. -/
def adds (resource : Resource) (suppressed : IdSet) (rule : Rule) : List Outcome :=
  if rule.appliesTo resource.kind ∧ rule.check.id ∉ suppressed then
    (rule.outcomesOn resource).map (·.stamped rule.check)
  else []

variable {resource : Resource} {suppressed : IdSet} {rules : List Rule}

theorem yield_of_fault {rule : Rule} {fault : RunFault} (h : (rule.yield resource suppressed).fault = some fault) :
    rule.appliesTo resource.kind ∧
      rule.FailsWith resource suppressed fault (rule.yield resource suppressed).outcomes := by
  by_cases happlies : rule.appliesTo resource.kind
  · refine ⟨happlies, ?_⟩
    cases hresult : (rule.evaluate resource).result with
    | error reason =>
        simp only [yield, happlies, hresult, if_true, Option.some.injEq] at h ⊢
        exact h ▸ FailsWith.raised reason hresult
    | ok findings =>
        by_cases hcounts : rule.check.id ∈ suppressed
        · simp [yield, happlies, hresult, Check.yield, hcounts, Yield.nothing] at h
        · simp only [yield, happlies, hresult, Check.yield, hcounts, if_true, if_false, Option.map_eq_some_iff] at h ⊢
          obtain ⟨kind, hkind, rfl⟩ := h
          obtain ⟨behind, hfindings⟩ := Finding.exists_of_firstStray? hkind
          exact FailsWith.strayed _ kind behind (hresult.trans (congrArg Except.ok hfindings)) hcounts
  · simp [yield, happlies, Yield.nothing] at h

theorem yieldAll_of_succeeds (h : (yieldAll resource suppressed rules).fault = none) :
    (∀ rule ∈ rules, rule.appliesTo resource.kind → rule.Succeeds resource suppressed) ∧
      (yieldAll resource suppressed rules).outcomes = rules.flatMap (adds resource suppressed) := by
  have heach := yieldAll_fault_eq_none_iff.1 h
  refine ⟨fun rule hrule => yield_fault_eq_none_iff.1 (heach rule hrule), ?_⟩
  rw [yieldAll_of_fault_eq_none h]
  exact List.flatMap_congr fun rule hrule => yield_outcomes_of_fault_eq_none (heach rule hrule)

/-- Rules that end in a fault are rules that succeed, one that fails, and rules that are not asked. -/
theorem yieldAll_of_fault {fault : RunFault} (h : (yieldAll resource suppressed rules).fault = some fault) :
    ∃ earlier rule later, rules = earlier ++ rule :: later ∧
      (yieldAll resource suppressed earlier).fault = none ∧ (rule.yield resource suppressed).fault = some fault ∧
      (yieldAll resource suppressed rules).outcomes =
        (yieldAll resource suppressed earlier).outcomes ++ (rule.yield resource suppressed).outcomes := by
  induction rules with
  | nil => cases h
  | cons rule rest ih =>
      cases hfault : (rule.yield resource suppressed).fault with
      | some found =>
          rw [yieldAll, Yield.andThen_of_fault hfault] at h ⊢
          exact ⟨[], rule, rest, rfl, rfl, h, rfl⟩
      | none =>
          rw [yieldAll, Yield.andThen_of_none hfault] at h
          obtain ⟨earlier, failing, later, rfl, hquiet, hfailing, houtcomes⟩ := ih h
          refine ⟨rule :: earlier, failing, later, rfl, Yield.andThen_fault_eq_none_iff.2 ⟨hfault, hquiet⟩, hfailing, ?_⟩
          rw [yieldAll, yieldAll, Yield.andThen_of_none hfault, Yield.andThen_of_none hfault, houtcomes,
            List.append_assoc]

end Rule

/-- Where a run stops: a rule that looks at a resource, what is in front of them and behind them, the record of the
resource as the run found or made it, and what the rule added before it failed. -/
structure Stop where
  before : List Resource
  resource : Resource
  behind : List Resource
  earlier : List Rule
  rule : Rule
  later : List Rule
  record : Record
  taken : List Outcome

namespace Runner

/-- The rules all succeed at the resource, whose record has grown by what they add. -/
def Completes (rules : List Rule) (t : Scorecard) (resource : Resource) (r : Record) (taken : List Outcome) : Prop :=
  (∀ rule ∈ rules, rule.appliesTo resource.kind → rule.Succeeds resource r.ignored) ∧
    t.get? resource.identity = some (r.extend (rules.flatMap (Rule.adds resource r.ignored) ++ taken))

/-- A run of all resources has stopped with a fault, and left a scorecard. -/
structure StopsAt (runner : Runner) (resources : List Resource) (s : Scorecard) (stop : Stop) (t : Scorecard)
    (fault : RunFault) : Prop where
  firsts : Resource.firsts resources = stop.before ++ stop.resource :: stop.behind
  rules : runner.rules = stop.earlier ++ stop.rule :: stop.later
  applies : stop.rule.appliesTo stop.resource.kind
  fails : stop.rule.FailsWith stop.resource stop.record.ignored fault stop.taken
  worded : ∀ reason, (stop.rule.evaluate stop.resource).result = .error reason →
    fault.message = "Check '" ++ stop.rule.check.id ++ "' failed on " ++ stop.record.identity.ref ++ ": " ++ reason
  registered : t.identities = s.identities ++ ((resources.map Resource.identity).removeAll s.identities).eraseDups
  opening : s.opening (resources.map Resource.registration) stop.resource.identity = some stop.record
  stopped : Completes stop.earlier t stop.resource stop.record stop.taken
  completed : ∀ r ∈ stop.before, ∃ q, s.opening (resources.map Resource.registration) r.identity = some q ∧
    Completes runner.rules t r q []
  untouched : ∀ i, i ∉ (stop.before ++ [stop.resource]).map Resource.identity →
    t.get? i = s.opening (resources.map Resource.registration) i
  silent : (∀ rule ∈ runner.rules, rule.IsSilent) → t.postings = s.postings

variable {runner : Runner} {resources : List Resource} {s t : Scorecard} {fault : RunFault}

/-- Registrations fail at a resource whose metadata is none that resources have. -/
theorem exists_of_registerAll_eq_some (h : s.registerAll resources = (t, some fault)) :
    ∃ r ∈ resources, ¬ r.metadata.IsMetadata ∧
      ∃ refused, Record.new r.identity r.metadata = .error refused ∧ fault = .metadata refused := by
  induction resources generalizing s with
  | nil => cases h
  | cons a rest ih =>
      rw [Scorecard.registerAll] at h
      cases hregister : s.register a.identity a.metadata with
      | ok u =>
          rw [hregister] at h
          obtain ⟨r, hr, hrefused⟩ := ih h
          exact ⟨r, List.mem_cons_of_mem a hr, hrefused⟩
      | error refused =>
          rw [hregister, Prod.mk.injEq, Option.some.injEq] at h
          have hnew := (Scorecard.register_eq_error_iff.1 hregister).2
          refine ⟨a, List.mem_cons_self, fun hmetadata => ?_, refused, hnew, h.2.symm⟩
          rw [Record.new_of_isMetadata hmetadata] at hnew
          cases hnew

theorem completes_of_visitAll {rules : List Rule} {pending : List Resource}
    (hdistinct : (pending.map Resource.identity).Nodup) {r : Resource} (hr : r ∈ pending) {q : Record}
    (hq : t.get? r.identity = some q) (hquiet : (t.yieldOf rules r).fault = none) :
    Completes rules (t.visitAll rules pending).1 r q [] := by
  rw [Scorecard.yieldOf, hq] at hquiet
  obtain ⟨hsucceeds, houtcomes⟩ := Rule.yieldAll_of_succeeds hquiet
  refine ⟨hsucceeds, ?_⟩
  rw [Scorecard.get?_visitAll, hq, Scorecard.outcomesFor_of_mem t rules hdistinct hr, Scorecard.yieldOf, hq,
    List.append_nil, ← houtcomes]
  rfl

/-- A run of one worker stops at the first pair of a resource and a rule that fails. -/
theorem exists_stopsAt (hworkers : runner.workers = 1) (hregister : s.registerAll resources = (t, none))
    (hfault : (runner.run resources s).2 = some fault) :
    ∃ stop, runner.StopsAt resources s stop (runner.run resources s).1 fault := by
  have hopening := (Scorecard.registerAll_of_none hregister).2.1
  rw [run_snd_of_registerAll hregister] at hfault
  obtain ⟨before, failing, behind, hfirsts, hup, hfailing, hbefore⟩ := t.upToFault_of_some runner.rules hfault
  have hrun : runner.run resources s = t.visitAll runner.rules (before ++ [failing]) := by
    rw [run_of_registerAll hregister, if_pos (Or.inl hworkers), hup]
  have hdistinct : ((before ++ [failing]).map Resource.identity).Nodup := by
    have hall := Resource.nodup_firsts resources
    rw [hfirsts, List.append_cons, List.map_append] at hall
    exact (List.nodup_append.1 hall).1
  have hknown : ∀ r ∈ before ++ [failing], ∃ q, t.get? r.identity = some q := by
    intro r hr
    refine Scorecard.exists_get?_of_registerAll hregister ?_
    rw [hfirsts, List.append_cons]
    exact List.mem_append_left _ hr
  have hlast : failing ∈ before ++ [failing] := List.mem_append_right _ List.mem_cons_self
  obtain ⟨record, hrecord⟩ := hknown failing hlast
  have hyield := hfailing
  rw [Scorecard.yieldOf, hrecord] at hyield
  obtain ⟨earlier, rule, later, hrules, hquiet, hrule, houtcomes⟩ := Rule.yieldAll_of_fault hyield
  obtain ⟨happlies, hfails⟩ := Rule.yield_of_fault hrule
  obtain ⟨hsucceeds, hearlier⟩ := Rule.yieldAll_of_succeeds hquiet
  refine ⟨⟨before, failing, behind, earlier, rule, later, record, (rule.yield failing record.ignored).outcomes⟩, ?_⟩
  rw [hrun]
  exact {
    firsts := hfirsts
    rules := hrules
    applies := happlies
    fails := hfails
    worded := fun reason hreason => (Scorecard.get?_eq_some_iff.1 hrecord).2 ▸ hfails.message hreason
    registered := by rw [Scorecard.identities_visitAll, (Scorecard.registerAll_of_none hregister).1]
    opening := (hopening failing.identity).symm.trans hrecord
    stopped := by
      refine ⟨hsucceeds, ?_⟩
      rw [Scorecard.get?_visitAll, hrecord, Scorecard.outcomesFor_of_mem t runner.rules hdistinct hlast,
        Scorecard.yieldOf, hrecord, Option.map_some]
      exact congrArg (fun added => some (record.extend added)) (houtcomes.trans (congrArg (· ++ _) hearlier))
    completed := by
      intro r hr
      obtain ⟨q, hq⟩ := hknown r (List.mem_append_left _ hr)
      exact ⟨q, (hopening r.identity).symm.trans hq,
        completes_of_visitAll hdistinct (List.mem_append_left _ hr) hq (hbefore r hr)⟩
    untouched := by
      intro i hi
      rw [Scorecard.get?_visitAll, Scorecard.outcomesFor_of_not_mem t runner.rules hi, ← hopening i]
      simp
    silent := by
      intro hsilent
      rw [Scorecard.postings_visitAll_of_isSilent t hsilent, (Scorecard.registerAll_of_none hregister).2.2] }

/-- A check that does not count for a record does nothing to it, whatever its rule finds. -/
theorem visit_of_ignores {resource : Resource} {rule : Rule} {r : Record} {findings : List Finding}
    (hignored : rule.check.id ∈ r.ignored) (h : (rule.evaluate resource).result = .ok findings) (rest : List Rule) :
    (r.visit resource (rule :: rest)).record = (r.visit resource rest).record ∧
      (r.visit resource (rule :: rest)).fault = (r.visit resource rest).fault := by
  have haccept : r.accept rule.check findings = (r, none) := by
    simp [Record.accept_eq, Check.yield, hignored, Yield.nothing]
  by_cases happlies : rule.appliesTo resource.kind
  · simp [Record.visit, happlies, h, haccept]
  · simp [Record.visit, happlies]

/-- A rule that gives a reason instead of findings at some resource makes a run fail, even if its check does not count
there. -/
theorem run_snd_ne_none_of_error {r : Resource} (hr : r ∈ Resource.firsts resources) {rule : Rule}
    (hrule : rule ∈ runner.rules) (happlies : rule.appliesTo r.kind) {reason : RawText}
    (h : (rule.evaluate r).result = .error reason) : (runner.run resources s).2 ≠ none := by
  intro hnone
  obtain ⟨q, _, hquiet⟩ := run_snd_eq_none_iff_opening.1 hnone r (Resource.mem_firsts_iff.1 hr)
  obtain ⟨findings, hresult, _⟩ := (Rule.yieldAll_of_succeeds hquiet).1 rule hrule happlies
  rw [h] at hresult
  cases hresult

/-- A run of one worker that fails has met metadata that no record can keep, or it stops at the first pair of a resource
and a rule that fails and has done exactly what comes before. Findings of a check that does not count never make a
run fail, while its failure does. -/
theorem run_stops (hworkers : runner.workers = 1) (resources : List Resource) (s : Scorecard) :
    (∀ fault, (runner.run resources s).2 = some fault →
      (∃ r ∈ resources, ¬ r.metadata.IsMetadata ∧
        ∃ refused, Record.new r.identity r.metadata = .error refused ∧ fault = .metadata refused) ∨
      ∃ stop, runner.StopsAt resources s stop (runner.run resources s).1 fault) ∧
    (∀ resource (r : Record) (rule : Rule) findings, rule.check.id ∈ r.ignored →
      (rule.evaluate resource).result = .ok findings → ∀ rest,
        (r.visit resource (rule :: rest)).record = (r.visit resource rest).record ∧
          (r.visit resource (rule :: rest)).fault = (r.visit resource rest).fault) ∧
    ∀ r ∈ Resource.firsts resources, ∀ rule ∈ runner.rules, rule.appliesTo r.kind →
      ∀ reason, (rule.evaluate r).result = .error reason → (runner.run resources s).2 ≠ none := by
  refine ⟨fun fault hfault => ?_, fun resource r rule findings hignored h rest => visit_of_ignores hignored h rest,
    fun r hr rule hrule happlies reason h => run_snd_ne_none_of_error hr hrule happlies h⟩
  cases hregister : s.registerAll resources with
  | mk t refused =>
      cases refused with
      | none => exact Or.inr (exists_stopsAt hworkers hregister hfault)
      | some refused =>
          rw [run_of_registerAll_eq_some hregister, Option.some.injEq] at hfault
          exact Or.inl (hfault ▸ exists_of_registerAll_eq_some hregister)

/-- A rule that finds an outcome and then a number. -/
def straying (check : Check) : Rule :=
  ⟨check, fun _ => { result := .ok [.outcome ⟨.warning, "", none, [], none⟩, .stray "int"] }⟩

/-- A rule that always gives a reason. -/
def refusing (check : Check) : Rule := ⟨check, fun _ => { result := .error "no answer" }⟩

theorem run_stops_webTwice :
    let strays := Runner.new [locating { id := "labels" }, straying { id := "probes" }] [] [] 1
    let refuses := Runner.new [locating { id := "labels" }, refusing { id := "probes" }] [] [] 1
    strays.workers = 1 ∧ refuses.workers = 1 ∧
      (∃ stop, strays.StopsAt webTwice ignoringProbes stop (strays.run webTwice ignoringProbes).1 (.stray "int")) ∧
      found (strays.run webTwice ignoringProbes).1 =
        [[verdict "labels" "a.yaml"], [verdict "labels" "b.yaml", verdict "probes" ""]] ∧
      (∃ stop, refuses.StopsAt webTwice ignoringProbes stop (refuses.run webTwice ignoringProbes).1
        (.check "probes" "web apps/v1/Deployment" "no answer")) ∧
      found (refuses.run webTwice ignoringProbes).1 = [[verdict "labels" "a.yaml"], []] := by
  intro strays refuses
  have hkept : ∀ r ∈ webTwice, r.metadata.IsMetadata := by
    simp [webTwice, Value.IsMetadata]
  have hstop : ∀ {runner : Runner} {fault : RunFault}, runner.workers = 1 →
      (runner.run webTwice ignoringProbes).2 = some fault →
      ∃ stop, runner.StopsAt webTwice ignoringProbes stop (runner.run webTwice ignoringProbes).1 fault := by
    intro runner fault hworkers hfault
    rcases (run_stops hworkers webTwice ignoringProbes).1 fault hfault with ⟨r, hr, hrefused, _⟩ | hstop
    · exact absurd (hkept r hr) hrefused
    · exact hstop
  exact ⟨rfl, rfl, hstop rfl (by decide +kernel), by decide +kernel, hstop rfl (by decide +kernel), by decide +kernel⟩

end Runner

end ManifestGrading
