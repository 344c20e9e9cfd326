import ManifestGrading.Proofs.Runner.Pool

/-! Runs with several workers and runs with one. Whatever the schedule, several workers come to the same
scorecard and the same fault, and so does a run with one worker if there is no fault. With a fault one worker has
visited the resources up to the first that fails, and the others have more for those behind it alone. -/

namespace ManifestGrading

namespace Runner

/-- The outcome of a run whose tasks move by a schedule, if that leads to the end of all tasks. There is no pool where
there is one worker or one resource. -/
def runBy (runner : Runner) (schedule : List Nat) (resources : List Resource) (s : Scorecard) :
    Option (Scorecard × Option RunFault) :=
  match s.registerAll resources with
  | (t, some fault) => some (t, some fault)
  | (t, none) =>
    let pending := Resource.firsts resources
    if runner.workers = 1 ∨ pending.length < 2 then some (t.visitUntilFault runner.rules pending)
    else
      ((Pool.ofResources t pending).follow runner.rules runner.workers schedule).bind fun p =>
        if p.isFinished then some (p.scorecard, p.fault?) else none

variable {runner : Runner} {rules : List Rule} {resources : List Resource} {s t : Scorecard}

theorem sound_ofResources_firsts (rules : List Rule) (h : s.registerAll resources = (t, none)) :
    (Pool.ofResources t (Resource.firsts resources)).Sound t rules (Resource.firsts resources) := by
  refine Pool.sound_ofResources rules fun r hr => (Scorecard.mem_identities_registerAll h).2 (Or.inr ?_)
  exact List.mem_map_of_mem (List.mem_of_find?_eq_some (Resource.mem_firsts_iff.1 hr))

/-- Every schedule leads to the run that takes the tasks one after the other. -/
theorem eq_run_of_runBy (hsilent : ∀ rule ∈ runner.rules, rule.IsSilent) {schedule : List Nat}
    {result : Scorecard × Option RunFault} (h : runner.runBy schedule resources s = some result) :
    result = runner.run resources s := by
  unfold runBy at h
  cases hregister : s.registerAll resources with
  | mk t fault =>
      rw [hregister] at h
      cases fault with
      | some fault =>
          rw [run_of_registerAll_eq_some hregister]
          exact (Option.some.inj h).symm
      | none =>
          by_cases halone : runner.workers = 1 ∨ (Resource.firsts resources).length < 2
          · simp only [halone, if_true, Option.some.injEq] at h
            rw [run_of_registerAll hregister, if_pos halone, ← h, Scorecard.visitUntilFault_eq]
          · simp only [halone, if_false] at h
            obtain ⟨p, hfollow, hp⟩ := Option.bind_eq_some_iff.1 h
            have hdistinct := Resource.nodup_firsts resources
            have hsound := (sound_ofResources_firsts runner.rules hregister).follow hdistinct hfollow
            rw [run_of_registerAll hregister, if_neg halone]
            by_cases hfinished : p.isFinished
            · rw [if_pos hfinished, Option.some.injEq] at hp
              rw [← hp]
              exact hsound.eq_visitAll hdistinct hfinished hsilent
            · rw [if_neg hfinished] at hp
              cases hp

/-- There is a schedule that leads to the end of all tasks. -/
theorem exists_runBy (hworkers : 0 < runner.workers) (resources : List Resource) (s : Scorecard) :
    ∃ schedule result, runner.runBy schedule resources s = some result := by
  unfold runBy
  cases s.registerAll resources with
  | mk t fault =>
      cases fault with
      | some fault => exact ⟨[], _, rfl⟩
      | none =>
          by_cases halone : runner.workers = 1 ∨ (Resource.firsts resources).length < 2
          · exact ⟨[], _, if_pos halone⟩
          · obtain ⟨schedule, p, hfollow, hfinished⟩ :=
              Pool.exists_follow_isFinished runner.rules hworkers
                (Pool.ofResources t (Resource.firsts resources))
            refine ⟨schedule, (p.scorecard, p.fault?), ?_⟩
            show (if _ then some _ else (Pool.follow _ _ _ _).bind _) = _
            rw [if_neg halone, hfollow]
            exact if_pos hfinished

theorem workers_new_one (rules : List Rule) (ignored optional : List RawText) :
    (Runner.new rules ignored optional 1).workers = 1 := rfl

/-- The resources that a run visits: those up to the first fault, and the others too if there is a pool. -/
theorem run_of_upToFault (runner : Runner) (h : s.registerAll resources = (t, none))
    {before behind : List Resource} {failing : Resource}
    (hsplit : Resource.firsts resources = before ++ failing :: behind)
    (hup : t.upToFault runner.rules (Resource.firsts resources) = before ++ [failing]) :
    ∃ extra, extra <+: behind ∧
      runner.run resources s = t.visitAll runner.rules ((before ++ [failing]) ++ extra) := by
  rw [run_of_registerAll h, hup, hsplit]
  split
  · exact ⟨[], List.nil_prefix, by rw [List.append_nil]⟩
  · exact ⟨behind, List.prefix_refl _, by rw [List.append_assoc, List.singleton_append]⟩

/-- After a fault, what one worker has left out is the outcomes for some of the resources behind it. -/
theorem run_extends_one {one many : Runner} (halone : one.workers = 1) (hrules : many.rules = one.rules)
    (h : s.registerAll resources = (t, none)) {before behind : List Resource} {failing : Resource}
    (hsplit : Resource.firsts resources = before ++ failing :: behind)
    (hup : t.upToFault one.rules (Resource.firsts resources) = before ++ [failing]) :
    ∃ extra, extra <+: behind ∧
      (many.run resources s).1.identities = (one.run resources s).1.identities ∧
      ∀ i, (many.run resources s).1.get? i =
        ((one.run resources s).1.get? i).map (·.extend (t.outcomesFor one.rules extra i)) := by
  obtain ⟨extra, hextra, hmany⟩ := many.run_of_upToFault h hsplit (hrules ▸ hup)
  have hone : one.run resources s = t.visitAll one.rules (before ++ [failing]) := by
    rw [run_of_registerAll h, if_pos (Or.inl halone), hup]
  refine ⟨extra, hextra, ?_, fun i => ?_⟩
  · rw [hmany, hone, Scorecard.identities_visitAll, Scorecard.identities_visitAll]
  · rw [hmany, hone, hrules, Scorecard.get?_visitAll, Scorecard.get?_visitAll, Option.map_map,
      Scorecard.outcomesFor_append]
    refine congrArg (Option.map · _) (funext fun r => ?_)
    exact (r.extend_extend _ _).symm

/-- Several workers come to the end of their tasks by some schedule, and by every one of them they do what one worker
does. If it has no fault, the scorecard is the same. If it has one, they have the same fault and the same records in
the same order, and what one worker has recorded comes first in each; only resources behind the first that fails may
have more. -/
theorem runBy_agrees_with_one (rules : List Rule) (ignored optional : List RawText) (workers : Int)
    (resources : List Resource) (s : Scorecard) (hsilent : ∀ rule ∈ rules, rule.IsSilent) :
    (∃ schedule result, (Runner.new rules ignored optional workers).runBy schedule resources s = some result) ∧
      ∀ schedule result, (Runner.new rules ignored optional workers).runBy schedule resources s = some result →
        (((Runner.new rules ignored optional 1).run resources s).2 = none →
          result = (Runner.new rules ignored optional 1).run resources s) ∧
        ∀ fault, ((Runner.new rules ignored optional 1).run resources s).2 = some fault →
          result.2 = some fault ∧
          result.1.identities = ((Runner.new rules ignored optional 1).run resources s).1.identities ∧
          (∀ i, Option.Rel (fun a b => ∃ later, b = a.extend later)
            (((Runner.new rules ignored optional 1).run resources s).1.get? i) (result.1.get? i)) ∧
          ((s.registerAll resources).2 = some fault ∧ result = (Runner.new rules ignored optional 1).run resources s ∨
            ∃ t before failing behind, s.registerAll resources = (t, none) ∧
              Resource.firsts resources = before ++ failing :: behind ∧
              (∀ r ∈ before, (t.visit (Runner.new rules ignored optional 1).rules r).2 = none) ∧
              (t.visit (Runner.new rules ignored optional 1).rules failing).2 = some fault ∧
              ∀ i, i ∉ behind.map Resource.identity →
                result.1.get? i = ((Runner.new rules ignored optional 1).run resources s).1.get? i) := by
  have hworkers : 0 < (Runner.new rules ignored optional workers).workers :=
    Nat.lt_of_lt_of_le Nat.one_pos (Nat.le_max_left _ _)
  refine ⟨exists_runBy hworkers resources s, fun schedule result hresult => ?_⟩
  obtain rfl := eq_run_of_runBy (isSilent_of_mem_new hsilent ignored optional workers) hresult
  cases hregister : s.registerAll resources with
  | mk t refused =>
      cases refused with
      | some refused =>
          rw [run_of_registerAll_eq_some hregister, run_of_registerAll_eq_some hregister]
          refine ⟨nofun, fun fault hfault => ⟨hfault, rfl, fun i => ?_, Or.inl ⟨hfault, rfl⟩⟩⟩
          cases t.get? i with
          | none => exact .none
          | some r => exact .some ⟨[], r.extend_nil.symm⟩
      | none =>
          have hfaults : ((Runner.new rules ignored optional workers).run resources s).2 = _ :=
            run_snd_of_registerAll hregister
          have hsame : (Runner.new rules ignored optional workers).rules =
              (Runner.new rules ignored optional 1).rules := rfl
          constructor
          · intro hnone
            rw [run_snd_of_registerAll hregister, List.findSome?_eq_none_iff] at hnone
            rw [run_of_registerAll hregister, run_of_registerAll hregister, hsame,
              Scorecard.upToFault_of_none t _ hnone, ite_self, ite_self]
          · intro fault hfault
            rw [run_snd_of_registerAll hregister] at hfault
            obtain ⟨before, failing, behind, hsplit, hup, hfailing, hbefore⟩ := Scorecard.upToFault_of_some t _ hfault
            obtain ⟨extra, hextra, hids, hget⟩ :=
              run_extends_one (workers_new_one rules ignored optional) hsame hregister hsplit hup
            refine ⟨hfaults.trans hfault, hids, fun i => ?_,
              Or.inr ⟨t, before, failing, behind, rfl, hsplit, ?_, ?_, ?_⟩⟩
            · rw [hget]
              cases ((Runner.new rules ignored optional 1).run resources s).1.get? i with
              | none => exact .none
              | some r => exact .some ⟨_, rfl⟩
            · exact fun r hr => (Scorecard.visit_snd t _ r).trans (hbefore r hr)
            · exact (Scorecard.visit_snd t _ failing).trans hfailing
            · intro i hi
              have hnone : i ∉ extra.map Resource.identity := fun hmem => hi ((hextra.map _).subset hmem)
              rw [hget, Scorecard.outcomesFor_of_not_mem _ _ hnone]
              simp

/-- A rule that fails at resources of a name. -/
def failingAt (name : RawText) (check : Check) : Rule :=
  ⟨check, fun r => { result :=
    if r.identity.name = name then .error "no answer" else .ok [.outcome ⟨.warning, "", none, [], none⟩] }⟩

/-- Two resources of different names. -/
def webAndApi : List Resource :=
  [⟨⟨"Service", "v1", "", "web"⟩, .null, .null, "a.yaml"⟩, ⟨⟨"Service", "v1", "", "api"⟩, .null, .null, "a.yaml"⟩]

theorem runBy_agrees_with_one_webAndApi :
    (∀ rule ∈ [failingAt "web" { id := "probes" }], rule.IsSilent) ∧
      ∃ result, (Runner.new [failingAt "web" { id := "probes" }] [] [] 2).runBy [1, 0, 1, 0, 1, 1, 1] webAndApi .empty =
          some result ∧
        result.2 = some (.check "probes" "web v1/Service" "no answer") ∧
        result.1.records.map (·.outcomes.length) = [0, 1] ∧
        ((Runner.new [failingAt "web" { id := "probes" }] [] [] 1).run webAndApi .empty).1.records.map
          (·.outcomes.length) = [0, 0] := by
  have hsilent : ∀ rule ∈ [failingAt "web" { id := "probes" }], rule.IsSilent := by
    simp [Rule.IsSilent, failingAt]
  obtain ⟨_, hagrees⟩ := runBy_agrees_with_one [failingAt "web" { id := "probes" }] [] [] 2 webAndApi .empty hsilent
  refine ⟨hsilent, _, rfl, ?_, by decide +kernel, by decide +kernel⟩
  exact ((hagrees [1, 0, 1, 0, 1, 1, 1] _ rfl).2 _ (by decide +kernel)).1

end Runner

end ManifestGrading
