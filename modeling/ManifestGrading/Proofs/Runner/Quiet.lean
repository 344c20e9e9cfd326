import ManifestGrading.Proofs.Runner.Visits

/-! Runs that end with no fault, said resource by resource. Whether a run ends so, and what it leaves of a resource,
depends on the first resource in the list that is this one, on the record that it has or is given, and on the rules;
the other resources in the list do not matter. -/

namespace ManifestGrading

namespace Runner

/-- What rules yield for a resource in a run over resources: what they yield at the first of these that is the
resource, and nothing if there is none. -/
def yieldAt (rules : List Rule) (resources : List Resource) (ignored : IdSet) (i : Identity) : Yield :=
  match resources.find? (·.identity = i) with
  | some first => Rule.yieldAll first ignored rules
  | none => .nothing

theorem yieldAt_of_some {resources : List Resource} {i : Identity} {first : Resource}
    (h : resources.find? (·.identity = i) = some first) (rules : List Rule) (ignored : IdSet) :
    yieldAt rules resources ignored i = Rule.yieldAll first ignored rules := by
  rw [yieldAt, h]

theorem yieldAt_of_none {resources : List Resource} {i : Identity} (h : resources.find? (·.identity = i) = none)
    (rules : List Rule) (ignored : IdSet) : yieldAt rules resources ignored i = .nothing := by
  rw [yieldAt, h]

theorem yieldAt_eq_of_find?_eq {resources resources' : List Resource} {i : Identity}
    (h : resources.find? (·.identity = i) = resources'.find? (·.identity = i)) (rules : List Rule) (ignored : IdSet) :
    yieldAt rules resources ignored i = yieldAt rules resources' ignored i := by
  rw [yieldAt, yieldAt, h]

variable {runner : Runner} {resources : List Resource} {s t : Scorecard}

/-- A run without a fault registers all resources, each once. -/
theorem identities_of_run (h : runner.run resources s = (t, none)) :
    t.identities = s.identities ++ ((resources.map Resource.identity).removeAll s.identities).eraseDups := by
  obtain ⟨u, hregister, _, hrun⟩ := run_of_snd_eq_none (congrArg Prod.snd h)
  obtain rfl : _ = t := congrArg Prod.fst (hrun.symm.trans h)
  rw [Scorecard.identities_visitAll, (Scorecard.registerAll_of_none hregister).1]

theorem outcomesFor_firsts (rules : List Rule) (resources : List Resource) {i : Identity} {r : Record}
    (hr : t.get? i = some r) :
    t.outcomesFor rules (Resource.firsts resources) i = (yieldAt rules resources r.ignored i).outcomes := by
  cases hfind : resources.find? (·.identity = i) with
  | none =>
      rw [yieldAt_of_none hfind]
      refine Scorecard.outcomesFor_of_not_mem t rules fun hmem => ?_
      obtain ⟨q, hq, hi⟩ := List.mem_map.1 hmem
      have hin : q ∈ resources := List.mem_of_find?_eq_some (Resource.mem_firsts_iff.1 hq)
      exact List.find?_eq_none.1 hfind q hin (by simpa using hi)
  | some first =>
      obtain rfl : first.identity = i := by simpa using List.find?_some hfind
      have hmem := Resource.mem_firsts_iff.2 hfind
      rw [yieldAt_of_some hfind, Scorecard.outcomesFor_of_mem t rules (Resource.nodup_firsts resources) hmem,
        Scorecard.yieldOf, hr]

theorem mem_identities_of_run (h : runner.run resources s = (t, none)) {i : Identity} :
    i ∈ t.identities ↔ i ∈ s.identities ∨ i ∈ resources.map Resource.identity := by
  obtain ⟨u, hregister, _, hrun⟩ := run_of_snd_eq_none (congrArg Prod.snd h)
  obtain rfl : _ = t := congrArg Prod.fst (hrun.symm.trans h)
  rw [Scorecard.identities_visitAll, Scorecard.mem_identities_registerAll hregister]

/-- A run with no fault leaves of a resource the record that it had, or a new one, with what the rules yield for it. -/
theorem get?_of_run (h : runner.run resources s = (t, none)) (i : Identity) :
    t.get? i = (s.opening (resources.map Resource.registration) i).map
      fun r => r.extend (yieldAt runner.rules resources r.ignored i).outcomes := by
  obtain ⟨u, hregister, _, hrun⟩ := run_of_snd_eq_none (congrArg Prod.snd h)
  obtain rfl : _ = t := congrArg Prod.fst (hrun.symm.trans h)
  rw [Scorecard.get?_visitAll, ← (Scorecard.registerAll_of_none hregister).2.1 i]
  refine Option.map_congr fun r hr => ?_
  rw [outcomesFor_firsts runner.rules resources hr]

theorem postings_of_run (h : runner.run resources s = (t, none)) (hsilent : ∀ rule ∈ runner.rules, rule.IsSilent) :
    t.postings = s.postings := by
  obtain ⟨u, hregister, _, hrun⟩ := run_of_snd_eq_none (congrArg Prod.snd h)
  obtain rfl : _ = t := congrArg Prod.fst (hrun.symm.trans h)
  rw [Scorecard.postings_visitAll_of_isSilent u hsilent, (Scorecard.registerAll_of_none hregister).2.2]

/-- A run ends with no fault if every resource in it has a record, or can be given one, and the rules yield no fault for
that record. -/
theorem run_snd_eq_none_iff_opening :
    (runner.run resources s).2 = none ↔
      ∀ first, resources.find? (·.identity = first.identity) = some first →
        ∃ r, s.opening (resources.map Resource.registration) first.identity = some r ∧
          (Rule.yieldAll first r.ignored runner.rules).fault = none := by
  constructor
  · intro h first hfirst
    obtain ⟨t, hregister, hquiet, _⟩ := run_of_snd_eq_none h
    have hin : first ∈ Resource.firsts resources := Resource.mem_firsts_iff.2 hfirst
    obtain ⟨r, hr⟩ := Scorecard.exists_get?_of_registerAll hregister hin
    have hfault := hquiet first hin
    rw [Scorecard.yieldOf, hr] at hfault
    exact ⟨r, ((Scorecard.registerAll_of_none hregister).2.1 _).symm.trans hr, hfault⟩
  · intro h
    have hnone : (s.registerAll resources).2 = none := by
      refine Scorecard.registerAll_snd_eq_none_iff.2 fun first hfirst hnew => ?_
      obtain ⟨r, hr, _⟩ := h first (Resource.mem_firsts_iff.1 hfirst)
      rw [Scorecard.opening_of_find? (Resource.mem_firsts_iff.1 hfirst), Scorecard.get?_eq_none_iff.2 hnew] at hr
      cases hmade : Record.new first.identity first.metadata with
      | ok q => exact ⟨q, rfl⟩
      | error e => simp [hmade, Except.toOption] at hr
    have hregister : s.registerAll resources = ((s.registerAll resources).1, none) := Prod.ext rfl hnone
    rw [run_snd_of_registerAll hregister, List.findSome?_eq_none_iff]
    intro first hfirst
    obtain ⟨r, hr, hfault⟩ := h first (Resource.mem_firsts_iff.1 hfirst)
    rw [Scorecard.yieldOf, (Scorecard.registerAll_of_none hregister).2.1, hr]
    exact hfault

/-- A run with no fault leaves the records of other resources as they are. -/
theorem get?_of_run_of_none (h : runner.run resources s = (t, none)) {i : Identity}
    (hnone : resources.find? (·.identity = i) = none) : t.get? i = s.get? i := by
  rw [get?_of_run h, Scorecard.opening, Resource.lookup_registration, hnone]
  simp [yieldAt_of_none hnone, Yield.nothing]

theorem yieldAt_fault_of_run (h : runner.run resources s = (t, none)) {i : Identity} {r : Record}
    (hr : s.opening (resources.map Resource.registration) i = some r) :
    (yieldAt runner.rules resources r.ignored i).fault = none := by
  cases hfind : resources.find? (·.identity = i) with
  | none => rw [yieldAt_of_none hfind]; rfl
  | some first =>
      obtain rfl : first.identity = i := by simpa using List.find?_some hfind
      obtain ⟨q, hq, hfault⟩ := run_snd_eq_none_iff_opening.1 (congrArg Prod.snd h) first hfind
      obtain rfl : r = q := Option.some.inj (hr.symm.trans hq)
      rw [yieldAt_of_some hfind, hfault]

/-- After a run its resources are registered, so that another registration of them changes nothing. -/
theorem opening_of_run (h : runner.run resources s = (t, none)) (i : Identity) :
    t.opening (resources.map Resource.registration) i = t.get? i := by
  rw [Scorecard.opening]
  cases hget : t.get? i with
  | some r => rfl
  | none =>
      have hunlisted : i ∉ resources.map Resource.identity := fun hmem =>
        Scorecard.get?_eq_none_iff.1 hget ((mem_identities_of_run h).2 (Or.inr hmem))
      have hnone : resources.find? (·.identity = i) = none :=
        List.find?_eq_none.2 fun q hq hi => hunlisted (of_decide_eq_true hi ▸ List.mem_map_of_mem hq)
      rw [Resource.lookup_registration, hnone]
      rfl

end Runner

end ManifestGrading
