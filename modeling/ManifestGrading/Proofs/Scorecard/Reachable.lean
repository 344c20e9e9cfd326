import ManifestGrading.Proofs.Scorecard.History

/-! What holds of a scorecard after every history, whatever its registrations bring and however its runs end. Every
outcome is the verdict of a check that counts for its record. A step grows the records that it finds, or new ones, by
what it offers to them. The order is that of the registrations that were accepted, each resource at its first one; a
registration that is refused leaves the scorecard as it is, and in a run it ends the run. -/

namespace ManifestGrading

namespace Record

/-- A record all of whose outcomes are verdicts of checks that count for it. -/
def IsStamped (r : Record) : Prop := ∀ o ∈ r.outcomes, ∃ check, o.check = some check ∧ check.id ∉ r.ignored

theorem isStamped_of_new {identity : Identity} {metadata : Value} {r : Record} (h : new identity metadata = .ok r) :
    r.IsStamped := by
  intro o ho
  rw [(identity_new h).2.2] at ho
  cases ho

theorem IsStamped.grows {offered : Outcome → Check → Prop} {r r' : Record} (h : r.IsStamped)
    (hgrows : r.Grows offered r') : r'.IsStamped := by
  obtain ⟨added, rfl, hadded⟩ := hgrows
  intro o ho
  rcases List.mem_append.1 ho with ho | ho
  · exact h o ho
  · obtain ⟨original, check, _, hcounts, rfl⟩ := hadded o ho
    exact ⟨check, rfl, hcounts⟩

theorem IsStamped.add {r : Record} (h : r.IsStamped) (o : Outcome) (check : Check) : (r.add o check).IsStamped := by
  unfold Record.add
  split
  · exact h
  · next hcounts =>
    intro p hp
    rcases List.mem_append.1 hp with hp | hp
    · exact h p hp
    · obtain rfl := List.mem_singleton.1 hp
      exact ⟨check, rfl, by simpa [ignores] using hcounts⟩

end Record

namespace Scorecard

/-- A scorecard all of whose outcomes are verdicts of checks that count for their records. -/
def IsStamped (s : Scorecard) : Prop := ∀ r ∈ s.records, r.IsStamped

/-- Whether a resource has a certain record, or one without outcomes if it has none yet. -/
def Starts (s : Scorecard) (i : Identity) (r : Record) : Prop :=
  (∀ q, s.get? i = some q → q = r) ∧ (s.get? i = none → r.outcomes = [])

/-- The identities that registrations one after the other are accepted for, up to one that is refused. -/
def accepted : List (Identity × Value) → Scorecard → List Identity
  | [], _ => []
  | (identity, metadata) :: rest, s =>
    match s.register identity metadata with
    | .error _ => []
    | .ok t => identity :: accepted rest t

/-- The identities that the steps of a history register, in order. -/
def log : List Step → Scorecard → List Identity
  | [], _ => []
  | step :: rest, s => s.accepted step.registrations ++ log rest (step.apply s)

/-! ### Registration -/

theorem IsStamped.register {s t : Scorecard} {identity : Identity} {metadata : Value} (hs : s.IsStamped)
    (h : s.register identity metadata = .ok t) : t.IsStamped := by
  rcases register_eq_ok_iff.1 h with ⟨_, rfl⟩ | ⟨hmem, r, hnew, rfl⟩
  · exact hs
  · intro q hq
    rw [records_insert ((Record.identity_new hnew).1 ▸ hmem)] at hq
    rcases List.mem_append.1 hq with hq | hq
    · exact hs q hq
    · obtain rfl := List.mem_singleton.1 hq
      exact Record.isStamped_of_new hnew

/-- Registrations one after the other keep the outcomes stamped and put what is new behind the rest, also if one of
them is refused. -/
theorem registerAll_fst (resources : List Resource) (s : Scorecard) :
    (s.registerAll resources).1.identities =
        s.identities ++ ((s.accepted (resources.map Resource.registration)).removeAll s.identities).eraseDups ∧
      (s.IsStamped → (s.registerAll resources).1.IsStamped) := by
  induction resources generalizing s with
  | nil => exact ⟨by simp [registerAll, accepted], id⟩
  | cons r rest ih =>
      rw [registerAll, List.map_cons, Resource.registration, accepted]
      cases hregister : s.register r.identity r.metadata with
      | error fault => exact ⟨by simp, id⟩
      | ok t =>
          obtain ⟨horder, hstamped⟩ := ih t
          refine ⟨?_, fun hs => hstamped (hs.register hregister)⟩
          show (t.registerAll rest).1.identities = _
          rw [horder, identities_register hregister]
          exact append_eraseDups_removeAll_append _ [r.identity] _

theorem starts_of_get? {s : Scorecard} {i : Identity} {r : Record} (h : s.get? i = some r) : s.Starts i r := by
  refine ⟨fun q hq => ?_, fun hnone => ?_⟩
  · exact Option.some.inj (hq.symm.trans h)
  · rw [h] at hnone
    cases hnone

theorem starts_register {s t : Scorecard} {identity i : Identity} {metadata : Value}
    (h : s.register identity metadata = .ok t) {r : Record} (hr : t.Starts i r) : s.Starts i r := by
  obtain ⟨hold, hnew⟩ := hr
  have hget := get?_register h i
  refine ⟨fun q hq => hold q ?_, fun hnone => ?_⟩
  · rw [hget, opening, hq, Option.some_or]
  · cases ht : t.get? i with
    | none => exact hnew ht
    | some q =>
        -- the new record has no outcomes yet
        obtain rfl := hold q ht
        rw [opening, hnone, Option.none_or] at hget
        obtain ⟨given, _, hopened⟩ := Option.bind_eq_some_iff.1 (hget.symm.trans ht)
        cases hopen : Record.new i given with
        | error fault => simp [hopen, Except.toOption] at hopened
        | ok new =>
            obtain rfl : new = q := by simpa [hopen, Except.toOption] using hopened
            exact (Record.identity_new hopen).2.2

/-- Registrations find records as they are or open new ones, also if one of them is refused. -/
theorem starts_registerAll {resources : List Resource} {s : Scorecard} {i : Identity} {r : Record}
    (h : (s.registerAll resources).1.get? i = some r) : s.Starts i r := by
  induction resources generalizing s with
  | nil => exact starts_of_get? h
  | cons a rest ih =>
      rw [registerAll] at h
      cases hregister : s.register a.identity a.metadata with
      | error fault =>
          rw [hregister] at h
          exact starts_of_get? h
      | ok t =>
          rw [hregister] at h
          exact starts_register hregister (ih h)

/-! ### Runs -/

theorem IsStamped.visitAll {s : Scorecard} (hs : s.IsStamped) {runner : Runner} {resources pending : List Resource}
    (h : ∀ r ∈ pending, r ∈ resources) : (s.visitAll runner.rules pending).1.IsStamped := by
  intro r' hr'
  have hgrows : Option.Rel (Record.Grows ((Step.run runner resources).Offers r'.identity)) _ _ :=
    Step.grows_visitAll s h r'.identity
  rw [get?_of_mem hr'] at hgrows
  cases hget : s.get? r'.identity with
  | none => simp [hget] at hgrows
  | some r =>
      rw [hget, Option.rel_some_some] at hgrows
      exact (hs r (get?_eq_some_iff.1 hget).1).grows hgrows

/-! ### One step -/

namespace Step

theorem identities_apply_accepted (step : Step) (s : Scorecard) :
    (step.apply s).identities =
      s.identities ++ ((s.accepted step.registrations).removeAll s.identities).eraseDups := by
  cases step with
  | register identity metadata =>
      simp only [apply, registrations, accepted]
      cases hregister : s.register identity metadata with
      | error fault => simp
      | ok t => exact identities_register hregister
  | add identity original check => simp [apply, registrations, accepted, Scorecard.add]
  | comment target note => simp [apply, registrations, accepted]
  | run runner resources =>
      obtain ⟨pending, _, hrun⟩ := Runner.exists_visitAll runner resources s
      rw [apply, hrun, identities_visitAll]
      exact (registerAll_fst resources s).1

/-- After a step, a resource has the record that it had or a new one, grown by what the step offers. -/
theorem exists_grows_apply (step : Step) {s : Scorecard} {i : Identity} {r' : Record}
    (h : (step.apply s).get? i = some r') : ∃ r, s.Starts i r ∧ r.Grows (step.Offers i) r' := by
  cases step with
  | register identity metadata =>
      refine ⟨r', ?_, .refl _ r'⟩
      rw [apply] at h
      cases hregister : s.register identity metadata with
      | ok t =>
          rw [hregister] at h
          exact starts_register hregister (starts_of_get? h)
      | error fault =>
          rw [hregister] at h
          exact starts_of_get? h
  | add identity original check =>
      have hproper : (add identity original check).IsProper := fun r hr => absurd hr List.not_mem_nil
      have hgrows := grows_apply hproper s i
      rw [h] at hgrows
      simp only [registrations, opening, List.lookup_nil, Option.bind_none, Option.or_none] at hgrows
      cases hget : s.get? i with
      | none => simp [hget] at hgrows
      | some r =>
          rw [hget, Option.rel_some_some] at hgrows
          exact ⟨r, starts_of_get? hget, hgrows⟩
  | comment target note => exact ⟨r', starts_of_get? h, .refl _ r'⟩
  | run runner resources =>
      obtain ⟨pending, hpending, hrun⟩ := Runner.exists_visitAll runner resources s
      rw [apply, hrun] at h
      have hgrows : Option.Rel (Record.Grows ((run runner resources).Offers i)) _ _ :=
        grows_visitAll (s.registerAll resources).1 hpending i
      rw [h] at hgrows
      cases hget : (s.registerAll resources).1.get? i with
      | none => simp [hget] at hgrows
      | some r =>
          rw [hget, Option.rel_some_some] at hgrows
          exact ⟨r, starts_registerAll hget, hgrows⟩

/-- A record stays, and grows by what a step offers. -/
theorem exists_grows_of_get? (step : Step) {s : Scorecard} {i : Identity} {r : Record} (h : s.get? i = some r) :
    ∃ r', (step.apply s).get? i = some r' ∧ r.Grows (step.Offers i) r' := by
  have hmem : i ∈ (step.apply s).identities := by
    rw [identities_apply_accepted]
    refine List.mem_append_left _ ?_
    by_contra hno
    rw [get?_eq_none_iff.2 hno] at h
    cases h
  obtain ⟨r', hr'⟩ := exists_get?_of_mem hmem
  obtain ⟨q, hstarts, hgrows⟩ := step.exists_grows_apply hr'
  obtain rfl : r = q := hstarts.1 r h
  exact ⟨r', hr', hgrows⟩

theorem isStamped_apply (step : Step) {s : Scorecard} (hs : s.IsStamped) : (step.apply s).IsStamped := by
  cases step with
  | register identity metadata =>
      simp only [apply]
      cases hregister : s.register identity metadata with
      | error fault => exact hs
      | ok t => exact hs.register hregister
  | add identity original check =>
      intro r hr
      obtain ⟨q, hq, rfl⟩ := List.mem_map.1 hr
      unfold changedAt
      split
      · exact (hs q hq).add original check
      · exact hs q hq
  | comment target note => exact hs
  | run runner resources =>
      obtain ⟨pending, hpending, hrun⟩ := Runner.exists_visitAll runner resources s
      rw [apply, hrun]
      exact ((registerAll_fst resources s).2 hs).visitAll hpending

end Step

/-! ### Histories -/

theorem identities_foldl_apply (history : List Step) (s : Scorecard) :
    (history.foldl Step.apply s).identities =
      s.identities ++ ((s.log history).removeAll s.identities).eraseDups := by
  induction history generalizing s with
  | nil => simp [log]
  | cons step rest ih =>
      rw [List.foldl_cons, ih, Step.identities_apply_accepted, log]
      exact append_eraseDups_removeAll_append _ _ _

/-- The resources are in the order of their first accepted registrations. -/
theorem identities_after (history : List Step) : (after history).identities = (empty.log history).eraseDups := by
  rw [after, identities_foldl_apply, empty_append_eraseDups]

theorem isStamped_after (history : List Step) : (after history).IsStamped := by
  induction history using List.reverseRecOn with
  | nil => exact nofun
  | append_singleton history step ih =>
      rw [after_concat]
      exact step.isStamped_apply ih

end Scorecard

end ManifestGrading
