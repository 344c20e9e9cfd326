import Mathlib.Data.List.Nodup
import ManifestGrading.Proofs.Runner.Yield

/-! What a run does to each record. Registration gives every resource without a record a new one, made from the
first metadata that comes with its identity. A visit then changes one record and leaves what other visits
yield as it is, so the records after any list of visits are those at its start, each with what the visits of
its own resource yield. A sequence of visits that ends at a fault is the sequence of all visits of the
resources up to that one. -/

namespace ManifestGrading

namespace Resource

/-- The registration that a run asks for when it meets a resource. -/
def registration (r : Resource) : Identity × Value := (r.identity, r.metadata)

theorem lookup_registration (resources : List Resource) (i : Identity) :
    (resources.map registration).lookup i = (resources.find? (·.identity = i)).map Resource.metadata := by
  induction resources with
  | nil => rfl
  | cons r rest ih =>
      by_cases h : r.identity = i
      · simp [registration, h]
      · have hne : (i == r.identity) = false := by simpa using Ne.symm h
        simp only [List.map_cons, registration, List.lookup_cons, hne]
        simpa [h] using ih

theorem mem_firstsBeside_iff {seen : List Identity} {resources : List Resource} {r : Resource} :
    r ∈ firstsBeside seen resources ↔
      r.identity ∉ seen ∧ resources.find? (·.identity = r.identity) = some r := by
  induction resources generalizing seen with
  | nil => simp [firstsBeside]
  | cons a rest ih =>
      unfold firstsBeside
      split
      · next hseen =>
        rw [ih]
        refine and_congr_right fun hr => ?_
        have hne : a.identity ≠ r.identity := fun heq => hr (heq ▸ hseen)
        simp [hne]
      · next hseen =>
        rw [List.mem_cons, ih, List.mem_cons, not_or]
        by_cases heq : a.identity = r.identity
        · rw [List.find?_cons_of_pos (by simpa using heq), Option.some.injEq]
          constructor
          · rintro (rfl | ⟨⟨hne, _⟩, _⟩)
            · exact ⟨hseen, rfl⟩
            · exact absurd heq.symm hne
          · rintro ⟨_, rfl⟩
            exact Or.inl rfl
        · rw [List.find?_cons_of_neg (by simpa using heq)]
          constructor
          · rintro (rfl | ⟨⟨_, hr⟩, hfind⟩)
            · exact absurd rfl heq
            · exact ⟨hr, hfind⟩
          · rintro ⟨hr, hfind⟩
            exact Or.inr ⟨⟨Ne.symm heq, hr⟩, hfind⟩

theorem mem_firsts_iff {resources : List Resource} {r : Resource} :
    r ∈ firsts resources ↔ resources.find? (·.identity = r.identity) = some r := by
  simp [firsts, mem_firstsBeside_iff]

theorem identity_firstsBeside (seen : List Identity) (resources : List Resource) :
    ((firstsBeside seen resources).map Resource.identity).Nodup := by
  induction resources generalizing seen with
  | nil => exact List.nodup_nil
  | cons a rest ih =>
      unfold firstsBeside
      split
      · exact ih seen
      · rw [List.map_cons, List.nodup_cons]
        refine ⟨fun hmem => ?_, ih _⟩
        obtain ⟨r, hr, heq⟩ := List.mem_map.1 hmem
        exact (mem_firstsBeside_iff.1 hr).1 (by simp [heq])

/-- The first resources with each identity have different identities. -/
theorem nodup_firsts (resources : List Resource) : ((firsts resources).map Resource.identity).Nodup :=
  identity_firstsBeside [] resources

end Resource

namespace Scorecard

theorem records_eq_filterMap (s : Scorecard) : s.records = s.identities.filterMap s.get? := by
  have hself : ∀ r ∈ s.records, (s.get? ∘ Record.identity) r = some r := fun r hr => get?_of_mem hr
  rw [identities, List.filterMap_map, List.filterMap_congr hself, List.filterMap_some]

theorem exists_get?_of_mem {s : Scorecard} {i : Identity} (h : i ∈ s.identities) : ∃ r, s.get? i = some r := by
  cases hget : s.get? i with
  | none => exact absurd h (get?_eq_none_iff.1 hget)
  | some r => exact ⟨r, rfl⟩

/-- A scorecard is determined by its order, its records and its postings. -/
theorem ext_get? {s t : Scorecard} (horder : s.identities = t.identities) (hget : ∀ i, s.get? i = t.get? i)
    (hpostings : s.postings = t.postings) : s = t := by
  refine Scorecard.ext ?_ hpostings
  rw [records_eq_filterMap s, records_eq_filterMap t, horder, funext hget]

/-! ### Registration -/

/-- The record that a resource has once it is registered: the one it has, or a new one for the first metadata that
comes with its identity. -/
def opening (s : Scorecard) (registrations : List (Identity × Value)) (i : Identity) : Option Record :=
  (s.get? i).or ((registrations.lookup i).bind fun metadata => (Record.new i metadata).toOption)

theorem identities_insert {s : Scorecard} {r : Record} (h : r.identity ∉ s.identities) :
    (s.insert r).identities = s.identities ++ [r.identity] := by
  simp [identities, records_insert h]

theorem get?_insert {s : Scorecard} {r : Record} (h : r.identity ∉ s.identities) (i : Identity) :
    (s.insert r).get? i = (s.get? i).or (if r.identity = i then some r else none) := by
  simp only [get?, records_insert h, List.find?_append]
  by_cases hi : r.identity = i <;> simp [hi]

theorem register_eq_ok_iff {s t : Scorecard} {identity : Identity} {metadata : Value} :
    s.register identity metadata = .ok t ↔
      (identity ∈ s.identities ∧ t = s) ∨
        (identity ∉ s.identities ∧ ∃ r, Record.new identity metadata = .ok r ∧ t = s.insert r) := by
  by_cases h : identity ∈ s.identities
  · rw [register, if_pos (contains_iff.2 h), Except.ok.injEq]
    exact ⟨fun heq => Or.inl ⟨h, heq.symm⟩, fun hcases => by
      rcases hcases with ⟨_, rfl⟩ | ⟨hnot, _⟩
      · rfl
      · exact absurd h hnot⟩
  · rw [register, if_neg (mt contains_iff.1 h)]
    cases hnew : Record.new identity metadata with
    | error fault => simp [Except.map, h]
    | ok r =>
        simp only [Except.map, Except.ok.injEq, h, false_and, not_false_eq_true, true_and, exists_eq_left', false_or]
        exact eq_comm

theorem identities_register {s t : Scorecard} {identity : Identity} {metadata : Value}
    (h : s.register identity metadata = .ok t) :
    t.identities = s.identities ++ ([identity].removeAll s.identities).eraseDups := by
  rcases register_eq_ok_iff.1 h with ⟨hmem, rfl⟩ | ⟨hmem, r, hnew, rfl⟩
  · simp [List.removeAll, hmem]
  · have hr := (Record.identity_new hnew).1
    rw [identities_insert (hr ▸ hmem), hr]
    simp [List.removeAll, hmem, List.eraseDups_cons]

theorem get?_register {s t : Scorecard} {identity : Identity} {metadata : Value}
    (h : s.register identity metadata = .ok t) (i : Identity) : t.get? i = s.opening [(identity, metadata)] i := by
  rcases register_eq_ok_iff.1 h with ⟨hmem, rfl⟩ | ⟨hmem, r, hnew, rfl⟩
  · by_cases hi : i = identity
    · subst hi
      obtain ⟨r, hr⟩ := exists_get?_of_mem hmem
      simp [opening, hr]
    · have hne : (i == identity) = false := by simpa using hi
      simp [opening, List.lookup_cons, hne]
  · have hr := (Record.identity_new hnew).1
    rw [get?_insert (hr ▸ hmem), hr, opening]
    by_cases hi : i = identity
    · subst hi
      simp [hnew, Except.toOption]
    · have hne : (i == identity) = false := by simpa using hi
      simp [List.lookup_cons, hne, Ne.symm hi]

theorem postings_register {s t : Scorecard} {identity : Identity} {metadata : Value}
    (h : s.register identity metadata = .ok t) : t.postings = s.postings := by
  rcases register_eq_ok_iff.1 h with ⟨_, rfl⟩ | ⟨_, r, _, rfl⟩ <;> simp

/-- What is new beside known identities comes one after the other. -/
theorem append_eraseDups_removeAll_append (known first later : List Identity) :
    (known ++ (first.removeAll known).eraseDups) ++
        (later.removeAll (known ++ (first.removeAll known).eraseDups)).eraseDups =
      known ++ ((first ++ later).removeAll known).eraseDups := by
  have hsplit : (first ++ later).removeAll known = first.removeAll known ++ later.removeAll known :=
    List.filter_append ..
  have hlater : later.removeAll (known ++ (first.removeAll known).eraseDups) =
      (later.removeAll known).removeAll (first.removeAll known) := by
    simp only [List.removeAll, List.filter_filter]
    refine List.filter_congr fun x _ => ?_
    simp [Bool.and_comm]
  rw [hsplit, List.eraseDups_append, List.append_assoc, hlater]

theorem empty_append_eraseDups (l : List Identity) :
    empty.identities ++ (l.removeAll empty.identities).eraseDups = l.eraseDups := by
  simp [empty, identities, List.removeAll]

/-- A registration makes the record that was to be made anyway. -/
theorem opening_register {s t : Scorecard} {identity : Identity} {metadata : Value}
    (h : s.register identity metadata = .ok t) (later : List (Identity × Value)) (i : Identity) :
    t.opening later i = s.opening ((identity, metadata) :: later) i := by
  rw [opening, get?_register h, opening, opening, Option.or_assoc]
  by_cases hi : i = identity
  · subst hi
    rcases register_eq_ok_iff.1 h with ⟨hmem, _⟩ | ⟨_, q, hnew, _⟩
    · obtain ⟨old, hold⟩ := exists_get?_of_mem hmem
      simp [hold]
    · simp [hnew, Except.toOption]
  · have hne : (i == identity) = false := by simpa using hi
    simp [List.lookup_cons, hne]

/-- Registrations one after the other: the order grows by the new identities as they first come, and every resource has
the record that it had or a new one for the first metadata. -/
theorem registerAll_of_none {resources : List Resource} {s t : Scorecard} (h : s.registerAll resources = (t, none)) :
    t.identities = s.identities ++ ((resources.map Resource.identity).removeAll s.identities).eraseDups ∧
      (∀ i, t.get? i = s.opening (resources.map Resource.registration) i) ∧ t.postings = s.postings := by
  induction resources generalizing s with
  | nil =>
      obtain rfl : s = t := by simpa [registerAll] using h
      simp [opening]
  | cons r rest ih =>
      rw [registerAll] at h
      cases hregister : s.register r.identity r.metadata with
      | error fault => simp [hregister] at h
      | ok u =>
          rw [hregister] at h
          obtain ⟨horder, hget, hpostings⟩ := ih h
          refine ⟨?_, fun i => ?_, hpostings.trans (postings_register hregister)⟩
          · rw [horder, identities_register hregister]
            exact append_eraseDups_removeAll_append _ [r.identity] _
          · rw [hget]
            exact opening_register hregister _ i

theorem mem_identities_registerAll {resources : List Resource} {s t : Scorecard}
    (h : s.registerAll resources = (t, none)) {i : Identity} :
    i ∈ t.identities ↔ i ∈ s.identities ∨ i ∈ resources.map Resource.identity := by
  rw [(registerAll_of_none h).1, List.mem_append, List.mem_eraseDups, List.removeAll, List.mem_filter]
  by_cases hi : i ∈ s.identities <;> simp [hi]

theorem exists_get?_of_registerAll {resources : List Resource} {s t : Scorecard}
    (h : s.registerAll resources = (t, none)) {r : Resource} (hr : r ∈ Resource.firsts resources) :
    ∃ q, t.get? r.identity = some q :=
  exists_get?_of_mem ((mem_identities_registerAll h).2
    (Or.inr (List.mem_map_of_mem (List.mem_of_find?_eq_some (Resource.mem_firsts_iff.1 hr)))))

theorem mem_identities_register {s t : Scorecard} {identity : Identity} {metadata : Value}
    (h : s.register identity metadata = .ok t) {i : Identity} :
    i ∈ t.identities ↔ i ∈ s.identities ∨ i = identity := by
  simp only [identities_register h, List.mem_append, List.mem_eraseDups, List.removeAll, List.mem_filter,
    List.mem_singleton]
  by_cases hi : i ∈ s.identities <;> simp [hi]

theorem register_eq_error_iff {s : Scorecard} {identity : Identity} {metadata : Value} {fault : Value.Fault} :
    s.register identity metadata = .error fault ↔
      identity ∉ s.identities ∧ Record.new identity metadata = .error fault := by
  by_cases hmem : identity ∈ s.identities
  · simp [register, contains_iff, hmem]
  · cases hnew : Record.new identity metadata <;> simp [register, contains_iff, hmem, hnew, Except.map]

/-- Registrations succeed if each new resource has metadata at its first registration that a record can keep. -/
theorem registerAll_snd_eq_none_iff {resources : List Resource} {s : Scorecard} :
    (s.registerAll resources).2 = none ↔
      ∀ r ∈ Resource.firsts resources, r.identity ∉ s.identities → ∃ q, Record.new r.identity r.metadata = .ok q := by
  simp only [Resource.mem_firsts_iff]
  induction resources generalizing s with
  | nil => simp [registerAll]
  | cons a rest ih =>
      rw [registerAll]
      cases hregister : s.register a.identity a.metadata with
      | error fault =>
          obtain ⟨hmem, hnew⟩ := register_eq_error_iff.1 hregister
          simp only [reduceCtorEq, false_iff, not_forall]
          exact ⟨a, by simp, hmem, by simp [hnew]⟩
      | ok t =>
          show (t.registerAll rest).2 = none ↔ _
          rw [ih]
          simp only [mem_identities_register hregister, not_or]
          constructor
          · intro h r hfind hr
            by_cases heq : a.identity = r.identity
            · rw [List.find?_cons_of_pos (by simpa using heq), Option.some.injEq] at hfind
              subst hfind
              rcases register_eq_ok_iff.1 hregister with ⟨hin, _⟩ | ⟨_, q, hnew, _⟩
              · exact absurd hin hr
              · exact ⟨q, hnew⟩
            · rw [List.find?_cons_of_neg (by simpa using heq)] at hfind
              exact h r hfind ⟨hr, Ne.symm heq⟩
          · intro h r hfind hr
            exact h r (by rwa [List.find?_cons_of_neg (by simpa using Ne.symm hr.2)]) hr.1

/-- Of the registrations that a run asks for, only the first one of a resource matters for its record. -/
theorem opening_eq_of_find?_eq (s : Scorecard) {resources resources' : List Resource} {i : Identity}
    (h : resources.find? (·.identity = i) = resources'.find? (·.identity = i)) :
    s.opening (resources.map Resource.registration) i = s.opening (resources'.map Resource.registration) i := by
  rw [opening, opening, Resource.lookup_registration, Resource.lookup_registration, h]

theorem opening_eq_of_get?_eq {s t : Scorecard} {i : Identity} (h : s.get? i = t.get? i)
    (registrations : List (Identity × Value)) : s.opening registrations i = t.opening registrations i := by
  rw [opening, opening, h]

/-! ### Visits -/

/-- What rules yield for the record of a resource. -/
def yieldOf (s : Scorecard) (rules : List Rule) (resource : Resource) : Yield :=
  match s.get? resource.identity with
  | none => .nothing
  | some r => Rule.yieldAll resource r.ignored rules

/-- The outcomes that visits of resources yield for one of them. -/
def outcomesFor (s : Scorecard) (rules : List Rule) (resources : List Resource) (i : Identity) : List Outcome :=
  resources.flatMap fun r => if r.identity = i then (s.yieldOf rules r).outcomes else []

variable (s : Scorecard) (rules : List Rule)

theorem visit_snd (resource : Resource) : (s.visit rules resource).2 = (s.yieldOf rules resource).fault := by
  unfold visit yieldOf
  cases hget : s.get? resource.identity with
  | none => rfl
  | some r => simp [Record.visit_eq r resource rules (get?_eq_some_iff.1 hget).2]

theorem postings_visit (resource : Resource) :
    (s.visit rules resource).1.postings = s.postings ++ (s.yieldOf rules resource).said := by
  unfold visit yieldOf
  cases hget : s.get? resource.identity with
  | none => simp [Yield.nothing]
  | some r => simp [post, Record.visit_eq r resource rules (get?_eq_some_iff.1 hget).2]

theorem identities_visit (resource : Resource) : (s.visit rules resource).1.identities = s.identities := by
  unfold visit
  cases s.get? resource.identity <;> simp

/-- A visit adds what it yields to one record. -/
theorem get?_visit (resource : Resource) (i : Identity) :
    (s.visit rules resource).1.get? i =
      (s.get? i).map (·.extend (if resource.identity = i then (s.yieldOf rules resource).outcomes else [])) := by
  unfold visit yieldOf
  cases hget : s.get? resource.identity with
  | none =>
      by_cases hi : resource.identity = i
      · simp [← hi, hget]
      · simp [hi]
  | some r =>
      have hr := (get?_eq_some_iff.1 hget).2
      by_cases hi : resource.identity = i
      · subst hi
        simp [get?_modify, hget, changedAt, Record.visit_eq r resource rules hr, hr, Record.extend]
      · simp [get?_modify_of_ne s (Ne.symm hi), hi]

/-- A visit leaves what other visits yield as it is, and what a second one of the same resource would yield. -/
theorem yieldOf_visit (resource other : Resource) :
    (s.visit rules resource).1.yieldOf rules other = s.yieldOf rules other := by
  conv => lhs; unfold yieldOf
  conv => rhs; unfold yieldOf
  rw [get?_visit]
  cases s.get? other.identity <;> rfl

theorem identities_visitAll (pending : List Resource) :
    (s.visitAll rules pending).1.identities = s.identities := by
  induction pending generalizing s with
  | nil => rfl
  | cons r rest ih => simp [visitAll, ih, identities_visit]

/-- All visits add to every record what the visits of its resource yield at the start. -/
theorem get?_visitAll (pending : List Resource) (i : Identity) :
    (s.visitAll rules pending).1.get? i = (s.get? i).map (·.extend (s.outcomesFor rules pending i)) := by
  induction pending generalizing s with
  | nil => simp [visitAll, outcomesFor]
  | cons r rest ih =>
      simp only [visitAll, ih, get?_visit, Option.map_map, outcomesFor, yieldOf_visit, List.flatMap_cons]
      congr 1
      funext q
      simp

theorem visitAll_snd (pending : List Resource) :
    (s.visitAll rules pending).2 = pending.findSome? fun r => (s.yieldOf rules r).fault := by
  induction pending generalizing s with
  | nil => rfl
  | cons r rest ih =>
      simp only [visitAll, ih, visit_snd, yieldOf_visit, List.findSome?_cons]
      cases (s.yieldOf rules r).fault <;> rfl

theorem postings_visitAll (pending : List Resource) :
    (s.visitAll rules pending).1.postings = s.postings ++ pending.flatMap fun r => (s.yieldOf rules r).said := by
  induction pending generalizing s with
  | nil => simp [visitAll]
  | cons r rest ih => simp [visitAll, ih, postings_visit, yieldOf_visit]

theorem yieldOf_said_of_isSilent {rules : List Rule} (h : ∀ rule ∈ rules, rule.IsSilent) (resource : Resource) :
    (s.yieldOf rules resource).said = [] := by
  unfold yieldOf
  split
  · rfl
  · exact Rule.yieldAll_said_of_isSilent h

theorem postings_visitAll_of_isSilent {rules : List Rule} (h : ∀ rule ∈ rules, rule.IsSilent)
    (pending : List Resource) : (s.visitAll rules pending).1.postings = s.postings := by
  have hsaid : ∀ r ∈ pending, (s.yieldOf rules r).said = [] := fun r _ => s.yieldOf_said_of_isSilent h r
  rw [postings_visitAll, List.flatMap_eq_nil_iff.2 hsaid, List.append_nil]

theorem outcomesFor_append (a b : List Resource) (i : Identity) :
    s.outcomesFor rules (a ++ b) i = s.outcomesFor rules a i ++ s.outcomesFor rules b i := List.flatMap_append

theorem outcomesFor_of_mem {pending : List Resource}
    (hdistinct : (pending.map Resource.identity).Nodup) {r : Resource} (hr : r ∈ pending) :
    s.outcomesFor rules pending r.identity = (s.yieldOf rules r).outcomes := by
  induction pending with
  | nil => cases hr
  | cons a rest ih =>
      rw [List.map_cons, List.nodup_cons] at hdistinct
      rw [outcomesFor, List.flatMap_cons]
      rcases List.mem_cons.1 hr with rfl | hr
      · have hrest : s.outcomesFor rules rest r.identity = [] := by
          refine List.flatMap_eq_nil_iff.2 fun b hb => if_neg fun heq => hdistinct.1 ?_
          exact heq ▸ List.mem_map_of_mem hb
        rw [if_pos rfl]
        exact (congrArg _ hrest).trans (List.append_nil _)
      · have hne : a.identity ≠ r.identity := fun heq => hdistinct.1 (heq ▸ List.mem_map_of_mem hr)
        rw [if_neg hne, List.nil_append]
        exact ih hdistinct.2 hr

theorem outcomesFor_of_not_mem {pending : List Resource} {i : Identity}
    (h : i ∉ pending.map Resource.identity) : s.outcomesFor rules pending i = [] :=
  List.flatMap_eq_nil_iff.2 fun r hr => if_neg fun heq : r.identity = i => h (heq ▸ List.mem_map_of_mem hr)

/-- The resources up to the first one whose visit ends in a fault. -/
def upToFault : List Resource → List Resource
  | [] => []
  | r :: rest => r :: if (s.yieldOf rules r).fault.isSome then [] else upToFault rest

theorem upToFault_visit (resource : Resource) (pending : List Resource) :
    (s.visit rules resource).1.upToFault rules pending = s.upToFault rules pending := by
  induction pending with
  | nil => rfl
  | cons r rest ih => simp only [upToFault, yieldOf_visit, ih]

/-- Visits that end at a fault are all visits of the resources up to it. -/
theorem visitUntilFault_eq (pending : List Resource) :
    s.visitUntilFault rules pending = s.visitAll rules (s.upToFault rules pending) := by
  induction pending generalizing s with
  | nil => rfl
  | cons r rest ih =>
      have hrest := upToFault_visit s rules r rest
      have hsnd := visit_snd s rules r
      rw [visitUntilFault, upToFault, visitAll]
      cases hvisit : s.visit rules r with
      | mk t fault =>
          rw [hvisit] at hrest hsnd
          cases fault with
          | some fault => simp [← hsnd, visitAll]
          | none => simp [← hsnd, ih, hrest]

theorem findSome?_upToFault (pending : List Resource) :
    ((s.upToFault rules pending).findSome? fun r => (s.yieldOf rules r).fault) =
      pending.findSome? fun r => (s.yieldOf rules r).fault := by
  induction pending with
  | nil => rfl
  | cons r rest ih =>
      rw [upToFault, List.findSome?_cons, List.findSome?_cons]
      cases hfault : (s.yieldOf rules r).fault <;> simp [ih]

/-- The resources up to the first fault are all resources if there is none. -/
theorem upToFault_of_none {pending : List Resource} (h : ∀ r ∈ pending, (s.yieldOf rules r).fault = none) :
    s.upToFault rules pending = pending := by
  induction pending with
  | nil => rfl
  | cons r rest ih =>
      rw [upToFault, h r List.mem_cons_self, ih fun q hq => h q (List.mem_cons_of_mem _ hq)]
      rfl

/-- The resources up to the first fault end with the one whose visit ends in it. -/
theorem upToFault_of_some {pending : List Resource} {fault : RunFault}
    (h : (pending.findSome? fun r => (s.yieldOf rules r).fault) = some fault) :
    ∃ before failing behind, pending = before ++ failing :: behind ∧
      s.upToFault rules pending = before ++ [failing] ∧ (s.yieldOf rules failing).fault = some fault ∧
      ∀ r ∈ before, (s.yieldOf rules r).fault = none := by
  induction pending with
  | nil => simp at h
  | cons r rest ih =>
      cases hfault : (s.yieldOf rules r).fault with
      | some found =>
          rw [List.findSome?_cons, hfault] at h
          exact ⟨[], r, rest, rfl, by simp [upToFault, hfault], hfault.trans h, by simp⟩
      | none =>
          rw [List.findSome?_cons, hfault] at h
          obtain ⟨before, failing, behind, rfl, hup, hfailing, hbefore⟩ := ih h
          refine ⟨r :: before, failing, behind, rfl, by simp [upToFault, hfault, hup], hfailing, ?_⟩
          intro q hq
          rcases List.mem_cons.1 hq with rfl | hq
          · exact hfault
          · exact hbefore q hq

theorem upToFault_isPrefixOf_pending (pending : List Resource) : s.upToFault rules pending <+: pending := by
  induction pending with
  | nil => exact List.prefix_refl _
  | cons r rest ih =>
      rw [upToFault, List.prefix_cons_inj]
      split
      · exact List.nil_prefix
      · exact ih

end Scorecard

theorem Scorecard.opening_of_find? {resources : List Resource} {first : Resource}
    (h : resources.find? (·.identity = first.identity) = some first) (s : Scorecard) :
    s.opening (resources.map Resource.registration) first.identity =
      (s.get? first.identity).or (Record.new first.identity first.metadata).toOption := by
  simp [opening, Resource.lookup_registration, h]

theorem Runner.isSilent_of_mem_new {rules : List Rule} (h : ∀ rule ∈ rules, rule.IsSilent)
    (ignored optional : List RawText) (workers : Int) :
    ∀ rule ∈ (Runner.new rules ignored optional workers).rules, rule.IsSilent :=
  fun rule hrule => h rule (List.mem_of_mem_filter hrule)

/-- A run whose registrations succeed visits the first resources with each identity, or those up to a fault. -/
theorem Runner.run_of_registerAll {runner : Runner} {resources : List Resource} {s t : Scorecard}
    (h : s.registerAll resources = (t, none)) :
    runner.run resources s =
      t.visitAll runner.rules
        (if runner.workers = 1 ∨ (Resource.firsts resources).length < 2 then
          t.upToFault runner.rules (Resource.firsts resources) else Resource.firsts resources) := by
  simp only [run, h, Scorecard.visitUntilFault_eq]
  split <;> rfl

/-- Such a run ends with the first fault among the visits, however many workers there are. -/
theorem Runner.run_snd_of_registerAll {runner : Runner} {resources : List Resource} {s t : Scorecard}
    (h : s.registerAll resources = (t, none)) :
    (runner.run resources s).2 = (Resource.firsts resources).findSome? fun r => (t.yieldOf runner.rules r).fault := by
  rw [run_of_registerAll h, Scorecard.visitAll_snd]
  split
  · exact Scorecard.findSome?_upToFault t runner.rules _
  · rfl

/-- A run that ends with no fault is that of all visits, one for each first resource, and none of them ends in a fault. -/
theorem Runner.run_of_snd_eq_none {runner : Runner} {resources : List Resource} {s : Scorecard}
    (h : (runner.run resources s).2 = none) :
    ∃ t, s.registerAll resources = (t, none) ∧
      (∀ r ∈ Resource.firsts resources, (t.yieldOf runner.rules r).fault = none) ∧
      runner.run resources s = ((t.visitAll runner.rules (Resource.firsts resources)).1, none) := by
  cases hregister : s.registerAll resources with
  | mk t fault =>
      cases fault with
      | some fault =>
          rw [run, hregister] at h
          cases h
      | none =>
          have hquiet := h
          rw [run_snd_of_registerAll hregister, List.findSome?_eq_none_iff] at hquiet
          refine ⟨t, rfl, hquiet, Prod.ext ?_ h⟩
          rw [run_of_registerAll hregister, Scorecard.upToFault_of_none t _ hquiet, ite_self]

theorem Runner.run_of_registerAll_eq_some {runner : Runner} {resources : List Resource} {s t : Scorecard}
    {fault : RunFault} (h : s.registerAll resources = (t, some fault)) :
    runner.run resources s = (t, some fault) := by
  simp [run, h]

/-- Every run visits some of its resources after the registrations: the first ones with each identity, or those up to
a fault, and none if a registration is refused. -/
theorem Runner.exists_visitAll (runner : Runner) (resources : List Resource) (s : Scorecard) :
    ∃ pending, (∀ r ∈ pending, r ∈ resources) ∧
      (runner.run resources s).1 = ((s.registerAll resources).1.visitAll runner.rules pending).1 := by
  cases hregister : s.registerAll resources with
  | mk t fault =>
      cases fault with
      | some fault =>
          exact ⟨[], fun r hr => absurd hr List.not_mem_nil, by
            simp [run_of_registerAll_eq_some hregister, Scorecard.visitAll]⟩
      | none =>
          refine ⟨_, fun r hr => ?_, by rw [run_of_registerAll hregister]⟩
          have hfirst : r ∈ Resource.firsts resources := by
            split at hr
            · exact (Scorecard.upToFault_isPrefixOf_pending t runner.rules _).subset hr
            · exact hr
          exact List.mem_of_find?_eq_some (Resource.mem_firsts_iff.1 hfirst)

end ManifestGrading
