import Mathlib.Data.List.Basic
import ManifestGrading.Runner

/-! What rules yield for a record, in closed form. A rule looks at a resource and never at the outcomes that a
record holds already, so a visit adds outcomes that depend on the resource, on the checks that do not count
for the record and on its reference alone. Visits therefore do not disturb each other: whatever order they come
in, each yields what it would have yielded at the start. A visit that stops at a fault is a visit of a
shorter list of resources. -/

namespace ManifestGrading

/-- What comes of looking at a resource: outcomes, comments on earlier outcomes, and a fault that ends it. -/
@[ext] structure Yield where
  outcomes : List Outcome
  said : List Posting
  fault : Option RunFault

namespace Yield

/-- Nothing at all. -/
def nothing : Yield := ⟨[], [], none⟩

/-- A yield with a later one, which does not come about behind a fault. -/
def andThen (y z : Yield) : Yield :=
  match y.fault with
  | some _ => y
  | none => ⟨y.outcomes ++ z.outcomes, y.said ++ z.said, z.fault⟩

theorem andThen_of_fault {y : Yield} {fault : RunFault} (h : y.fault = some fault) (z : Yield) : y.andThen z = y := by
  simp [andThen, h]

theorem andThen_of_none {y : Yield} (h : y.fault = none) (z : Yield) :
    y.andThen z = ⟨y.outcomes ++ z.outcomes, y.said ++ z.said, z.fault⟩ := by
  simp [andThen, h]

theorem nothing_andThen (y : Yield) : nothing.andThen y = y := rfl

theorem andThen_assoc (y z w : Yield) : (y.andThen z).andThen w = y.andThen (z.andThen w) := by
  cases hy : y.fault with
  | some fault => rw [andThen_of_fault hy, andThen_of_fault hy, andThen_of_fault hy]
  | none => cases hz : z.fault <;> simp [andThen, hy, hz]

theorem andThen_andThen_of_none (a b : List Outcome) (c d : List Posting) (z : Yield) :
    (⟨a, c, none⟩ : Yield).andThen ((⟨b, d, none⟩ : Yield).andThen z) = (⟨a ++ b, c ++ d, none⟩ : Yield).andThen z := by
  simp [andThen]

/-- What is said comes before what is recorded. -/
theorem andThen_of_said {y : Yield} (h : y.said = []) (said : List Posting) (z : Yield) :
    ({ y with said := said } : Yield).andThen z = (⟨[], said, none⟩ : Yield).andThen (y.andThen z) := by
  cases hfault : y.fault <;> simp [andThen, hfault, h]

theorem andThen_fault_eq_none_iff {y z : Yield} :
    (y.andThen z).fault = none ↔ y.fault = none ∧ z.fault = none := by
  cases h : y.fault <;> simp [andThen, h]

end Yield

namespace Finding

/-- The outcome that a finding is. -/
def outcome? : Finding → Option Outcome
  | .outcome o => some o
  | .stray _ => none

/-- The outcomes before the first stray. -/
def leading : List Finding → List Outcome
  | .outcome o :: rest => o :: leading rest
  | _ => []

/-- The kind of the first stray. -/
def firstStray? : List Finding → Option String
  | [] => none
  | .outcome _ :: rest => firstStray? rest
  | .stray kind :: _ => some kind

theorem outcome_mem_of_mem_leading {o : Outcome} {findings : List Finding} (h : o ∈ leading findings) :
    .outcome o ∈ findings := by
  induction findings with
  | nil => cases h
  | cons f rest ih =>
      cases f with
      | outcome o' =>
          rcases List.mem_cons.1 h with rfl | h
          · exact List.mem_cons_self
          · exact List.mem_cons_of_mem _ (ih h)
      | stray kind => cases h

theorem firstStray?_eq_none_iff {findings : List Finding} :
    firstStray? findings = none ↔ ∀ f ∈ findings, ∃ o, f = .outcome o := by
  induction findings with
  | nil => simp [firstStray?]
  | cons f rest ih => cases f <;> simp [firstStray?, ih]

theorem leading_of_firstStray?_eq_none {findings : List Finding} (h : firstStray? findings = none) :
    leading findings = findings.filterMap outcome? := by
  induction findings with
  | nil => rfl
  | cons f rest ih =>
      cases f with
      | outcome o => simp [leading, outcome?, ih (by simpa [firstStray?] using h)]
      | stray kind => simp [firstStray?] at h

end Finding

/-- A record with further outcomes. -/
def Record.extend (r : Record) (outcomes : List Outcome) : Record := { r with outcomes := r.outcomes ++ outcomes }

namespace Record

@[simp] theorem identity_extend (r : Record) (outcomes : List Outcome) : (r.extend outcomes).identity = r.identity := rfl

@[simp] theorem metadata_extend (r : Record) (outcomes : List Outcome) : (r.extend outcomes).metadata = r.metadata := rfl

@[simp] theorem ignored_extend (r : Record) (outcomes : List Outcome) : (r.extend outcomes).ignored = r.ignored := rfl

@[simp] theorem outcomes_extend (r : Record) (outcomes : List Outcome) :
    (r.extend outcomes).outcomes = r.outcomes ++ outcomes := rfl

@[simp] theorem extend_nil (r : Record) : r.extend [] = r := by simp [extend]

@[simp] theorem extend_extend (r : Record) (a b : List Outcome) : (r.extend a).extend b = r.extend (a ++ b) := by
  simp [extend]

theorem add_eq_extend (r : Record) (o : Outcome) (check : Check) :
    r.add o check = r.extend (if check.id ∈ r.ignored then [] else [o.stamped check]) := by
  by_cases h : check.id ∈ r.ignored <;> simp [add, ignores, h, extend]

end Record

/-- What a check that found something yields for a record with the given checks that do not count. -/
def Check.yield (ignored : IdSet) (check : Check) (findings : List Finding) : Yield :=
  if check.id ∈ ignored then .nothing
  else ⟨(Finding.leading findings).map (·.stamped check), [], (Finding.firstStray? findings).map .stray⟩

theorem Check.yield_nil (ignored : IdSet) (check : Check) : check.yield ignored [] = .nothing := by
  unfold Check.yield
  split <;> rfl

theorem Check.yield_said (ignored : IdSet) (check : Check) (findings : List Finding) :
    (check.yield ignored findings).said = [] := by
  unfold Check.yield
  split <;> rfl

theorem Record.accept_eq (r : Record) (check : Check) (findings : List Finding) :
    r.accept check findings =
      (r.extend (check.yield r.ignored findings).outcomes, (check.yield r.ignored findings).fault) := by
  induction findings generalizing r with
  | nil => simp [accept, Check.yield_nil, Yield.nothing]
  | cons f rest ih =>
      by_cases hignored : check.id ∈ r.ignored
      · cases f <;> simp [accept, ih, add_eq_extend, ignores, Check.yield, Yield.nothing, hignored]
      · cases f <;>
          simp [accept, ih, add_eq_extend, ignores, Check.yield, Finding.leading, Finding.firstStray?, hignored]

namespace Rule

/-- What a rule yields for the record of a resource with the given checks that do not count. -/
def yield (resource : Resource) (ignored : IdSet) (rule : Rule) : Yield :=
  if rule.appliesTo resource.kind then
    match (rule.evaluate resource).result with
    | .error reason =>
      ⟨[], (rule.evaluate resource).said, some (.check rule.check.id resource.identity.ref reason)⟩
    | .ok findings => { rule.check.yield ignored findings with said := (rule.evaluate resource).said }
  else .nothing

/-- What rules yield one after the other, up to a fault. -/
def yieldAll (resource : Resource) (ignored : IdSet) : List Rule → Yield
  | [] => .nothing
  | rule :: rest => (rule.yield resource ignored).andThen (yieldAll resource ignored rest)

/-- A rule that leaves no comments on earlier outcomes. -/
def IsSilent (rule : Rule) : Prop := ∀ resource, (rule.evaluate resource).said = []

variable {resource : Resource} {ignored : IdSet} {rules : List Rule}

theorem mem_yield_outcomes {rule : Rule} {o : Outcome} (h : o ∈ (rule.yield resource ignored).outcomes) :
    ∃ findings original, (rule.evaluate resource).result = .ok findings ∧ .outcome original ∈ findings ∧
      rule.check.id ∉ ignored ∧ o = original.stamped rule.check := by
  unfold yield at h
  split at h
  · split at h
    · cases h
    · next findings hresult =>
      by_cases hignored : rule.check.id ∈ ignored
      · simp [Check.yield, hignored, Yield.nothing] at h
      · simp only [Check.yield, hignored, if_false, List.mem_map] at h
        obtain ⟨original, horiginal, rfl⟩ := h
        exact ⟨findings, original, hresult, Finding.outcome_mem_of_mem_leading horiginal, hignored, rfl⟩
  · cases h

theorem mem_yieldAll_outcomes {o : Outcome} (h : o ∈ (yieldAll resource ignored rules).outcomes) :
    ∃ rule ∈ rules, o ∈ (rule.yield resource ignored).outcomes := by
  induction rules with
  | nil => cases h
  | cons rule rest ih =>
      cases hfault : (rule.yield resource ignored).fault with
      | some fault =>
          rw [yieldAll, Yield.andThen_of_fault hfault] at h
          exact ⟨rule, List.mem_cons_self, h⟩
      | none =>
          rw [yieldAll, Yield.andThen_of_none hfault] at h
          rcases List.mem_append.1 h with h | h
          · exact ⟨rule, List.mem_cons_self, h⟩
          · obtain ⟨later, hlater, ho⟩ := ih h
            exact ⟨later, List.mem_cons_of_mem _ hlater, ho⟩

/-- A list of rules yields what its first part yields and then what its second part does. -/
theorem yieldAll_append (rules later : List Rule) :
    yieldAll resource ignored (rules ++ later) =
      (yieldAll resource ignored rules).andThen (yieldAll resource ignored later) := by
  induction rules with
  | nil => rfl
  | cons rule rest ih => rw [List.cons_append, yieldAll, yieldAll, ih, Yield.andThen_assoc]

theorem yieldAll_fault_eq_none_iff :
    (yieldAll resource ignored rules).fault = none ↔ ∀ rule ∈ rules, (rule.yield resource ignored).fault = none := by
  induction rules with
  | nil => simp [yieldAll, Yield.nothing]
  | cons rule rest ih => simp [yieldAll, Yield.andThen_fault_eq_none_iff, ih]

theorem yieldAll_of_fault_eq_none (h : (yieldAll resource ignored rules).fault = none) :
    yieldAll resource ignored rules =
      ⟨rules.flatMap fun rule => (rule.yield resource ignored).outcomes,
        rules.flatMap fun rule => (rule.yield resource ignored).said, none⟩ := by
  induction rules with
  | nil => rfl
  | cons rule rest ih =>
      have hsplit := Yield.andThen_fault_eq_none_iff.1 h
      rw [yieldAll, Yield.andThen_of_none hsplit.1, ih hsplit.2]
      simp

theorem yield_said_of_isSilent {rule : Rule} (h : rule.IsSilent) : (rule.yield resource ignored).said = [] := by
  unfold yield
  split
  · split <;> exact h resource
  · rfl

theorem yieldAll_said_of_isSilent (h : ∀ rule ∈ rules, rule.IsSilent) :
    (yieldAll resource ignored rules).said = [] := by
  induction rules with
  | nil => rfl
  | cons rule rest ih =>
      have hhead : (rule.yield resource ignored).said = [] := yield_said_of_isSilent (h rule List.mem_cons_self)
      have htail := ih fun r hr => h r (List.mem_cons_of_mem _ hr)
      unfold yieldAll Yield.andThen
      split <;> simp [hhead, htail]

end Rule

theorem Record.visit_eq (r : Record) (resource : Resource) (rules : List Rule) (h : r.identity = resource.identity) :
    r.visit resource rules =
      ⟨r.extend (Rule.yieldAll resource r.ignored rules).outcomes, (Rule.yieldAll resource r.ignored rules).said,
        (Rule.yieldAll resource r.ignored rules).fault⟩ := by
  induction rules generalizing r with
  | nil => simp [visit, Rule.yieldAll, Yield.nothing]
  | cons rule rest ih =>
      by_cases happlies : rule.appliesTo resource.kind
      · cases hresult : (rule.evaluate resource).result with
        | error reason => simp [visit, Rule.yieldAll, Rule.yield, Yield.andThen, happlies, hresult, h]
        | ok findings =>
            cases hfault : (rule.check.yield r.ignored findings).fault with
            | some fault =>
                simp [visit, Rule.yieldAll, Rule.yield, Yield.andThen, happlies, hresult, accept_eq, hfault]
            | none =>
                simp [visit, Rule.yieldAll, Rule.yield, Yield.andThen, happlies, hresult, accept_eq, hfault, ih, h]
      · simp [visit, Rule.yieldAll, Rule.yield, Yield.nothing_andThen, happlies, ih, h]

end ManifestGrading
