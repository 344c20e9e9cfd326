import ManifestGrading.Check
import ManifestGrading.Identity
import ManifestGrading.Suppression

/-! The outcomes recorded for a resource. A record keeps the metadata of the resource and the set of checks
that do not count for it; outcomes are only ever added, each as the verdict of the check it is added
under. -/

namespace ManifestGrading

/-- The outcomes for a resource in the order in which they came. -/
structure Record where
  identity : Identity
  metadata : Entries
  ignored : IdSet
  outcomes : List Outcome
  deriving Repr

namespace Record

/-- A record without outcomes. -/
def new (identity : Identity) (metadata : Value) : Except Value.Fault Record := do
  let entries ← (metadata.orElse (.map [])).toEntries
  return ⟨identity, entries, Suppression.ofMetadata metadata, []⟩

/-- Whether a check does not count. -/
def ignores (r : Record) (check : Check) : Bool := check.id ∈ r.ignored

/-- A record with a further outcome, unless its check does not count. -/
def add (r : Record) (o : Outcome) (check : Check) : Record :=
  if r.ignores check then r else { r with outcomes := r.outcomes ++ [o.stamped check] }

def grades (r : Record) : List Grade := r.outcomes.map Outcome.grade

/-- The grade of a resource: that of its worst outcome. -/
def grade (r : Record) : Grade := Grade.worst r.grades

def anyAtOrBelow (r : Record) (threshold : Grade) : Bool := r.grades.any (· ≤ threshold)

def expression (r : Record) : String :=
  "ResourceRecord(" ++ r.identity.key.quoted ++ ", outcomes=" ++ toString r.outcomes.length ++ ")"

@[simp] theorem identity_add (r : Record) (o : Outcome) (check : Check) : (r.add o check).identity = r.identity := by
  unfold add
  split <;> rfl

@[simp] theorem metadata_add (r : Record) (o : Outcome) (check : Check) : (r.add o check).metadata = r.metadata := by
  unfold add
  split <;> rfl

@[simp] theorem ignored_add (r : Record) (o : Outcome) (check : Check) : (r.add o check).ignored = r.ignored := by
  unfold add
  split <;> rfl

theorem identity_new {identity : Identity} {metadata : Value} {r : Record} (h : new identity metadata = .ok r) :
    r.identity = identity ∧ r.ignored = Suppression.ofMetadata metadata ∧ r.outcomes = [] := by
  unfold new at h
  cases he : (metadata.orElse (.map [])).toEntries with
  | error e => simp [he, bind, Except.bind] at h
  | ok entries =>
    simp only [he, bind, Except.bind, pure, Except.pure, Except.ok.injEq] at h
    subst h
    exact ⟨rfl, rfl, rfl⟩

end Record

end ManifestGrading
