import ManifestGrading.Record

/-! The scorecard: one record for every registered resource, in the order of registration, and the comments
posted to threads. A resource is registered once, and what a later registration brings is not looked at. That
no two records are of one resource is part of the type. -/

namespace ManifestGrading

/-- The records of all registered resources, one for each. -/
@[ext] structure Scorecard where
  records : List Record
  postings : List Posting
  distinct : (records.map Record.identity).Nodup
  deriving Repr

namespace Scorecard

def empty : Scorecard := ⟨[], [], List.nodup_nil⟩

instance : Inhabited Scorecard := ⟨empty⟩

/-- The registered resources in the order of registration. -/
def identities (s : Scorecard) : List Identity := s.records.map Record.identity

def get? (s : Scorecard) (identity : Identity) : Option Record := s.records.find? (·.identity = identity)

def contains (s : Scorecard) (identity : Identity) : Bool := (s.get? identity).isSome

def size (s : Scorecard) : Nat := s.records.length

/-- The scorecard with a record behind the others, unless its resource has one. -/
def insert (s : Scorecard) (r : Record) : Scorecard :=
  if h : r.identity ∈ s.identities then s
  else ⟨s.records ++ [r], s.postings, by
    rw [List.map_append, List.nodup_append]
    exact ⟨s.distinct, by simp, fun a ha b hb hab => h (by simp_all [identities])⟩⟩

def register (s : Scorecard) (identity : Identity) (metadata : Value) : Except Value.Fault Scorecard :=
  if s.contains identity then .ok s else (Record.new identity metadata).map s.insert

/-- A record changed if it is that of a resource; it stays the record of that resource. -/
def changedAt (identity : Identity) (f : Record → Record) (r : Record) : Record :=
  if r.identity = identity then { f r with identity := identity } else r

theorem identity_changedAt (identity : Identity) (f : Record → Record) (r : Record) :
    (changedAt identity f r).identity = r.identity := by
  unfold changedAt
  split
  · next h => exact h.symm
  · rfl

/-- The scorecard with the record of a resource changed. -/
def modify (s : Scorecard) (identity : Identity) (f : Record → Record) : Scorecard where
  records := s.records.map (changedAt identity f)
  postings := s.postings
  distinct := by
    rw [List.map_map, show Record.identity ∘ changedAt identity f = Record.identity from
      funext (identity_changedAt identity f)]
    exact s.distinct

def add (s : Scorecard) (identity : Identity) (o : Outcome) (check : Check) : Scorecard :=
  s.modify identity (·.add o check)

def post (s : Scorecard) (postings : List Posting) : Scorecard := { s with postings := s.postings ++ postings }

def commentsOn (s : Scorecard) (o : Outcome) : List Comment := o.allComments s.postings

def anyAtOrBelow (s : Scorecard) (threshold : Grade) : Bool := s.records.any (·.anyAtOrBelow threshold)

/-- The worst grade of a resource. -/
def lowest (s : Scorecard) : Grade := Grade.worst (s.records.map Record.grade)

def count (s : Scorecard) (g : Grade) : Nat := (s.records.filter (·.grade = g)).length

def counts (s : Scorecard) : List (Grade × Nat) := Grade.all.map fun g => (g, s.count g)

theorem get?_eq_some_iff {s : Scorecard} {identity : Identity} {r : Record} :
    s.get? identity = some r ↔ r ∈ s.records ∧ r.identity = identity := by
  constructor
  · intro h
    exact ⟨List.mem_of_find?_eq_some h, by simpa using List.find?_some h⟩
  · rintro ⟨hr, rfl⟩
    obtain ⟨a, b, hab⟩ := List.append_of_mem hr
    have hd := s.distinct
    simp only [get?, hab, List.map_append, List.map_cons, List.nodup_append, List.nodup_cons] at hd ⊢
    rw [List.find?_append, List.find?_cons_of_pos (by simp)]
    have hnone : a.find? (fun q => q.identity = r.identity) = none := by
      rw [List.find?_eq_none]
      intro q hq heq
      exact hd.2.2 q.identity (List.mem_map_of_mem hq) r.identity (by simp) (by simpa using heq)
    simp [hnone]

theorem get?_of_mem {s : Scorecard} {r : Record} (h : r ∈ s.records) : s.get? r.identity = some r :=
  get?_eq_some_iff.2 ⟨h, rfl⟩

theorem get?_eq_none_iff {s : Scorecard} {identity : Identity} :
    s.get? identity = none ↔ identity ∉ s.identities := by
  simp [get?, identities, List.find?_eq_none]

theorem contains_iff {s : Scorecard} {identity : Identity} : s.contains identity ↔ identity ∈ s.identities := by
  rw [contains, ← Decidable.not_iff_not, ← get?_eq_none_iff]
  simp

theorem register_of_contains {s : Scorecard} {identity : Identity} (h : s.contains identity) (metadata : Value) :
    s.register identity metadata = .ok s := by
  simp [register, h]

theorem records_insert {s : Scorecard} {r : Record} (h : r.identity ∉ s.identities) :
    (s.insert r).records = s.records ++ [r] := by
  simp [insert, h]

@[simp] theorem postings_insert (s : Scorecard) (r : Record) : (s.insert r).postings = s.postings := by
  unfold insert
  split <;> rfl

@[simp] theorem postings_modify (s : Scorecard) (identity : Identity) (f : Record → Record) :
    (s.modify identity f).postings = s.postings := rfl

@[simp] theorem identities_modify (s : Scorecard) (identity : Identity) (f : Record → Record) :
    (s.modify identity f).identities = s.identities := by
  simp [identities, modify, identity_changedAt]

theorem get?_modify (s : Scorecard) (identity i : Identity) (f : Record → Record) :
    (s.modify identity f).get? i = (s.get? i).map (changedAt identity f) := by
  simp only [get?, modify, List.find?_map]
  congr 1
  exact congrArg (List.find? · s.records) (funext fun r => by simp [identity_changedAt])

theorem get?_modify_of_ne (s : Scorecard) {identity i : Identity} (h : i ≠ identity) (f : Record → Record) :
    (s.modify identity f).get? i = s.get? i := by
  rw [get?_modify]
  cases hi : s.get? i with
  | none => rfl
  | some r =>
    have hr := (get?_eq_some_iff.1 hi).2
    simp [changedAt, hr, h]

@[simp] theorem records_post (s : Scorecard) (postings : List Posting) : (s.post postings).records = s.records := rfl

@[simp] theorem identities_post (s : Scorecard) (postings : List Posting) :
    (s.post postings).identities = s.identities := rfl

@[simp] theorem get?_post (s : Scorecard) (postings : List Posting) (i : Identity) :
    (s.post postings).get? i = s.get? i := rfl

end Scorecard

end ManifestGrading
