import ManifestGrading.Text.Raw

/-! Finite sets of identifiers. A set is kept as its members in increasing order, so two sets with the same
members are equal and the members show in the order in which reports list them. -/

namespace ManifestGrading

/-- A set of identifiers. -/
structure IdSet where
  ids : List RawText
  increasing : ids.Pairwise (· < ·)
  deriving DecidableEq

namespace IdSet

/-- An increasing list with a further member. -/
def insertSorted (s : RawText) : List RawText → List RawText
  | [] => [s]
  | t :: rest =>
    if s < t then s :: t :: rest
    else if s = t then t :: rest
    else t :: insertSorted s rest

theorem mem_insertSorted {a s : RawText} {l : List RawText} : a ∈ insertSorted s l ↔ a = s ∨ a ∈ l := by
  induction l with
  | nil => simp [insertSorted]
  | cons t rest ih =>
    unfold insertSorted
    split
    · simp
    · split
      · rename_i h
        subst h
        simp
      · simp only [List.mem_cons, ih]
        exact or_left_comm

theorem pairwise_insertSorted {l : List RawText} (h : l.Pairwise (· < ·)) (s : RawText) :
    (insertSorted s l).Pairwise (· < ·) := by
  induction l with
  | nil => simp [insertSorted]
  | cons t rest ih =>
    obtain ⟨ht, hrest⟩ := List.pairwise_cons.1 h
    unfold insertSorted
    split
    · rename_i hs
      refine List.pairwise_cons.2 ⟨fun a ha => ?_, h⟩
      rcases List.mem_cons.1 ha with rfl | ha
      · exact hs
      · exact RawText.lt_trans hs (ht a ha)
    · split
      · exact h
      · rename_i hs hne
        refine List.pairwise_cons.2 ⟨fun a ha => ?_, ih hrest⟩
        rcases mem_insertSorted.1 ha with rfl | ha
        · exact Decidable.byContradiction fun hlt => hne (RawText.eq_of_not_lt hs hlt)
        · exact ht a ha

def empty : IdSet := ⟨[], List.Pairwise.nil⟩

def insert (s : RawText) (set : IdSet) : IdSet := ⟨insertSorted s set.ids, pairwise_insertSorted set.increasing s⟩

def ofList (l : List RawText) : IdSet := l.foldr insert empty

instance : Membership RawText IdSet := ⟨fun set s => s ∈ set.ids⟩

instance (s : RawText) (set : IdSet) : Decidable (s ∈ set) := inferInstanceAs (Decidable (s ∈ set.ids))

instance : Inhabited IdSet := ⟨empty⟩

instance : Repr IdSet := ⟨fun set n => reprPrec set.ids n⟩

theorem mem_ids {s : RawText} {set : IdSet} : s ∈ set.ids ↔ s ∈ set := Iff.rfl

theorem not_mem_empty (s : RawText) : s ∉ empty := by simp [← mem_ids, empty]

theorem mem_insert {a s : RawText} {set : IdSet} : a ∈ set.insert s ↔ a = s ∨ a ∈ set := mem_insertSorted

theorem mem_ofList {a : RawText} {l : List RawText} : a ∈ ofList l ↔ a ∈ l := by
  induction l with
  | nil => simp [ofList, not_mem_empty]
  | cons s rest ih =>
    rw [show ofList (s :: rest) = (ofList rest).insert s from rfl, mem_insert, ih, List.mem_cons]

end IdSet

end ManifestGrading
