import Mathlib.Logic.Basic
import ManifestGrading.Value.Parts

/-! Values that stand for the entries of a mapping. A mapping stands for its own. Any other collection stands for
entries if each of its parts is a pair: a collection of two values, the first of which may be a key. -/

namespace ManifestGrading.Value

/-- A value that may be a key: one that is no collection, or a tuple of keys. -/
inductive IsKey : Value → Prop
  | single {v : Value} (h : v.isHashable) : IsKey v
  | tuple {items : List Value} (h : ∀ v ∈ items, IsKey v) : IsKey (.tuple items)

/-- A value with two parts, the first of which may be a key. -/
def IsPair (v : Value) : Prop := ∃ a b, v.elements = .ok [a, b] ∧ a.IsKey

/-- A mapping, or a collection of pairs. -/
def IsEntries (v : Value) : Prop :=
  (∃ entries, v.mapping? = some entries) ∨ ∃ items, v.elements = .ok items ∧ ∀ item ∈ items, item.IsPair

theorem isKey_tuple_iff {items : List Value} : (tuple items).IsKey ↔ ∀ v ∈ items, v.IsKey := by
  constructor
  · intro h
    cases h with
    | single h => cases h
    | tuple h => exact h
  · exact .tuple

theorem isKey_iff_isHashable {v : Value} (h : ∀ items, v ≠ .tuple items) : v.IsKey ↔ v.isHashable := by
  constructor
  · intro hkey
    cases hkey with
    | single hkey => exact hkey
    | tuple _ => exact absurd rfl (h _)
  · exact .single

mutual

/-- Nothing keeps a value from being a key exactly if it may be one. -/
theorem hindrance?_eq_none_iff : (v : Value) → (v.hindrance? = none ↔ v.IsKey)
  | tuple items => by rw [hindrance?, firstHindrance?_eq_none_iff items, isKey_tuple_iff]
  | null | bool _ | int _ | float _ | text _ | bytes _ | date _ | instant _ | list _ | set _ | map _ | knot _ _
  | cell _ => by
      rw [isKey_iff_isHashable fun _ h => by cases h]
      simp only [hindrance?, ite_eq_left_iff, reduceCtorEq, imp_false, Decidable.not_not]

theorem firstHindrance?_eq_none_iff : (items : List Value) → (firstHindrance? items = none ↔ ∀ v ∈ items, v.IsKey)
  | [] => by simp [firstHindrance?]
  | v :: rest => by
      rw [firstHindrance?, Option.or_eq_none_iff, hindrance?_eq_none_iff v, firstHindrance?_eq_none_iff rest,
        List.forall_mem_cons]

end

theorem exists_pairAt_iff (place : Nat) {v : Value} : (∃ p, pairAt place v = .ok p) ↔ v.IsPair := by
  constructor
  · rintro ⟨p, hp⟩
    unfold pairAt at hp
    split at hp
    · cases hp
    · next a b helements =>
      split at hp
      · next hkey => exact ⟨a, b, helements, (hindrance?_eq_none_iff a).1 hkey⟩
      · cases hp
    · cases hp
  · rintro ⟨a, b, helements, hkey⟩
    exact ⟨(a, b), by rw [pairAt, helements]; simp only [(hindrance?_eq_none_iff a).2 hkey]⟩

theorem exists_putPairs_iff (entries : Entries) (place : Nat) {items : List Value} :
    (∃ entries', putPairs entries place items = .ok entries') ↔ ∀ item ∈ items, item.IsPair := by
  induction items generalizing entries place with
  | nil => simp [putPairs]
  | cons v rest ih =>
      rw [List.forall_mem_cons, ← exists_pairAt_iff place, putPairs]
      cases hpair : pairAt place v with
      | error fault => simp [bind, Except.bind]
      | ok p =>
          obtain ⟨a, b⟩ := p
          rw [← ih (entries.put a b) (place + 1)]
          simp [bind, Except.bind]

/-- The values that can be turned into entries are the mappings and the collections of pairs. -/
theorem exists_toEntries_iff {v : Value} : (∃ entries, v.toEntries = .ok entries) ↔ v.IsEntries := by
  unfold toEntries IsEntries
  cases hmapping : v.mapping? with
  | some entries => simp
  | none =>
      cases helements : v.elements with
      | error fault => simp [bind, Except.bind]
      | ok items =>
          simp only [reduceCtorEq, exists_false, false_or, Except.ok.injEq, exists_eq_left', bind, Except.bind]
          exact exists_putPairs_iff [] 0

example : toEntries (.list [.text "ab", .list [.tuple [.text "c", .int 1], .null]]) =
    .ok [(.text "a", .text "b"), (.tuple [.text "c", .int 1], .null)] := rfl

end ManifestGrading.Value
