import ManifestGrading.Value.Basic

/-! Values as keys of mappings and members of sets. Numbers of every kind are the same key if they are
equal, truth values count as the numbers zero and one, values that are no number are the same key if they
have the same origin, and instants with a known distance from universal time are the same key if they are
the same moment. Of the collections only tuples of keys are keys, and they are the same if their parts are, one by one.
`Entries.put` keeps the key that came first and the value that came last. -/

namespace ManifestGrading

/-- One of the things that decide whether two values are the same key. A tuple stands before its parts. -/
inductive Key where
  | null
  | number (value : Rat)
  | infinite (negative : Bool)
  | notANumber (origin : List Nat)
  | text (s : RawText)
  | bytes (b : List UInt8)
  | day (d : Date)
  | moment (universal : Bool) (microseconds : Int)
  | tuple (length : Nat)
  deriving DecidableEq

namespace Value

/-- A value that is no collection. It may be a key. -/
def isHashable : Value → Bool
  | list _ | tuple _ | set _ | map _ | knot _ _ | cell _ => false
  | _ => true

mutual

/-- What keeps a value from being a key: the value itself, if it is a collection and no tuple, or a part of a tuple. -/
def hindrance? : Value → Option Value
  | tuple items => firstHindrance? items
  | v => if v.isHashable then none else some v

/-- The first thing among the parts of a tuple that keeps it from being a key. -/
def firstHindrance? : List Value → Option Value
  | [] => none
  | v :: rest => v.hindrance?.or (firstHindrance? rest)

end

mutual

/-- The key that a value is; none for a collection that is no key. -/
def key? : Value → Option (List Key)
  | null => some [.null]
  | bool b => some [.number (if b then 1 else 0)]
  | int n => some [.number n]
  | float x =>
    match x with
    | .finite .. => x.toRat?.map fun q => [.number q]
    | .infinite negative => some [.infinite negative]
    | .nan origin => some [.notANumber origin]
  | text s => some [.text s]
  | bytes b => some [.bytes b]
  | date d => some [.day d]
  | instant t => some [.moment t.offset.isSome t.microseconds]
  | tuple items => (keys? items).map fun keys => .tuple items.length :: keys
  | list _ | set _ | map _ | knot _ _ | cell _ => none

/-- The keys that the parts of a tuple are, one behind the other. -/
def keys? : List Value → Option (List Key)
  | [] => some []
  | v :: rest => do return (← v.key?) ++ (← keys? rest)

end

/-- Whether two values are the same key. -/
def sameKey (v w : Value) : Bool :=
  match v.key?, w.key? with
  | some k, some l => k = l
  | _, _ => false

theorem sameKey_iff {v w : Value} : v.sameKey w = true ↔ ∃ k, v.key? = some k ∧ w.key? = some k := by
  unfold sameKey
  split
  · rename_i k l hk hl
    simp only [decide_eq_true_eq, hk, hl, Option.some.injEq]
    constructor
    · rintro rfl
      exact ⟨k, rfl, rfl⟩
    · rintro ⟨m, rfl, rfl⟩
      rfl
  · rename_i h
    simp only [Bool.false_eq_true, false_iff, not_exists, not_and]
    intro k hv hw
    exact h k k hv hw

theorem sameKey_comm (v w : Value) : v.sameKey w = w.sameKey v := by
  rw [Bool.eq_iff_iff, sameKey_iff, sameKey_iff]
  exact ⟨fun ⟨k, hv, hw⟩ => ⟨k, hw, hv⟩, fun ⟨k, hw, hv⟩ => ⟨k, hv, hw⟩⟩

theorem sameKey_trans {u v w : Value} (huv : u.sameKey v) (hvw : v.sameKey w) : u.sameKey w := by
  obtain ⟨k, hu, hv⟩ := sameKey_iff.1 huv
  obtain ⟨l, hv', hw⟩ := sameKey_iff.1 hvw
  obtain rfl : k = l := by simpa [hv] using hv'
  exact sameKey_iff.2 ⟨k, hu, hw⟩

theorem sameKey_text {s t : RawText} : (text s).sameKey (text t) = decide (s = t) := by
  simp [sameKey, key?]

def isMember (v : Value) (members : List Value) : Bool := members.any v.sameKey

end Value

namespace Entries

def find? (k : Value) : Entries → Option Value
  | [] => none
  | (k', v) :: rest => if k.sameKey k' then some v else find? k rest

def put (k v : Value) : Entries → Entries
  | [] => [(k, v)]
  | (k', v') :: rest => if k.sameKey k' then (k', v) :: rest else (k', v') :: put k v rest

theorem find?_put_self {k : Value} (h : k.sameKey k) (v : Value) (entries : Entries) :
    (entries.put k v).find? k = some v := by
  induction entries with
  | nil => simp [put, find?, h]
  | cons e rest ih =>
    obtain ⟨k', v'⟩ := e
    by_cases hk : k.sameKey k' <;> simp [put, find?, hk, ih]

end Entries

end ManifestGrading
