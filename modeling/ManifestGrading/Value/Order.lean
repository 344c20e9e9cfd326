import ManifestGrading.Sorting
import ManifestGrading.Value.Parts

/-! The order of values and the sorting by it. Numbers compare by value, texts by code points, sequences by
the first place where they differ; no other two values are ordered. -/

namespace ManifestGrading.Value

mutual

/-- Whether two values are equal; numbers and collections compare by what they hold. -/
def isEqual : Value → Value → Bool
  | list a, w => match w with | list b => areEqual a b | _ => false
  | tuple a, w => match w with | tuple b => areEqual a b | _ => false
  | set a, w => match w with | set b => a.length = b.length && b.all (·.isMember a) | _ => false
  | map a, w => match w with | map b => a.length = b.length && areHeld a b | _ => false
  | v, w => v.sameKey w

/-- Whether two lists have equal values in the same order. -/
def areEqual : List Value → List Value → Bool
  | [], w => w.isEmpty
  | v :: a, w => match w with | u :: b => isEqual v u && areEqual a b | [] => false

/-- Whether a mapping holds equal values under the keys of the given entries. -/
def areHeld : List (Value × Value) → List (Value × Value) → Bool
  | [], _ => true
  | (k, v) :: a, b => (match Entries.find? k b with | some w => isEqual v w | none => false) && areHeld a b

end

/-- A number as a finite value, or the sign of an infinite one; none for a value that is no number. -/
def measure? : Value → Option (Rat ⊕ Bool)
  | bool b => some (.inl (if b then 1 else 0))
  | int n => some (.inl n)
  | float x =>
    match x with
    | .infinite negative => some (.inr negative)
    | x => x.toRat?.map .inl
  | _ => none

def measureLess : Rat ⊕ Bool → Rat ⊕ Bool → Bool
  | .inl a, .inl b => a < b
  | .inl _, .inr negative => !negative
  | .inr negative, .inl _ => negative
  | .inr s, .inr t => s && !t

def isNumeric : Value → Bool
  | bool _ | int _ | float _ => true
  | _ => false

mutual

def isLess : Value → Value → Except Fault Bool
  | list a, w => match w with | list b => isLessList a b | w => .error (.notOrdered "<" "list" w.kind)
  | tuple a, w => match w with | tuple b => isLessList a b | w => .error (.notOrdered "<" "tuple" w.kind)
  | text s, w => match w with | text t => .ok (s < t) | w => .error (.notOrdered "<" "str" w.kind)
  | v, w =>
    if v.isNumeric && w.isNumeric then
      match v.measure?, w.measure? with
      | some a, some b => .ok (measureLess a b)
      | _, _ => .ok false
    else .error (.notOrdered "<" v.kind w.kind)

/-- Whether a list comes before another one. -/
def isLessList : List Value → List Value → Except Fault Bool
  | [], w => .ok !w.isEmpty
  | v :: a, w =>
    match w with
    | [] => .ok false
    | u :: b => if isEqual v u then isLessList a b else isLess v u

end

def sort (values : List Value) : Except Fault (List Value) := Sorting.sort isLess values

end ManifestGrading.Value
