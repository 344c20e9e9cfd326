import ManifestGrading.Pack.Basic
import ManifestGrading.Resource

/-! Equality of values, and of all that holds values, can be decided. So what is read from a text can be compared with
what it should be by evaluation. -/

namespace ManifestGrading

namespace Value

mutual

/-- Whether two values are the same. -/
def same : Value → Value → Bool
  | null, null => true
  | bool a, bool b => a = b
  | int a, int b => a = b
  | float a, float b => a = b
  | text a, text b => a = b
  | bytes a, bytes b => a = b
  | date a, date b => a = b
  | instant a, instant b => a = b
  | list a, list b => sameAll a b
  | tuple a, tuple b => sameAll a b
  | set a, set b => sameAll a b
  | map a, map b => sameEntries a b
  | knot a m, knot b n => sameAll a b && m = n
  | cell m, cell n => m = n
  | _, _ => false

/-- Whether values are the same, one by one. -/
def sameAll : List Value → List Value → Bool
  | [], [] => true
  | v :: a, w :: b => v.same w && sameAll a b
  | _, _ => false

/-- Whether entries are the same, one by one. -/
def sameEntries : List (Value × Value) → List (Value × Value) → Bool
  | [], [] => true
  | (k, v) :: a, (l, w) :: b => k.same l && v.same w && sameEntries a b
  | _, _ => false

end

mutual

theorem same_iff : (v w : Value) → (v.same w = true ↔ v = w)
  | null, w | bool _, w | int _, w | float _, w | text _, w | bytes _, w | date _, w | instant _, w | cell _, w => by
      cases w <;> simp [same]
  | list a, w => by
      cases w with
      | list b => simp [same, sameAll_iff a b]
      | _ => simp [same]
  | tuple a, w => by
      cases w with
      | tuple b => simp [same, sameAll_iff a b]
      | _ => simp [same]
  | set a, w => by
      cases w with
      | set b => simp [same, sameAll_iff a b]
      | _ => simp [same]
  | map a, w => by
      cases w with
      | map b => simp [same, sameEntries_iff a b]
      | _ => simp [same]
  | knot a _, w => by
      cases w with
      | knot b _ => simp [same, sameAll_iff a b]
      | _ => simp [same]

theorem sameAll_iff : (a b : List Value) → (sameAll a b = true ↔ a = b)
  | [], b => by cases b <;> simp [sameAll]
  | v :: a, b => by
      cases b with
      | nil => simp [sameAll]
      | cons w b => simp [sameAll, same_iff v w, sameAll_iff a b]

theorem sameEntries_iff : (a b : List (Value × Value)) → (sameEntries a b = true ↔ a = b)
  | [], b => by cases b <;> simp [sameEntries]
  | (k, v) :: a, b => by
      cases b with
      | nil => simp [sameEntries]
      | cons e b =>
          obtain ⟨l, w⟩ := e
          simp [sameEntries, same_iff k l, same_iff v w, sameEntries_iff a b]

end

instance : DecidableEq Value := fun v w => decidable_of_iff _ (same_iff v w)

end Value

deriving instance DecidableEq for PackEntry, Pack, Document, Resource

end ManifestGrading
