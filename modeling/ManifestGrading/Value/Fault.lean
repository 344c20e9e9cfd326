import ManifestGrading.Number.Reading

/-! What may go wrong with a value whose kind is not known beforehand: it has no entries, cannot be walked
through, is no number, no key, no path, or has no text. Each cause is a constructor of `Fault`. -/

namespace ManifestGrading.Value

/-- Why a value cannot be used as something. -/
inductive Fault where
  | noMember (kind member : String)
  | notIterable (kind : String)
  | notIndexable (kind : String)
  | listIndex (kind : String)
  | textIndex (kind : String)
  | indexRange (what : String)
  | notOrdered (sign left right : String)
  | unhashable (kind : String)
  | notAPath (kind : String)
  | notANumber (kind : String)
  | integer (fault : Number.IntegerFault)
  | infiniteInteger
  | undefinedInteger
  | pairNotSequence (place : Nat)
  | pairLength (place length : Nat)
  | tooDeep
  deriving Repr, DecidableEq

def Fault.message : Fault → String
  | noMember kind member => "'" ++ kind ++ "' object has no attribute '" ++ member ++ "'"
  | notIterable kind => "'" ++ kind ++ "' object is not iterable"
  | notIndexable kind => "'" ++ kind ++ "' object is not subscriptable"
  | listIndex kind => "list indices must be integers or slices, not " ++ kind
  | textIndex kind => "string indices must be integers, not '" ++ kind ++ "'"
  | indexRange what => what ++ " index out of range"
  | notOrdered sign left right =>
    "'" ++ sign ++ "' not supported between instances of '" ++ left ++ "' and '" ++ right ++ "'"
  | unhashable kind => "unhashable type: '" ++ kind ++ "'"
  | notAPath kind => "expected str, bytes or os.PathLike object, not " ++ kind
  | notANumber kind =>
    "int() argument must be a string, a bytes-like object or a real number, not '" ++ kind ++ "'"
  | integer fault => fault.message
  | infiniteInteger => "cannot convert float infinity to integer"
  | undefinedInteger => "cannot convert float NaN to integer"
  | pairNotSequence place =>
    "cannot convert dictionary update sequence element #" ++ toString place ++ " to a sequence"
  | pairLength place length =>
    "dictionary update sequence element #" ++ toString place ++ " has length " ++ toString length ++
      "; 2 is required"
  | tooDeep => "maximum recursion depth exceeded in comparison"

end ManifestGrading.Value
