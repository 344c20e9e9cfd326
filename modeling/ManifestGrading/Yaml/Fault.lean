import ManifestGrading.Calendar
import ManifestGrading.Number.Reading

/-! What may be wrong with a text in YAML. Most texts that cannot be read are simply no YAML; apart from
them stand scalars that are marked, by their look or by a tag, as a number, a truth value or a time, and
turn out to be none, and collections within each other that are too many or have no end. -/

namespace ManifestGrading.Yaml

/-- Why a text in YAML has no value. -/
inductive Fault where
  | malformed
  | codePoint (n : Nat)
  | integer (fault : Number.IntegerFault)
  | emptyNumber
  | decimal (text : RawText)
  | hugeBase
  | truth (word : RawText)
  | noInstant
  | mappedInstant
  | calendar (fault : CalendarFault)
  | tooDeep
  deriving Repr, DecidableEq

def Fault.message : Fault → String
  | .malformed => "invalid YAML"
  | .codePoint n =>
    if n < 0x80000000 then "chr() arg not in range(0x110000)" else "Python int too large to convert to C int"
  | .integer fault => fault.message
  | .emptyNumber => "string index out of range"
  | .decimal text => "could not convert string to float: " ++ text.quoted
  | .hugeBase => "int too large to convert to float"
  | .truth word => word.quoted
  | .noInstant => "'NoneType' object has no attribute 'groupdict'"
  | .mappedInstant => "expected string or bytes-like object, got 'list'"
  | .calendar fault => fault.message
  | .tooDeep => "maximum recursion depth exceeded"

end ManifestGrading.Yaml
