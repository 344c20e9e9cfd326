import ManifestGrading.Scorecard

/-! The gate that a scorecard must pass: no outcome may be as bad as a threshold or worse. The threshold is any
value, and whether it is a grade matters only once there is an outcome to compare with it. -/

namespace ManifestGrading

namespace Gate

/-- Whether a grade among several is as bad as a threshold or worse. -/
def anyAtOrBelow (grades : List Grade) (threshold : Value) : Except GradeFault Bool :=
  if grades.isEmpty then .ok false
  else (Grade.ofValue threshold).map fun t => grades.any (· ≤ t)

def gradesOf (s : Scorecard) : List Grade := s.records.flatMap Record.grades

/-- The threshold where none is given. -/
def defaultThreshold (onWarning : Bool) : Grade := if onWarning then .warning else .critical

/-- The exit status for a scorecard: one if the gate stays closed, zero otherwise. -/
def exitStatus (s : Scorecard) (onWarning : Bool) (threshold : Option Value) : Except GradeFault Nat :=
  (anyAtOrBelow (gradesOf s) (threshold.getD (defaultThreshold onWarning).toValue)).map fun closed =>
    if closed then 1 else 0

end Gate

end ManifestGrading
