import ManifestGrading.Resource
import ManifestGrading.Scorecard

/-! Rules: checks together with the way they look at a resource. What a rule finds may be something that is no
outcome, it may fail, and it may comment on outcomes that it gave away before. -/

namespace ManifestGrading

/-- One thing that a rule finds: an outcome, or something of another kind. -/
inductive Finding where
  | outcome (o : Outcome)
  | stray (kind : String)
  deriving Repr, DecidableEq

/-- The findings that a value stands for: none for null, and strays otherwise. -/
def Finding.ofValue (v : Value) : Except Value.Fault (List Finding) :=
  match v with
  | .null => .ok []
  | v => v.elements.map fun items => items.map fun item => .stray item.kind

/-- What a rule says about a resource: comments on earlier outcomes, and its findings or why it failed. -/
structure Evaluation where
  said : List Posting := []
  result : Except RawText (List Finding)

/-- A check and how it looks at a resource. -/
structure Rule where
  check : Check
  evaluate : Resource → Evaluation

namespace Rule

def appliesTo (rule : Rule) (kind : RawText) : Bool :=
  rule.check.target = "*" || rule.check.target = "" || rule.check.target = kind

/-- Whether a rule counts in a run: its check is not ignored, and asked for if it is optional. -/
def isEnabled (ignored optional : IdSet) (rule : Rule) : Bool :=
  rule.check.id ∉ ignored && (!rule.check.isOptional || rule.check.id ∈ optional)

end Rule

end ManifestGrading
