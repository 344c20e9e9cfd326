import ManifestGrading.Grade
import ManifestGrading.Text.Raw

/-! Checks and what they say about a resource. An outcome has the comments it was made with. An outcome that
others may still comment on belongs to a thread as well, and all its copies share the comments posted to
the thread. -/

namespace ManifestGrading

/-- The definition of a check. -/
structure Check where
  id : RawText
  name : RawText := ""
  target : RawText := "*"
  comment : RawText := ""
  isOptional : Bool := false
  deriving Repr, DecidableEq

/-- A note on an outcome, which does not count in grading. -/
structure Comment where
  path : RawText
  summary : RawText
  description : RawText := ""
  deriving Repr, DecidableEq

/-- The verdict of a check on a resource. -/
structure Outcome where
  grade : Grade
  remark : RawText := ""
  check : Option Check := none
  comments : List Comment := []
  thread : Option Nat := none
  deriving Repr, DecidableEq

/-- A comment on all outcomes of a thread. -/
structure Posting where
  thread : Nat
  comment : Comment
  deriving Repr, DecidableEq

def Outcome.stamped (o : Outcome) (check : Check) : Outcome := { o with check := some check }

/-- The comments on an outcome: its own, and those posted to its thread. -/
def Outcome.allComments (postings : List Posting) (o : Outcome) : List Comment :=
  o.comments ++ (postings.filter fun p => o.thread = some p.thread).map Posting.comment

end ManifestGrading
