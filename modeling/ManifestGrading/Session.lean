import ManifestGrading.Runner

/-! A session with a scorecard: outcomes are drafted under names, recorded for resources as the verdicts of
checks, and commented on, and rules are run. Every draft opens a thread, so that a comment on it reaches all
its recorded copies. -/

namespace ManifestGrading

/-- A scorecard, the drafts by name, the newest first, and the number of threads in use. -/
structure Session where
  scorecard : Scorecard
  drafts : List (String × Outcome)
  threads : Nat

namespace Session

def start : Session := ⟨.empty, [], 0⟩

def draft? (s : Session) (name : String) : Option Outcome := s.drafts.lookup name

def register (s : Session) (identity : Identity) (metadata : Value) : Except Value.Fault Session :=
  (s.scorecard.register identity metadata).map fun card => { s with scorecard := card }

def draft (s : Session) (name : String) (o : Outcome) : Session :=
  { s with drafts := (name, { o with thread := some s.threads }) :: s.drafts, threads := s.threads + 1 }

/-- The session with a comment on an outcome and all its copies. -/
def comment (s : Session) (o : Outcome) (c : Comment) : Session :=
  { s with scorecard := s.scorecard.post (o.thread.toList.map fun thread => ⟨thread, c⟩) }

/-- The session with an outcome recorded for a resource. -/
def add (s : Session) (identity : Identity) (o : Outcome) (check : Check) : Session :=
  { s with scorecard := s.scorecard.add identity o check }

/-- The session after a run, whose rules use threads below `threads`, and the fault in it. -/
def run (s : Session) (runner : Runner) (resources : List Resource) (threads : Nat) :
    Session × Option RunFault :=
  let (card, fault) := runner.run resources s.scorecard
  ({ s with scorecard := card, threads := max s.threads threads }, fault)

end Session

end ManifestGrading
