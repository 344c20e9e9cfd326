import ManifestGrading.Scorecard

/-! The report on a scorecard as a value: what is known about the scoring, a summary, and one entry for every
resource with all its outcomes. -/

namespace ManifestGrading

/-- A scorecard to report on, and what is known about how it came about. -/
structure Report where
  scorecard : Scorecard
  metadata : Entries

namespace Report

/-- Entries whose keys are texts. -/
def named (entries : List (String × Value)) : Value := .map (entries.map fun e => (.text e.1, e.2))

def number (n : Nat) : Value := .int n

def commentValue (c : Comment) : Value :=
  named [("path", .text c.path), ("summary", .text c.summary), ("description", .text c.description)]

def optionalText (t : Option RawText) : Value := t.elim .null .text

def outcomeValue (s : Scorecard) (o : Outcome) : Value :=
  named [("id", optionalText (o.check.map Check.id)), ("name", optionalText (o.check.map Check.name)),
    ("grade", .text o.grade.name), ("grade_value", number o.grade.value), ("remark", .text o.remark),
    ("comments", .list ((s.commentsOn o).map commentValue))]

/-- The members of the entry for a record in the report on a scorecard. -/
def recordMembers (s : Scorecard) (r : Record) : List (String × Value) :=
  [("kind", .text r.identity.kind), ("api_version", .text r.identity.apiVersion),
   ("namespace", .text r.identity.space), ("name", .text r.identity.name), ("ref", .text r.identity.ref),
   ("grade", .text r.grade.name), ("grade_value", number r.grade.value),
   ("ignored_checks", .list (r.ignored.ids.map .text)),
   ("checks", .list (r.outcomes.map (outcomeValue s)))]

def recordValue (s : Scorecard) (r : Record) : Value := named (recordMembers s r)

/-- The worst grade of all resources, if there are any. -/
def lowest? (s : Scorecard) : Option Grade := if s.records.isEmpty then none else some s.lowest

def countsValue (s : Scorecard) : Value := named (s.counts.map fun c => (c.1.name, number c.2))

def summaryValue (s : Scorecard) : Value :=
  named [("total_resources", number s.size),
    ("lowest_grade", optionalText ((lowest? s).map fun g => RawText.ofString g.name)), ("counts", countsValue s)]

def toValue (r : Report) : Value :=
  named [("metadata", .map r.metadata), ("summary", summaryValue r.scorecard),
    ("resources", .list (r.scorecard.records.map (recordValue r.scorecard)))]

end Report

end ManifestGrading
