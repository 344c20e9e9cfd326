import ManifestGrading.Json.Writing
import ManifestGrading.Report.Basic

/-! The report for human readers, with or without colours, and the choice between it and the report in JSON.
A resource has a line of its own, its outcomes stand below it, and what is said about an outcome below
that. -/

namespace ManifestGrading

namespace Report

def colorCode : Grade.Color → String
  | .red => "\x1B[31m"
  | .yellow => "\x1B[33m"
  | .green => "\x1B[32m"

def resetCode : String := "\x1B[0m"

/-- A text in the colour of a grade. -/
def paint (useColor : Bool) (g : Grade) (text : RawText) : RawText :=
  if useColor then RawText.ofString (colorCode g.color) ++ text ++ RawText.ofString resetCode else text

def commentLines (c : Comment) : List RawText :=
  let head := if c.path = "" then c.summary else c.path ++ RawText.ofString " -> " ++ c.summary
  (RawText.ofString "        · " ++ head) ::
    (if c.description = "" then [] else [RawText.ofString "            " ++ c.description])

/-- The name of a check for readers. -/
def checkName (check : Option Check) : RawText :=
  match check with
  | none => ""
  | some c => if c.name = "" then c.id else c.name

/-- The lines for an outcome with the given comments. -/
def outcomeLines (useColor : Bool) (o : Outcome) (comments : List Comment) : List RawText :=
  let label := paint useColor o.grade (RawText.ofString ("[" ++ o.grade.label ++ "]"))
  (RawText.ofString "    " ++ label ++ RawText.ofString " " ++ checkName o.check).trimRight ::
    ((if o.remark = "" then [] else [RawText.ofString "        " ++ o.remark]) ++ comments.flatMap commentLines)

/-- The outcomes of a record that are shown. -/
def shownOutcomes (showOk : Bool) (r : Record) : List Outcome :=
  r.outcomes.filter fun o => showOk || o.grade != .allOk

def recordLines (useColor showOk : Bool) (s : Scorecard) (r : Record) : List RawText :=
  (r.identity.ref ++ RawText.ofString " " ++ paint useColor r.grade r.grade.glyph) ::
    (shownOutcomes showOk r).flatMap fun o => outcomeLines useColor o (s.commentsOn o)

def human (useColor showOk : Bool) (s : Scorecard) : RawText :=
  if s.records.isEmpty then "No resources found."
  else RawText.intercalate "\n" (s.records.flatMap (recordLines useColor showOk s))

/-- The forms of a report. -/
inductive Format where
  | human
  | json
  deriving Repr, DecidableEq

def Format.ofName? (name : String) : Option Format :=
  if name = "human" then some .human else if name = "json" then some .json else none

def Format.unknownMessage : String := "format must be either 'human' or 'json'"

def write (format : Format) (useColor showOk : Bool) (r : Report) : RawText :=
  match format with
  | .human => human useColor showOk r.scorecard
  | .json => Json.indented.write r.toValue

end Report

end ManifestGrading
