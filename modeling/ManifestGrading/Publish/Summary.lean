import ManifestGrading.Grade
import ManifestGrading.Value.Order

/-! The summary of a report in Markdown, for a job page. The report is any value; where it is not shaped like
one, the first part that is missing a shape is the fault. -/

namespace ManifestGrading

namespace Publish

def gradeTitle : Grade → String
  | .critical => "Critical"
  | .warning => "Warning"
  | .almostOk => "Almost OK"
  | .allOk => "OK"

/-- The grade whose name a text is in any case. -/
def gradeNamed? (text : RawText) : Option Grade :=
  Grade.all.find? fun g => text.string?.map Text.upper = some g.name

/-- The title for the text of a grade; texts that name none are put in title case. -/
def titleOf (text : RawText) : RawText :=
  match gradeNamed? text with
  | some g => gradeTitle g
  | none => text.title

/-- What a mapping holds under a name, and a default if there is nothing. -/
def fieldOr (name : String) (default v : Value) : Except Value.Fault Value :=
  (v.entriesFor "get").map fun entries => (entries.get? name).getD default

/-- The items of a value under a name; one that is not given has none. -/
def itemsOf (name : String) (v : Value) : Except Value.Fault (List Value) := do
  ((← v.field name).orElse (.list [])).elements

/-- What a table of numbers by grade names says, the last entry for a grade last. -/
def readCounts : Entries → Except Value.Fault (List (Grade × Int))
  | [] => .ok []
  | (k, v) :: rest => do
    match gradeNamed? (← k.display) with
    | none => readCounts rest
    | some g =>
      let n ← v.toInteger
      return (g, n) :: (← readCounts rest)

/-- The number for a grade: the last one given, or zero. -/
def countOf (counts : List (Grade × Int)) (g : Grade) : Int := (counts.reverse.lookup g).getD 0

/-- The lines above a part of the summary with a title. -/
def headLines (title : String) : List RawText := ["", "## " ++ title, ""]

/-- The lines for what is known about a scoring. -/
def metadataLines (metadata : Value) : Except Value.Fault (List RawText) := do
  if !metadata.isTruthy then return []
  let keys ← Value.sort (← metadata.elements)
  let lines ← keys.mapM fun key => do
    let name ← key.display
    let v ← Value.at? key metadata
    return ("- **" : RawText) ++ name ++ (":** " : RawText) ++ (← v.display)
  return headLines "Metadata" ++ lines

/-- Whether an entry of a report is not graded as entirely healthy. -/
def isFailing (v : Value) : Except Value.Fault Bool := (v.field "grade").map fun g => !g.isText Grade.allOk.name

/-- The identifiers of the failing checks among several. -/
def failingIds : List Value → Except Value.Fault (List RawText)
  | [] => .ok []
  | check :: rest => do
    let id ← check.field "id"
    if (← isFailing check) && id.isTruthy then
      let shown ← id.display
      return shown :: (← failingIds rest)
    else failingIds rest

/-- The most resources that are listed. -/
def listLimit : Nat := 10

def resourceLine (resource : Value) : Except Value.Fault RawText := do
  let ref ← (← fieldOr "ref" (.text "") resource).display
  let grade ← (← fieldOr "grade" (.text "") resource).display
  let ids ← failingIds (← itemsOf "checks" resource)
  let line := ("- **" : RawText) ++ titleOf grade ++ ("** `" : RawText) ++ ref.trim ++ ("`" : RawText)
  return if ids.isEmpty then line else line ++ (" - " : RawText) ++ RawText.intercalate ", " ids

def failingAmong : List Value → Except Value.Fault (List Value)
  | [] => .ok []
  | resource :: rest => do
    let failing ← isFailing resource
    let more ← failingAmong rest
    return if failing then resource :: more else more

/-- The lines for the failing resources: the first ones, and how many more there are. -/
def resourceLines (failing : List Value) : Except Value.Fault (List RawText) := do
  if failing.isEmpty then return []
  let lines ← (failing.take listLimit).mapM resourceLine
  let more := failing.length - listLimit
  return headLines "Resources" ++ lines ++
    (if more = 0 then [] else [RawText.ofString ("- ...and " ++ toString more ++ " more resources.")])

def tableLine (counts : List (Grade × Int)) (g : Grade) : Except Value.Fault RawText :=
  (Value.integerText (countOf counts g)).map fun n => .ofString ("| " ++ gradeTitle g ++ " | " ++ n ++ " |")

def tableLines (counts : List (Grade × Int)) : Except Value.Fault (List RawText) :=
  (Grade.all.mapM (tableLine counts)).map fun lines => "| Grade | Resources |" :: "| --- | ---: |" :: lines

def summaryLines (report : Value) : Except Value.Fault (List RawText) := do
  let summary := (← report.field "summary").orElse (.map [])
  let metadata := (← report.field "metadata").orElse (.map [])
  let resources := (← report.field "resources").orElse (.list [])
  let total ← (← fieldOr "total_resources" (.int 0) summary).toInteger
  let lowest ← summary.field "lowest_grade"
  let lowest ← if lowest.isTruthy then lowest.display.map titleOf else pure "None"
  let counts ← readCounts (← ((← summary.field "counts").orElse (.map [])).entriesFor "items")
  let total ← Value.integerText total
  let table ← tableLines counts
  let known ← metadataLines metadata
  let failing ← failingAmong (← resources.elements)
  let listed ← resourceLines failing
  let head : List RawText :=
    ["# Kubernetes Scorecard", "", "**Resources scored:** " ++ total, ("**Lowest grade:** " : RawText) ++ lowest, ""]
  return head ++ table ++ known ++ listed ++ [RawText.ofString ""]

def summary (report : Value) : Except Value.Fault RawText := (summaryLines report).map (RawText.intercalate "\n")

end Publish

end ManifestGrading
