import ManifestGrading.Publish.Summary

/-! Annotations: one workflow command for every failing check of a report, with a level, a title and a message.
In the message a percent sign and a line feed are written as `%25` and `%0A`, and carriage returns are left
out. -/

namespace ManifestGrading

namespace Publish

/-- The level of the annotation for a grade; one that is entirely healthy has none. -/
def level? : Grade → Option String
  | .critical => some "error"
  | .warning => some "warning"
  | .almostOk => some "notice"
  | .allOk => none

def encodedPoint (p : CodePoint) : List CodePoint :=
  if p = '%' then ['%', '2', '5']
  else if p = '\r' then []
  else if p = '\n' then ['%', '0', 'A']
  else [p]

def encodeMessage (t : RawText) : RawText := ⟨t.points.flatMap encodedPoint⟩

/-- An annotation. -/
structure Annotation where
  level : String
  title : RawText
  body : RawText
  deriving Repr, DecidableEq

def Annotation.command (a : Annotation) : RawText :=
  RawText.ofString ("::" ++ a.level ++ " title=") ++ a.title ++ RawText.ofString "::" ++ encodeMessage a.body

/-- The text under a name without the blanks around it; a value that is not given has none. -/
def trimmedField (name : String) (v : Value) : Except Value.Fault RawText := do
  let found ← v.field name
  if found.isTruthy then found.display.map RawText.trim else return ""

def commentPart (comment : Value) : Except Value.Fault (List RawText) := do
  let summary ← trimmedField "summary" comment
  let path ← trimmedField "path" comment
  return if summary = "" then [] else [if path = "" then summary else path ++ RawText.ofString ": " ++ summary]

/-- The parts of the message for a check of the resource with a reference. -/
def bodyParts (ref : RawText) (check : Value) : Except Value.Fault (List RawText) := do
  let remark ← trimmedField "remark" check
  let comments ← (← itemsOf "comments" check).mapM commentPart
  let parts := (if remark = "" then [] else [remark]) ++ comments.flatten ++
    (if ref = "" then [] else [RawText.ofString "Resource: " ++ ref])
  return if parts.isEmpty then ["Check reported without details."] else parts

/-- The annotation for a check of the resource with a reference, if its grade asks for one. -/
def annotation (ref : RawText) (check : Value) : Except Value.Fault (Option Annotation) := do
  let grade ← fieldOr "grade" (.text "") check
  match gradeNamed? (← grade.display) with
  | none => return none
  | some g =>
    match level? g with
    | none => return none
    | some level =>
      let id ← trimmedField "id" check
      let title := RawText.intercalate " - " ([RawText.ofString (gradeTitle g), id].filter (· != ""))
      let parts ← bodyParts ref check
      return some ⟨level, title, RawText.intercalate "; " parts⟩

/-- Things in order, and the fault that ends them early. -/
structure Listing (α : Type) where
  items : List α
  fault : Option Value.Fault

def checkAnnotations (ref : RawText) : List Value → Listing Annotation
  | [] => ⟨[], none⟩
  | check :: rest =>
    match annotation ref check with
    | .error fault => ⟨[], some fault⟩
    | .ok found =>
      let more := checkAnnotations ref rest
      ⟨found.toList ++ more.items, more.fault⟩

def resourceAnnotations (resource : Value) : Listing Annotation :=
  let checks : Except Value.Fault (RawText × List Value) := do
    let ref ← (← fieldOr "ref" (.text "") resource).display
    return (ref.trim, ← itemsOf "checks" resource)
  match checks with
  | .error fault => ⟨[], some fault⟩
  | .ok (ref, checks) => checkAnnotations ref checks

/-- The annotations for resources, up to the first fault. -/
def allAnnotations : List Value → Listing Annotation
  | [] => ⟨[], none⟩
  | resource :: rest =>
    let found := resourceAnnotations resource
    match found.fault with
    | some fault => ⟨found.items, some fault⟩
    | none =>
      let more := allAnnotations rest
      ⟨found.items ++ more.items, more.fault⟩

def annotations (report : Value) : Listing Annotation :=
  match itemsOf "resources" report with
  | .error fault => ⟨[], some fault⟩
  | .ok resources => allAnnotations resources

end Publish

end ManifestGrading
