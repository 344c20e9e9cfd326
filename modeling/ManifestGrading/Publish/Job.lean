import ManifestGrading.Files.Basic
import ManifestGrading.Json.Reading
import ManifestGrading.Publish.Annotation
import ManifestGrading.Text.Utf8

/-! The publishing of a report from a file: its summary is added to another file, if there is one for it, and
then its annotations are printed as they are found, up to the first check that cannot be read, or the first command that
cannot be written. What is named as the place for the summary is looked at only once there is a summary. -/

namespace ManifestGrading

namespace Publish

inductive JobFault where
  | file (fault : FileFault)
  | encoding (fault : Text.Utf8.Fault)
  | json (path : String) (fault : Json.Fault)
  | number (fault : Number.IntegerFault)
  | tooDeep (fault : Json.Fault)
  | writing (fault : Text.Utf8.WritingFault)
  | printing (fault : Text.Utf8.WritingFault)
  | notAnObject
  | report (fault : Value.Fault)
  | destination (fault : Value.Fault)
  deriving Repr, DecidableEq

def JobFault.message : JobFault → String
  | .file fault => fault.message
  | .encoding fault => fault.message
  | .json path fault => "Failed to parse report JSON from '" ++ path ++ "': " ++ fault.message ++ "."
  | .number fault => fault.message
  | .tooDeep fault => fault.message
  | .writing fault => fault.message
  | .printing fault => fault.message
  | .notAnObject => "Report JSON must be an object."
  | .report fault => fault.message
  | .destination fault => fault.message

/-- Where a summary goes: nowhere, into a file, or into a thing of a kind that is none. -/
inductive Destination where
  | nowhere
  | file (p : Path)
  | thing (kind : String)
  deriving Repr

/-- What is left of a publishing: the files, the lines that are printed, and the fault that ended it. -/
structure JobResult where
  files : Files
  lines : List String
  fault : Option JobFault

/-- The report that a text in JSON is. A blank text is an empty report. -/
def readReport (path text : String) : Except JobFault Value :=
  if Text.isBlankText text then .ok (.map [])
  else match Json.read text with
    | .error (.integer fault) => .error (.number fault)
    | .error .deepList => .error (.tooDeep .deepList)
    | .error .deepObject => .error (.tooDeep .deepObject)
    | .error fault => .error (.json path fault)
    | .ok v =>
      match v with
      | .map entries => .ok (.map entries)
      | _ => .error .notAnObject

def loadReport (files : Files) (p : Path) : Except JobFault Value := do
  let bytes ← (files.read p).mapError .file
  let text ← (Text.Utf8.readMarkedText bytes).mapError .encoding
  readReport p.text text

/-- The files with a text added to one of them, and the fault in that. The file is there even if the text cannot be
written. -/
def addText (files : Files) (text : RawText) (destination : Path) : Files × Option JobFault :=
  match files.ensureDirectories destination.root destination.parent.parts.reverse with
  | .error fault => (files, some (.file fault))
  | .ok files =>
    match files.append destination [], Text.Utf8.encode text with
    | .error fault, _ => (files, some (.file fault))
    | .ok files, .error fault => (files, some (.writing fault))
    | .ok files, .ok bytes =>
      match files.append destination bytes with
      | .error fault => (files, some (.file fault))
      | .ok files => (files, none)

/-- The files with the summary of a report added to one of them, and the fault in that. -/
def addSummary (files : Files) (report : Value) (destination : Destination) : Files × Option JobFault :=
  match destination, summary report with
  | .nowhere, _ => (files, none)
  | _, .error fault => (files, some (.report fault))
  | .file p, .ok text => addText files text p
  | .thing kind, .ok _ => (files, some (.destination (.noMember kind "parent")))

/-- The publishing of the report in a file. A command that cannot be printed ends it before the next check is read. -/
def publish (files : Files) (report : Path) (destination : Destination) : JobResult :=
  match loadReport files report with
  | .error fault => ⟨files, [], some fault⟩
  | .ok v =>
    match addSummary files v destination with
    | (files, some fault) => ⟨files, [], some fault⟩
    | (files, none) =>
      let found := annotations v
      let (lines, fault) := Text.Utf8.writeEach (found.items.map Annotation.command)
      ⟨files, lines, (fault.map .printing).or (found.fault.map .report)⟩

end Publish

end ManifestGrading
