import ManifestGrading.Files.Basic
import ManifestGrading.Resource
import ManifestGrading.Text.Utf8
import ManifestGrading.Yaml.Reading

/-! The loading of manifests from files, directories and the standard input. A directory stands for all files
in it, at any depth, whose names end like those of manifests, in the order of their paths. All paths are
looked up before the first file is read. -/

namespace ManifestGrading

/-- Why manifests cannot be loaded. -/
inductive ManifestFault where
  | missing (path : String)
  | unreadable (path : String)
  | unreadableInput
  | malformed (source : String)
  | file (fault : FileFault)
  | value (fault : Yaml.Fault)
  deriving Repr, DecidableEq

def ManifestFault.message : ManifestFault → String
  | .missing path => "Manifest path not found: " ++ path
  | .unreadable path => "Failed to read manifest " ++ path
  | .unreadableInput => "Failed to read manifest from stdin"
  | .malformed source => "Invalid YAML in manifest " ++ source
  | .file fault => fault.message
  | .value fault => fault.message

/-- A reader of the documents in a text. -/
abbrev Decoder := String → Except Yaml.Fault (List Value)

namespace Manifest

/-- The ends of the names of manifests. -/
def suffixes : List String := [".yaml", ".yml", ".json"]

def isManifestName (name : String) : Bool := suffixes.contains (Text.lower (Path.suffix name))

/-- The manifests in a list of places, in the order of their names from left to right. -/
def discover (places : List (List String)) : List (List String) :=
  (places.filter fun names => names.getLast?.any isManifestName).mergeSort Path.namesBefore

/-- Where documents come from. -/
inductive Source where
  | input
  | file (path : Path)
  deriving Repr, DecidableEq

/-- The path that stands for the standard input. -/
def inputPath : String := "-"

def inputName : String := "<stdin>"

def Source.ofPath (p : Path) : Source := if p.text = inputPath then .input else .file p

/-- The sources that a path stands for. -/
def sourcesAt (files : Files) (raw : String) : Except ManifestFault (List Source) :=
  if raw = inputPath then .ok [.input]
  else
    let p := Path.ofText raw
    match files.place p with
    | .directory names => .ok ((discover (files.below names)).map fun rest => .ofPath (p.append rest))
    | .file .. => .ok [.ofPath p]
    | .tooLong => .error (.file (.tooLong p.text))
    | .missing _ | .blocked => .error (.missing p.text)

def sources (files : Files) (paths : List String) : Except ManifestFault (List Source) :=
  (paths.mapM (sourcesAt files)).map List.flatten

/-- The documents with a value, each with its place among all documents of a source. -/
def numbered (source : String) (values : List Value) : List Document :=
  values.zipIdx.filterMap fun v =>
    match v.1 with
    | .null => none
    | content => some ⟨source, v.2, content⟩

def documentsIn (decode : Decoder) (source text : String) : Except ManifestFault (List Document) :=
  match decode text with
  | .ok values => .ok (numbered source values)
  | .error .malformed => .error (.malformed source)
  | .error fault => .error (.value fault)

/-- The documents of sources in order. The standard input can be read once and is empty afterwards. -/
def loadSources (decode : Decoder) (files : Files) (input : List UInt8) :
    List Source → Except ManifestFault (List Document)
  | [] => .ok []
  | .input :: rest => do
    let text ← (Text.Utf8.readText input).mapError fun _ => .unreadableInput
    let found ← documentsIn decode inputName text
    return found ++ (← loadSources decode files [] rest)
  | .file p :: rest => do
    let bytes ← (files.read p).mapError fun _ => .unreadable p.text
    let text ← (Text.Utf8.readText bytes).mapError fun _ => .unreadable p.text
    let found ← documentsIn decode p.text text
    return found ++ (← loadSources decode files input rest)

def load (decode : Decoder) (files : Files) (input : List UInt8) (paths : List String) :
    Except ManifestFault (List Document) := do
  loadSources decode files input (← sources files paths)

end Manifest

end ManifestGrading
