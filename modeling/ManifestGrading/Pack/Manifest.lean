import ManifestGrading.Files.Basic
import ManifestGrading.Pack.Basic
import ManifestGrading.Text.Utf8
import ManifestGrading.Yaml.Reading

/-! The loading of packs from manifests, one manifest after the other. -/

namespace ManifestGrading

inductive PackFault where
  | missing (path : String)
  | unreadable (path : String)
  | malformed (path : String)
  | notMapping (path : String)
  | packsNotList (path : String)
  | file (fault : FileFault)
  | value (fault : Yaml.Fault)
  | entry (fault : Value.Fault)
  deriving Repr, DecidableEq

def PackFault.message : PackFault → String
  | .missing path => "Check pack manifest not found: " ++ path
  | .unreadable path => "Failed to read check pack manifest " ++ path
  | .malformed path => "Invalid YAML in check pack manifest " ++ path
  | .notMapping path => "Check pack manifest must be a mapping: " ++ path
  | .packsNotList path => "'packs' must be a list in check pack manifest " ++ path
  | .file fault => fault.message
  | .value fault => fault.message
  | .entry fault => fault.message

namespace Pack

def readManifest (files : Files) (p : Path) : Except PackFault String :=
  match files.place p with
  | .missing _ | .blocked => .error (.missing p.text)
  | .tooLong => .error (.file (.tooLong p.text))
  | _ => do
    let bytes ← (files.read p).mapError fun _ => .unreadable p.text
    (Text.Utf8.readText bytes).mapError fun _ => .unreadable p.text

/-- The entries of the mapping that a text in YAML is. -/
def mappingIn (path text : String) : Except PackFault Entries :=
  match Yaml.read text with
  | .error .malformed => .error (.malformed path)
  | .error fault => .error (.value fault)
  | .ok v =>
    match (v.orElse (.map [])).mapping? with
    | some entries => .ok entries
    | none => .error (.notMapping path)

/-- The entries that describe packs in the mapping of a manifest. -/
def entriesIn (path : String) (manifest : Entries) : Except PackFault (List PackEntry) :=
  match ((manifest.get "packs").orElse (.list [])).opened with
  | .list items => ((items.mapM PackEntry.ofValue).map fun found => found.filterMap id).mapError .entry
  | _ => .error (.packsNotList path)

def readEntries (files : Files) (p : Path) : Except PackFault (List PackEntry) := do
  let text ← readManifest files p
  entriesIn p.text (← mappingIn p.text text)

/-- The packs that manifests describe, read one after the other by `read`. -/
def loadFrom (read : Path → Except PackFault (List PackEntry)) (paths : List String) : Except PackFault (List Pack) :=
  (paths.map Path.ofText).zipIdx.foldlM
    (fun packs p => do return mergeAll packs ((← read p.1).map (PackEntry.ofManifest p.2))) []

def load (files : Files) (paths : List String) : Except PackFault (List Pack) := loadFrom (readEntries files) paths

def enabledOnes (packs : List Pack) : List Pack := packs.filter (·.enabled)

end Pack

end ManifestGrading
