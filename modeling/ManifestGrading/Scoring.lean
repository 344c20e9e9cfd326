import ManifestGrading.Manifest
import ManifestGrading.Pack.Manifest
import ManifestGrading.Pack.Module
import ManifestGrading.Runner

/-! Scoring: manifests are loaded, the resources in them found, and all checks of the enabled packs run on
them. The checks that the packs ignore or ask for count together with those that the caller names. -/

namespace ManifestGrading

/-- What a scoring takes from its surroundings. -/
structure Surroundings where
  files : Files
  input : List UInt8
  modules : ModuleTable

/-- What is to be scored, and how: `ignored` and `optional` list checks, and `workers` is a number, if they are
what they should be. -/
structure ScoringRequest where
  paths : List String
  manifests : List String := []
  rules : List Rule := []
  ignored : Value := .null
  optional : Value := .null
  workers : Value := .int 1

inductive ScoringFault where
  | manifest (fault : ManifestFault)
  | resource (fault : Value.Fault)
  | pack (fault : PackFault)
  | module (fault : ModuleFault)
  | request (fault : Value.Fault)
  | run (fault : RunFault)
  deriving Repr, DecidableEq

def ScoringFault.message : ScoringFault → RawText
  | .manifest fault => fault.message
  | .resource fault => fault.message
  | .pack fault => fault.message
  | .module fault => fault.message
  | .request fault => fault.message
  | .run fault => fault.message

/-- A scorecard, and how it came about. -/
structure ScoringResult where
  scorecard : Scorecard
  paths : List String
  documentCount : Nat
  checkCount : Nat

/-- What a report says about how its scorecard came about. -/
def ScoringResult.metadata (r : ScoringResult) : Entries :=
  [(.text "paths", .list (r.paths.map fun (p : String) => .text p)), (.text "document_count", .int r.documentCount),
   (.text "resource_count", .int r.scorecard.size), (.text "check_count", .int r.checkCount)]

namespace Scoring

/-- The runner for a request and the enabled packs. What the request lists is looked through before its items are
looked at. -/
def runnerFor (request : ScoringRequest) (packs : List Pack) (rules : List Rule) : Except Value.Fault Runner := do
  let ignored ← Suppression.listed request.ignored
  let optional ← Suppression.listed request.optional
  let ignored ← ignored.mapM Suppression.asText
  let optional ← optional.mapM Suppression.asText
  let workers ← Runner.workersOf request.workers
  return .new (request.rules ++ rules) (ignored ++ packs.flatMap Pack.ignore)
    (optional ++ packs.flatMap Pack.enableOptional) workers

/-- The scorecard for a request whose documents are loaded and whose packs are described by the entries that
`read` finds. -/
def scoreFrom (documents : Except ManifestFault (List Document)) (read : Path → Except PackFault (List PackEntry))
    (modules : ModuleTable) (request : ScoringRequest) : Except ScoringFault ScoringResult := do
  let documents ← documents.mapError .manifest
  let resources ← (Resource.ofDocuments Value.callLimit documents).mapError .resource
  let packs ← ((Pack.loadFrom read request.manifests).map Pack.enabledOnes).mapError .pack
  let rules ← (Pack.allRules modules packs).mapError .module
  let runner ← (runnerFor request packs rules).mapError .request
  match runner.run resources .empty with
  | (_, some fault) => throw (.run fault)
  | (scorecard, none) => return ⟨scorecard, request.paths, documents.length, runner.rules.length⟩

def score (here : Surroundings) (request : ScoringRequest) : Except ScoringFault ScoringResult :=
  scoreFrom (Manifest.load Yaml.readAll here.files here.input request.paths) (Pack.readEntries here.files)
    here.modules request

end Scoring

end ManifestGrading
