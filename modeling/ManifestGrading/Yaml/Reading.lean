import ManifestGrading.Yaml.NodeValue
import ManifestGrading.Yaml.Tokens

/-! The values of the documents of a text in YAML. -/

namespace ManifestGrading.Yaml

/-- The values of all documents of a text. A fault in one of them counts before all that is behind it. -/
def readAll (text : String) : Except Fault (List Value) := do
  let (tokens, fault) := tokens text.toList
  let (found, fault) := DocumentNode.ofTokens tokens fault
  let values ← found.mapM DocumentNode.value
  match fault with
  | some fault => throw fault
  | none => return values

/-- The value of the only document of a text, null if there is none. What stands behind the document counts
before its value. -/
def read (text : String) : Except Fault Value := do
  let (tokens, fault) := tokens text.toList
  match ← DocumentNode.onlyOf tokens fault with
  | some found => found.value
  | none => return .null

end ManifestGrading.Yaml
