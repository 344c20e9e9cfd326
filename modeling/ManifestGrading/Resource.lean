import ManifestGrading.Identity
import ManifestGrading.Value.Parts
import ManifestGrading.Value.Text

/-! Resources and how they are found in the documents of manifests. A document is a resource if it is a
mapping with a kind; a document of the kind `List` stands for the resources among its items. Lists may be
nested as long as calls may be; one that is among its own items has no end. -/

namespace ManifestGrading

/-- A document of a manifest: where it stands, its place among the documents there, and what it says. -/
structure Document where
  path : String
  index : Nat
  content : Value
  deriving Repr

/-- A resource as its manifest describes it. -/
structure Resource where
  identity : Identity
  metadata : Value
  body : Value
  source : String
  deriving Repr

namespace Resource

def kind (r : Resource) : RawText := r.identity.kind

/-- The kind of the documents that stand for several resources. -/
def listKind : String := "List"

/-- The text of a value under a name, the empty text where none is given. -/
def fieldText (name : String) (entries : Entries) : Except Value.Fault RawText :=
  let v := entries.get name
  if v.isTruthy then v.display else .ok ""

/-- The resource that a mapping with a kind describes. -/
def ofEntries (source : String) (entries : Entries) : Except Value.Fault Resource := do
  let metadata := ((entries.get "metadata").mapping?).getD []
  let kind ← (entries.get "kind").display
  let apiVersion ← fieldText "apiVersion" entries
  let space ← fieldText "namespace" metadata
  let name ← fieldText "name" metadata
  return ⟨⟨kind, apiVersion, space, name⟩, .map metadata, .map entries, source⟩

/-- The resources that a value stands for. Every value among the items of a list takes a further call. -/
def ofValue (source : String) : (calls : Nat) → Value → Except Value.Fault (List Resource)
  | 0, _ => .error .tooDeep
  | calls + 1, v =>
    match v.mapping? with
    | none => .ok []
    | some entries =>
      let kind := entries.get "kind"
      if !kind.isTruthy then .ok []
      else if kind.isText listKind then do
        let items ← ((entries.get "items").orElse (.list [])).elements
        (items.mapM (ofValue source calls)).map List.flatten
      else (ofEntries source entries).map ([·])

def ofDocuments (calls : Nat) (documents : List Document) : Except Value.Fault (List Resource) :=
  (documents.mapM fun d => ofValue d.path calls d.content).map List.flatten

/-- The first resource with each identity that is not among `seen`. -/
def firstsBeside (seen : List Identity) : List Resource → List Resource
  | [] => []
  | r :: rest =>
    if r.identity ∈ seen then firstsBeside seen rest else r :: firstsBeside (r.identity :: seen) rest

/-- The first resource with each identity. -/
def firsts (resources : List Resource) : List Resource := firstsBeside [] resources

end Resource

end ManifestGrading
