import ManifestGrading.Text.Raw

/-! What tells resources apart: the kind, the version of its interface, the namespace and the name. -/

namespace ManifestGrading

/-- The identity of a resource. -/
structure Identity where
  kind : RawText
  apiVersion : RawText := ""
  space : RawText := ""
  name : RawText := ""
  deriving Repr, DecidableEq

namespace Identity

def parts (i : Identity) : List RawText := [i.kind, i.apiVersion, i.space, i.name]

def key (i : Identity) : RawText := RawText.intercalate "/" i.parts

/-- The identity for human readers: the name, the namespace if there is one, and the kind. -/
def ref (i : Identity) : RawText :=
  (if i.space = "" then i.name else i.name ++ RawText.ofString "/" ++ i.space) ++ RawText.ofString " " ++
    i.apiVersion ++ RawText.ofString "/" ++ i.kind

end Identity

end ManifestGrading
