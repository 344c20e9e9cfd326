import ManifestGrading.Text.Raw

/-! The tokens of a text in YAML. Indentation and the keys of block mappings, which the text only implies,
are tokens as well. -/

namespace ManifestGrading.Yaml

/-- A line before a document that says how to read it. -/
inductive Directive where
  | version (major minor : Nat)
  | handle (name tagStart : String)
  | other
  deriving Repr, DecidableEq

/-- The name of a kind of node as it is written: in full, or by a handle and what follows it. -/
inductive TagName where
  | verbatim (name : String)
  | short (handle rest : String)
  deriving Repr, DecidableEq

/-- The least part of a text in YAML. -/
inductive Token where
  | directive (d : Directive)
  | documentStart
  | documentEnd
  | streamEnd
  | blockSequenceStart
  | blockMappingStart
  | blockEnd
  | flowSequenceStart
  | flowSequenceEnd
  | flowMappingStart
  | flowMappingEnd
  | blockEntry
  | flowEntry
  | key
  | value
  | alias (name : String)
  | anchor (name : String)
  | tag (name : TagName)
  | scalar (text : RawText) (plain : Bool)
  deriving Repr, DecidableEq

end ManifestGrading.Yaml
