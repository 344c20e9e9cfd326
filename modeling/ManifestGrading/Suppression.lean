import ManifestGrading.IdSet
import ManifestGrading.Value.Parts

/-! Lists of check identifiers. In a text they stand between commas; blanks around an identifier and empty
places do not count. A resource names the checks that must not count for it in an
annotation of its metadata. -/

namespace ManifestGrading

namespace Suppression

/-- Texts without the blanks around them; those with nothing else are left out. -/
def trimmed (texts : List RawText) : List RawText := (texts.map RawText.trim).filter (· != RawText.ofString "")

/-- The parts of a text between its commas. -/
def segments (t : RawText) : List RawText := (t.points.splitOn (.char ',')).map RawText.mk

def idsIn (t : RawText) : List RawText := trimmed (segments t)

/-- The set of the identifiers in a list of texts. -/
def setOf (texts : List RawText) : IdSet := .ofList (trimmed texts)

def annotation : String := "kube-score/ignore"

/-- The text of the annotation in the metadata of a resource, if it is one. -/
def annotationText? (metadata : Value) : Option RawText := do
  let entries ← metadata.mapping?
  let annotations ← (entries.get "annotations").mapping?
  (annotations.get annotation).text?

/-- The checks that must not count for a resource with the given metadata. -/
def ofMetadata (metadata : Value) : IdSet :=
  match annotationText? metadata with
  | some text => .ofList (idsIn text)
  | none => .empty

/-- What a value lists; a value that is not given lists nothing. -/
def listed (v : Value) : Except Value.Fault (List Value) := (v.orElse (.list [])).elements

/-- A value as the text that it has to be. -/
def asText (v : Value) : Except Value.Fault RawText :=
  match v.text? with
  | some t => .ok t
  | none => .error (.noMember v.kind "strip")

def texts (v : Value) : Except Value.Fault (List RawText) := do (← listed v).mapM asText

theorem mem_trimmed {a : RawText} {texts : List RawText} :
    a ∈ trimmed texts ↔ a ≠ "" ∧ ∃ s ∈ texts, s.trim = a := by
  simp [trimmed, and_comm]

theorem trimmed_append (a b : List RawText) : trimmed (a ++ b) = trimmed a ++ trimmed b := by simp [trimmed]

end Suppression

end ManifestGrading
