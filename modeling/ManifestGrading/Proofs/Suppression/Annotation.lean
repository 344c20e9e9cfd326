import Mathlib.Data.List.Sort
import ManifestGrading.Resource
import ManifestGrading.Suppression

/-! Annotations with one more check. An identifier that a list between commas can hold is read back from the end of
any such list, and nothing else in the list changes, so a resource marked with it names the checks that it named
before and this one. What remains of a resource without its annotations stays as it is. -/

namespace ManifestGrading

theorem IdSet.eq_of_mem_iff {s t : IdSet} (h : ∀ a, a ∈ s ↔ a ∈ t) : s = t := by
  obtain ⟨ids, hids⟩ := s
  obtain ⟨ids', hids'⟩ := t
  have hsame : ids = ids' := hids.eq_of_mem_iff hids' h
  subst hsame
  rfl

theorem Value.text_sameKey (name : String) (k : Value) : (text name).sameKey k = k.isText name := by
  rw [Bool.eq_iff_iff, isText_iff, sameKey_iff]
  constructor
  · rintro ⟨key, hname, hk⟩
    obtain rfl : [Key.text name] = key := Option.some.inj hname
    cases k with
    | text s => simpa [key?] using hk
    | float x => cases x <;> simp [key?, Binary64.toRat?] at hk
    | _ => simp [key?] at hk
  · rintro rfl
    exact ⟨[.text name], rfl, rfl⟩

namespace Entries

/-- An entry that is put under a text is found under this text, and under no other one. -/
theorem get?_put_text (entries : Entries) (name other : String) (v : Value) :
    (entries.put (.text name) v).get? other = if name = other then some v else entries.get? other := by
  have hother : (Value.text name).isText other = decide (name = other) := by
    rw [Bool.eq_iff_iff, Value.isText_iff, decide_eq_true_iff, Value.text.injEq]
    exact ⟨RawText.ofString_injective, congrArg _⟩
  induction entries with
  | nil => simp [put, get?, hother]
  | cons e rest ih =>
      obtain ⟨k, w⟩ := e
      by_cases hk : (Value.text name).sameKey k
      · have hkey : k = .text name := Value.isText_iff.1 ((Value.text_sameKey name k).symm.trans hk)
        subst hkey
        rw [put, if_pos hk, get?, get?, hother]
        by_cases hname : name = other <;> simp [hname]
      · rw [put, if_neg hk, get?, get?, ih]
        by_cases hname : name = other
        · have hno : k.isText other = false := by
            rw [← hname, ← Value.text_sameKey]
            simpa using hk
          simp [hname, hno]
        · simp [hname]

theorem get_put_text_self (entries : Entries) (name : String) (v : Value) :
    (entries.put (.text name) v).get name = v := by
  rw [get, get?_put_text, if_pos rfl, Option.getD_some]

/-- Entries without those under a text. -/
def dropText (name : String) (entries : Entries) : Entries := entries.filter fun e => !e.1.isText name

theorem dropText_put (entries : Entries) (name : String) (v : Value) :
    (entries.put (.text name) v).dropText name = entries.dropText name := by
  have hself : (Value.text name).isText name = true := Value.isText_iff.2 rfl
  induction entries with
  | nil => simp [put, dropText, hself]
  | cons e rest ih =>
      obtain ⟨k, w⟩ := e
      by_cases hk : (Value.text name).sameKey k
      · have hkey : k.isText name = true := (Value.text_sameKey name k).symm.trans hk
        simp [put, hk, dropText, hkey]
      · rw [put, if_neg hk]
        rw [dropText, dropText] at ih ⊢
        rw [List.filter_cons, List.filter_cons, ih]

end Entries

namespace Suppression

/-- An identifier as it stands between commas: not empty, without commas, and without blanks at its ends. -/
structure IsListable (x : RawText) : Prop where
  ne_empty : x ≠ ""
  no_comma : .char ',' ∉ x.points
  trimmed : x.trim = x

theorem segments_of_no_comma {t : RawText} (h : .char ',' ∉ t.points) : segments t = [t] := by
  rw [segments, List.splitOn_eq_singleton h, List.map_singleton]

theorem idsIn_of_isListable {x : RawText} (h : IsListable x) : idsIn x = [x] := by
  rw [idsIn, segments_of_no_comma h.no_comma]
  simp [Suppression.trimmed, h.trimmed, h.ne_empty]

/-- What stands behind a further comma is read on its own. -/
theorem idsIn_append_comma (s t : RawText) : idsIn (s ++ RawText.ofString "," ++ t) = idsIn s ++ idsIn t := by
  have hpoints : (s ++ RawText.ofString "," ++ t).points = s.points ++ .char ',' :: t.points := by
    rw [RawText.points_append, RawText.points_append, List.append_assoc]
    rfl
  have hsegments : segments (s ++ RawText.ofString "," ++ t) = segments s ++ segments t := by
    rw [segments, hpoints, List.splitOn_append_cons_self, List.map_append]
    rfl
  rw [idsIn, hsegments, trimmed, List.map_append, List.filter_append]
  rfl

/-- The text of an annotation with an identifier behind the others. -/
def listedBehind (x : RawText) : Option RawText → RawText
  | some text => text ++ RawText.ofString "," ++ x
  | none => x

/-- Metadata with an identifier behind the others in the annotation. -/
def marked (x : RawText) (metadata : Value) : Value :=
  let entries := metadata.mapping?.getD []
  let annotations := (entries.get "annotations").mapping?.getD []
  .map (entries.put (.text "annotations")
    (.map (annotations.put (.text annotation) (.text (listedBehind x (annotationText? metadata))))))

theorem annotationText?_marked (x : RawText) (metadata : Value) :
    annotationText? (marked x metadata) = some (listedBehind x (annotationText? metadata)) := by
  conv => lhs; unfold annotationText? marked
  simp only [Value.mapping?_map, Option.bind_eq_bind, Option.bind_some, Entries.get_put_text_self]
  rfl

/-- Marked metadata names the checks that were named before, and the new one. -/
theorem ofMetadata_marked {x : RawText} (hx : IsListable x) (metadata : Value) :
    ofMetadata (marked x metadata) = (ofMetadata metadata).insert x := by
  apply IdSet.eq_of_mem_iff
  intro a
  rw [ofMetadata, annotationText?_marked, IdSet.mem_insert, ofMetadata]
  cases annotationText? metadata with
  | none => simp [listedBehind, IdSet.mem_ofList, idsIn_of_isListable hx, IdSet.not_mem_empty]
  | some text =>
      simp only [listedBehind, IdSet.mem_ofList, idsIn_append_comma, idsIn_of_isListable hx, List.mem_append,
        List.mem_singleton]
      exact or_comm

theorem annotationText?_map_mapping? (metadata : Value) :
    annotationText? (.map (metadata.mapping?.getD [])) = annotationText? metadata := by
  unfold annotationText?
  cases hmapping : metadata.mapping? with
  | none => rfl
  | some entries => rfl

/-- Only the entries of metadata decide what it is marked as. -/
theorem marked_map_mapping? (x : RawText) (metadata : Value) :
    marked x (.map (metadata.mapping?.getD [])) = marked x metadata := by
  rw [marked, annotationText?_map_mapping?]
  rfl

end Suppression

namespace Resource

/-- Metadata without its annotations. -/
def bareMetadata (metadata : Value) : Value := .map ((metadata.mapping?.getD []).dropText "annotations")

/-- The body of a resource without the annotations in its metadata. -/
def bareBody (body : Value) : Value :=
  .map ((body.mapping?.getD []).map fun e => if e.1.isText "metadata" then (e.1, bareMetadata e.2) else e)

/-- A resource without its annotations. -/
def unannotated (r : Resource) : Resource :=
  { r with metadata := bareMetadata r.metadata, body := bareBody r.body }

theorem identity_of_unannotated {r r' : Resource} (h : r'.unannotated = r.unannotated) : r'.identity = r.identity := by
  have hidentity := congrArg Resource.identity h
  exact hidentity

theorem bareMetadata_marked (x : RawText) (metadata : Value) :
    bareMetadata (Suppression.marked x metadata) = bareMetadata metadata := by
  rw [bareMetadata, Suppression.marked, Value.mapping?_map, Option.getD_some, Entries.dropText_put]
  rfl

/-- Whether a resource is another one with an identifier behind the others in its annotation. -/
def IsMarked (x : RawText) (r marked : Resource) : Prop :=
  marked.metadata = Suppression.marked x r.metadata ∧ marked.unannotated = r.unannotated

/-- A resource with an identifier behind the others in the annotation of its metadata. -/
def mark (x : RawText) (r : Resource) : Resource := { r with metadata := Suppression.marked x r.metadata }

theorem isMarked_mark (x : RawText) (r : Resource) : IsMarked x r (r.mark x) :=
  ⟨rfl, by rw [unannotated, mark, bareMetadata_marked, unannotated]⟩

end Resource

end ManifestGrading
