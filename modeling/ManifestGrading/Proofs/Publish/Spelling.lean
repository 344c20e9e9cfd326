import ManifestGrading.Proofs.Publish.Fields
import ManifestGrading.Proofs.Text.Letters

/-! Reports in which the names of grades are spelled in other cases. The places that name a grade are few: the lowest
grade in the summary, the keys of the numbers by grade, and the grades of the resources and of their checks. Two
reports differ in spelling alone if they become the same once every name there is written as it is listed. The
annotations are the same for both, and so is the summary, as long as the same resources and checks have the best
grade in its own spelling, which is the one that the summary compares with. -/

namespace ManifestGrading

namespace Value

/-- A text changed; other values stay as they are. -/
def onText (f : RawText → RawText) : Value → Value
  | text s => text (f s)
  | v => v

/-- A sequence with each item changed. -/
def onItems (g : Value → Value) : Value → Value
  | list items => list (items.map g)
  | tuple items => tuple (items.map g)
  | v => v

/-- A mapping with each text among its keys changed. -/
def onKeys (f : RawText → RawText) : Value → Value
  | map entries => map (entries.map fun e => (e.1.onText f, e.2))
  | v => v

/-- A mapping with what it holds under a name changed. -/
def under (name : String) (g : Value → Value) : Value → Value
  | map entries => map (entries.map fun e => (e.1, if e.1.isText name then g e.2 else e.2))
  | v => v

/-- What a mapping holds under a name, if it is no knot. -/
def held? (name : String) : Value → Option Value
  | map entries => Entries.get? name entries
  | _ => none

/-- The items of the sequence that a mapping holds under a name. -/
def heldItems (name : String) (v : Value) : List Value :=
  match v.held? name with
  | some (list items) => items
  | some (tuple items) => items
  | _ => []

end Value

theorem Entries.get?_changed (name other : String) (g : Value → Value) (entries : Entries) :
    Entries.get? other (entries.map fun e => (e.1, if e.1.isText name then g e.2 else e.2)) =
      (Entries.get? other entries).map fun v => if other = name then g v else v := by
  induction entries with
  | nil => rfl
  | cons e rest ih =>
      obtain ⟨k, v⟩ := e
      simp only [List.map_cons, Entries.get?, ih]
      by_cases hk : k.isText other
      · obtain rfl := Value.isText_iff.1 hk
        have hname : (Value.text (RawText.ofString other)).isText name = decide (other = name) := by
          rw [Bool.eq_iff_iff, Value.isText_iff, Value.text.injEq, decide_eq_true_iff]
          exact ⟨RawText.ofString_injective, congrArg RawText.ofString⟩
        simp [hk, hname]
      · simp [hk]

namespace Publish

variable {name other : String} {g : Value → Value}

theorem field_under_of_ne (h : other ≠ name) (v : Value) : (v.under name g).field other = v.field other := by
  cases v with
  | map entries =>
      simp only [Value.under, Value.field_map, Entries.get, Entries.get?_changed, if_neg h, Option.map_id_fun', id]
  | _ => rfl

theorem fieldOr_under_of_ne (h : other ≠ name) (default v : Value) :
    fieldOr other default (v.under name g) = fieldOr other default v := by
  cases v with
  | map entries =>
      simp only [fieldOr, Value.under, Value.entriesFor, Value.mapping?_map, Attempt.ok_map, Entries.get?_changed,
        if_neg h, Option.map_id_fun', id]
  | _ => rfl

theorem itemsOf_under_of_ne (h : other ≠ name) (v : Value) : itemsOf other (v.under name g) = itemsOf other v := by
  rw [itemsOf, field_under_of_ne h, itemsOf]

theorem trimmedField_under_of_ne (h : other ≠ name) (v : Value) :
    trimmedField other (v.under name g) = trimmedField other v := by
  rw [trimmedField, field_under_of_ne h, trimmedField]

/-- What a mapping holds under a name is changed there, or it is a mapping that is left as it is. -/
theorem field_under (name : String) (g : Value → Value) (v : Value) :
    (v.under name g).field name = v.field name ∨
      ∃ x, v.field name = .ok x ∧ (v.under name g).field name = .ok (g x) := by
  cases v with
  | map entries =>
      simp only [Value.under, Value.field_map, Entries.get, Entries.get?_changed, if_pos]
      cases Entries.get? name entries with
      | none => exact Or.inl rfl
      | some x => exact Or.inr ⟨x, rfl, rfl⟩
  | _ => exact Or.inl rfl

theorem fieldOr_under (name : String) (g : Value → Value) (default v : Value) :
    fieldOr name default (v.under name g) = fieldOr name default v ∨
      ∃ x, fieldOr name default v = .ok x ∧ fieldOr name default (v.under name g) = .ok (g x) := by
  cases v with
  | map entries =>
      simp only [fieldOr, Value.under, Value.entriesFor, Value.mapping?_map, Attempt.ok_map, Entries.get?_changed, if_pos]
      cases Entries.get? name entries with
      | none => exact Or.inl rfl
      | some x => exact Or.inr ⟨x, rfl, rfl⟩
  | _ => exact Or.inl rfl

/-- What goes on with a value and does not see the change goes on as before. -/
theorem field_under_bind {α : Type} {go : Value → Except Value.Fault α} (hgo : ∀ x, go (g x) = go x) (name : String)
    (v : Value) : ((v.under name g).field name >>= go) = v.field name >>= go := by
  rcases field_under name g v with h | ⟨x, hx, hg⟩
  · rw [h]
  · rw [hx, hg, Attempt.ok_bind, Attempt.ok_bind, hgo]

theorem fieldOr_under_bind {α : Type} {go : Value → Except Value.Fault α} (hgo : ∀ x, go (g x) = go x)
    (name : String) (default v : Value) :
    (fieldOr name default (v.under name g) >>= go) = fieldOr name default v >>= go := by
  rcases fieldOr_under name g default v with h | ⟨x, hx, hg⟩
  · rw [h]
  · rw [hx, hg, Attempt.ok_bind, Attempt.ok_bind, hgo]

theorem held?_under_of_ne (h : other ≠ name) (v : Value) : (v.under name g).held? other = v.held? other := by
  cases v with
  | map entries => simp only [Value.under, Value.held?, Entries.get?_changed, if_neg h, Option.map_id_fun', id]
  | _ => rfl

/-- The items under a name with each of them changed are the changed items, unless they are none of a sequence. -/
theorem itemsOf_under (name : String) (g : Value → Value) (v : Value) :
    itemsOf name (v.under name (·.onItems g)) = itemsOf name v ∧ v.heldItems name = [] ∨
      itemsOf name v = .ok (v.heldItems name) ∧
        itemsOf name (v.under name (·.onItems g)) = .ok ((v.heldItems name).map g) := by
  cases v with
  | map entries =>
      simp only [itemsOf, Value.under, Value.field_map, Entries.get, Entries.get?_changed, if_pos, Attempt.ok_bind,
        Value.heldItems, Value.held?]
      cases Entries.get? name entries with
      | none => exact Or.inl ⟨rfl, rfl⟩
      | some x =>
          cases x with
          | list items => cases items <;> exact Or.inr ⟨rfl, rfl⟩
          | tuple items => cases items <;> exact Or.inr ⟨rfl, rfl⟩
          | _ => exact Or.inl ⟨rfl, rfl⟩
  | _ => exact Or.inl ⟨rfl, rfl⟩

/-! ### Names of grades -/

/-- The letters from A to Z have the same upper-case form in either case. -/
theorem upperChar_toLower (c : Char) : Text.upperChar c.toLower = Text.upperChar c :=
  Text.forall_of_ascii (p := fun c => Text.upperChar c.toLower = Text.upperChar c) (by decide +kernel)
    (fun _ h => by rw [Text.toLower_eq_self h]) c

theorem upper_toLower (s : String) : Text.upper s.toLower = Text.upper s := by
  rw [Text.upper, Text.upper, Text.toList_toLower, List.flatMap_map]
  exact congrArg String.ofList (List.flatMap_congr fun c _ => upperChar_toLower c)

/-- Texts that differ only in the case of letters from A to Z name the same grade, if any. -/
theorem gradeNamed?_eq_of_toLower_eq {s t : String} (h : s.toLower = t.toLower) :
    gradeNamed? (RawText.ofString s) = gradeNamed? (RawText.ofString t) := by
  rw [gradeNamed?, gradeNamed?, RawText.string?_ofString, RawText.string?_ofString, Option.map_some, Option.map_some,
    ← upper_toLower s, h, upper_toLower]

/-- A change of texts that leaves them as they are, but for the spelling of names of grades. -/
def KeepsNames (f : RawText → RawText) : Prop :=
  ∀ t, f t = t ∨ ∃ grade, gradeNamed? t = some grade ∧ gradeNamed? (f t) = some grade

/-- A text with the name of a grade as it is listed, whatever its spelling was. -/
def nameOf (t : RawText) : RawText := ((gradeNamed? t).map fun grade => RawText.ofString grade.name).getD t

/-- A text with the name of a grade in one spelling, but for the name of the best one, which has two: the one that is
listed, and another one for all others. -/
def markOf (t : RawText) : RawText := if gradeNamed? t = some .allOk ∧ t ≠ Grade.allOk.name then "all_ok" else nameOf t

theorem nameOf_of_some {t : RawText} {grade : Grade} (h : gradeNamed? t = some grade) : nameOf t = grade.name := by
  rw [nameOf, h]
  rfl

theorem keepsNames_nameOf : KeepsNames nameOf := by
  intro t
  cases h : gradeNamed? t with
  | none => exact Or.inl (by rw [nameOf, h]; rfl)
  | some grade => exact Or.inr ⟨grade, rfl, by rw [nameOf_of_some h, gradeNamed?_name]⟩

theorem gradeNamed?_allOk_spelled : gradeNamed? (RawText.ofString "all_ok") = some .allOk := by decide +kernel

theorem keepsNames_markOf : KeepsNames markOf := by
  intro t
  unfold markOf
  split
  · next h => exact Or.inr ⟨.allOk, h.1, gradeNamed?_allOk_spelled⟩
  · exact keepsNames_nameOf t

theorem nameOf_eq_allOk_iff {t : RawText} :
    nameOf t = RawText.ofString Grade.allOk.name ↔ gradeNamed? t = some .allOk := by
  constructor
  · intro h
    rcases keepsNames_nameOf t with hsame | ⟨grade, hgrade, hname⟩
    · rw [← hsame, h, gradeNamed?_name]
    · rw [h, gradeNamed?_name] at hname
      rwa [hname]
  · exact nameOf_of_some

theorem markOf_eq_allOk_iff {t : RawText} : markOf t = RawText.ofString Grade.allOk.name ↔ t = Grade.allOk.name := by
  unfold markOf
  split
  · next h => exact iff_of_false (by decide) h.2
  · next h =>
    rw [nameOf_eq_allOk_iff]
    refine ⟨fun hgrade => of_not_not fun hne => h ⟨hgrade, hne⟩, ?_⟩
    rintro rfl
    exact gradeNamed?_name .allOk

theorem isEmpty_of_gradeNamed? {t : RawText} {grade : Grade} (h : gradeNamed? t = some grade) : t.isEmpty = false := by
  cases hempty : t.isEmpty with
  | false => rfl
  | true =>
      obtain rfl : t = RawText.ofString "" := RawText.ext (List.isEmpty_iff.1 hempty)
      rw [show gradeNamed? (RawText.ofString "") = none by decide +kernel] at h
      cases h

theorem display_onText_map {α : Type} {f : RawText → RawText} {read : RawText → α} (hread : ∀ t, read (f t) = read t)
    (v : Value) : (v.onText f).display.map read = v.display.map read := by
  cases v with
  | text t => exact congrArg Except.ok (hread t)
  | _ => rfl

section

variable {f : RawText → RawText} (hf : KeepsNames f)
include hf

theorem gradeNamed?_of_keepsNames (t : RawText) : gradeNamed? (f t) = gradeNamed? t := by
  rcases hf t with h | ⟨grade, hgrade, hname⟩
  · rw [h]
  · rw [hgrade, hname]

theorem titleOf_of_keepsNames (t : RawText) : titleOf (f t) = titleOf t := by
  rcases hf t with h | ⟨grade, hgrade, hname⟩
  · rw [h]
  · simp only [titleOf, hgrade, hname]

theorem isTruthy_onText (v : Value) : (v.onText f).isTruthy = v.isTruthy := by
  cases v with
  | text t =>
      rcases hf t with h | ⟨grade, hgrade, hname⟩
      · rw [Value.onText, h]
      · rw [Value.onText, Value.isTruthy, Value.isTruthy, isEmpty_of_gradeNamed? hgrade, isEmpty_of_gradeNamed? hname]
  | _ => rfl

theorem readCounts_onKeys (entries : Entries) :
    readCounts (entries.map fun e => (e.1.onText f, e.2)) = readCounts entries := by
  induction entries with
  | nil => rfl
  | cons e rest ih =>
      obtain ⟨k, v⟩ := e
      rw [List.map_cons, readCounts, readCounts, ih]
      cases k with
      | text t => rw [Value.onText, Value.display_text, Value.display_text, Attempt.ok_bind, Attempt.ok_bind,
          gradeNamed?_of_keepsNames hf]
      | _ => rfl

end

/-! ### Reports -/

/-- The entry for a check, its grade spelled in another way. -/
def respellCheck (f : RawText → RawText) (check : Value) : Value := check.under "grade" (·.onText f)

/-- The entry for a resource, its grade and those of its checks spelled in another way. -/
def respellResource (f : RawText → RawText) (resource : Value) : Value :=
  (resource.under "checks" (·.onItems (respellCheck f))).under "grade" (·.onText f)

/-- The summary in a report, the lowest grade and the keys of the numbers by grade spelled in another way. -/
def respellSummary (f : RawText → RawText) (summary : Value) : Value :=
  (summary.under "counts" (·.onKeys f)).under "lowest_grade" (·.onText f)

/-- A report with the names in its summary and those in its entries spelled in other ways. -/
def respelled (f h : RawText → RawText) (report : Value) : Value :=
  (report.under "resources" (·.onItems (respellResource h))).under "summary" (respellSummary f)

section

variable {f h : RawText → RawText}

theorem itemsOf_checks_respellResource (resource : Value) :
    itemsOf "checks" (respellResource h resource) = itemsOf "checks" resource ∧ resource.heldItems "checks" = [] ∨
      itemsOf "checks" resource = .ok (resource.heldItems "checks") ∧
        itemsOf "checks" (respellResource h resource) =
          .ok ((resource.heldItems "checks").map (respellCheck h)) := by
  rw [respellResource, itemsOf_under_of_ne (by decide)]
  exact itemsOf_under "checks" (respellCheck h) resource

theorem itemsOf_resources_respelled (report : Value) :
    itemsOf "resources" (respelled f h report) = itemsOf "resources" report ∧ report.heldItems "resources" = [] ∨
      itemsOf "resources" report = .ok (report.heldItems "resources") ∧
        itemsOf "resources" (respelled f h report) =
          .ok ((report.heldItems "resources").map (respellResource h)) := by
  rw [respelled, itemsOf_under_of_ne (by decide)]
  exact itemsOf_under "resources" (respellResource h) report

theorem fieldOr_ref_respellResource (default resource : Value) :
    fieldOr "ref" default (respellResource h resource) = fieldOr "ref" default resource := by
  rw [respellResource, fieldOr_under_of_ne (by decide), fieldOr_under_of_ne (by decide)]

/-! ### Annotations -/

section

variable (hh : KeepsNames h)
include hh

theorem annotation_respellCheck (ref : RawText) (check : Value) :
    annotation ref (respellCheck h check) = annotation ref check := by
  have hid : trimmedField "id" (respellCheck h check) = trimmedField "id" check :=
    trimmedField_under_of_ne (by decide) check
  have hparts : bodyParts ref (respellCheck h check) = bodyParts ref check := by
    rw [bodyParts, bodyParts, respellCheck, trimmedField_under_of_ne (by decide), itemsOf_under_of_ne (by decide)]
  unfold annotation
  rw [hid, hparts]
  refine fieldOr_under_bind (fun x => ?_) "grade" (.text "") check
  cases x with
  | text t =>
      simp only [Value.onText, Value.display_text, Attempt.ok_bind, gradeNamed?_of_keepsNames hh]
  | _ => rfl

theorem checkAnnotations_map_respellCheck (ref : RawText) (checks : List Value) :
    checkAnnotations ref (checks.map (respellCheck h)) = checkAnnotations ref checks := by
  induction checks with
  | nil => rfl
  | cons check rest ih => rw [List.map_cons, checkAnnotations, checkAnnotations, annotation_respellCheck hh, ih]

theorem resourceAnnotations_respellResource (resource : Value) :
    resourceAnnotations (respellResource h resource) = resourceAnnotations resource := by
  unfold resourceAnnotations
  rw [fieldOr_ref_respellResource]
  rcases itemsOf_checks_respellResource resource with ⟨hitems, _⟩ | ⟨hchecks, hmapped⟩
  · rw [hitems]
  · rw [hchecks, hmapped]
    cases fieldOr "ref" (.text "") resource with
    | error fault => rfl
    | ok v =>
        rw [Attempt.ok_bind, Attempt.ok_bind]
        cases v.display with
        | error fault => rfl
        | ok ref => exact checkAnnotations_map_respellCheck hh ref.trim _

theorem allAnnotations_map_respellResource (resources : List Value) :
    allAnnotations (resources.map (respellResource h)) = allAnnotations resources := by
  induction resources with
  | nil => rfl
  | cons resource rest ih =>
      rw [List.map_cons, allAnnotations, allAnnotations, resourceAnnotations_respellResource hh, ih]

theorem annotations_respelled (f : RawText → RawText) (report : Value) :
    annotations (respelled f h report) = annotations report := by
  unfold annotations
  rcases itemsOf_resources_respelled report with ⟨hitems, _⟩ | ⟨hresources, hmapped⟩
  · rw [hitems]
  · rw [hresources, hmapped]
    exact allAnnotations_map_respellResource hh _

end

/-! ### The part of the summary above the resources -/

/-- The title of the lowest grade that the summary in a report names. -/
def lowestShown (summary : Value) : Except Value.Fault RawText := do
  let lowest ← summary.field "lowest_grade"
  if lowest.isTruthy then lowest.display.map titleOf else return "None"

/-- The numbers by grade that the summary in a report gives. -/
def countsGiven (summary : Value) : Except Value.Fault (List (Grade × Int)) := do
  readCounts (← ((← summary.field "counts").orElse (.map [])).entriesFor "items")

/-- What the summary in a report comes to on the page. -/
def standingLines (summary : Value) : Except Value.Fault (List RawText) := do
  let total ← (← fieldOr "total_resources" (.int 0) summary).toInteger
  let lowest ← lowestShown summary
  let counts ← countsGiven summary
  let total ← Value.integerText total
  let table ← tableLines counts
  let head : List RawText :=
    ["# Kubernetes Scorecard", "", "**Resources scored:** " ++ total, ("**Lowest grade:** " : RawText) ++ lowest, ""]
  return head ++ table

/-- The lines of a summary above the failing resources. -/
def upperLines (report : Value) : Except Value.Fault (List RawText) := do
  let standing ← standingLines ((← report.field "summary").orElse (.map []))
  let known ← metadataLines ((← report.field "metadata").orElse (.map []))
  return standing ++ known

/-- The lines for those of the resources that are failing. -/
def listedLines (resources : List Value) : Except Value.Fault (List RawText) := do
  resourceLines (← failingAmong resources)

theorem summaryLines_eq (report : Value) :
    summaryLines report = do
      let upper ← upperLines report
      let listed ← listedLines (← itemsOf "resources" report)
      return upper ++ listed ++ [RawText.ofString ""] := by
  cases hmapping : report.mapping? with
  | none =>
      have hfield (name : String) : ∃ fault, report.field name = .error fault := by
        rw [Value.field, Value.entriesFor, hmapping]
        exact ⟨_, rfl⟩
      obtain ⟨fault, hfault⟩ := hfield "summary"
      rw [summaryLines, upperLines, hfault]
      rfl
  | some entries =>
      have hfield (name : String) : report.field name = .ok (Entries.get name entries) := by
        rw [Value.field, Value.entriesFor, hmapping]
        rfl
      simp only [summaryLines, upperLines, standingLines, lowestShown, countsGiven, listedLines, itemsOf, hfield,
        Attempt.ok_bind, bind_assoc]
      refine bind_congr fun given => bind_congr fun total => bind_congr fun lowest => ?_
      split <;> simp only [pure_bind, List.append_assoc]

theorem isTruthy_under (name : String) (g : Value → Value) (v : Value) : (v.under name g).isTruthy = v.isTruthy := by
  cases v <;> simp [Value.under, Value.isTruthy]

theorem isTruthy_onKeys (f : RawText → RawText) (v : Value) : (v.onKeys f).isTruthy = v.isTruthy := by
  cases v <;> simp [Value.onKeys, Value.isTruthy]

theorem orElse_map_of_isTruthy {g : Value → Value} (hgiven : ∀ v, (g v).isTruthy = v.isTruthy)
    (hempty : g (.map []) = .map []) (v : Value) : (g v).orElse (.map []) = g (v.orElse (.map [])) := by
  rw [Value.orElse, hgiven, Value.orElse]
  split
  · rfl
  · exact hempty.symm

section

variable (hf : KeepsNames f)
include hf

theorem lowestShown_under (summary : Value) :
    lowestShown (summary.under "lowest_grade" (·.onText f)) = lowestShown summary := by
  refine field_under_bind (fun lowest => ?_) "lowest_grade" summary
  rw [isTruthy_onText hf, display_onText_map (titleOf_of_keepsNames hf)]

theorem countsGiven_under (summary : Value) :
    countsGiven (summary.under "counts" (·.onKeys f)) = countsGiven summary := by
  refine field_under_bind (fun counts => ?_) "counts" summary
  rw [orElse_map_of_isTruthy (isTruthy_onKeys f) rfl]
  cases counts.orElse (.map []) with
  | map entries => exact readCounts_onKeys hf entries
  | _ => rfl

theorem standingLines_respellSummary (summary : Value) :
    standingLines (respellSummary f summary) = standingLines summary := by
  have htotal : fieldOr "total_resources" (.int 0) (respellSummary f summary) =
      fieldOr "total_resources" (.int 0) summary := by
    rw [respellSummary, fieldOr_under_of_ne (by decide), fieldOr_under_of_ne (by decide)]
  have hlowest : lowestShown (respellSummary f summary) = lowestShown summary := by
    rw [respellSummary, lowestShown_under hf, lowestShown, field_under_of_ne (by decide), lowestShown]
  have hcounts : countsGiven (respellSummary f summary) = countsGiven summary := by
    rw [respellSummary, countsGiven, field_under_of_ne (by decide)]
    exact countsGiven_under hf summary
  rw [standingLines, htotal, hlowest, hcounts, standingLines]

theorem upperLines_respelled (h : RawText → RawText) (report : Value) :
    upperLines (respelled f h report) = upperLines report := by
  have hmetadata : (respelled f h report).field "metadata" = report.field "metadata" := by
    rw [respelled, field_under_of_ne (by decide), field_under_of_ne (by decide)]
  have hsummary : (report.under "resources" (·.onItems (respellResource h))).field "summary" = report.field "summary" :=
    field_under_of_ne (by decide) report
  unfold upperLines
  rw [hmetadata, ← hsummary]
  refine field_under_bind (fun summary => ?_) "summary" _
  have hgiven (v : Value) : (respellSummary f v).isTruthy = v.isTruthy := by
    rw [respellSummary, isTruthy_under, isTruthy_under]
  rw [orElse_map_of_isTruthy hgiven rfl, standingLines_respellSummary hf]

end

/-! ### The failing resources -/

/-- The title of the grade of a resource. -/
def titleIn (resource : Value) : Except Value.Fault RawText := do
  (← fieldOr "grade" (.text "") resource).display.map titleOf

/-- The line for a failing resource without the identifiers of its checks. -/
def lineStart (resource : Value) : Except Value.Fault RawText := do
  let ref ← (← fieldOr "ref" (.text "") resource).display
  let title ← titleIn resource
  return ("- **" : RawText) ++ title ++ ("** `" : RawText) ++ ref.trim ++ ("`" : RawText)

/-- A line with identifiers behind it. -/
def withIds (line : RawText) (ids : List RawText) : RawText :=
  if ids.isEmpty then line else line ++ (" - " : RawText) ++ RawText.intercalate ", " ids

/-- The identifiers of the failing checks of a resource. -/
def checkIds (resource : Value) : Except Value.Fault (List RawText) := do
  failingIds (← itemsOf "checks" resource)

theorem resourceLine_eq (resource : Value) :
    resourceLine resource = do
      let line ← lineStart resource
      let ids ← checkIds resource
      return withIds line ids := by
  simp only [resourceLine, lineStart, titleIn, checkIds, bind_assoc, pure_bind]
  refine bind_congr fun given => bind_congr fun ref => bind_congr fun grade => ?_
  cases grade.display <;> rfl

theorem lineStart_respellResource (hh : KeepsNames h) (resource : Value) :
    lineStart (respellResource h resource) = lineStart resource := by
  have htitle : titleIn (respellResource h resource) = titleIn resource := by
    have hchecks : titleIn (resource.under "checks" (·.onItems (respellCheck h))) = titleIn resource := by
      rw [titleIn, fieldOr_under_of_ne (by decide), titleIn]
    rw [← hchecks]
    exact fieldOr_under_bind (display_onText_map (titleOf_of_keepsNames hh)) "grade" (.text "") _
  rw [lineStart, fieldOr_ref_respellResource, htitle, lineStart]

theorem field_id_respellCheck (check : Value) : (respellCheck h check).field "id" = check.field "id" :=
  field_under_of_ne (by decide) check

/-- Of what is failing only those with an identifier are listed. -/
theorem failingIds_cons (check : Value) (rest : List Value) :
    failingIds (check :: rest) = (do
      let id ← check.field "id"
      if (← (isFailing check).map (· && id.isTruthy)) then
        let shown ← id.display
        return shown :: (← failingIds rest)
      else failingIds rest) := by
  rw [failingIds]
  refine bind_congr fun id => ?_
  cases isFailing check <;> rfl

theorem failingIds_map_respellCheck {checks : List Value}
    (hfailing : ∀ check ∈ checks, ∀ id, check.field "id" = .ok id →
      (isFailing (respellCheck h check)).map (· && id.isTruthy) = (isFailing check).map (· && id.isTruthy)) :
    failingIds (checks.map (respellCheck h)) = failingIds checks := by
  induction checks with
  | nil => rfl
  | cons check rest ih =>
      obtain ⟨hcheck, hrest⟩ := List.forall_mem_cons.1 hfailing
      rw [List.map_cons, failingIds_cons, failingIds_cons, field_id_respellCheck, ih hrest]
      cases hid : check.field "id" with
      | error fault => rfl
      | ok id => rw [Attempt.ok_bind, Attempt.ok_bind, hcheck id hid]

theorem checkIds_respellResource {resource : Value}
    (hfailing : ∀ check ∈ resource.heldItems "checks", ∀ id, check.field "id" = .ok id →
      (isFailing (respellCheck h check)).map (· && id.isTruthy) = (isFailing check).map (· && id.isTruthy)) :
    checkIds (respellResource h resource) = checkIds resource := by
  unfold checkIds
  rcases itemsOf_checks_respellResource resource with ⟨hitems, _⟩ | ⟨hchecks, hmapped⟩
  · rw [hitems]
  · rw [hchecks, hmapped]
    exact failingIds_map_respellCheck hfailing

/-- Whether an entry is taken for failing. -/
def fails (entry : Value) : Bool := (isFailing entry).toOption.getD false

theorem failingAmong_eq_filter {resources failing : List Value} (h : failingAmong resources = .ok failing) :
    failing = resources.filter fails := by
  induction resources generalizing failing with
  | nil => exact (Except.ok.inj h).symm
  | cons resource rest ih =>
      rw [failingAmong] at h
      obtain ⟨b, hb, h⟩ := Attempt.bind_ok_iff.1 h
      obtain ⟨more, hmore, h⟩ := Attempt.bind_ok_iff.1 h
      obtain rfl := Except.ok.inj h
      have hfails : fails resource = b := by
        rw [fails, hb]
        rfl
      rw [List.filter_cons, hfails, ih hmore]

theorem failingAmong_map_of_isFailing {g : Value → Value} {resources : List Value}
    (h : ∀ resource ∈ resources, isFailing (g resource) = isFailing resource) :
    failingAmong (resources.map g) = (failingAmong resources).map (List.map g) := by
  induction resources with
  | nil => rfl
  | cons resource rest ih =>
      obtain ⟨hresource, hrest⟩ := List.forall_mem_cons.1 h
      rw [List.map_cons, failingAmong, failingAmong, hresource, ih hrest]
      cases isFailing resource with
      | error fault => rfl
      | ok failing =>
          cases failingAmong rest with
          | error fault => rfl
          | ok more => cases failing <;> rfl

/-- A change of the resources that leaves those that are failing, and the lines of the first of them, leaves all
lines. -/
theorem listedLines_map {g : Value → Value} {resources : List Value}
    (hfailing : ∀ resource ∈ resources, isFailing (g resource) = isFailing resource)
    (hline : ∀ resource ∈ (resources.filter fails).take listLimit, resourceLine (g resource) = resourceLine resource) :
    listedLines (resources.map g) = listedLines resources := by
  rw [listedLines, failingAmong_map_of_isFailing hfailing, listedLines]
  cases hfound : failingAmong resources with
  | error fault => rfl
  | ok failing =>
      rw [← failingAmong_eq_filter hfound] at hline
      have hlines : ((failing.map g).take listLimit).mapM resourceLine = (failing.take listLimit).mapM resourceLine := by
        rw [← List.map_take, List.mapM_map]
        exact Attempt.mapM_congr_of_mem hline
      rw [Attempt.ok_map, Attempt.ok_bind, Attempt.ok_bind, resourceLines, resourceLines, hlines, List.length_map,
        List.isEmpty_map]

theorem summaryLines_respelled_of_listedLines (hf : KeepsNames f) {report : Value}
    (hlisted : listedLines ((report.heldItems "resources").map (respellResource h)) =
      listedLines (report.heldItems "resources")) : summaryLines (respelled f h report) = summaryLines report := by
  rw [summaryLines_eq, summaryLines_eq, upperLines_respelled hf]
  rcases itemsOf_resources_respelled report with ⟨hitems, _⟩ | ⟨hresources, hmapped⟩
  · rw [hitems]
  · rw [hresources, hmapped]
    simp only [Attempt.ok_bind, hlisted]

/-- The summary is the same for all spellings of names that leave which names of the best grade are spelled as it is
listed. -/
theorem summaryLines_respelled (hf : KeepsNames f) (hh : KeepsNames h)
    (hbest : ∀ t, h t = RawText.ofString Grade.allOk.name ↔ t = Grade.allOk.name) (report : Value) :
    summaryLines (respelled f h report) = summaryLines report := by
  have hentry (entry : Value) : isFailing (entry.under "grade" (·.onText h)) = isFailing entry := by
    have hsame (x : Value) : (x.onText h).isText Grade.allOk.name = x.isText Grade.allOk.name := by
      cases x with
      | text t => exact decide_eq_decide.2 (hbest t)
      | _ => rfl
    unfold isFailing
    rcases field_under "grade" (·.onText h) entry with hleft | ⟨x, hx, hchanged⟩
    · rw [hleft]
    · rw [hx, hchanged, Attempt.ok_map, Attempt.ok_map, hsame]
  refine summaryLines_respelled_of_listedLines hf (listedLines_map (fun resource _ => ?_) fun resource _ => ?_)
  · rw [respellResource, hentry, isFailing, field_under_of_ne (by decide), isFailing]
  · rw [resourceLine_eq, lineStart_respellResource hh, resourceLine_eq,
      checkIds_respellResource fun check _ id _ => by rw [respellCheck, hentry]]

end

end Publish

end ManifestGrading
