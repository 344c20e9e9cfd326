import Mathlib.Data.List.Infix
import Mathlib.Data.String.Basic
import ManifestGrading.Proofs.Publish.Annotations

/-! Annotations as they are read again. A workflow command is one line: its level ends at the first space, and its title
at the first two colons in a row. A message is written so that it cannot end the line. The title is written as it
is: an identifier with a line break in it ends the line early, and one with two colons in a row, or with a colon
at its end, moves the boundary between title and message. Nothing else in a report can do either. -/

namespace ManifestGrading

namespace Publish

/-- A workflow command as it is read. -/
structure Command where
  level : RawText
  title : RawText
  message : RawText
  deriving Repr, DecidableEq

/-- Two colons in a row. -/
def colons : List CodePoint := [':', ':']

/-- What is before the first two colons in a row, and what is behind them. -/
def cutAtColons : List CodePoint → Option (List CodePoint × List CodePoint)
  | [] => none
  | p :: rest =>
    if colons <+: p :: rest then some ([], rest.drop 1)
    else (cutAtColons rest).map fun parts => (p :: parts.1, parts.2)

/-- A workflow command as it is read: the level up to the first space, the title up to the first two colons in a row
behind it, and the message. -/
def readCommand (text : RawText) : Option Command := do
  let behind ← text.points.dropPrefix? colons
  let level := behind.takeWhile (· ≠ .char ' ')
  let behind ← (behind.dropWhile (· ≠ .char ' ')).dropPrefix? (RawText.ofString " title=").points
  let (title, message) ← cutAtColons behind
  return ⟨⟨level⟩, ⟨title⟩, ⟨message⟩⟩

/-- A text without a line break in it. -/
def IsOneLine (t : RawText) : Prop := .char '\n' ∉ t.points ∧ .char '\r' ∉ t.points

instance (t : RawText) : Decidable (IsOneLine t) := inferInstanceAs (Decidable (_ ∧ _))

theorem isOneLine_append {s t : RawText} : IsOneLine (s ++ t) ↔ IsOneLine s ∧ IsOneLine t := by
  simp only [IsOneLine, RawText.points_append, List.mem_append, not_or]
  exact and_and_and_comm

theorem isOneLine_encodeMessage (t : RawText) : IsOneLine (encodeMessage t) := by
  have hpoint {p q : CodePoint} (h : q ∈ encodedPoint p) : q ≠ .char '\n' ∧ q ≠ .char '\r' := by
    unfold encodedPoint at h
    split at h
    · simp only [List.mem_cons, List.not_mem_nil, or_false] at h
      rcases h with rfl | rfl | rfl <;> decide
    · split at h
      · cases h
      · split at h
        · simp only [List.mem_cons, List.not_mem_nil, or_false] at h
          rcases h with rfl | rfl | rfl <;> decide
        · next hreturn hfeed =>
          obtain rfl := List.mem_singleton.1 h
          exact ⟨hfeed, hreturn⟩
  simp only [IsOneLine, encodeMessage, List.mem_flatMap, not_exists, not_and]
  exact ⟨fun p _ h => (hpoint h).1 rfl, fun p _ h => (hpoint h).2 rfl⟩

/-- A title is read back if the first two colons in a row are those behind it. -/
theorem cutAtColons_append_iff (title message : List CodePoint) :
    cutAtColons (title ++ colons ++ message) = some (title, message) ↔ ¬colons <:+: title ++ [.char ':'] := by
  induction title with
  | nil =>
      have hshort : ¬colons <:+: [.char ':'] := fun h => absurd h.length_le (by decide)
      have hread : cutAtColons ([] ++ colons ++ message) = some ([], message) := by simp [cutAtColons, colons]
      exact iff_of_true hread hshort
  | cons p rest ih =>
      -- whether the colons come at once can be seen from what is behind `p`, which is there in any case
      have hfirst : colons <+: p :: rest ++ colons ++ message ↔ colons <+: p :: rest ++ [.char ':'] := by
        cases rest <;> simp [colons]
      simp only [List.cons_append] at hfirst ih ⊢
      rw [cutAtColons, List.infix_cons_iff]
      by_cases hcolons : colons <+: p :: (rest ++ colons ++ message)
      · rw [if_pos hcolons]
        simp [hfirst.1 hcolons]
      · have hcut : (cutAtColons (rest ++ colons ++ message)).map (fun parts => (p :: parts.1, parts.2)) =
            some (p :: rest, message) ↔ cutAtColons (rest ++ colons ++ message) = some (rest, message) := by
          simp [Option.map_eq_some_iff]
        rw [if_neg hcolons, hcut, ih, or_iff_right (mt hfirst.2 hcolons)]

/-- What stands in front of a text and has no colon in it does not bring two colons in a row. -/
theorem infix_append_iff {front : List CodePoint} (h : .char ':' ∉ front) (l : List CodePoint) :
    colons <:+: front ++ l ↔ colons <:+: l := by
  induction front with
  | nil => rfl
  | cons p rest ih =>
      obtain ⟨hp, hrest⟩ := not_or.1 (mt List.mem_cons.2 h)
      rw [List.cons_append, List.infix_cons_iff, ih hrest, colons, List.cons_prefix_cons]
      simp [hp]

theorem dropPrefix?_append (front l : List CodePoint) : (front ++ l).dropPrefix? front = some l :=
  List.dropPrefix?_eq_some_iff.2 ⟨front, rfl, beq_self_eq_true front⟩

theorem readCommand_command_iff {a : Annotation} (hlevel : ' ' ∉ a.level.toList) :
    readCommand a.command = some ⟨a.level, a.title, encodeMessage a.body⟩ ↔
      ¬colons <:+: a.title.points ++ [.char ':'] := by
  have hparts : a.command.points = colons ++ ((RawText.ofString a.level).points ++
      ((RawText.ofString " title=").points ++ (a.title.points ++ colons ++ (encodeMessage a.body).points))) := by
    unfold Annotation.command
    simp [colons]
  have hbefore : ∀ p ∈ (RawText.ofString a.level).points, decide (p ≠ .char ' ') = true := by
    intro p hp
    obtain ⟨c, hc, rfl⟩ := List.mem_map.1 hp
    exact decide_eq_true fun heq => hlevel (CodePoint.char.inj heq ▸ hc)
  rw [← cutAtColons_append_iff _ (encodeMessage a.body).points, readCommand, hparts, dropPrefix?_append,
    Option.bind_eq_bind, Option.bind_some, List.takeWhile_append_of_pos hbefore, List.dropWhile_append_of_pos hbefore]
  have hspace (l : List CodePoint) :
      ((RawText.ofString " title=").points ++ l).takeWhile (· ≠ .char ' ') = [] := by simp
  have hstop (l : List CodePoint) : ((RawText.ofString " title=").points ++ l).dropWhile (· ≠ .char ' ') =
      (RawText.ofString " title=").points ++ l := by simp
  rw [hspace, hstop, dropPrefix?_append, Option.bind_eq_bind, Option.bind_some, List.append_nil]
  simp [Option.bind_eq_some_iff, RawText.ext_iff]

theorem infix_titleWith_iff (g : Grade) (id : RawText) :
    colons <:+: (titleWith g id).points ++ [.char ':'] ↔ colons <:+: id.points ++ [.char ':'] := by
  have hgrade : .char ':' ∉ (RawText.ofString (gradeTitle g)).points := by cases g <;> decide
  unfold titleWith
  split
  · next h =>
    rw [infix_append_iff hgrade, h]
    rfl
  · have hfront : .char ':' ∉ (RawText.ofString (gradeTitle g ++ " - ")).points := by cases g <;> decide
    rw [RawText.points_append, List.append_assoc, infix_append_iff hfront]

theorem isOneLine_titleWith_iff (g : Grade) (id : RawText) : IsOneLine (titleWith g id) ↔ IsOneLine id := by
  have hgrade : IsOneLine (gradeTitle g) := by cases g <;> exact ⟨by decide, by decide⟩
  have hfront : IsOneLine (RawText.ofString (gradeTitle g ++ " - ")) := by cases g <;> exact ⟨by decide, by decide⟩
  unfold titleWith
  split
  · next h =>
    subst h
    exact iff_of_true hgrade ⟨List.not_mem_nil, List.not_mem_nil⟩
  · simp only [isOneLine_append, hfront, true_and]

theorem isOneLine_of_level?_eq_some {g : Grade} {level : String} (h : level? g = some level) :
    IsOneLine (RawText.ofString ("::" ++ level ++ " title=")) ∧ ' ' ∉ level.toList := by
  cases g with
  | allOk => cases h
  | _ =>
      obtain rfl := Option.some.inj h
      decide

/-! ### Where annotations come from -/

/-- Whether a report has a resource with a check among its entries. -/
def HasCheck (report resource check : Value) : Prop :=
  (∃ resources, itemsOf "resources" report = .ok resources ∧ resource ∈ resources) ∧
    ∃ checks, itemsOf "checks" resource = .ok checks ∧ check ∈ checks

def HasReference (resource : Value) (ref : RawText) : Prop :=
  ∃ v text, fieldOr "ref" (.text "") resource = .ok v ∧ v.display = .ok text ∧ text.trim = ref

def NamesGrade (check : Value) (g : Grade) : Prop :=
  ∃ v text, fieldOr "grade" (.text "") check = .ok v ∧ v.display = .ok text ∧ gradeNamed? text = some g

theorem of_annotation_eq_some {ref : RawText} {check : Value} {a : Annotation}
    (h : annotation ref check = .ok (some a)) :
    ∃ g id parts, NamesGrade check g ∧ level? g = some a.level ∧ trimmedField "id" check = .ok id ∧
      a.title = titleWith g id ∧ bodyParts ref check = .ok parts ∧ a.body = RawText.intercalate "; " parts := by
  unfold annotation at h
  obtain ⟨v, hv, h⟩ := Attempt.bind_ok_iff.1 h
  obtain ⟨text, htext, h⟩ := Attempt.bind_ok_iff.1 h
  split at h
  · cases h
  · next g hg =>
    split at h
    · cases h
    · next level hlevel =>
      obtain ⟨id, hid, h⟩ := Attempt.bind_ok_iff.1 h
      obtain ⟨parts, hparts, h⟩ := Attempt.bind_ok_iff.1 h
      obtain rfl := Option.some.inj (Except.ok.inj h)
      exact ⟨g, id, parts, ⟨v, text, hv, htext, hg⟩, hlevel, hid, intercalate_title g id, hparts, rfl⟩

theorem exists_of_mem_checkAnnotations {ref : RawText} {checks : List Value} {a : Annotation}
    (h : a ∈ (checkAnnotations ref checks).items) : ∃ check ∈ checks, annotation ref check = .ok (some a) := by
  induction checks with
  | nil => cases h
  | cons check rest ih =>
      rw [checkAnnotations] at h
      split at h
      · cases h
      · next found hfound =>
        rcases List.mem_append.1 h with h | h
        · obtain rfl := Option.mem_toList.1 h
          exact ⟨check, List.mem_cons_self, hfound⟩
        · obtain ⟨later, hlater, ha⟩ := ih h
          exact ⟨later, List.mem_cons_of_mem check hlater, ha⟩

theorem exists_of_mem_resourceAnnotations {resource : Value} {a : Annotation}
    (h : a ∈ (resourceAnnotations resource).items) :
    ∃ ref checks check, HasReference resource ref ∧ itemsOf "checks" resource = .ok checks ∧ check ∈ checks ∧
      annotation ref check = .ok (some a) := by
  rw [resourceAnnotations] at h
  split at h
  · cases h
  · next ref checks hchecks =>
    obtain ⟨v, hv, hchecks⟩ := Attempt.bind_ok_iff.1 hchecks
    obtain ⟨text, htext, hchecks⟩ := Attempt.bind_ok_iff.1 hchecks
    obtain ⟨items, hitems, hchecks⟩ := Attempt.bind_ok_iff.1 hchecks
    obtain ⟨rfl, rfl⟩ := Prod.mk.inj (Except.ok.inj hchecks)
    obtain ⟨check, hcheck, ha⟩ := exists_of_mem_checkAnnotations h
    exact ⟨_, items, check, ⟨v, text, hv, htext, rfl⟩, hitems, hcheck, ha⟩

theorem exists_of_mem_allAnnotations {resources : List Value} {a : Annotation}
    (h : a ∈ (allAnnotations resources).items) : ∃ resource ∈ resources, a ∈ (resourceAnnotations resource).items := by
  induction resources with
  | nil => cases h
  | cons resource rest ih =>
      rw [allAnnotations] at h
      split at h
      · exact ⟨resource, List.mem_cons_self, h⟩
      · rcases List.mem_append.1 h with h | h
        · exact ⟨resource, List.mem_cons_self, h⟩
        · obtain ⟨later, hlater, ha⟩ := ih h
          exact ⟨later, List.mem_cons_of_mem resource hlater, ha⟩

theorem exists_of_mem_annotations {report : Value} {a : Annotation} (h : a ∈ (annotations report).items) :
    ∃ resource check ref, HasCheck report resource check ∧ HasReference resource ref ∧
      annotation ref check = .ok (some a) := by
  rw [annotations] at h
  split at h
  · cases h
  · next resources hresources =>
    obtain ⟨resource, hresource, h⟩ := exists_of_mem_allAnnotations h
    obtain ⟨ref, checks, check, href, hchecks, hcheck, ha⟩ := exists_of_mem_resourceAnnotations h
    exact ⟨resource, check, ref, ⟨⟨resources, hresources, hresource⟩, checks, hchecks, hcheck⟩, href, ha⟩

/-- Every annotation for a report is that of a check in it: it has the level of its grade, the title of the grade with
the identifier of the check, and a message of the remark, the comments and the reference. Its command is one line
exactly if the identifier is, and it is read back exactly if the identifier has no two colons in a row and none at
its end; what the other texts are does not matter. -/
theorem command_reads_back_iff {report : Value} {a : Annotation} (h : a ∈ (annotations report).items) :
    ∃ resource check ref g id parts,
      HasCheck report resource check ∧ HasReference resource ref ∧ NamesGrade check g ∧ level? g = some a.level ∧
      trimmedField "id" check = .ok id ∧ a.title = titleWith g id ∧
      bodyParts ref check = .ok parts ∧ a.body = RawText.intercalate "; " parts ∧
      (IsOneLine a.command ↔ IsOneLine id) ∧
      (readCommand a.command = some ⟨a.level, a.title, encodeMessage a.body⟩ ↔ ¬colons <:+: id.points ++ [.char ':']) := by
  obtain ⟨resource, check, ref, hcheck, href, ha⟩ := exists_of_mem_annotations h
  obtain ⟨g, id, parts, hgrade, hlevel, hid, htitle, hparts, hbody⟩ := of_annotation_eq_some ha
  obtain ⟨hline, hspace⟩ := isOneLine_of_level?_eq_some hlevel
  refine ⟨resource, check, ref, g, id, parts, hcheck, href, hgrade, hlevel, hid, htitle, hparts, hbody, ?_, ?_⟩
  · have hcolons : IsOneLine "::" := ⟨by decide, by decide⟩
    unfold Annotation.command
    simp only [isOneLine_append, hcolons, hline, isOneLine_encodeMessage, true_and, and_true,
      htitle, isOneLine_titleWith_iff]
  · rw [readCommand_command_iff hspace, htitle, infix_titleWith_iff]

/-- A report with the checks of one resource by their identifiers, each of them critical. -/
def criticalReport (ids : List String) : Value :=
  Report.named [("resources", .list [Report.named [("ref", .text "web"), ("checks", .list (ids.map fun (id : String) =>
    Report.named [("id", .text id), ("grade", .text "CRITICAL")]))]])]

theorem command_reads_back_iff_criticalReport :
    (annotations (criticalReport ["a::b", "a\n::error::x"])).items =
        [⟨"error", "Critical - a::b", "Resource: web"⟩, ⟨"error", "Critical - a\n::error::x", "Resource: web"⟩] ∧
      readCommand (⟨"error", "Critical - a::b", "Resource: web"⟩ : Annotation).command =
        some ⟨"error", "Critical - a", "b::Resource: web"⟩ ∧
      (∃ check id, trimmedField "id" check = .ok id ∧ colons <:+: id.points ++ [.char ':']) ∧
      ¬IsOneLine (⟨"error", "Critical - a\n::error::x", "Resource: web"⟩ : Annotation).command ∧
      ∃ check id, trimmedField "id" check = .ok id ∧ ¬IsOneLine id := by
  have hitems : (annotations (criticalReport ["a::b", "a\n::error::x"])).items =
      [⟨"error", "Critical - a::b", "Resource: web"⟩, ⟨"error", "Critical - a\n::error::x", "Resource: web"⟩] := by
    decide +kernel
  have hread : readCommand (⟨"error", "Critical - a::b", "Resource: web"⟩ : Annotation).command =
      some ⟨"error", "Critical - a", "b::Resource: web"⟩ := by decide +kernel
  have hbreak : ¬IsOneLine (⟨"error", "Critical - a\n::error::x", "Resource: web"⟩ : Annotation).command := by
    decide +kernel
  refine ⟨hitems, hread, ?_, hbreak, ?_⟩
  · obtain ⟨_, check, _, _, id, _, _, _, _, _, hid, _, _, _, _, hback⟩ :=
      command_reads_back_iff (hitems ▸ List.mem_cons_self)
    refine ⟨check, id, hid, by_contra fun hcolons => ?_⟩
    exact absurd (hread.symm.trans (hback.2 hcolons)) (by decide)
  · obtain ⟨_, check, _, _, id, _, _, _, _, _, hid, _, _, _, hline, _⟩ :=
      command_reads_back_iff (hitems ▸ List.mem_cons_of_mem _ List.mem_cons_self)
    exact ⟨check, id, hid, fun h => hbreak (hline.2 h)⟩

end Publish

end ManifestGrading
