import ManifestGrading.Proofs.FirstFailure
import ManifestGrading.Proofs.Publish.Grammar

/-! Messages of annotations, written and read again. A message is written by three replacements one after the other, of
percent signs, of carriage returns and of line feeds. Since the percent signs come first, each percent sign in what is
written begins an escape, and a reader who goes through it once from left to right finds the message again, but for
its carriage returns. What looks like an escape in the message itself comes back as it was. -/

namespace ManifestGrading

namespace Publish

/-- Code points with other ones in place of each occurrence of a certain one. -/
def replaced (p : CodePoint) (others points : List CodePoint) : List CodePoint :=
  points.flatMap fun q => if q = p then others else [q]

/-- Code points as they are read: an escape stands for a percent sign or a line feed. -/
def decodePoints : List CodePoint → List CodePoint
  | .char '%' :: .char '2' :: .char '5' :: rest => '%' :: decodePoints rest
  | .char '%' :: .char '0' :: .char 'A' :: rest => '\n' :: decodePoints rest
  | p :: rest => p :: decodePoints rest
  | [] => []

def decodeMessage (t : RawText) : RawText := ⟨decodePoints t.points⟩

/-- A text without its carriage returns. -/
def withoutReturns (t : RawText) : RawText := ⟨t.points.filter (· ≠ .char '\r')⟩

/-- Whether each percent sign begins an escape. -/
def IsEscaped (points : List CodePoint) : Prop :=
  ∀ behind, .char '%' :: behind <:+ points → [.char '2', .char '5'] <+: behind ∨ [.char '0', .char 'A'] <+: behind

/-! ### Writing -/

/-- Writing replaces percent signs first, then carriage returns and then line feeds. -/
theorem encodeMessage_eq_replaced (t : RawText) :
    (encodeMessage t).points =
      replaced '\n' ['%', '0', 'A'] (replaced '\r' [] (replaced '%' ['%', '2', '5'] t.points)) := by
  rw [encodeMessage]
  induction t.points with
  | nil => rfl
  | cons p rest ih =>
      simp only [replaced, List.flatMap_cons, List.flatMap_append] at ih ⊢
      rw [ih]
      congr 1
      unfold encodedPoint
      by_cases hpercent : p = .char '%'
      · subst hpercent
        rfl
      · by_cases hreturn : p = .char '\r'
        · subst hreturn
          rfl
        · simp [hpercent, hreturn]

theorem encodeMessage_withoutReturns (t : RawText) : encodeMessage (withoutReturns t) = encodeMessage t := by
  rw [encodeMessage, encodeMessage, withoutReturns]
  congr 1
  induction t.points with
  | nil => rfl
  | cons p rest ih =>
      by_cases hreturn : p = .char '\r'
      · subst hreturn
        exact ih
      · rw [List.filter_cons_of_pos (by simpa using hreturn), List.flatMap_cons, List.flatMap_cons, ih]

section IsEscaped

variable {p : CodePoint} {points : List CodePoint}

theorem IsEscaped.cons_of_ne (h : IsEscaped points) (hp : p ≠ .char '%') : IsEscaped (p :: points) := by
  intro behind hsuffix
  rw [List.suffix_cons_iff, List.cons.injEq] at hsuffix
  rcases hsuffix with ⟨heq, _⟩ | hsuffix
  · exact absurd heq.symm hp
  · exact h behind hsuffix

theorem IsEscaped.cons_percent (h : IsEscaped points)
    (hbegins : [.char '2', .char '5'] <+: points ∨ [.char '0', .char 'A'] <+: points) :
    IsEscaped (.char '%' :: points) := by
  intro behind hsuffix
  rw [List.suffix_cons_iff, List.cons.injEq] at hsuffix
  rcases hsuffix with ⟨_, rfl⟩ | hsuffix
  · exact hbegins
  · exact h behind hsuffix

theorem IsEscaped.encodedPoint_append (h : IsEscaped points) (p : CodePoint) :
    IsEscaped (encodedPoint p ++ points) := by
  unfold encodedPoint
  split
  · have hdigits : IsEscaped (.char '2' :: .char '5' :: points) := (h.cons_of_ne (by decide)).cons_of_ne (by decide)
    exact hdigits.cons_percent (Or.inl (List.prefix_append [.char '2', .char '5'] points))
  · next hpercent =>
    split
    · exact h
    · split
      · have hdigits : IsEscaped (.char '0' :: .char 'A' :: points) :=
          (h.cons_of_ne (by decide)).cons_of_ne (by decide)
        exact hdigits.cons_percent (Or.inr (List.prefix_append [.char '0', .char 'A'] points))
      · exact h.cons_of_ne hpercent

end IsEscaped

theorem isEscaped_encodeMessage (t : RawText) : IsEscaped (encodeMessage t).points := by
  rw [encodeMessage]
  induction t.points with
  | nil =>
      intro behind h
      cases List.suffix_nil.1 h
  | cons p rest ih => exact ih.encodedPoint_append p

/-! ### Reading -/

theorem decodePoints_cons_of_ne {p : CodePoint} (h : p ≠ .char '%') (rest : List CodePoint) :
    decodePoints (p :: rest) = p :: decodePoints rest := by
  rw [decodePoints]
  · exact fun _ heq _ => h heq
  · exact fun _ heq _ => h heq

/-- A code point is read back from what is written for it, whatever is behind; carriage returns are not written. -/
theorem decodePoints_encodedPoint_append (p : CodePoint) (rest : List CodePoint) :
    decodePoints (encodedPoint p ++ rest) = [p].filter (· ≠ .char '\r') ++ decodePoints rest := by
  unfold encodedPoint
  split
  · next hpercent =>
    subst hpercent
    rfl
  · next hpercent =>
    split
    · next hreturn =>
      subst hreturn
      rfl
    · next hreturn =>
      have hkept : [p].filter (· ≠ .char '\r') = [p] := List.filter_eq_self.2 (by simpa using hreturn)
      rw [hkept]
      split
      · next hfeed =>
        subst hfeed
        rfl
      · exact decodePoints_cons_of_ne hpercent rest

theorem decodeMessage_encodeMessage (t : RawText) : decodeMessage (encodeMessage t) = withoutReturns t := by
  rw [decodeMessage, encodeMessage, withoutReturns]
  congr 1
  induction t.points with
  | nil => rfl
  | cons p rest ih =>
      rw [List.flatMap_cons, decodePoints_encodedPoint_append, ih, ← List.filter_append, List.singleton_append]

theorem encodeMessage_eq_iff {s t : RawText} :
    encodeMessage s = encodeMessage t ↔ withoutReturns s = withoutReturns t := by
  constructor
  · intro h
    rw [← decodeMessage_encodeMessage, h, decodeMessage_encodeMessage]
  · intro h
    rw [← encodeMessage_withoutReturns, h, encodeMessage_withoutReturns]

/-! ### The message of a check -/

/-- What a comment gives to a message: its summary and its path, without the blanks around them. -/
structure Note where
  path : RawText
  summary : RawText

def HasNote (comment : Value) (note : Note) : Prop :=
  trimmedField "path" comment = .ok note.path ∧ trimmedField "summary" comment = .ok note.summary

/-- The part of a message for a comment, if it has a summary. -/
def Note.part? (note : Note) : Option RawText :=
  if note.summary = "" then none
  else some (if note.path = "" then note.summary else note.path ++ RawText.ofString ": " ++ note.summary)

/-- The parts of a message: the remark, the comments, and the reference of the resource. -/
def partsOf (remark : RawText) (notes : List Note) (ref : RawText) : List RawText :=
  [remark].filter (· ≠ RawText.ofString "") ++ notes.filterMap Note.part? ++
    ([ref].filter (· ≠ RawText.ofString "")).map (RawText.ofString "Resource: " ++ ·)

/-- A message of parts, or the one for a check without any. -/
def messageOf (parts : List RawText) : RawText :=
  if parts = [] then "Check reported without details." else RawText.intercalate "; " parts

theorem exists_notes_of_mapM {comments : List Value} {parts : List (List RawText)}
    (h : comments.mapM commentPart = .ok parts) :
    ∃ notes, List.Forall₂ HasNote comments notes ∧ parts.flatten = notes.filterMap Note.part? := by
  have hforall := Attempt.forall₂_of_mapM_ok h
  clear h
  induction hforall with
  | nil => exact ⟨[], .nil, rfl⟩
  | @cons comment part _ _ hpart _ ih =>
      obtain ⟨notes, hnotes, hflatten⟩ := ih
      rw [commentPart] at hpart
      obtain ⟨summary, hsummary, hpart⟩ := Attempt.bind_ok_iff.1 hpart
      obtain ⟨path, hpath, hpart⟩ := Attempt.bind_ok_iff.1 hpart
      obtain rfl := Except.ok.inj hpart
      refine ⟨⟨path, summary⟩ :: notes, .cons ⟨hpath, hsummary⟩ hnotes, ?_⟩
      rw [List.flatten_cons, hflatten, List.filterMap_cons, Note.part?]
      by_cases hnone : summary = "" <;> simp [hnone]

theorem exists_partsOf_of_bodyParts {ref : RawText} {check : Value} {parts : List RawText}
    (h : bodyParts ref check = .ok parts) :
    ∃ remark comments notes, trimmedField "remark" check = .ok remark ∧ itemsOf "comments" check = .ok comments ∧
      List.Forall₂ HasNote comments notes ∧ RawText.intercalate "; " parts = messageOf (partsOf remark notes ref) := by
  rw [bodyParts] at h
  obtain ⟨remark, hremark, h⟩ := Attempt.bind_ok_iff.1 h
  obtain ⟨comments, hcomments, h⟩ := Attempt.bind_ok_iff.1 h
  obtain ⟨found, hfound, h⟩ := Attempt.bind_ok_iff.1 h
  obtain rfl := Except.ok.inj h
  obtain ⟨notes, hnotes, hflatten⟩ := exists_notes_of_mapM hfound
  refine ⟨remark, comments, notes, hremark, hcomments, hnotes, ?_⟩
  have hparts : (if remark = "" then [] else [remark]) ++ found.flatten ++
      (if ref = "" then [] else [RawText.ofString "Resource: " ++ ref]) = partsOf remark notes ref := by
    rw [hflatten, partsOf]
    by_cases hempty : remark = "" <;> by_cases hnone : ref = "" <;> simp [hempty, hnone]
  rw [hparts, messageOf]
  by_cases hnil : partsOf remark notes ref = [] <;> simp [hnil]

theorem ne_empty_of_mem_partsOf {remark ref part : RawText} {notes : List Note} (h : part ∈ partsOf remark notes ref) :
    part ≠ "" := by
  rw [partsOf, List.mem_append, List.mem_append] at h
  rcases h with (h | h) | h
  · exact of_decide_eq_true (List.mem_filter.1 h).2
  · obtain ⟨note, _, hpart⟩ := List.mem_filterMap.1 h
    unfold Note.part? at hpart
    split at hpart
    · cases hpart
    · next hsummary =>
      obtain rfl := Option.some.inj hpart
      split
      · exact hsummary
      · simp
  · obtain ⟨_, _, rfl⟩ := List.mem_map.1 h
    simp

theorem messageOf_ne_empty {parts : List RawText} (h : ∀ part ∈ parts, part ≠ "") : messageOf parts ≠ "" := by
  unfold messageOf
  split
  · decide
  · next hne =>
    obtain ⟨first, rest, rfl⟩ := List.exists_cons_of_ne_nil hne
    have hfirst := h first List.mem_cons_self
    cases rest with
    | nil => simpa using hfirst
    | cons next more =>
        rw [RawText.intercalate_cons_cons]
        simp [hfirst]

/-- The text in front of the message in a workflow command. -/
def Annotation.header (a : Annotation) : RawText :=
  RawText.ofString ("::" ++ a.level ++ " title=") ++ a.title ++ RawText.ofString "::"

/-- The message of every annotation for a report can be read again. It is that of a check in the report: its remark, its
comments and the reference of its resource, or a text for a check without any of these, and it is never empty. In the
command it stands behind the header, with its percent signs, carriage returns and line feeds replaced in this order.
What is written is one line, in which each percent sign begins an escape, and it is read back as the message without
its carriage returns; so another message is written in the same way only if it is the same but for those. -/
theorem message_reads_back {report : Value} {a : Annotation} (h : a ∈ (annotations report).items) :
    ∃ resource check ref remark comments notes,
      HasCheck report resource check ∧ HasReference resource ref ∧ annotation ref check = .ok (some a) ∧
      trimmedField "remark" check = .ok remark ∧ itemsOf "comments" check = .ok comments ∧
      List.Forall₂ HasNote comments notes ∧ a.body = messageOf (partsOf remark notes ref) ∧ a.body ≠ "" ∧
      a.command = a.header ++ encodeMessage a.body ∧
      (encodeMessage a.body).points =
        replaced '\n' ['%', '0', 'A'] (replaced '\r' [] (replaced '%' ['%', '2', '5'] a.body.points)) ∧
      IsOneLine (encodeMessage a.body) ∧ IsEscaped (encodeMessage a.body).points ∧
      decodeMessage (encodeMessage a.body) = withoutReturns a.body ∧
      ∀ body, encodeMessage body = encodeMessage a.body ↔ withoutReturns body = withoutReturns a.body := by
  obtain ⟨resource, check, ref, hcheck, href, ha⟩ := exists_of_mem_annotations h
  obtain ⟨_, _, parts, _, _, _, _, hparts, hbody⟩ := of_annotation_eq_some ha
  obtain ⟨remark, comments, notes, hremark, hcomments, hnotes, hmessage⟩ := exists_partsOf_of_bodyParts hparts
  have hgiven : a.body = messageOf (partsOf remark notes ref) := hbody.trans hmessage
  refine ⟨resource, check, ref, remark, comments, notes, hcheck, href, ha, hremark, hcomments, hnotes, hgiven, ?_, rfl,
    encodeMessage_eq_replaced a.body, isOneLine_encodeMessage a.body, isEscaped_encodeMessage a.body,
    decodeMessage_encodeMessage a.body, fun body => encodeMessage_eq_iff⟩
  rw [hgiven]
  exact messageOf_ne_empty fun part => ne_empty_of_mem_partsOf

/-- A report with a warning whose texts have percent signs, line breaks and what looks like escapes in them. -/
def percentReport : Value :=
  Report.named [("resources", .list [Report.named [("ref", .text " web "), ("checks", .list [Report.named
    [("grade", .text "warning"), ("remark", .text "50%\r\nof %0A"), ("comments", .list
      [Report.named [("path", .text "spec\t"), ("summary", .text "%25")],
        Report.named [("path", .text "spec"), ("summary", .text " ")]])]])]])]

theorem message_reads_back_percentReport :
    (⟨"warning", "Warning", "50%\r\nof %0A; spec: %25; Resource: web"⟩ : Annotation) ∈
        (annotations percentReport).items ∧
      decodeMessage "50%25%0Aof %250A; spec: %2525; Resource: web" = "50%\nof %0A; spec: %25; Resource: web" ∧
      ∀ body, encodeMessage body = "50%25%0Aof %250A; spec: %2525; Resource: web" ↔
        withoutReturns body = "50%\nof %0A; spec: %25; Resource: web" := by
  have hmem : (⟨"warning", "Warning", "50%\r\nof %0A; spec: %25; Resource: web"⟩ : Annotation) ∈
      (annotations percentReport).items := by decide +kernel
  have hwritten : encodeMessage "50%\r\nof %0A; spec: %25; Resource: web" =
      "50%25%0Aof %250A; spec: %2525; Resource: web" := by decide +kernel
  have hplain : withoutReturns "50%\r\nof %0A; spec: %25; Resource: web" =
      "50%\nof %0A; spec: %25; Resource: web" := by decide +kernel
  obtain ⟨_, _, _, _, _, _, _, _, _, _, _, _, _, _, _, _, _, _, hread, hsame⟩ := message_reads_back hmem
  simp only [hwritten, hplain] at hread hsame
  exact ⟨hmem, hread, hsame⟩

end Publish

end ManifestGrading
