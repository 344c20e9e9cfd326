import ManifestGrading.Proofs.Text.Trimming
import ManifestGrading.Report.Human

/-! Colours are decoration. A text for a terminal is read from the left as code points and codes, and without its codes the
report in colour is the report without colours, for every scorecard with nothing in its texts that a code could
begin with. The codes come in pairs, one that turns the colour of a grade on and one that turns it off again.

What is shown line by line is that a line in colour is `Painted`: the line without colours with certain codes in it. The
first line of an outcome has its blanks taken from its end only after it is painted. That takes the same blanks with
colours and without, since the label in the line does not end with a blank, be it painted or not. -/

namespace ManifestGrading

namespace Report

/-- What a terminal is told about colours: to turn one on or to turn them off. -/
inductive Code where
  | on (color : Grade.Color)
  | off
  deriving Repr, DecidableEq

/-- What every code begins with. -/
def escape : CodePoint := .char '\x1B'

namespace Code

/-- The sequence for a code. -/
def text : Code → RawText
  | on color => colorCode color
  | off => resetCode

/-- All codes. -/
def all : List Code := [on .red, on .yellow, on .green, off]

/-- The code that a text begins with. -/
def at? (ps : List CodePoint) : Option Code := all.find? fun k => k.text.points.isPrefixOf ps

/-- The codes around a text in the colour of a grade. -/
def around (g : Grade) : List Code := [on g.color, off]

theorem points_text (k : Code) : ∃ rest, k.text.points = escape :: rest := by
  cases k with
  | on color => cases color <;> exact ⟨_, rfl⟩
  | off => exact ⟨_, rfl⟩

theorem at?_of_ne {p : CodePoint} (h : p ≠ escape) (rest : List CodePoint) : at? (p :: rest) = none := by
  rw [at?, List.find?_eq_none]
  intro k _ hprefix
  obtain ⟨tail, htext⟩ := points_text k
  rw [htext, List.isPrefixOf_iff_prefix, List.cons_prefix_cons] at hprefix
  exact h hprefix.1.symm

end Code

/-- A text read from the left as code points and codes, behind the code points that belong to the last code. -/
def readFrom : Nat → List CodePoint → List (CodePoint ⊕ Code)
  | _, [] => []
  | skipped + 1, _ :: rest => readFrom skipped rest
  | 0, p :: rest =>
    match Code.at? (p :: rest) with
    | some k => .inr k :: readFrom (k.text.points.length - 1) rest
    | none => .inl p :: readFrom 0 rest

/-- A text without its codes. -/
def uncolored (t : RawText) : RawText := ⟨(readFrom 0 t.points).filterMap Sum.getLeft?⟩

/-- The codes in a text. -/
def codesIn (t : RawText) : List Code := (readFrom 0 t.points).filterMap Sum.getRight?

theorem readFrom_cons_of_ne {p : CodePoint} (h : p ≠ escape) (rest : List CodePoint) :
    readFrom 0 (p :: rest) = .inl p :: readFrom 0 rest := by
  rw [readFrom, Code.at?_of_ne h]

theorem readFrom_text_append (k : Code) (rest : List CodePoint) :
    readFrom 0 (k.text.points ++ rest) = .inr k :: readFrom 0 rest := by
  cases k with
  | on color => cases color <;> rfl
  | off => rfl

/-- A text in colour, the text without colours, and the codes in between, from the left. -/
inductive Painted : List CodePoint → List CodePoint → List Code → Prop where
  | nil : Painted [] [] []
  | point {p : CodePoint} (h : p ≠ escape) {colored plain : List CodePoint} {codes : List Code} :
      Painted colored plain codes → Painted (p :: colored) (p :: plain) codes
  | code (k : Code) {colored plain : List CodePoint} {codes : List Code} :
      Painted colored plain codes → Painted (k.text.points ++ colored) plain (k :: codes)

namespace Painted

variable {colored plain colored' plain' : List CodePoint} {codes codes' : List Code}

theorem append (h : Painted colored plain codes) (h' : Painted colored' plain' codes') :
    Painted (colored ++ colored') (plain ++ plain') (codes ++ codes') := by
  induction h with
  | nil => exact h'
  | point hp _ ih => exact ih.point hp
  | code k _ ih =>
      rw [List.append_assoc]
      exact ih.code k

theorem of_plain {ps : List CodePoint} (h : escape ∉ ps) : Painted ps ps [] := by
  induction ps with
  | nil => exact nil
  | cons p rest ih =>
      rw [List.mem_cons, not_or] at h
      exact (ih h.2).point (Ne.symm h.1)

theorem plain_append {ps : List CodePoint} (hps : escape ∉ ps) (h : Painted colored plain codes) :
    Painted (ps ++ colored) (ps ++ plain) codes := (of_plain hps).append h

theorem append_plain {ps : List CodePoint} (h : Painted colored plain codes) (hps : escape ∉ ps) :
    Painted (colored ++ ps) (plain ++ ps) codes := by
  simpa using h.append (of_plain hps)

theorem escape_not_mem (h : Painted colored plain codes) : escape ∉ plain := by
  induction h with
  | nil => exact List.not_mem_nil
  | point hp _ ih =>
      rw [List.mem_cons, not_or]
      exact ⟨Ne.symm hp, ih⟩
  | code _ _ ih => exact ih

/-- The reader finds the text without colours and the codes. -/
theorem read (h : Painted colored plain codes) :
    (readFrom 0 colored).filterMap Sum.getLeft? = plain ∧ (readFrom 0 colored).filterMap Sum.getRight? = codes := by
  induction h with
  | nil => exact ⟨rfl, rfl⟩
  | point hp _ ih =>
      rw [readFrom_cons_of_ne hp]
      exact ⟨congrArg (List.cons _) ih.1, ih.2⟩
  | code k _ ih =>
      rw [readFrom_text_append]
      exact ⟨ih.1, congrArg (List.cons k) ih.2⟩

end Painted

/-- Lines in colour, the lines without colours, and the codes in all of them. -/
inductive PaintedLines : List RawText → List RawText → List Code → Prop where
  | nil : PaintedLines [] [] []
  | cons {line line' : RawText} {lines lines' : List RawText} {codes codes' : List Code} :
      Painted line.points line'.points codes → PaintedLines lines lines' codes' →
      PaintedLines (line :: lines) (line' :: lines') (codes ++ codes')

/-- A text without what codes begin with. -/
def IsPlain (t : RawText) : Prop := escape ∉ t.points

instance (t : RawText) : Decidable (IsPlain t) := inferInstanceAs (Decidable (escape ∉ t.points))

@[simp] theorem isPlain_append {s t : RawText} : IsPlain (s ++ t) ↔ IsPlain s ∧ IsPlain t := by
  rw [IsPlain, RawText.points_append, List.mem_append, not_or]
  rfl

namespace PaintedLines

variable {lines lines' more more' : List RawText} {codes codes' : List Code}

theorem append (h : PaintedLines lines lines' codes) (h' : PaintedLines more more' codes') :
    PaintedLines (lines ++ more) (lines' ++ more') (codes ++ codes') := by
  induction h with
  | nil => exact h'
  | cons hline _ ih =>
      rw [List.append_assoc]
      exact cons hline ih

theorem of_plain (h : ∀ line ∈ lines, IsPlain line) : PaintedLines lines lines [] := by
  induction lines with
  | nil => exact nil
  | cons line rest ih =>
      rw [List.forall_mem_cons] at h
      exact cons (.of_plain h.1) (ih h.2)

theorem flatMap {α : Type} {as : List α} {f g : α → List RawText} {k : α → List Code}
    (h : ∀ a ∈ as, PaintedLines (f a) (g a) (k a)) : PaintedLines (as.flatMap f) (as.flatMap g) (as.flatMap k) := by
  induction as with
  | nil => exact nil
  | cons a rest ih =>
      rw [List.forall_mem_cons] at h
      exact (h.1).append (ih h.2)

/-- Lines that are painted one by one are painted as one text. -/
theorem intercalate {between : RawText} (hbetween : IsPlain between) (h : PaintedLines lines lines' codes) :
    Painted (between.intercalate lines).points (between.intercalate lines').points codes := by
  induction h with
  | nil => exact .nil
  | cons hline hrest ih =>
      -- the separator follows a line only if there is another one
      cases hrest with
      | nil => simpa using hline
      | cons =>
          rw [RawText.intercalate_cons_cons, RawText.intercalate_cons_cons]
          exact (hline.append_plain hbetween).append ih

end PaintedLines

/-- The texts of a comment. -/
def commentTexts (c : Comment) : List RawText := [c.path, c.summary, c.description]

/-- The texts of a check. -/
def checkTexts (c : Check) : List RawText := [c.id, c.name]

/-- The texts of an outcome with the given comments. -/
def outcomeTexts (o : Outcome) (comments : List Comment) : List RawText :=
  o.check.toList.flatMap checkTexts ++ o.remark :: comments.flatMap commentTexts

/-- The texts of a record. -/
def recordTexts (s : Scorecard) (r : Record) : List RawText :=
  r.identity.parts ++ r.outcomes.flatMap fun o => outcomeTexts o (s.commentsOn o)

/-- All texts of a scorecard: what its resources and their checks are called, and what is said about them. -/
def texts (s : Scorecard) : List RawText := s.records.flatMap (recordTexts s)

/-- The grades that a report for human readers shows, from the top. -/
def gradesShown (showOk : Bool) (s : Scorecard) : List Grade :=
  s.records.flatMap fun r => r.grade :: (shownOutcomes showOk r).map Outcome.grade

/-- A painted text is the text between two codes. -/
theorem painted_paint (g : Grade) {text : RawText} (h : IsPlain text) :
    Painted (paint true g text).points (paint false g text).points (Code.around g) := by
  have hbehind : Painted (text.points ++ (Code.text .off).points) text.points [.off] := by
    simpa using (Painted.nil.code .off).plain_append h
  rw [paint, if_pos rfl, paint, if_neg (by decide), RawText.append_assoc]
  exact hbehind.code (.on g.color)

/-- A painted text ends with the reset code, and another one as it stands, so that neither ends with a blank. -/
theorem paint_ends (useColor : Bool) (g : Grade) {text : RawText} {front : List CodePoint} {p : CodePoint}
    (htext : text.points = front ++ [p]) (hp : RawText.isBlank p = false) :
    ∃ front' p', (paint useColor g text).points = front' ++ [p'] ∧ RawText.isBlank p' = false := by
  cases useColor with
  | false => exact ⟨front, p, htext, hp⟩
  | true =>
      refine ⟨(RawText.ofString (colorCode g.color) ++ text).points ++ [escape, .char '[', .char '0'], .char 'm', ?_,
        by decide⟩
      rw [paint, if_pos rfl, RawText.points_append, List.append_assoc]
      rfl

/-- Behind a label only what follows the label is trimmed. -/
theorem points_trimRight_label (useColor : Bool) (g : Grade) (before behind : RawText) :
    (before ++ paint useColor g (RawText.ofString ("[" ++ g.label ++ "]")) ++ behind).trimRight.points =
      before.points ++ (paint useColor g (RawText.ofString ("[" ++ g.label ++ "]"))).points ++
        RawText.trimEnd behind.points := by
  have hbracket : (RawText.ofString ("[" ++ g.label ++ "]")).points =
      (RawText.ofString ("[" ++ g.label)).points ++ [.char ']'] :=
    congrArg RawText.points (RawText.ofString_append _ _)
  obtain ⟨front, p, hlabel, hp⟩ := paint_ends useColor g hbracket (by decide)
  rw [RawText.trimRight, RawText.points_append, RawText.points_append, hlabel]
  simpa using RawText.trimEnd_append_cons hp (before.points ++ front) behind.points

theorem isPlain_label (g : Grade) : IsPlain (RawText.ofString ("[" ++ g.label ++ "]")) := by cases g <;> decide

theorem isPlain_glyph (g : Grade) : IsPlain g.glyph := by cases g <;> decide

theorem isPlain_ref {i : Identity} (h : ∀ part ∈ i.parts, IsPlain part) : IsPlain i.ref := by
  obtain ⟨hkind, hversion, hspace, hname⟩ :
      IsPlain i.kind ∧ IsPlain i.apiVersion ∧ IsPlain i.space ∧ IsPlain i.name := by simpa [Identity.parts] using h
  have hslash : IsPlain "/" := by decide
  have hblank : IsPlain " " := by decide
  rw [Identity.ref]
  split <;> simp [hkind, hversion, hspace, hname, hslash, hblank]

theorem isPlain_checkName {check : Option Check} (h : ∀ t ∈ check.toList.flatMap checkTexts, IsPlain t) :
    IsPlain (checkName check) := by
  cases check with
  | none => exact List.not_mem_nil
  | some c =>
      obtain ⟨hid, hname⟩ : IsPlain c.id ∧ IsPlain c.name := by simpa [checkTexts] using h
      rw [checkName]
      split
      · exact hid
      · exact hname

theorem isPlain_of_mem_commentLines {c : Comment} (h : ∀ t ∈ commentTexts c, IsPlain t) :
    ∀ line ∈ commentLines c, IsPlain line := by
  obtain ⟨hpath, hsummary, hdescription⟩ : IsPlain c.path ∧ IsPlain c.summary ∧ IsPlain c.description := by
    simpa [commentTexts] using h
  have hdot : IsPlain "        · " := by decide
  have harrow : IsPlain " -> " := by decide
  have hmargin : IsPlain "            " := by decide
  rw [commentLines, List.forall_mem_cons]
  constructor
  · split <;> simp [hpath, hsummary, hdot, harrow]
  · split <;> simp [hdescription, hmargin]

section

variable {o : Outcome} {comments : List Comment}

/-- Below its first line an outcome has plain lines only. -/
theorem isPlain_of_mem_tail_outcomeLines (h : ∀ t ∈ outcomeTexts o comments, IsPlain t) :
    ∀ line ∈ (outcomeLines false o comments).tail, IsPlain line := by
  rw [outcomeTexts, List.forall_mem_append, List.forall_mem_cons] at h
  obtain ⟨-, hremark, hcomments⟩ := h
  have hmargin : IsPlain "        " := by decide
  rw [outcomeLines, List.tail_cons, List.forall_mem_append]
  constructor
  · split <;> simp [hmargin, hremark]
  · intro line hline
    obtain ⟨c, hc, hline⟩ := List.mem_flatMap.1 hline
    exact isPlain_of_mem_commentLines (fun t ht => hcomments t (List.mem_flatMap.2 ⟨c, hc, ht⟩)) line hline

theorem paintedLines_outcome (h : ∀ t ∈ outcomeTexts o comments, IsPlain t) :
    PaintedLines (outcomeLines true o comments) (outcomeLines false o comments) (Code.around o.grade) := by
  have hmargin : IsPlain "    " := by decide
  have hname : IsPlain (RawText.ofString " " ++ checkName o.check) :=
    isPlain_append.2 ⟨by decide, isPlain_checkName fun t ht => h t (List.mem_append_left _ ht)⟩
  have htrimmed : escape ∉ RawText.trimEnd (RawText.ofString " " ++ checkName o.check).points := fun hmem =>
    hname ((RawText.trimEnd_sublist _).subset hmem)
  -- only the name is trimmed: the label before it ends in a character that is not blank
  have hfirst := ((painted_paint o.grade (isPlain_label o.grade)).plain_append hmargin).append_plain htrimmed
  rw [← points_trimRight_label, ← points_trimRight_label, ← RawText.append_assoc, ← RawText.append_assoc] at hfirst
  rw [← List.append_nil (Code.around o.grade)]
  exact .cons hfirst (.of_plain (isPlain_of_mem_tail_outcomeLines h))

end

variable (showOk : Bool)

theorem paintedLines_record {s : Scorecard} {r : Record} (h : ∀ t ∈ recordTexts s r, IsPlain t) :
    PaintedLines (recordLines true showOk s r) (recordLines false showOk s r)
      ((r.grade :: (shownOutcomes showOk r).map Outcome.grade).flatMap Code.around) := by
  rw [recordTexts, List.forall_mem_append] at h
  rw [List.flatMap_cons, List.flatMap_map]
  refine .cons ?_ (.flatMap fun o ho => paintedLines_outcome fun t ht => h.2 t ?_)
  · have href : IsPlain (r.identity.ref ++ RawText.ofString " ") := isPlain_append.2 ⟨isPlain_ref h.1, by decide⟩
    simpa using (painted_paint r.grade (isPlain_glyph r.grade)).plain_append href
  · exact List.mem_flatMap.2 ⟨o, (List.mem_filter.1 ho).1, ht⟩

/-- The report in colour is painted. -/
theorem painted_human {s : Scorecard} (h : ∀ t ∈ texts s, IsPlain t) :
    Painted (human true showOk s).points (human false showOk s).points
      ((gradesShown showOk s).flatMap Code.around) := by
  rw [human, human, gradesShown, List.flatMap_assoc]
  split
  · next hnone =>
    rw [List.isEmpty_iff.1 hnone]
    exact .of_plain (by decide)
  · refine PaintedLines.intercalate (by decide) (.flatMap fun r hr => paintedLines_record showOk fun t ht => ?_)
    exact h t (List.mem_flatMap.2 ⟨r, hr, ht⟩)

/-- Without its codes the report in colour is the report without colours, which no code could begin in. Around each grade
that is shown stand its colour and the code that ends it: so the codes are by turns colours and ends, and the last one
is an end. -/
theorem color_is_decoration (s : Scorecard) (showOk : Bool) (h : ∀ t ∈ texts s, IsPlain t) :
    uncolored (human true showOk s) = human false showOk s ∧ IsPlain (human false showOk s) ∧
    codesIn (human true showOk s) = (gradesShown showOk s).flatMap fun g => [.on g.color, .off] := by
  have hpainted := painted_human showOk h
  refine ⟨?_, hpainted.escape_not_mem, hpainted.read.2⟩
  rw [uncolored, hpainted.read.1]

/-- A resource with a check of blanks in its name and one that is healthy, and a resource without outcomes. -/
def blankNames : Scorecard :=
  ⟨[⟨⟨"Deployment", "apps/v1", "default", "web"⟩, [], .empty,
      [⟨.critical, "none left", some { id := "replicas", name := "  " }, [⟨"spec.replicas", "is 0", ""⟩], some 0⟩,
        ⟨.allOk, "", some { id := "labels" }, [], none⟩]⟩,
    ⟨⟨"Service", "v1", "", "api"⟩, [], .empty, []⟩],
    [⟨0, ⟨"", "scale it up", "one is enough"⟩⟩], by decide⟩

theorem color_is_decoration_blankNames :
    (∀ t ∈ texts blankNames, IsPlain t) ∧
    uncolored (human true false blankNames) = RawText.intercalate "\n"
      ["web/default apps/v1/Deployment 💥", "    [CRITICAL]", "        none left",
        "        · spec.replicas -> is 0", "        · scale it up", "            one is enough", "api v1/Service 💚"] ∧
    codesIn (human true true blankNames) =
      [.on .red, .off, .on .red, .off, .on .green, .off, .on .green, .off] := by
  have hplain : ∀ t ∈ texts blankNames, IsPlain t := by decide
  refine ⟨hplain, ?_, ?_⟩
  · rw [(color_is_decoration blankNames false hplain).1]
    decide +kernel
  · rw [(color_is_decoration blankNames true hplain).2.2]
    decide

end Report

end ManifestGrading
