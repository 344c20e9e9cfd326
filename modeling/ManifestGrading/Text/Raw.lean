import ManifestGrading.Text.Blank
import ManifestGrading.Text.CodePoint
import ManifestGrading.Text.LetterCase
import ManifestGrading.Text.Quoted

/-! Texts of code points, as escapes may write them. A text of characters alone is the same as the string of
them; a text with a half of a pair in it has no form in UTF-8, though it has a quoted one. -/

namespace ManifestGrading

/-- A text as a sequence of code points. -/
@[ext] structure RawText where
  points : List CodePoint
  deriving Repr, DecidableEq

namespace RawText

def ofString (s : String) : RawText := ⟨s.toList.map .char⟩

instance : Coe String RawText := ⟨ofString⟩

instance : Inhabited RawText := ⟨⟨[]⟩⟩

def ofNumbers (ns : List Nat) : RawText := ⟨ns.map CodePoint.ofNumber⟩

def chars (t : RawText) : List Char := t.points.map CodePoint.shown

def shown (t : RawText) : String := String.ofList t.chars

/-- The string that a text is; none for a text with a half in it. -/
def string? (t : RawText) : Option String := (t.points.mapM CodePoint.char?).map String.ofList

def isEmpty (t : RawText) : Bool := t.points.isEmpty

instance : Append RawText := ⟨fun s t => ⟨s.points ++ t.points⟩⟩

def intercalate (between : RawText) (texts : List RawText) : RawText :=
  ⟨between.points.intercalate (texts.map points)⟩

def numbers (t : RawText) : List Nat := t.points.map CodePoint.number

/-- Texts compare by the numbers of their code points, from left to right. -/
instance : LT RawText := ⟨fun s t => s.numbers < t.numbers⟩

instance (s t : RawText) : Decidable (s < t) := inferInstanceAs (Decidable (s.numbers < t.numbers))

/-- Whether a code point is blank; no half is. -/
def isBlank (p : CodePoint) : Bool := p.char?.any Text.isBlank

/-- Code points from the first that is not blank. -/
def trimStart (ps : List CodePoint) : List CodePoint := ps.dropWhile isBlank

/-- Code points up to the last that is not blank. -/
def trimEnd (ps : List CodePoint) : List CodePoint := (ps.reverse.dropWhile isBlank).reverse

def trim (t : RawText) : RawText := ⟨trimEnd (trimStart t.points)⟩

/-- A text without the blanks at its end. -/
def trimRight (t : RawText) : RawText := ⟨trimEnd t.points⟩

/-- Code points, which show as `shown`, in the case that `form` gives to characters between their neighbours, after
the text `before`, whose nearest character comes first. A half has no case. -/
def casePoints (form : List Char → Char → List Char → List Char) (before : List Char) :
    List CodePoint → (shown : List Char) → List CodePoint
  | [], _ => []
  | p :: rest, shown =>
    (match p with
      | .char c => (form before c (shown.drop 1)).map CodePoint.char
      | .half place => [.half place]) ++ casePoints form (p.shown :: before) rest (shown.drop 1)

def lower (t : RawText) : RawText := ⟨casePoints Text.lowerWithin [] t.points t.chars⟩

def title (t : RawText) : RawText := ⟨casePoints Text.titleWithin [] t.points t.chars⟩

/-- A code point as it stands between quotes of the given kind. -/
def quotedPoint (quote : Char) : CodePoint → List Char
  | .char c => Text.quotedChar quote c
  | .half place => Text.numberEscape (0xD800 + place.val)

def quoted (t : RawText) : String :=
  let quote := Text.quoteFor t.chars
  String.ofList (quote :: t.points.flatMap (quotedPoint quote) ++ [quote])

theorem numbers_injective {s t : RawText} (h : s.numbers = t.numbers) : s = t :=
  RawText.ext ((List.map_inj_right fun _ _ => CodePoint.number_injective).1 h)

instance : @Std.Asymm RawText (· < ·) := ⟨fun _ _ h => List.lt_asymm h⟩

protected theorem lt_trans {s t u : RawText} (h : s < t) (h' : t < u) : s < u := List.lt_trans h h'

protected theorem eq_of_not_lt {s t : RawText} (h : ¬s < t) (h' : ¬t < s) : s = t :=
  numbers_injective (List.le_antisymm (List.not_lt.1 h') (List.not_lt.1 h))

theorem chars_ofString (s : String) : (ofString s).chars = s.toList := by
  simp only [chars, ofString, List.map_map]
  exact List.map_id' s.toList

@[simp] theorem shown_ofString (s : String) : (ofString s).shown = s := by simp [shown, chars_ofString]

@[simp] theorem string?_ofString (s : String) : (ofString s).string? = some s := by
  have h (l : List Char) : (l.map CodePoint.char).mapM CodePoint.char? = some l := by
    induction l with
    | nil => rfl
    | cons c rest ih => simp [CodePoint.char?, ih]
  simp [string?, ofString, h]

theorem ofString_injective {s t : String} (h : ofString s = ofString t) : s = t := by
  rw [← shown_ofString s, h, shown_ofString]

@[simp] theorem ofString_inj {s t : String} : ofString s = ofString t ↔ s = t :=
  ⟨ofString_injective, congrArg ofString⟩

@[simp] theorem points_ofString (s : String) : (ofString s).points = s.toList.map .char := rfl

@[simp] theorem points_append (s t : RawText) : (s ++ t).points = s.points ++ t.points := rfl

protected theorem append_assoc (s t u : RawText) : s ++ t ++ u = s ++ (t ++ u) := RawText.ext (List.append_assoc _ _ _)

@[simp] theorem empty_append (t : RawText) : ofString "" ++ t = t := rfl

@[simp] theorem append_empty (t : RawText) : t ++ ofString "" = t := RawText.ext (List.append_nil _)

@[simp] theorem append_eq_empty_iff {s t : RawText} :
    s ++ t = ofString "" ↔ s = ofString "" ∧ t = ofString "" := by
  simp only [RawText.ext_iff]
  exact List.append_eq_nil_iff

@[simp] theorem intercalate_singleton (between t : RawText) : intercalate between [t] = t := by
  refine RawText.ext ?_
  rw [intercalate, List.map_singleton, List.intercalate_singleton]

theorem intercalate_cons_cons (between first next : RawText) (rest : List RawText) :
    intercalate between (first :: next :: rest) = first ++ between ++ intercalate between (next :: rest) :=
  RawText.ext List.intercalate_cons_cons

theorem intercalate_concat (between : RawText) (parts : List RawText) (last : RawText) :
    intercalate between (parts ++ [last]) = intercalate between (parts ++ [ofString ""]) ++ last := by
  induction parts with
  | nil => simp
  | cons part rest ih =>
    cases rest with
    | nil => simp [intercalate_cons_cons]
    | cons next rest =>
      simp only [List.cons_append, intercalate_cons_cons] at ih ⊢
      rw [ih, ← RawText.append_assoc]

theorem ofString_append (s t : String) : ofString (s ++ t) = ofString s ++ ofString t :=
  RawText.ext (by rw [points_append, points_ofString, String.toList_append, List.map_append]; rfl)

theorem isEmpty_eq (t : RawText) : t.isEmpty = decide (t = ofString "") := by
  rw [Bool.eq_iff_iff, decide_eq_true_iff, isEmpty, List.isEmpty_iff, RawText.ext_iff]
  rfl

theorem trim_ofString (s : String) : (ofString s).trim = ofString (Text.trim s) := by
  have hdrop (cs : List Char) : (cs.map CodePoint.char).dropWhile isBlank =
      (cs.dropWhile Text.isBlank).map CodePoint.char := List.dropWhile_map
  refine RawText.ext ?_
  rw [points_ofString, Text.trim, String.toList_ofList, List.map_reverse, ← hdrop, List.map_reverse, ← hdrop]
  rfl

end RawText

end ManifestGrading
