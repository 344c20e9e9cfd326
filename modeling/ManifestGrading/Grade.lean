import ManifestGrading.Text.Blank
import ManifestGrading.Text.LetterCase
import ManifestGrading.Value.Key
import ManifestGrading.Value.Text

/-! The scale on which resources are graded. The four grades are ordered by their values, the most severe
one first, and a group of grades is as bad as its worst member. -/

namespace ManifestGrading

/-- A verdict on the health of a resource. -/
inductive Grade where
  | critical
  | warning
  | almostOk
  | allOk
  deriving Repr, DecidableEq, Inhabited

inductive GradeFault where
  | notAGrade (expression : String)
  | unknown (text : RawText)
  | value (fault : Value.Fault)
  deriving Repr, DecidableEq

def GradeFault.message : GradeFault → String
  | .notAGrade expression => expression ++ " is not a valid Grade"
  | .unknown text => "Unknown grade: " ++ text.quoted
  | .value fault => fault.message

namespace Grade

/-- All grades, the most severe one first. -/
def all : List Grade := [critical, warning, almostOk, allOk]

/-- The place of a grade on the scale. -/
def value : Grade → Nat
  | critical => 1
  | warning => 5
  | almostOk => 7
  | allOk => 10

def name : Grade → String
  | critical => "CRITICAL"
  | warning => "WARNING"
  | almostOk => "ALMOST_OK"
  | allOk => "ALL_OK"

def hyphenated : Grade → String
  | critical => "CRITICAL"
  | warning => "WARNING"
  | almostOk => "ALMOST-OK"
  | allOk => "ALL-OK"

/-- The word for a grade in readable text. -/
def label : Grade → String
  | critical => "CRITICAL"
  | warning => "WARNING"
  | almostOk => "~ OK"
  | allOk => "OK"

def glyph : Grade → String
  | critical => "💥"
  | warning => "⚠️"
  | almostOk => "🔊"
  | allOk => "💚"

inductive Color where
  | red
  | yellow
  | green
  deriving Repr, DecidableEq

def Color.name : Color → String
  | .red => "red"
  | .yellow => "yellow"
  | .green => "green"

def color : Grade → Color
  | critical => .red
  | warning => .yellow
  | almostOk => .yellow
  | allOk => .green

instance : LE Grade := ⟨fun a b => a.value ≤ b.value⟩

instance (a b : Grade) : Decidable (a ≤ b) := inferInstanceAs (Decidable (a.value ≤ b.value))

theorem le_refl (a : Grade) : a ≤ a := Nat.le_refl a.value

theorem le_trans {a b c : Grade} (hab : a ≤ b) (hbc : b ≤ c) : a ≤ c := Nat.le_trans hab hbc

theorem le_total (a b : Grade) : a ≤ b ∨ b ≤ a := Nat.le_total a.value b.value

theorem le_allOk (a : Grade) : a ≤ allOk := by cases a <;> decide

theorem value_injective {a b : Grade} (h : a.value = b.value) : a = b := by
  cases a <;> cases b <;> simp_all [value]

theorem le_antisymm {a b : Grade} (hab : a ≤ b) (hba : b ≤ a) : a = b :=
  value_injective (Nat.le_antisymm hab hba)

theorem mem_all (g : Grade) : g ∈ all := by cases g <;> decide

def worse (a b : Grade) : Grade := if a ≤ b then a else b

/-- The most severe of several grades; where there is none, all is well. -/
def worst : List Grade → Grade
  | [] => allOk
  | g :: rest => worse g (worst rest)

theorem worse_le_left (a b : Grade) : worse a b ≤ a := by
  unfold worse
  split
  · exact le_refl a
  · rename_i h
    exact (le_total a b).resolve_left h

theorem worse_le_right (a b : Grade) : worse a b ≤ b := by
  unfold worse
  split
  · assumption
  · exact le_refl b

theorem le_worse {a b c : Grade} (hb : a ≤ b) (hc : a ≤ c) : a ≤ worse b c := by
  unfold worse
  split <;> assumption

theorem worst_le {g : Grade} {gs : List Grade} (h : g ∈ gs) : worst gs ≤ g := by
  induction gs with
  | nil => cases h
  | cons a rest ih =>
    cases h with
    | head => exact worse_le_left g (worst rest)
    | tail _ h => exact le_trans (worse_le_right a (worst rest)) (ih h)

theorem le_worst_iff {g : Grade} {gs : List Grade} : g ≤ worst gs ↔ ∀ a ∈ gs, g ≤ a := by
  constructor
  · exact fun h a ha => le_trans h (worst_le ha)
  · intro h
    induction gs with
    | nil => exact le_allOk g
    | cons a rest ih => exact le_worse (h a (by simp)) (ih fun b hb => h b (by simp [hb]))

/-- The grade with a value; numbers of every kind that are equal to it count. -/
def ofValue (v : Value) : Except GradeFault Grade :=
  match all.find? fun g => v.sameKey (.int g.value) with
  | some g => .ok g
  | none =>
    match v.expression with
    | .ok expression => .error (.notAGrade expression)
    | .error fault => .error (.value fault)

def toValue (g : Grade) : Value := .int g.value

theorem ofValue_toValue (g : Grade) : ofValue g.toValue = .ok g := by cases g <;> rfl

/-- A text in capitals that names a grade: its name, with underscores or with hyphens, or its label. -/
def isSpelledBy (g : Grade) (capitals : String) : Bool :=
  capitals = g.name || capitals = g.hyphenated || capitals = g.label

/-- The capitals of a text without the blanks around it; none for a text with a half of a pair in it. -/
def capitalsOf (text : RawText) : Option String := text.string?.map fun s => Text.upper (Text.trim s)

/-- The grade that a text names. Blanks around the name and the case of letters do not count. -/
def parse (text : RawText) : Except GradeFault Grade :=
  match all.find? fun g => (capitalsOf text).any g.isSpelledBy with
  | some g => .ok g
  | none => .error (.unknown text)

theorem eq_of_isSpelledBy {a b : Grade} {s : String} (ha : a.isSpelledBy s) (hb : b.isSpelledBy s) : a = b := by
  simp only [isSpelledBy, Bool.or_eq_true, decide_eq_true_eq] at ha hb
  cases a <;> cases b <;> first | rfl | (rcases ha with (rfl | rfl) | rfl <;> simp [name, hyphenated, label] at hb)

end Grade

end ManifestGrading
