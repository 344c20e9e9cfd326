import ManifestGrading.Number.Shortest
import ManifestGrading.Value.Basic
import ManifestGrading.Value.Fault
import ManifestGrading.Value.Slots

/-! The text of a value. A text stands for itself where it is the whole value and is quoted where it is
part of another one; collections show their parts in order, and three dots where they are parts of
themselves. An integer of too many digits has no text, and so has no value that shows it; nor has one that is nested
deeper than calls may be. -/

namespace ManifestGrading.Value

/-- Decimals are written positionally from `0.0001` up to sixteen digits before the point. -/
def decimals : Decimal.Layout := ⟨-3, 16, 2⟩

def integerText (n : Int) : Except Fault String := (Number.writeInteger n).mapError .integer

def inBrackets (s : String) : String := "[" ++ s ++ "]"

def inBraces (s : String) : String := "\x7b" ++ s ++ "\x7d"

def tupleText : List String → String
  | [part] => "(" ++ part ++ ",)"
  | parts => "(" ++ ", ".intercalate parts ++ ")"

def setText (parts : List String) : String :=
  if parts.isEmpty then "set()" else inBraces (", ".intercalate parts)

/-- The text of a value whose parts have the texts that `part` says. -/
def textOf (part : Value → Except Fault String) : Value → Except Fault String
  | null => .ok "None"
  | bool b => .ok (if b then "True" else "False")
  | int n => integerText n
  | float x => .ok (decimals.text x)
  | text s => .ok s.quoted
  | bytes b => .ok (Text.quotedBytes b)
  | date d => .ok d.expression
  | instant t => .ok t.expression
  | list items => (items.mapM part).map fun parts => inBrackets (", ".intercalate parts)
  | tuple items => (items.mapM part).map tupleText
  | set members => (members.mapM part).map fun parts => setText (inShownOrder members parts)
  | map entries =>
    (entries.mapM fun (e : Value × Value) => do return (← part e.1) ++ ": " ++ (← part e.2)).map
      fun parts => inBraces (", ".intercalate parts)
  | knot _ _ | cell _ => .ok "..."

/-- The text of a cell where it stands within itself. -/
def againText : Value → String
  | list _ => inBrackets "..."
  | map _ => inBraces "..."
  | _ => "..."

/-- The text of a value as a part of the cells at the places `within`. Every part takes a further call. -/
def textWithin (cells : List Value) : (calls : Nat) → (within : List Nat) → Value → Except Fault String
  | 0, _, _ => .error .tooDeep
  | calls + 1, within, v =>
    match v with
    | cell place =>
      let held := cells.getD place null
      if place ∈ within then .ok (againText held) else textOf (textWithin cells calls (place :: within)) held
    | v => textOf (textWithin cells calls within) v

/-- How many calls may be nested in a walk through a value. A thousand calls may be nested in all, and those around a
walk take some of them. -/
def callLimit : Nat := 985

/-- The text of a value as a part of another one. -/
def expression : Value → Except Fault String
  | knot cells root => textWithin cells callLimit [] (cell root)
  | v => textWithin [] callLimit [] v

/-- The text of a value that stands alone. -/
def display : Value → Except Fault RawText
  | text s => .ok s
  | date d => .ok d.text
  | instant t => .ok (t.text " ")
  | v => (expression v).map RawText.ofString

def HasNoText (v : Value) : Prop := ∃ fault, v.display = .error fault

theorem display_text (s : RawText) : (text s).display = .ok s := rfl

end ManifestGrading.Value
