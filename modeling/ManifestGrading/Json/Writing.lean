import ManifestGrading.Text.Digit
import ManifestGrading.Value.Text

/-! The writing of JSON, on one line or with an indented line for every item and member. Characters beyond
ASCII stand for themselves, and so do halves of pairs; of the others the quote, the backslash and the controls are
escaped. Empty collections are written without a line break. -/

namespace ManifestGrading.Json

/-- A character within a text. -/
def escapedChar (c : Char) : List Char :=
  if c = '"' then ['\\', '"']
  else if c = '\\' then ['\\', '\\']
  else if c = '\n' then ['\\', 'n']
  else if c = '\r' then ['\\', 'r']
  else if c = '\t' then ['\\', 't']
  else if c = '\x08' then ['\\', 'b']
  else if c = '\x0C' then ['\\', 'f']
  else if c.toNat < 0x20 then '\\' :: 'u' :: Text.hexDigits 4 c.toNat
  else [c]

def escapedPoint : CodePoint → List CodePoint
  | .char c => (escapedChar c).map CodePoint.char
  | .half place => [.half place]

def quoted (t : RawText) : RawText :=
  RawText.ofString "\"" ++ ⟨t.points.flatMap escapedPoint⟩ ++ RawText.ofString "\""

def fraction : Binary64 → String
  | .nan _ => "NaN"
  | .infinite negative => if negative then "-Infinity" else "Infinity"
  | x => Value.decimals.text x

/-- The text of a value as far as there is one. -/
def textOf (v : Value) : RawText := v.display.toOption.getD ""

/-- A value that is no collection; one without a form of its own is written as its text. -/
def atom : Value → RawText
  | .null => "null"
  | .bool b => RawText.ofString (if b then "true" else "false")
  | .int n => toString n
  | .float x => fraction x
  | .text s => quoted s
  | v => quoted (textOf v)

/-- The separators of a layout: `between` items, after a name, and the breaks that open and close a
collection at a depth. -/
structure Style where
  between : String
  afterName : String
  lineBreak : Nat → String

/-- Everything on one line. -/
def compact : Style := ⟨",", ":", fun _ => ""⟩

/-- Every item and member on a line of its own, two columns deeper than its collection. -/
def indented : Style := ⟨",", ": ", fun depth => String.ofList ('\n' :: List.replicate (2 * depth) ' ')⟩

/-- The texts of what a collection at a depth holds, between the signs that open and close it. -/
def Style.enclosed (style : Style) (depth : Nat) (opening closing : String) (parts : List RawText) : RawText :=
  RawText.ofString (opening ++ style.lineBreak (depth + 1)) ++
    RawText.intercalate (RawText.ofString (style.between ++ style.lineBreak (depth + 1))) parts ++
    RawText.ofString (style.lineBreak depth ++ closing)

mutual

def Style.writeAt (style : Style) (depth : Nat) : Value → RawText
  | .list items =>
    if items.isEmpty then "[]" else style.enclosed depth "[" "]" (style.writeItems (depth + 1) items)
  | .map entries =>
    if entries.isEmpty then "\x7b\x7d"
    else style.enclosed depth "\x7b" "\x7d" (style.writeMembers (depth + 1) entries)
  | v => atom v

def Style.writeItems (style : Style) (depth : Nat) : List Value → List RawText
  | [] => []
  | v :: rest => style.writeAt depth v :: style.writeItems depth rest

def Style.writeMembers (style : Style) (depth : Nat) : List (Value × Value) → List RawText
  | [] => []
  | (k, v) :: rest =>
    (quoted (textOf k) ++ RawText.ofString style.afterName ++ style.writeAt depth v) :: style.writeMembers depth rest

end

def Style.write (style : Style) (v : Value) : RawText := style.writeAt 0 v

end ManifestGrading.Json
