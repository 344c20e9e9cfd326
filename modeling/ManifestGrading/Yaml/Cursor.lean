/-! A place in a text that is read from left to right: what is left of the text, how many characters stand
before, and the line and column. Five characters end a line; a carriage return before a line feed ends it
together with it. -/

namespace ManifestGrading.Yaml

/-- A character that ends a line. -/
def isBreak (c : Char) : Bool :=
  c = '\n' || c = '\r' || c = '\u0085' || c = '\u2028' || c = '\u2029'

/-- A space, a tab or the end of a line. -/
def isGap (c : Char) : Bool := c = ' ' || c = '\t' || isBreak c

/-- A letter, digit, hyphen or underscore of ASCII. -/
def isWordChar (c : Char) : Bool := c.isAlphanum || c = '-' || c = '_'

/-- Whether a text has ended or goes on with a character of a class. -/
def endsOr (p : Char → Bool) : List Char → Bool
  | [] => true
  | c :: _ => p c

/-- Whether a text goes on with a character of a class. -/
def startsWith (p : Char → Bool) : List Char → Bool
  | [] => false
  | c :: _ => p c

/-- Whether a line starts with the mark between documents or the one behind a document. -/
def atDocumentMark : List Char → Bool
  | '-' :: '-' :: '-' :: rest => endsOr isGap rest
  | '.' :: '.' :: '.' :: rest => endsOr isGap rest
  | _ => false

/-- A place in a text. -/
structure Cursor where
  rest : List Char
  index : Nat
  line : Nat
  column : Nat
  deriving Repr

namespace Cursor

def start (cs : List Char) : Cursor := ⟨cs, 0, 0, 0⟩

/-- The next place. A byte order mark takes no column. -/
def next (c : Cursor) : Cursor :=
  match c.rest with
  | [] => c
  | ch :: rest =>
    if isBreak ch && !(ch = '\r' && startsWith (· = '\n') rest) then ⟨rest, c.index + 1, c.line + 1, 0⟩
    else if ch = '\uFEFF' then ⟨rest, c.index + 1, c.line, c.column⟩
    else ⟨rest, c.index + 1, c.line, c.column + 1⟩

/-- The place some characters further on. -/
def advance (c : Cursor) : Nat → Cursor
  | 0 => c
  | n + 1 => c.next.advance n

/-- The place behind the characters of a class. -/
def skip (c : Cursor) (p : Char → Bool) : Cursor := c.advance (c.rest.takeWhile p).length

/-- The character of a class at a place, and the place behind it. -/
def takeWhile (c : Cursor) (p : Char → Bool) : List Char × Cursor :=
  let taken := c.rest.takeWhile p
  (taken, c.advance taken.length)

/-- The end of a line as it counts in a scalar, and the place behind it. -/
def lineBreak? (c : Cursor) : Option (Char × Cursor) :=
  match c.rest with
  | '\r' :: '\n' :: _ => some ('\n', c.advance 2)
  | ch :: _ =>
    if ch = '\n' || ch = '\r' || ch = '\u0085' then some ('\n', c.next)
    else if isBreak ch then some (ch, c.next)
    else none
  | [] => none

def skipComment (c : Cursor) : Cursor :=
  let c := c.skip (· = ' ')
  if startsWith (· = '#') c.rest then c.skip (!isBreak ·) else c

end Cursor

end ManifestGrading.Yaml
