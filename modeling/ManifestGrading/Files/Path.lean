import ManifestGrading.Text.LetterCase

/-! Paths. A path is a sequence of names; empty names and single dots do not count, double dots stay as they
are. Paths with a common start are ordered by their names from left to right. -/

namespace ManifestGrading

/-- A path; `root` is empty for a path that starts at the current directory. -/
structure Path where
  root : String
  parts : List String
  deriving Repr, DecidableEq

namespace Path

/-- The slashes that a path starts with as they count: exactly two differ from one and from more. -/
def rootOf (cs : List Char) : String :=
  match (cs.takeWhile (· = '/')).length with
  | 0 => ""
  | 2 => "//"
  | _ => "/"

def ofText (s : String) : Path :=
  ⟨rootOf s.toList, ((s.toList.splitOn '/').map String.ofList).filter fun p => p != "" && p != "."⟩

def text (p : Path) : String :=
  if p.root = "" ∧ p.parts = [] then "." else p.root ++ "/".intercalate p.parts

/-- Whether no file can have the path as its name, because there is a null character in it. -/
def isUnnamable (p : Path) : Bool := p.text.toList.contains '\x00'

def append (p : Path) (names : List String) : Path := { p with parts := p.parts ++ names }

/-- The path of the directory that holds a path; the start of all paths holds itself. -/
def parent (p : Path) : Path := { p with parts := p.parts.dropLast }

/-- The part of a name from its last dot on, unless that is the first or the last character. -/
def suffix (name : String) : String :=
  let cs := name.toList
  let behind := (cs.reverse.takeWhile (· != '.')).reverse
  if cs.contains '.' && !behind.isEmpty && behind.length + 1 < cs.length then String.ofList ('.' :: behind)
  else ""

/-- Whether names come before other ones or are the same, compared from left to right. -/
def namesBefore : List String → List String → Bool
  | [], _ => true
  | _ :: _, [] => false
  | a :: rest, b :: other => a < b || (a = b && namesBefore rest other)

end Path

end ManifestGrading
