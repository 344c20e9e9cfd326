import ManifestGrading.Yaml.TimeText

/-! The kinds of nodes. A plain scalar without a tag has the kind that its look says: a truth value, a
number, a time, nothing, the sign of a merge or of a default value, and a text otherwise. -/

namespace ManifestGrading.Yaml

/-- A kind of node. -/
inductive Tag where
  | null
  | bool
  | int
  | float
  | binary
  | timestamp
  | str
  | seq
  | map
  | set
  | omap
  | pairs
  | merge
  | value
  | other
  deriving Repr, DecidableEq

namespace Tag

/-- What the full names of the kinds of the language itself start with. -/
def ownStart : String := "tag:yaml.org,2002:"

/-- The kinds that a document may name. -/
def names : List (String × Tag) :=
  [("null", null), ("bool", bool), ("int", int), ("float", float), ("binary", binary),
   ("timestamp", timestamp), ("str", str), ("seq", seq), ("map", map), ("set", set), ("omap", omap),
   ("pairs", pairs), ("merge", merge), ("value", value)]

/-- The kind with a full name. -/
def ofName (name : String) : Tag :=
  ((names.find? fun n => ownStart ++ n.1 = name).map Prod.snd).getD other

end Tag

/-- The words for a truth value in lower case. -/
def truths : List (String × Bool) :=
  [("yes", true), ("no", false), ("true", true), ("false", false), ("on", true), ("off", false)]

def capitalized (word : String) : String :=
  match word.toList with
  | [] => ""
  | c :: rest => String.ofList (c.toUpper :: rest)

/-- Whether a text is a word in lower case, in upper case or with a capital first letter. -/
def isSpelling (word text : String) : Bool :=
  text = word || text = capitalized word || text = String.ofList (word.toList.map Char.toUpper)

def isDigitOrBar (c : Char) : Bool := Text.isAsciiDigit c || c = '_'

/-- Groups of at most two digits below sixty, a colon before each, and what follows. -/
def sixties : List Char → List Char
  | ':' :: a :: b :: rest =>
    if '0' ≤ a && a ≤ '5' && Text.isAsciiDigit b then sixties rest
    else if Text.isAsciiDigit a then sixties (b :: rest)
    else ':' :: a :: b :: rest
  | [':', a] => if Text.isAsciiDigit a then [] else [':', a]
  | cs => cs
termination_by cs => cs.length

/-- Whether a text without a sign is an integer by its look. -/
def isWholeText : List Char → Bool
  | '0' :: 'b' :: rest => !rest.isEmpty && rest.all fun c => c = '0' || c = '1' || c = '_'
  | '0' :: 'x' :: rest => !rest.isEmpty && rest.all fun c => (Text.hexValue? c).isSome || c = '_'
  | '0' :: rest => rest.all fun c => ('0' ≤ c && c ≤ '7') || c = '_'
  | c :: rest => '1' ≤ c && c ≤ '9' && (sixties (rest.dropWhile isDigitOrBar)).isEmpty
  | [] => false

/-- Whether a text is the exponent of a decimal, which needs a sign, or empty. -/
def isExponentText : List Char → Bool
  | [] => true
  | [_] => false
  | mark :: sign :: ds =>
    (mark = 'e' || mark = 'E') && (sign = '-' || sign = '+') && !ds.isEmpty && ds.all Text.isAsciiDigit

/-- Whether what follows the whole digits makes a text a decimal: a point, digits and an exponent, or groups
below sixty before a point and digits. -/
def isFractionText : List Char → Bool
  | '.' :: rest => isExponentText (rest.dropWhile isDigitOrBar)
  | ':' :: rest =>
    let after := sixties (':' :: rest)
    after.head? = some '.' && (after.drop 1).all isDigitOrBar
  | _ => false

/-- Whether a text with or without a sign is a decimal by its look. -/
def isDecimalText (isSigned : Bool) : List Char → Bool
  | '.' :: rest =>
    isSpelling "inf" (String.ofList rest) ||
      (!isSigned && (rest = "nan".toList || rest = "NaN".toList || rest = "NAN".toList ||
        (startsWith Text.isAsciiDigit rest && isExponentText (rest.dropWhile isDigitOrBar))))
  | c :: rest => Text.isAsciiDigit c && isFractionText (rest.dropWhile isDigitOrBar)
  | [] => false

/-- The kind of a plain scalar by its look. -/
def plainTag (text : String) : Tag :=
  let cs := withoutFinalBreak text.toList
  let word := String.ofList cs
  let isSigned := startsWith (fun c => c = '-' || c = '+') cs
  let unsigned := if isSigned then cs.drop 1 else cs
  if text = "" then .null
  else if truths.any fun t => isSpelling t.1 word then .bool
  else if isDecimalText isSigned unsigned then .float
  else if isWholeText unsigned then .int
  else if word = "<<" then .merge
  else if word = "~" || isSpelling "null" word then .null
  else if isTimeText text.toList then .timestamp
  else if word = "=" then .value
  else .str

end ManifestGrading.Yaml
