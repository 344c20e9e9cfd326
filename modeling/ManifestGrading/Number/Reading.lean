import ManifestGrading.Number.Binary64
import ManifestGrading.Text.Digit
import ManifestGrading.Text.Raw

/-! Numbers written as text. Blanks may surround them, digits may be those of any script, and a single
underscore may stand between two digits. An integer may carry the mark of its base, a fraction may have
an exponent or be one of the words for infinity and for no number. -/

namespace ManifestGrading.Number

/-- A blank around a number; of the ASCII characters the separators `U+001C`–`U+001F` are none. -/
def isMargin (c : Char) : Bool :=
  if c.toNat < 0x80 then c = ' ' || (0x09 ≤ c.toNat && c.toNat ≤ 0x0D) else Text.isBlank c

/-- A text without the blanks around it. -/
def withoutMargins (cs : List Char) : List Char :=
  ((cs.dropWhile isMargin).reverse.dropWhile isMargin).reverse

/-- The value of a digit in a base. -/
def digit? (base : Nat) (c : Char) : Option Nat :=
  let value := if c.toNat < 0x80 then Text.hexValue? c else Text.digitValue? c
  value.filter (· < base)

/-- A sign and what follows it. -/
def signed : List Char → Bool × List Char
  | '-' :: rest => (true, rest)
  | '+' :: rest => (false, rest)
  | cs => (false, cs)

/-- The digits at the start of a text with single underscores between them, and the rest; `after` says
whether a digit stands before. None if a digit is missing. -/
def digitRun? (base : Nat) (after : Bool) : List Char → Option (List Nat × List Char)
  | [] => if after then some ([], []) else none
  | c :: rest =>
    if c = '_' then
      if after then digitRun? base false rest else none
    else match digit? base c with
      | some d => (digitRun? base true rest).map fun r => (d :: r.1, r.2)
      | none => if after then some ([], c :: rest) else none

def ofDigits (base : Nat) (ds : List Nat) : Nat := ds.foldl (fun n d => n * base + d) 0

/-- The letter that marks a base after a zero. -/
def baseMark? : Nat → Option Char
  | 2 => some 'b'
  | 8 => some 'o'
  | 16 => some 'x'
  | _ => none

/-- A text without the mark of the base and one underscore behind it. -/
def withoutMark (base : Nat) : List Char → List Char
  | '0' :: c :: rest =>
    if baseMark? base = some c.toLower then
      match rest with
      | '_' :: digits => digits
      | digits => digits
    else '0' :: c :: rest
  | cs => cs

/-- Why a text is no integer, or an integer has no text. -/
inductive IntegerFault where
  | malformed (base : Nat) (text : RawText)
  | tooLong (digits : Nat)
  | unwritable
  deriving Repr, DecidableEq

/-- The most digits that a decimal integer may have where it is read or written. -/
def digitLimit : Nat := 4300

/-- The most characters of a quoted text that a message about it shows. -/
def shownLimit : Nat := 200

def IntegerFault.message : IntegerFault → String
  | .malformed base text =>
    "invalid literal for int() with base " ++ toString base ++ ": " ++
      String.ofList (text.quoted.toList.take shownLimit)
  | .tooLong digits =>
    "Exceeds the limit (" ++ toString digitLimit ++ " digits) for integer string conversion: value has " ++
      toString digits ++ " digits; use sys.set_int_max_str_digits() to increase the limit"
  | .unwritable =>
    "Exceeds the limit (" ++ toString digitLimit ++
      " digits) for integer string conversion; use sys.set_int_max_str_digits() to increase the limit"

/-- The decimal text of an integer. -/
def writeInteger (n : Int) : Except IntegerFault String :=
  if n.natAbs < Nat.pow 10 digitLimit then .ok (toString n) else .error .unwritable

/-- The integer that a text stands for in a base. -/
def readInteger (base : Nat) (text : RawText) : Except IntegerFault Int :=
  let (negative, cs) := signed (text.chars.dropWhile isMargin)
  match digitRun? base false (withoutMark base cs) with
  | none => .error (.malformed base text)
  | some (ds, rest) =>
    if base = 10 ∧ digitLimit < ds.length then .error (.tooLong ds.length)
    else if rest.all isMargin then
      .ok (if negative then -(ofDigits base ds : Int) else ofDigits base ds)
    else .error (.malformed base text)

/-- A text in which every decimal digit is the ASCII one of its value. -/
def asciiDigits (cs : List Char) : List Char :=
  cs.map fun c =>
    if c.toNat < 0x80 then c
    else match Text.digitValue? c with
      | some d => Char.ofNat ('0'.toNat + d)
      | none => c

/-- A text without its underscores, each of which stands between two digits. -/
def withoutUnderscores? (before : Option Char) : List Char → Option (List Char)
  | [] => if before = some '_' then none else some []
  | c :: rest =>
    if c = '_' then
      if before.any Text.isAsciiDigit then withoutUnderscores? (some c) rest else none
    else if before = some '_' ∧ !Text.isAsciiDigit c then none
    else (withoutUnderscores? (some c) rest).map (c :: ·)

/-- The value of a run of ASCII digits. -/
def digitsValue (cs : List Char) : Nat := ofDigits 10 (cs.map fun c => c.toNat - '0'.toNat)

/-- The exponent of a decimal, which ends the text. -/
def exponent? : List Char → Option Int
  | [] => some 0
  | mark :: rest =>
    if mark = 'e' ∨ mark = 'E' then
      let (negative, ds) := signed rest
      if ds ≠ [] ∧ ds.all Text.isAsciiDigit then
        some (if negative then -(digitsValue ds : Int) else digitsValue ds)
      else none
    else none

/-- A decimal without a sign: digits with a point among, before or behind them, and an exponent. -/
def decimal? (negative : Bool) (cs : List Char) : Option Binary64 :=
  let whole := cs.takeWhile Text.isAsciiDigit
  let rest := cs.dropWhile Text.isAsciiDigit
  let (fraction, rest) := match rest with
    | '.' :: more => (more.takeWhile Text.isAsciiDigit, more.dropWhile Text.isAsciiDigit)
    | other => ([], other)
  if whole = [] ∧ fraction = [] then none
  else (exponent? rest).map fun e => Binary64.ofDecimal negative (digitsValue (whole ++ fraction)) (e - fraction.length)

/-- The number that a text stands for. -/
def readDecimal? (text : RawText) : Option Binary64 := do
  let cs ← withoutUnderscores? none (asciiDigits (withoutMargins text.chars))
  let (negative, cs) := signed cs
  let word := String.ofList (cs.map Char.toLower)
  if word = "inf" ∨ word = "infinity" then return .infinite negative
  else if word = "nan" then return Binary64.fresh
  else decimal? negative cs

end ManifestGrading.Number
