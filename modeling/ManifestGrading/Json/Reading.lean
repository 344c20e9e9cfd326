import ManifestGrading.Number.Reading
import ManifestGrading.Value.Key

/-! The reading of JSON. The words `NaN`, `Infinity` and `-Infinity` are numbers, the last of several
members with one name counts, and a text that is no JSON is refused with the first thing that is missing or
out of place. Two numbered escapes that are the halves of a pair stand for one character. Collections may be
nested up to a limit. -/

namespace ManifestGrading.Json

inductive Fault where
  | mark
  | value
  | extra
  | name
  | colon
  | comma
  | openText
  | control
  | escape
  | unicodeEscape
  | integer (fault : Number.IntegerFault)
  | deepList
  | deepObject
  deriving Repr, DecidableEq

def Fault.message : Fault → String
  | mark => "Unexpected UTF-8 BOM (decode using utf-8-sig)"
  | value => "Expecting value"
  | extra => "Extra data"
  | name => "Expecting property name enclosed in double quotes"
  | colon => "Expecting ':' delimiter"
  | comma => "Expecting ',' delimiter"
  | openText => "Unterminated string starting at"
  | control => "Invalid control character at"
  | escape => "Invalid \\escape"
  | unicodeEscape => "Invalid \\uXXXX escape"
  | integer fault => fault.message
  | deepList => "maximum recursion depth exceeded while decoding a JSON array from a unicode string"
  | deepObject => "maximum recursion depth exceeded while decoding a JSON object from a unicode string"

/-- The blanks between the parts of a text. -/
def isGap (c : Char) : Bool := c = ' ' || c = '\t' || c = '\n' || c = '\r'

/-- A text from its first part on. -/
def skipGaps (cs : List Char) : List Char := cs.dropWhile isGap

/-- The value of four hexadecimal digits. -/
def fourDigits? (a b c d : Char) : Option Nat := do
  let a ← Text.hexValue? a
  let b ← Text.hexValue? b
  let c ← Text.hexValue? c
  let d ← Text.hexValue? d
  return ((a * 16 + b) * 16 + c) * 16 + d

/-- The character that a letter behind a backslash stands for. -/
def escaped? : Char → Option Char
  | '"' => some '"'
  | '\\' => some '\\'
  | '/' => some '/'
  | 'b' => some '\x08'
  | 'f' => some '\x0C'
  | 'n' => some '\n'
  | 'r' => some '\r'
  | 't' => some '\t'
  | _ => none

/-- The code points of a text up to its closing quote, and what follows. A numbered escape needs a
character behind it, and one that names the first half of a pair is read together with the next. -/
def textBody : List Char → Except Fault (List Nat × List Char)
  | [] => .error .openText
  | '"' :: rest => .ok ([], rest)
  | ['\\'] => .error .openText
  | '\\' :: 'u' :: a :: b :: c :: d :: e :: rest =>
    match fourDigits? a b c d with
    | none => .error .unicodeEscape
    | some n =>
      match CodePoint.isHighHalf n, e, rest with
      | true, '\\', 'u' :: p :: q :: r :: s :: _ :: _ =>
        if (fourDigits? p q r s).isNone then .error .unicodeEscape
        else (textBody (e :: rest)).map fun t => (n :: t.1, t.2)
      | _, _, _ => (textBody (e :: rest)).map fun t => (n :: t.1, t.2)
  | '\\' :: 'u' :: _ => .error .unicodeEscape
  | '\\' :: c :: rest =>
    match escaped? c with
    | none => .error .escape
    | some c => (textBody rest).map fun t => (c.toNat :: t.1, t.2)
  | c :: rest =>
    if c.toNat < 0x20 then .error .control
    else (textBody rest).map fun t => (c.toNat :: t.1, t.2)

/-- A text behind its opening quote, and what follows. -/
def text (cs : List Char) : Except Fault (RawText × List Char) :=
  (textBody cs).map fun t => (.ofNumbers (CodePoint.joinPairs t.1), t.2)

/-- The whole digits of a number, and what follows. -/
def wholeDigits? : List Char → Option (List Char × List Char)
  | '0' :: rest => some (['0'], rest)
  | c :: rest =>
    if '1' ≤ c && c ≤ '9' then some (c :: rest.takeWhile Text.isAsciiDigit, rest.dropWhile Text.isAsciiDigit)
    else none
  | [] => none

/-- The digits behind a point, if there are any, and what follows. -/
def fractionDigits? : List Char → Option (List Char × List Char)
  | '.' :: rest =>
    if rest.head?.any Text.isAsciiDigit then
      some (rest.takeWhile Text.isAsciiDigit, rest.dropWhile Text.isAsciiDigit)
    else none
  | _ => none

/-- An exponent, if there is one, and what follows. -/
def exponent? : List Char → Option (Int × List Char)
  | [] => none
  | c :: rest =>
    if c = 'e' || c = 'E' then
      let (negative, rest) := Number.signed rest
      let ds := rest.takeWhile Text.isAsciiDigit
      if ds.isEmpty then none
      else
        let n : Int := Number.digitsValue ds
        some (if negative then -n else n, rest.dropWhile Text.isAsciiDigit)
    else none

/-- A number behind its sign, and what follows. -/
def number (negative : Bool) (cs : List Char) : Except Fault (Value × List Char) :=
  match wholeDigits? cs with
  | none => .error .value
  | some (whole, rest) =>
    let fraction := fractionDigits? rest
    let rest := (fraction.map Prod.snd).getD rest
    let exponent := exponent? rest
    let rest := (exponent.map Prod.snd).getD rest
    if fraction.isNone && exponent.isNone then
      if Number.digitLimit < whole.length then .error (.integer (.tooLong whole.length))
      else
        let n : Int := Number.digitsValue whole
        .ok (.int (if negative then -n else n), rest)
    else
      let digits := (fraction.map Prod.fst).getD []
      let e := (exponent.map Prod.fst).getD 0
      .ok (.float (Binary64.ofDecimal negative (Number.digitsValue (whole ++ digits)) (e - digits.length)), rest)

/-- What follows a word. -/
def after? (word : String) (cs : List Char) : Option (List Char) :=
  if word.toList.isPrefixOf cs then some (cs.drop word.toList.length) else none

def words : List (String × Value) :=
  [("null", .null), ("true", .bool true), ("false", .bool false), ("NaN", .float (.nan [])),
   ("Infinity", .float (.infinite false)), ("-Infinity", .float (.infinite true))]

/-- A value that is no collection, and what follows. -/
def scalar (cs : List Char) : Except Fault (Value × List Char) :=
  match words.findSome? fun w => (after? w.1 cs).map fun rest => (w.2, rest) with
  | some result => .ok result
  | none =>
    match cs with
    | '"' :: rest => (text rest).map fun t => (.text t.1, t.2)
    | '-' :: rest => number true rest
    | cs => number false cs

/-- How many collections may stand within each other. -/
def depthLimit : Nat := 985

mutual

/-- A value within collections that leave `room` for further ones, and what follows. -/
def value : (bound room : Nat) → List Char → Except Fault (Value × List Char)
  | 0, _, _ => .error .value
  | bound + 1, room, cs =>
    match cs with
    | '[' :: rest =>
      match room with
      | 0 => .error .deepList
      | room + 1 =>
        match skipGaps rest with
        | ']' :: rest => .ok (.list [], rest)
        | rest => (items bound room rest).map fun r => (.list r.1, r.2)
    | '{' :: rest =>
      match room with
      | 0 => .error .deepObject
      | room + 1 =>
        match skipGaps rest with
        | '}' :: rest => .ok (.map [], rest)
        | rest => (members bound room [] rest).map fun r => (.map r.1, r.2)
    | cs => scalar cs

/-- The items of a sequence up to its closing bracket, and what follows. -/
def items : (bound room : Nat) → List Char → Except Fault (List Value × List Char)
  | 0, _, _ => .error .value
  | bound + 1, room, cs => do
    let (v, rest) ← value bound room cs
    match skipGaps rest with
    | ']' :: rest => return ([v], rest)
    | ',' :: rest =>
      let (vs, rest) ← items bound room (skipGaps rest)
      return (v :: vs, rest)
    | _ => throw .comma

/-- The members of an object up to its closing brace, and what follows. -/
def members : (bound room : Nat) → Entries → List Char → Except Fault (Entries × List Char)
  | 0, _, _, _ => .error .value
  | bound + 1, room, entries, cs =>
    match cs with
    | '"' :: rest => do
      let (name, rest) ← text rest
      match skipGaps rest with
      | ':' :: rest =>
        let (v, rest) ← value bound room (skipGaps rest)
        let entries := Entries.put (.text name) v entries
        match skipGaps rest with
        | '}' :: rest => return (entries, rest)
        | ',' :: rest => members bound room entries (skipGaps rest)
        | _ => throw .comma
      | _ => throw .colon
    | _ => .error .name

end

def read (s : String) : Except Fault Value := do
  let cs := s.toList
  if cs.head? = some '\uFEFF' then throw .mark
  let (v, rest) ← value (2 * cs.length + 4) depthLimit (skipGaps cs)
  if (skipGaps rest).isEmpty then return v else throw .extra

end ManifestGrading.Json
