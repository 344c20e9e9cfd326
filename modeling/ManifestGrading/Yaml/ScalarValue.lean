import ManifestGrading.Text.Base64
import ManifestGrading.Value.Basic
import ManifestGrading.Yaml.Tag

/-! The values of scalars of each kind. A text that is marked as a number, a truth value, a time or bytes has to
be one; numbers may be written in places of sixty, and underscores in them do not count. -/

namespace ManifestGrading.Yaml

def readTruth (text : RawText) : Except Fault Bool :=
  match truths.find? fun t => t.1 = text.lower with
  | some (_, b) => .ok b
  | none => .error (.truth text.lower)

/-- A number without its sign, and whether it is negative. A number must not be empty. -/
def unsigned (points : List CodePoint) : Except Fault (Bool × List CodePoint) :=
  match points with
  | [] => .error .emptyNumber
  | .char '-' :: rest => .ok (true, rest)
  | .char '+' :: rest => .ok (false, rest)
  | points => .ok (false, points)

/-- The code points of a number that count. -/
def withoutBars (text : RawText) : List CodePoint := text.points.filter (· != .char '_')

/-- The parts of a number between colons. -/
def places (points : List CodePoint) : List RawText := (points.splitOn (.char ':')).map RawText.mk

/-- The sum of numbers in places that are each worth sixty of the next. -/
def sumOfSixties (ns : List Int) : Int := ns.foldl (fun sum n => sum * 60 + n) 0

/-- An integer: binary, octal, hexadecimal, in places of sixty, or decimal. -/
def readWhole (text : RawText) : Except Fault Int := do
  let (negative, points) ← unsigned (withoutBars text)
  let read (base : Nat) (text : RawText) : Except Fault Int :=
    (Number.readInteger base text).mapError .integer
  let n ← match points with
    | [.char '0'] => .ok 0
    | .char '0' :: .char 'b' :: digits => read 2 ⟨digits⟩
    | .char '0' :: .char 'x' :: digits => read 16 ⟨digits⟩
    | .char '0' :: _ => read 8 ⟨points⟩
    | [] => .error .emptyNumber
    | _ =>
      if points.contains (.char ':') then ((places points).mapM (read 10)).map sumOfSixties
      else read 10 ⟨points⟩
  return if negative then -n else n

/-- The sum of decimals in places that are each worth sixty of the next, the least place first. -/
def sumOfDecimals (place : Nat) (sum : Binary64) : List Binary64 → Except Fault Binary64
  | [] => .ok sum
  | x :: rest =>
    match Binary64.ofInt (Nat.pow 60 place) with
    | .infinite _ => .error .hugeBase
    | worth => sumOfDecimals (place + 1) (sum.add (x.mul worth)) rest

/-- A decimal: infinite, no number, in places of sixty, or finite. -/
def readFraction (text : RawText) : Except Fault Binary64 := do
  let (negative, points) ← unsigned (RawText.mk (withoutBars text)).lower.points
  let text : RawText := ⟨points⟩
  let read (text : RawText) : Except Fault Binary64 :=
    match Number.readDecimal? text with
    | some x => .ok x
    | none => .error (.decimal text)
  let signed (x : Binary64) : Binary64 := if negative then x.negate else x
  if text = ".inf" then return .infinite negative
  else if text = ".nan" then return .nan []
  else if points.contains (.char ':') then do
    let parts ← (places points).mapM read
    return signed (← sumOfDecimals 0 (.zero false) parts.reverse)
  else return signed (← read text)

def readBytes (text : RawText) : Except Fault (List UInt8) :=
  if text.chars.all fun c => c.toNat < 0x80 then
    match Text.Base64.decode? text.shown with
    | some bytes => .ok bytes
    | none => .error .malformed
  else .error .malformed

/-- The value of a scalar of a kind, made at a place; none for the kinds of collections and for those that
have no values. -/
def scalarValue? (place : Nat) (text : RawText) : Tag → Option (Except Fault Value)
  | .null => some (.ok .null)
  | .bool => some ((readTruth text).map .bool)
  | .int => some ((readWhole text).map .int)
  | .float => some ((readFraction text).map fun x => .float (x.madeAt place))
  | .binary => some ((readBytes text).map .bytes)
  | .str => some (.ok (.text text))
  | .timestamp => some ((readTime text.shown).map (Sum.elim .date .instant))
  | .seq | .map | .set | .omap | .pairs | .merge | .value | .other => none

end ManifestGrading.Yaml
