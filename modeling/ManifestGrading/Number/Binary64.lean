/-! Binary floating-point numbers of 64 bits, kept as exact dyadic values: a finite number is a sign, a
mantissa below `2 ^ 53` and a power of two not below `2 ^ (-1074)`. Every operation computes the exact
result and rounds once, to the nearest number and to the even mantissa of two that are equally near. -/

namespace ManifestGrading

/-- A number in the binary64 format. Values that are no number are told apart by where they come from; the
notation for such a value has the origin `[]`, and so names the same one everywhere. -/
inductive Binary64 where
  | finite (negative : Bool) (mantissa : Nat) (exponent : Int)
  | infinite (negative : Bool)
  | nan (origin : List Nat)
  deriving Repr, DecidableEq

namespace Binary64

/-- The exponent of the smallest positive number. -/
def leastExponent : Int := -1074

/-- The exponent of the largest finite numbers. -/
def greatestExponent : Int := 971

def zero (negative : Bool) : Binary64 := .finite negative 0 leastExponent

/-- A quotient of natural numbers rounded to the nearest natural number, a half to the even one. -/
def roundHalfEven (num den : Nat) : Nat :=
  let q := num / den
  let r := num % den
  if 2 * r < den then q else if den < 2 * r then q + 1 else q + q % 2

/-- The quotient `num / den` divided by `2 ^ exponent`, as a quotient. -/
def scaled (num den : Nat) (exponent : Int) : Nat × Nat :=
  if 0 ≤ exponent then (num, den * Nat.pow 2 exponent.toNat) else (num * Nat.pow 2 (-exponent).toNat, den)

/-- The power of two at or below a positive quotient. -/
def floorLog2 (num den : Nat) : Int :=
  let guess : Int := num.log2 - den.log2
  let (n, d) := scaled num den guess
  if d ≤ n then guess else guess - 1

/-- The number nearest to a quotient with a sign. -/
def ofRatio (negative : Bool) (num den : Nat) : Binary64 :=
  if num = 0 then zero negative
  else
    let exponent := max (floorLog2 num den - 52) leastExponent
    let (n, d) := scaled num den exponent
    let mantissa := roundHalfEven n d
    let (mantissa, exponent) :=
      if mantissa = Nat.pow 2 53 then (Nat.pow 2 52, exponent + 1) else (mantissa, exponent)
    if greatestExponent < exponent then .infinite negative else .finite negative mantissa exponent

/-- The power of ten that `mantissa * 10 ^ exponent` is about; a binary digit counts as `0.30103` decimal ones. -/
def decimalOrder (mantissa : Nat) (exponent : Int) : Int := (mantissa.log2 * 30103 / 100000 : Nat) + exponent

/-- The number nearest to `mantissa * 10 ^ exponent` with a sign. Numbers far beyond the format's range are
recognised by their order. -/
def ofDecimal (negative : Bool) (mantissa : Nat) (exponent : Int) : Binary64 :=
  if mantissa = 0 then zero negative
  else
    let order := decimalOrder mantissa exponent
    if 400 < order then .infinite negative
    else if order < -400 then zero negative
    else if 0 ≤ exponent then ofRatio negative (mantissa * Nat.pow 10 exponent.toNat) 1
    else ofRatio negative mantissa (Nat.pow 10 (-exponent).toNat)

/-- The number nearest to an integer, or infinity beyond the range. -/
def ofInt (n : Int) : Binary64 := ofRatio (n < 0) n.natAbs 1

/-- A value that is no number, before it is known where it comes from. -/
def fresh : Binary64 := .nan [0]

/-- A number that was made at a place; what the notation names is the same at all places. -/
def madeAt (place : Nat) : Binary64 → Binary64
  | .nan (n :: origin) => .nan (place :: n :: origin)
  | x => x

def negate : Binary64 → Binary64
  | .finite negative m e => .finite (!negative) m e
  | .infinite negative => .infinite (!negative)
  | .nan origin => .nan origin

/-- The mantissa of a finite number with its sign, at a power of two not above its own. -/
def signedAt (negative : Bool) (mantissa : Nat) (exponent lowest : Int) : Int :=
  let n : Int := (mantissa * Nat.pow 2 (exponent - lowest).toNat : Nat)
  if negative then -n else n

/-- The number nearest to `n * 2 ^ exponent`; `zeroSign` is the sign of an exact zero. -/
def ofScaled (n : Int) (exponent : Int) (zeroSign : Bool) : Binary64 :=
  if n = 0 then zero zeroSign
  else if 0 ≤ exponent then ofRatio (n < 0) (n.natAbs * Nat.pow 2 exponent.toNat) 1
  else ofRatio (n < 0) n.natAbs (Nat.pow 2 (-exponent).toNat)

def add : Binary64 → Binary64 → Binary64
  | .nan _, _ => fresh
  | _, .nan _ => fresh
  | .infinite s, .infinite t => if s = t then .infinite s else fresh
  | .infinite s, .finite .. => .infinite s
  | .finite .., .infinite t => .infinite t
  | .finite s m e, .finite t n f =>
    let lowest := min e f
    ofScaled (signedAt s m e lowest + signedAt t n f lowest) lowest (s && t)

def mul : Binary64 → Binary64 → Binary64
  | .nan _, _ => fresh
  | _, .nan _ => fresh
  | .infinite s, .infinite t => .infinite (s != t)
  | .infinite s, .finite t n _ => if n = 0 then fresh else .infinite (s != t)
  | .finite s m _, .infinite t => if m = 0 then fresh else .infinite (s != t)
  | .finite s m e, .finite t n f =>
    ofScaled (if s != t then -(m * n : Nat) else (m * n : Nat)) (e + f) (s != t)

/-- A number that is neither zero nor without a value. -/
def isNonzero : Binary64 → Bool
  | .finite _ m _ => m != 0
  | _ => true

/-- The exact value of a finite number. -/
def toRat? : Binary64 → Option Rat
  | .finite negative m e =>
    let magnitude : Rat := if 0 ≤ e then ((m * Nat.pow 2 e.toNat : Nat) : Rat) else mkRat m (Nat.pow 2 (-e).toNat)
    some (if negative then -magnitude else magnitude)
  | _ => none

/-- A finite number without its fraction. -/
def truncate? : Binary64 → Option Int
  | .finite negative m e =>
    let magnitude : Nat := if 0 ≤ e then m * Nat.pow 2 e.toNat else m / Nat.pow 2 (-e).toNat
    some (if negative then -magnitude else magnitude)
  | _ => none

def isAboveOne (x : Binary64) : Bool :=
  match x with
  | .infinite negative => !negative
  | x => x.toRat?.any (1 < ·)

theorem negate_negate (x : Binary64) : x.negate.negate = x := by
  cases x <;> simp [negate]

end Binary64

end ManifestGrading
