import ManifestGrading.Number.Binary64

/-! The decimal text of a binary64 number: the fewest significant digits that read back as the number,
and of several such decimals the nearest to it. `shortest` finds the digits, a `Layout` says which
numbers are written positionally and which with an exponent. -/

namespace ManifestGrading.Decimal

/-- A positive decimal `0.d₁d₂… * 10 ^ point` by its digits. -/
structure Digits where
  digits : List Char
  point : Int
  deriving Repr, DecidableEq

/-- A quotient of products of powers, `num / den`. -/
structure Ratio where
  num : Nat
  den : Nat

/-- `n * base ^ exponent` as a quotient. -/
def power (n base : Nat) (exponent : Int) : Ratio :=
  if 0 ≤ exponent then ⟨n * Nat.pow base exponent.toNat, 1⟩ else ⟨n, Nat.pow base (-exponent).toNat⟩

def Ratio.lt (a b : Ratio) : Bool := a.num * b.den < b.num * a.den

/-- The place of the decimal point: `10 ^ (point - 1) ≤ m * 2 ^ e < 10 ^ point` for a positive number. -/
def pointOf (mantissa : Nat) (exponent : Int) : Int :=
  let v := power mantissa 2 exponent
  (Nat.toDigits 10 (v.num * Nat.pow 10 400 / v.den)).length - 400

/-- The ends of the interval of reals that round to a positive number, as multiples of a quarter of its
unit in the last place. Below a power of two the neighbours stand half as far apart. -/
def interval (mantissa : Nat) (exponent : Int) : Nat × Nat :=
  let below := if mantissa = Nat.pow 2 52 ∧ Binary64.leastExponent < exponent then 1 else 2
  (4 * mantissa - below, 4 * mantissa + 2)

/-- Whether `n * 10 ^ place` rounds to a positive number; the ends of the interval do so exactly if the
mantissa is even. -/
def readsBack (mantissa : Nat) (exponent : Int) (n : Nat) (place : Int) : Bool :=
  let (low, high) := interval mantissa exponent
  let low := power low 2 (exponent - 2)
  let high := power high 2 (exponent - 2)
  let c := power n 10 place
  if mantissa % 2 = 0 then !c.lt low && !high.lt c else low.lt c && c.lt high

/-- The multiple of `10 ^ place` that reads back, if one of the two neighbours of a positive number on that
grid does; of two the nearer, and the even one of two that are equally near. -/
def onGrid? (mantissa : Nat) (exponent : Int) (place : Int) : Option Nat :=
  let v := power mantissa 2 exponent
  let unit := power 1 10 place
  let lower := v.num * unit.den / (v.den * unit.num)
  match readsBack mantissa exponent lower place, readsBack mantissa exponent (lower + 1) place with
  | true, false => some lower
  | false, true => some (lower + 1)
  | false, false => none
  | true, true =>
    let twice := 2 * (v.num * unit.den)
    let middle := (2 * lower + 1) * (v.den * unit.num)
    if twice < middle then some lower
    else if middle < twice then some (lower + 1)
    else some (lower + lower % 2)

/-- The first grid of at most `count` more digits on which a neighbour reads back. -/
def search (mantissa : Nat) (exponent place : Int) : (count : Nat) → Nat × Int
  | 0 => ((onGrid? mantissa exponent place).getD 0, place)
  | count + 1 =>
    match onGrid? mantissa exponent place with
    | some n => (n, place)
    | none => search mantissa exponent (place - 1) count

/-- The digits of a positive number: the fewest that read back. -/
def shortest (mantissa : Nat) (exponent : Int) : Digits :=
  let (n, place) := search mantissa exponent (pointOf mantissa exponent - 1) 16
  let digits := Nat.toDigits 10 n
  ⟨(digits.reverse.dropWhile (· = '0')).reverse, digits.length + place⟩

/-- How decimals are written: with the point among the digits where it stands from `lowest` to `highest`,
and with an exponent of at least `exponentWidth` digits and a sign elsewhere. -/
structure Layout where
  lowest : Int
  highest : Int
  exponentWidth : Nat

def padded (width : Nat) (cs : List Char) : List Char := List.replicate (width - cs.length) '0' ++ cs

/-- The text of a positive decimal. A whole number keeps a fraction of one zero where it is written
positionally. -/
def Layout.write (layout : Layout) (d : Digits) : List Char :=
  if layout.lowest ≤ d.point ∧ d.point ≤ layout.highest then
    if d.point ≤ 0 then '0' :: '.' :: List.replicate (-d.point).toNat '0' ++ d.digits
    else
      let whole := d.point.toNat
      if d.digits.length ≤ whole then
        d.digits ++ List.replicate (whole - d.digits.length) '0' ++ ['.', '0']
      else d.digits.take whole ++ '.' :: d.digits.drop whole
  else
    let exponent := d.point - 1
    let mantissa := match d.digits with
      | [] => []
      | [c] => [c]
      | c :: rest => c :: '.' :: rest
    mantissa ++ 'e' :: (if exponent < 0 then '-' else '+') ::
      padded layout.exponentWidth (Nat.toDigits 10 exponent.natAbs)

def Layout.text (layout : Layout) : Binary64 → String
  | .nan _ => "nan"
  | .infinite negative => if negative then "-inf" else "inf"
  | .finite negative m e =>
    let magnitude := if m = 0 then ['0', '.', '0'] else layout.write (shortest m e)
    String.ofList (if negative then '-' :: magnitude else magnitude)

end ManifestGrading.Decimal
