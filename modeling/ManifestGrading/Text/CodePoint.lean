/-! Code points. Besides the characters these are the halves of surrogate pairs, which numbered escapes may
name: a high half with the low half behind it stands for one character where a format joins pairs, and a
half that stands alone is no character. -/

namespace ManifestGrading

/-- A code point: a character, or a half of a pair by its place among the 2048 of them. -/
inductive CodePoint where
  | char (c : Char)
  | half (place : Fin 2048)
  deriving Repr, DecidableEq

namespace CodePoint

instance : Coe Char CodePoint := ⟨.char⟩

def number : CodePoint → Nat
  | char c => c.toNat
  | half place => 0xD800 + place.val

def ofNumber (n : Nat) : CodePoint :=
  if h : 0xD800 ≤ n ∧ n < 0xE000 then half ⟨n - 0xD800, by omega⟩ else char (Char.ofNat n)

/-- The character that shows in place of a half. -/
def replacement : Char := '\uFFFD'

/-- The character that shows for a code point. -/
def shown : CodePoint → Char
  | char c => c
  | half _ => replacement

def char? : CodePoint → Option Char
  | char c => some c
  | half _ => none

/-- Whether a code point is no character. -/
def isHalf (p : CodePoint) : Bool := p.char?.isNone

def isHighHalf (n : Nat) : Bool := 0xD800 ≤ n && n < 0xDC00

def isLowHalf (n : Nat) : Bool := 0xDC00 ≤ n && n < 0xE000

/-- The number of the character that two halves stand for. -/
def joinHalves (high low : Nat) : Nat := 0x10000 + (high - 0xD800) * 0x400 + (low - 0xDC00)

/-- Numbers in which the halves of each pair are joined. -/
def joinPairs : List Nat → List Nat
  | [] => []
  | [n] => [n]
  | n :: m :: rest =>
    if isHighHalf n && isLowHalf m then joinHalves n m :: joinPairs rest else n :: joinPairs (m :: rest)

@[simp] theorem ofNumber_number (p : CodePoint) : ofNumber p.number = p := by
  cases p with
  | char c =>
    have hvalid : c.toNat.isValidChar := c.valid
    have hchar : ¬(0xD800 ≤ c.toNat ∧ c.toNat < 0xE000) := by rcases hvalid with hvalid | hvalid <;> omega
    rw [number, ofNumber, dif_neg hchar, Char.ofNat_toNat]
  | half place =>
    have hhalf : 0xD800 ≤ 0xD800 + place.val ∧ 0xD800 + place.val < 0xE000 := by omega
    rw [number, ofNumber, dif_pos hhalf]
    exact congrArg half (Fin.ext (Nat.add_sub_cancel_left ..))

theorem number_injective {p q : CodePoint} (h : p.number = q.number) : p = q := by
  rw [← ofNumber_number p, h, ofNumber_number]

end CodePoint

end ManifestGrading
