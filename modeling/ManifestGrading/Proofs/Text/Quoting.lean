import Mathlib.Tactic.SplitIfs
import ManifestGrading.Text.Raw

/-! Quoted texts, read again. What stands between the quotes for a code point can be told from what is behind it, so a
reader who goes through a quoted text from left to right finds each of them as it was: an escape by its letter, a
number by as many digits as its letter asks for. The quote in front says which quotes are escaped; so two texts
with the same quoted form are the same, halves of pairs included. -/

namespace ManifestGrading

namespace Text

/-! ### Digits -/

/-- The number that hexadecimal digits stand for. -/
def hexNumber (digits : List Char) : Nat := digits.foldl (fun n c => 16 * n + (hexValue? c).getD 0) 0

theorem hexValue?_hexDigit {d : Nat} (h : d < 16) : hexValue? (hexDigit d) = some d := by
  have hdigits : ∀ d < 16, hexValue? (hexDigit d) = some d := by decide
  exact hdigits d h

theorem length_hexDigits (width n : Nat) : (hexDigits width n).length = width := by
  induction width generalizing n with
  | zero => rfl
  | succ width ih => rw [hexDigits, List.length_append, ih, List.length_singleton]

/-- As many digits as a number has, or more, are read as the number. -/
theorem hexNumber_hexDigits {width n : Nat} (h : n < Nat.pow 16 width) : hexNumber (hexDigits width n) = n := by
  induction width generalizing n with
  | zero =>
      obtain rfl := Nat.lt_one_iff.1 h
      rfl
  | succ width ih =>
      have hfront : n / 16 < Nat.pow 16 width := Nat.div_lt_of_lt_mul (Nat.mul_comm _ 16 ▸ h)
      have hlast : hexValue? (hexDigit (n % 16)) = some (n % 16) := hexValue?_hexDigit (Nat.mod_lt n (by decide))
      calc hexNumber (hexDigits (width + 1) n)
          = 16 * hexNumber (hexDigits width (n / 16)) + (hexValue? (hexDigit (n % 16))).getD 0 := by
            rw [hexDigits, hexNumber, List.foldl_append, ← hexNumber, List.foldl_cons, List.foldl_nil]
        _ = 16 * (n / 16) + n % 16 := by rw [ih hfront, hlast, Option.getD_some]
        _ = n := Nat.div_add_mod n 16

/-! ### Code points -/

/-- The code point with a number of so many digits, and what is behind these. -/
def readNumber (width : Nat) (cs : List Char) : CodePoint × List Char :=
  (.ofNumber (hexNumber (cs.take width)), cs.drop width)

/-- A code point as it is read between quotes, and what is behind it. -/
def readQuotedPoint : List Char → Option (CodePoint × List Char)
  | [] => none
  | '\\' :: 't' :: rest => some (.char '\t', rest)
  | '\\' :: 'n' :: rest => some (.char '\n', rest)
  | '\\' :: 'r' :: rest => some (.char '\r', rest)
  | '\\' :: 'x' :: rest => some (readNumber 2 rest)
  | '\\' :: 'u' :: rest => some (readNumber 4 rest)
  | '\\' :: 'U' :: rest => some (readNumber 8 rest)
  | '\\' :: c :: rest => some (.char c, rest)
  | c :: rest => some (.char c, rest)

theorem readNumber_hexDigits {width : Nat} {p : CodePoint} (h : p.number < Nat.pow 16 width) (rest : List Char) :
    readNumber width (hexDigits width p.number ++ rest) = (p, rest) := by
  have hlength := length_hexDigits width p.number
  rw [readNumber, List.take_left' hlength, List.drop_left' hlength, hexNumber_hexDigits h, CodePoint.ofNumber_number]

theorem readQuotedPoint_cons_of_ne {c : Char} (h : c ≠ '\\') (rest : List Char) :
    readQuotedPoint (c :: rest) = some (.char c, rest) := by
  unfold readQuotedPoint
  split <;> simp_all

theorem number_lt (p : CodePoint) : p.number < Nat.pow 16 8 := by
  cases p with
  | char c => exact Nat.lt_of_lt_of_le (UInt32.toNat_lt c.val) (by decide)
  | half place => exact Nat.lt_of_lt_of_le (Nat.add_lt_add_left place.isLt 0xD800) (by decide)

/-- A code point is read back from its number, since the letter in front of the digits says how many there are. -/
theorem readQuotedPoint_numberEscape (p : CodePoint) (rest : List Char) :
    readQuotedPoint (numberEscape p.number ++ rest) = some (p, rest) := by
  unfold numberEscape
  split_ifs with hshort hmiddle
  · exact congrArg some (readNumber_hexDigits hshort rest)
  · exact congrArg some (readNumber_hexDigits hmiddle rest)
  · exact congrArg some (readNumber_hexDigits (number_lt p) rest)

theorem readQuotedPoint_quotedChar {quote : Char} (hquote : quote = '\'' ∨ quote = '"') (c : Char) (rest : List Char) :
    readQuotedPoint (quotedChar quote c ++ rest) = some (.char c, rest) := by
  unfold quotedChar
  split_ifs with hescaped htab hfeed hreturn hprintable
  · rcases hescaped with rfl | rfl
    · rcases hquote with rfl | rfl <;> rfl
    · rfl
  · rw [htab]
    rfl
  · rw [hfeed]
    rfl
  · rw [hreturn]
    rfl
  · exact readQuotedPoint_cons_of_ne (fun heq => hescaped (Or.inr heq)) rest
  · exact readQuotedPoint_numberEscape (.char c) rest

/-- A code point is read back from what stands for it between quotes of either kind, whatever is behind. -/
theorem readQuotedPoint_quotedPoint {quote : Char} (hquote : quote = '\'' ∨ quote = '"') (p : CodePoint)
    (rest : List Char) : readQuotedPoint (RawText.quotedPoint quote p ++ rest) = some (p, rest) := by
  cases p with
  | char c => exact readQuotedPoint_quotedChar hquote c rest
  | half place => exact readQuotedPoint_numberEscape (.half place) rest

/-! ### Texts -/

/-- Texts between quotes of the same kind are told apart point by point. -/
theorem eq_of_flatMap_quotedPoint {quote : Char} (hquote : quote = '\'' ∨ quote = '"') {ps qs : List CodePoint}
    (h : ps.flatMap (RawText.quotedPoint quote) = qs.flatMap (RawText.quotedPoint quote)) : ps = qs := by
  induction ps generalizing qs with
  | nil =>
      cases qs with
      | nil => rfl
      | cons q qs =>
          have hread := readQuotedPoint_quotedPoint hquote q (qs.flatMap (RawText.quotedPoint quote))
          rw [← List.flatMap_cons, ← h] at hread
          cases hread
  | cons p ps ih =>
      have hread := readQuotedPoint_quotedPoint hquote p (ps.flatMap (RawText.quotedPoint quote))
      rw [← List.flatMap_cons, h] at hread
      cases qs with
      | nil => cases hread
      | cons q qs =>
          rw [List.flatMap_cons, readQuotedPoint_quotedPoint hquote q] at hread
          obtain ⟨rfl, hrest⟩ := Prod.mk.inj (Option.some.inj hread)
          rw [ih hrest.symm]

theorem quoteFor_cases (cs : List Char) : quoteFor cs = '\'' ∨ quoteFor cs = '"' := by
  unfold quoteFor
  split
  · exact Or.inr rfl
  · exact Or.inl rfl

end Text

theorem RawText.quoted_injective {s t : RawText} (h : s.quoted = t.quoted) : s = t := by
  obtain ⟨hquote, hbehind⟩ := List.cons.inj (String.ofList_injective h)
  rw [← hquote] at hbehind
  exact RawText.ext (Text.eq_of_flatMap_quotedPoint (Text.quoteFor_cases s.chars) (List.append_cancel_right hbehind))

end ManifestGrading
