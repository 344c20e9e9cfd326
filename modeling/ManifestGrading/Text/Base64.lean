/-! Bytes in base 64. Characters outside the alphabet are passed over, the reading stops at the padding
that completes a group of four, and a group that is left incomplete without padding is refused. -/

namespace ManifestGrading.Text.Base64

/-- The value of a character of the alphabet. -/
def sextet? (c : Char) : Option Nat :=
  if 'A' ≤ c && c ≤ 'Z' then some (c.toNat - 'A'.toNat)
  else if 'a' ≤ c && c ≤ 'z' then some (c.toNat - 'a'.toNat + 26)
  else if '0' ≤ c && c ≤ '9' then some (c.toNat - '0'.toNat + 52)
  else if c = '+' then some 62
  else if c = '/' then some 63
  else none

/-- The reading of a text after `count` characters of a group with the leftover bits `left` and after
`pads` padding characters in a row. -/
def read (count left pads : Nat) : List Char → Option (List UInt8)
  | [] => if count = 0 then some [] else none
  | c :: rest =>
    if c = '=' then
      if 2 ≤ count then
        if 4 ≤ count + pads + 1 then some [] else read count left (pads + 1) rest
      else read count left pads rest
    else match sextet? c with
      | none => read count left pads rest
      | some v =>
        match count with
        | 0 => read 1 v 0 rest
        | 1 => (read 2 (v % 16) 0 rest).map (UInt8.ofNat (left * 4 + v / 16) :: ·)
        | 2 => (read 3 (v % 4) 0 rest).map (UInt8.ofNat (left * 16 + v / 4) :: ·)
        | _ => (read 0 0 0 rest).map (UInt8.ofNat (left * 64 + v) :: ·)

def decode? (s : String) : Option (List UInt8) := read 0 0 0 s.toList

end ManifestGrading.Text.Base64
