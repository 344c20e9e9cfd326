import ManifestGrading.Text.Digit
import ManifestGrading.Text.PrintableTable

/-! The quoted form of a text as it stands in messages. Single quotes surround it, or double quotes
where the text holds a single quote and no double one; the quote in use and the backslash are escaped,
and so is every character without a printed form, by the shortest of `\t \n \r \xNN \uNNNN \UNNNNNNNN`
that names it. -/

namespace ManifestGrading.Text

/-- A character that a reader sees. -/
def isPrintable (c : Char) : Bool :=
  !unprintableRanges.any fun r => r.1 ≤ c.toNat && c.toNat ≤ r.2

def numberEscape (n : Nat) : List Char :=
  if n < 0x100 then '\\' :: 'x' :: hexDigits 2 n
  else if n < 0x10000 then '\\' :: 'u' :: hexDigits 4 n
  else '\\' :: 'U' :: hexDigits 8 n

/-- A character as it stands between quotes of the given kind. -/
def quotedChar (quote c : Char) : List Char :=
  if c = quote ∨ c = '\\' then ['\\', c]
  else if c = '\t' then ['\\', 't']
  else if c = '\n' then ['\\', 'n']
  else if c = '\r' then ['\\', 'r']
  else if isPrintable c then [c]
  else numberEscape c.toNat

def quoteFor (cs : List Char) : Char :=
  if '\'' ∈ cs ∧ '"' ∉ cs then '"' else '\''

def quoted (s : String) : String :=
  let quote := quoteFor s.toList
  String.ofList (quote :: s.toList.flatMap (quotedChar quote) ++ [quote])

/-- The characters of a byte as it stands between quotes of the given kind. -/
def quotedByte (quote : Char) (b : UInt8) : List Char :=
  let c := Char.ofNat b.toNat
  if c = quote ∨ c = '\\' then ['\\', c]
  else if c = '\t' then ['\\', 't']
  else if c = '\n' then ['\\', 'n']
  else if c = '\r' then ['\\', 'r']
  else if 0x20 ≤ b.toNat ∧ b.toNat < 0x7F then [c]
  else '\\' :: 'x' :: hexDigits 2 b.toNat

/-- Bytes between quotes, marked by a leading `b`. -/
def quotedBytes (bytes : List UInt8) : String :=
  let quote := quoteFor (bytes.map fun b => Char.ofNat b.toNat)
  String.ofList ('b' :: quote :: bytes.flatMap (quotedByte quote) ++ [quote])

end ManifestGrading.Text
