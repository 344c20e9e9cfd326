/-! White space in the sense of the Unicode standard together with the four information separators
`U+001C`–`U+001F`, and the removal of it from the ends of a text. -/

namespace ManifestGrading.Text

/-- The blank characters as ranges of code points, in increasing order. -/
def blankRanges : List (Nat × Nat) :=
  [(0x09, 0x0D), (0x1C, 0x20), (0x85, 0x85), (0xA0, 0xA0), (0x1680, 0x1680), (0x2000, 0x200A),
   (0x2028, 0x2029), (0x202F, 0x202F), (0x205F, 0x205F), (0x3000, 0x3000)]

/-- White space, including the separators that mark lines, paragraphs, files and records. -/
def isBlank (c : Char) : Bool :=
  blankRanges.any fun r => r.1 ≤ c.toNat && c.toNat ≤ r.2

theorem isBlank_of_isWhitespace {c : Char} (h : c.isWhitespace) : isBlank c := by
  simp only [Char.isWhitespace, Bool.or_eq_true, decide_eq_true_eq] at h
  rcases h with ((rfl | rfl) | rfl) | rfl <;> decide

def trim (s : String) : String := String.ofList ((s.toList.dropWhile isBlank).reverse.dropWhile isBlank).reverse

def isBlankText (s : String) : Bool := s.toList.all isBlank

end ManifestGrading.Text
