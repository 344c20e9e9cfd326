import ManifestGrading.Text.CaseTable

/-! Upper, lower and title case of a text with the full case mappings: a character may become several,
and a capital sigma at the end of a word has a lower-case form of its own. In title case every letter
that follows a cased character is lowered and every other one takes its title form. -/

namespace ManifestGrading.Text

/-- Whether a run gives the code point `n` a form. -/
def CaseRun.covers (r : CaseRun) (n : Nat) : Bool :=
  r.first ≤ n && n ≤ r.last && (n - r.first) % r.step == 0

/-- The form of a character that a table gives, or none where the table is silent. -/
def caseForm? (runs : List CaseRun) (expansions : List (Nat × List Nat)) (c : Char) : Option (List Char) :=
  match expansions.lookup c.toNat with
  | some form => some (form.map Char.ofNat)
  | none => (runs.find? (·.covers c.toNat)).map fun r => [Char.ofNat (Int.ofNat c.toNat + r.shift).toNat]

/-- The upper-case form of a character. -/
def upperChar (c : Char) : List Char := (caseForm? upperRuns upperExpansions c).getD [c]

/-- The lower-case form of a character that stands alone. -/
def lowerChar (c : Char) : List Char := (caseForm? lowerRuns lowerExpansions c).getD [c]

def titleChar (c : Char) : List Char := (caseForm? titleRuns titleExpansions c).getD (upperChar c)

/-- A character that has case. -/
def isCased (c : Char) : Bool :=
  casedRanges.any fun r => r.1 ≤ c.toNat && c.toNat ≤ r.2

/-- A character that the search for the neighbouring letter passes over. -/
def isCaseIgnorable (c : Char) : Bool :=
  caseIgnorableRanges.any fun r => r.1 ≤ c.toNat && c.toNat ≤ r.2

/-- Whether a letter with the text `before` (nearest character first) and `after` around it ends a word. -/
def endsWord (before after : List Char) : Bool :=
  (before.dropWhile isCaseIgnorable).head?.any isCased &&
    !(after.dropWhile isCaseIgnorable).head?.any isCased

/-- The lower-case form of a character within a text. -/
def lowerWithin (before : List Char) (c : Char) (after : List Char) : List Char :=
  if c = 'Σ' then [if endsWord before after then 'ς' else 'σ'] else lowerChar c

/-- A text in lower case after the text `before`, whose nearest character comes first. -/
def lowerAfter (before : List Char) : List Char → List Char
  | [] => []
  | c :: after => lowerWithin before c after ++ lowerAfter (c :: before) after

/-- The form of a character within a text in title case. -/
def titleWithin (before : List Char) (c : Char) (after : List Char) : List Char :=
  if before.head?.any isCased then lowerWithin before c after else titleChar c

/-- A text in title case after the text `before`, whose nearest character comes first. -/
def titleAfter (before : List Char) : List Char → List Char
  | [] => []
  | c :: after => titleWithin before c after ++ titleAfter (c :: before) after

def upper (s : String) : String := String.ofList (s.toList.flatMap upperChar)

def lower (s : String) : String := String.ofList (lowerAfter [] s.toList)

def title (s : String) : String := String.ofList (titleAfter [] s.toList)

theorem toList_upper (s : String) : (upper s).toList = s.toList.flatMap upperChar := String.toList_ofList

theorem upper_append (s t : String) : upper (s ++ t) = upper s ++ upper t := by
  apply String.toList_injective
  simp [toList_upper]

end ManifestGrading.Text
