import ManifestGrading.Grade
import ManifestGrading.Proofs.Text.Letters
import ManifestGrading.Proofs.Text.Trimming

/-! The texts that name a grade. They are its name, its name with hyphens and its label, in any case and with any blanks
around them. Case is that of the Unicode standard, so that besides the letters from A to Z four characters count: the
dotless I, the long S and the two ligatures of S and T, whose capitals are letters of such names. The tables have no
other character of that sort, apart from the sharp S with its two letters S, which no name has side by side. No text
names two grades, so it does not matter which of them is tried first. -/

namespace ManifestGrading

namespace Text

/-- The letters that a character counts for in the name of a grade. -/
def readLetters (c : Char) : List Char :=
  if c = 'ı' then ['I']
  else if c = 'ſ' then ['S']
  else if c = 'ﬅ' ∨ c = 'ﬆ' then ['S', 'T']
  else [c]

/-- The characters in the names and the labels of grades. -/
def nameChars : List Char := "ACGIKLMNORSTW_-~ ".toList

theorem toNat_of_mem_nameChars {c : Char} (h : c ∈ nameChars) : 0 < c.toNat ∧ c.toNat < 128 := by
  have hall : nameChars.all (fun d => 0 < d.toNat ∧ d.toNat < 128) = true := by decide
  exact of_decide_eq_true (List.all_eq_true.1 hall c h)

theorem ofNat_not_mem_nameChars {n : Nat} (h : 128 ≤ n) : Char.ofNat n ∉ nameChars := by
  intro hmem
  have hnumber : (Char.ofNat n).toNat = n ∨ (Char.ofNat n).toNat = 0 := by
    by_cases hvalid : n.isValidChar
    · exact Or.inl (congrArg Char.toNat (dif_pos hvalid))
    · exact Or.inr (congrArg Char.toNat (dif_neg hvalid))
  have hsmall := toNat_of_mem_nameChars hmem
  omega

theorem readLetters_eq_self {c : Char} (h : c.toNat < 128) : readLetters c = [c] := by
  have hother : c ∉ ['ı', 'ſ', 'ﬅ', 'ﬆ'] := by
    intro hc
    have hall : ['ı', 'ſ', 'ﬅ', 'ﬆ'].all (fun d => 128 ≤ d.toNat) = true := by decide
    have hlarge : 128 ≤ c.toNat := of_decide_eq_true (List.all_eq_true.1 hall c hc)
    omega
  simp only [List.mem_cons, List.not_mem_nil, or_false, not_or] at hother
  simp [readLetters, hother]

/-- The characters that are letters of names in some case are below 128. -/
theorem toNat_lt_of_toLower_eq {c d : Char} (hd : d ∈ nameChars) (h : d.toLower = c.toLower) : c.toNat < 128 := by
  by_contra hlarge
  have hself : c.toLower = c := toLower_eq_self (Nat.le_of_not_lt hlarge)
  have hall : nameChars.all (fun d => d.toLower.toNat < 128) = true := by decide
  have hsmall : d.toLower.toNat < 128 := of_decide_eq_true (List.all_eq_true.1 hall d hd)
  rw [h, hself] at hsmall
  exact hlarge hsmall

/-- Below 128 the table of capitals is that of the letters from A to Z. -/
theorem upperChar_of_lt {c : Char} (h : c.toNat < 128) : upperChar c = (readLetters c).map Char.toUpper := by
  have hall : ∀ n ∈ List.range 128,
      upperChar (Char.ofNat n) = (readLetters (Char.ofNat n)).map Char.toUpper := by
    decide +kernel
  have hc := hall c.toNat (List.mem_range.2 h)
  rwa [Char.ofNat_toNat] at hc

/-- From 128 on, five characters have capitals that are all in the names of grades. -/
theorem exists_foreign_upperChar {c : Char} (h : 128 ≤ c.toNat) (hc : c ∉ ['ß', 'ı', 'ſ', 'ﬅ', 'ﬆ']) :
    ∃ d ∈ upperChar c, d ∉ nameChars := by
  have hexpansions : ∀ e ∈ upperExpansions,
      e.1 ∈ [0xDF, 0xFB05, 0xFB06] ∨ ∃ n ∈ e.2, Char.ofNat n ∉ nameChars := by
    decide +kernel
  have hruns : ∀ r ∈ upperRuns, r.last < 128 ∨ r.first = r.last ∧ r.first ∈ [0x131, 0x17F] ∨
      128 ≤ (r.first : Int) + r.shift := by
    decide +kernel
  have hnot {n : Nat} (hn : Char.ofNat n ∈ ['ß', 'ı', 'ſ', 'ﬅ', 'ﬆ']) : c.toNat ≠ n := by
    rintro rfl
    rw [Char.ofNat_toNat] at hn
    exact hc hn
  unfold upperChar caseForm?
  cases hlookup : upperExpansions.lookup c.toNat with
  | some form =>
      obtain ⟨before, behind, hsplit, _⟩ := List.lookup_eq_some_iff.1 hlookup
      rcases hexpansions (c.toNat, form) (by simp [hsplit]) with hspecial | ⟨n, hn, hforeign⟩
      · simp only [List.mem_cons, List.not_mem_nil, or_false] at hspecial
        rcases hspecial with hspecial | hspecial | hspecial
        · exact absurd hspecial (hnot (by decide))
        · exact absurd hspecial (hnot (by decide))
        · exact absurd hspecial (hnot (by decide))
      · exact ⟨Char.ofNat n, List.mem_map_of_mem hn, hforeign⟩
  | none =>
      cases hfind : upperRuns.find? (·.covers c.toNat) with
      | none =>
          refine ⟨c, List.mem_cons_self, fun hmem => ?_⟩
          have hsmall := (toNat_of_mem_nameChars hmem).2
          omega
      | some r =>
          have hcovers := List.find?_some hfind
          simp only [CaseRun.covers, Bool.and_eq_true, decide_eq_true_eq] at hcovers
          refine ⟨_, List.mem_cons_self, ofNat_not_mem_nameChars ?_⟩
          rcases hruns r (List.mem_of_find?_eq_some hfind) with hlast | ⟨hone, hspecial⟩ | hfar
          · omega
          · simp only [List.mem_cons, List.not_mem_nil, or_false] at hspecial
            have hdotless : c.toNat ≠ 0x131 := hnot (by decide)
            have hlong : c.toNat ≠ 0x17F := hnot (by decide)
            omega
          · have hint : 128 ≤ Int.ofNat c.toNat + r.shift := by
              rw [Int.ofNat_eq_natCast]
              omega
            omega

/-- A character has the capitals of what it is read as, or neither the ones nor the others are all in names. -/
theorem upperChar_eq_or_foreign {c : Char} (hsharp : c ≠ 'ß') :
    upperChar c = (readLetters c).map Char.toUpper ∨
      (∃ d ∈ upperChar c, d ∉ nameChars) ∧ ∃ d ∈ (readLetters c).map Char.toUpper, d ∉ nameChars := by
  by_cases hsmall : c.toNat < 128
  · exact Or.inl (upperChar_of_lt hsmall)
  · by_cases hspecial : c ∈ ['ı', 'ſ', 'ﬅ', 'ﬆ']
    · have hall : ['ı', 'ſ', 'ﬅ', 'ﬆ'].all
          (fun d => upperChar d = (readLetters d).map Char.toUpper) = true := by decide +kernel
      exact Or.inl (of_decide_eq_true (List.all_eq_true.1 hall c hspecial))
    · have hlarge : 128 ≤ c.toNat := Nat.le_of_not_lt hsmall
      have hother : c ∉ ['ß', 'ı', 'ſ', 'ﬅ', 'ﬆ'] := by
        rw [List.mem_cons, not_or]
        exact ⟨hsharp, hspecial⟩
      have hself : readLetters c = [c] := by
        simp only [List.mem_cons, List.not_mem_nil, or_false, not_or] at hspecial
        simp [readLetters, hspecial]
      refine Or.inr ⟨exists_foreign_upperChar hlarge hother, c, ?_, fun hmem => ?_⟩
      · simp [hself, toUpper_eq_self hlarge]
      · have hascii := (toNat_of_mem_nameChars hmem).2
        omega

/-- Two ways of reading characters have the same texts with a certain result if, where they differ on a character,
neither of them reads it as what can be in that result. -/
theorem flatMap_eq_iff_of_foreign {f g : Char → List Char} {p : Char → Prop} {cs w : List Char} (hw : ∀ d ∈ w, p d)
    (h : ∀ c ∈ cs, f c = g c ∨ (∃ d ∈ f c, ¬p d) ∧ ∃ d ∈ g c, ¬p d) : cs.flatMap f = w ↔ cs.flatMap g = w := by
  by_cases hsame : ∀ c ∈ cs, f c = g c
  · rw [List.flatMap_congr hsame]
  · obtain ⟨c, hc, hne⟩ := not_forall₂.1 hsame
    obtain ⟨⟨d, hd, hforeign⟩, ⟨e, he, hforeign'⟩⟩ := (h c hc).resolve_left hne
    have hno {read : Char → List Char} {d : Char} (hd : d ∈ read c) (hforeign : ¬p d) : cs.flatMap read ≠ w := by
      rintro rfl
      exact hforeign (hw d (List.mem_flatMap.2 ⟨c, hc, hd⟩))
    exact iff_of_false (hno hd hforeign) (hno he hforeign')

/-- Of two texts one of which is in capitals, the other is the same one in some case if its capitals are. -/
theorem map_toUpper_eq_iff {cs w : List Char} (hw : w.map Char.toUpper = w) :
    cs.map Char.toUpper = w ↔ cs.map Char.toLower = w.map Char.toLower := by
  constructor
  · rintro rfl
    rw [List.map_map]
    exact List.map_congr_left fun c _ => (toLower_toUpper c).symm
  · intro h
    have hsame (l : List Char) : (l.map Char.toLower).map Char.toUpper = l.map Char.toUpper := by
      rw [List.map_map]
      exact List.map_congr_left fun c _ => toUpper_toLower c
    calc cs.map Char.toUpper = (cs.map Char.toLower).map Char.toUpper := (hsame cs).symm
      _ = (w.map Char.toLower).map Char.toUpper := by rw [h]
      _ = w.map Char.toUpper := hsame w
      _ = w := hw

end Text

namespace Grade

/-- The texts that stand for a grade: its name, its name with hyphens for the underscores, and its label. -/
def spellings (g : Grade) : List String :=
  [g.name, String.ofList (g.name.toList.map fun c => if c = '_' then '-' else c), g.label]

/-- Whether a text without the blanks around it is a spelling of a grade, whatever the case of the letters from A to Z,
where each of its characters counts for what it is read as. -/
def IsNamed (read : Char → List Char) (g : Grade) (t : RawText) : Prop :=
  ∃ s : String, t.trim = s ∧ ∃ w ∈ g.spellings, (s.toList.flatMap read).map Char.toLower = w.toList.map Char.toLower

theorem isSpelledBy_iff {g : Grade} {s : String} : g.isSpelledBy s = true ↔ s ∈ g.spellings := by
  have hhyphens : g.hyphenated = String.ofList (g.name.toList.map fun c => if c = '_' then '-' else c) := by
    cases g <;> decide
  simp [isSpelledBy, spellings, hhyphens, or_assoc]

section

variable {g : Grade} {w : String} (h : w ∈ g.spellings)
include h

theorem mem_nameChars_of_mem_spellings : ∀ c ∈ w.toList, c ∈ Text.nameChars := by
  have hall : ∀ g ∈ all, ∀ w ∈ g.spellings, w.toList.all (· ∈ Text.nameChars) = true := by decide +kernel
  exact fun c hc => of_decide_eq_true (List.all_eq_true.1 (hall g (mem_all g) w h) c hc)

theorem map_toUpper_of_mem_spellings : w.toList.map Char.toUpper = w.toList := by
  have hall : ∀ g ∈ all, ∀ w ∈ g.spellings, w.toList.map Char.toUpper = w.toList := by decide +kernel
  exact hall g (mem_all g) w h

theorem not_infix_of_mem_spellings : ¬['S', 'S'] <:+: w.toList := by
  have hall : ∀ g ∈ all, ∀ w ∈ g.spellings, ¬['S', 'S'] <:+: w.toList := by decide +kernel
  exact hall g (mem_all g) w h

/-- The capitals of a text are a spelling exactly if it reads as that spelling in some case. -/
theorem upper_eq_iff (s : String) :
    Text.upper s = w ↔ (s.toList.flatMap Text.readLetters).map Char.toLower = w.toList.map Char.toLower := by
  rw [← Text.map_toUpper_eq_iff (map_toUpper_of_mem_spellings h), List.map_flatMap, ← String.toList_inj,
    Text.toList_upper]
  by_cases hsharp : 'ß' ∈ s.toList
  · -- its capitals are no characters of another script, but they stand side by side
    obtain ⟨front, rest, hsplit⟩ := List.append_of_mem hsharp
    have hupper : s.toList.flatMap Text.upperChar ≠ w.toList := by
      intro heq
      refine not_infix_of_mem_spellings h ⟨front.flatMap Text.upperChar, rest.flatMap Text.upperChar, ?_⟩
      rw [← heq, hsplit, List.flatMap_append, List.flatMap_cons, List.append_assoc]
      rfl
    have hread : (s.toList.flatMap fun c => (Text.readLetters c).map Char.toUpper) ≠ w.toList := by
      intro heq
      have hmem : 'ß' ∈ w.toList := heq ▸ List.mem_flatMap.2 ⟨'ß', hsharp, by decide⟩
      exact absurd (mem_nameChars_of_mem_spellings h _ hmem) (by decide)
    exact iff_of_false hupper hread
  · refine Text.flatMap_eq_iff_of_foreign (mem_nameChars_of_mem_spellings h) fun c hc => ?_
    exact Text.upperChar_eq_or_foreign fun heq => hsharp (heq ▸ hc)

end

theorem capitalsOf_any_iff {g : Grade} {t : RawText} :
    (capitalsOf t).any g.isSpelledBy = true ↔ g.IsNamed Text.readLetters t := by
  have htrim : capitalsOf t = t.trim.string?.map Text.upper := by
    rw [RawText.string?_trim, Option.map_map]
    rfl
  rw [htrim]
  constructor
  · intro h
    cases hs : t.trim.string? with
    | none => simp [hs] at h
    | some s =>
        have hspelled : Text.upper s ∈ g.spellings := isSpelledBy_iff.1 (by simpa [hs] using h)
        exact ⟨s, RawText.eq_ofString_of_string? hs, _, hspelled, (upper_eq_iff hspelled s).1 rfl⟩
  · rintro ⟨s, hs, w, hw, hread⟩
    have hupper : Text.upper s = w := (upper_eq_iff hw s).2 hread
    rw [hs, RawText.string?_ofString, Option.map_some, Option.any_some, hupper]
    exact isSpelledBy_iff.2 hw

/-- No text names two grades. -/
theorem IsNamed.unique {a b : Grade} {t : RawText} (ha : a.IsNamed Text.readLetters t)
    (hb : b.IsNamed Text.readLetters t) : a = b := by
  rw [← capitalsOf_any_iff, Option.any_eq_true] at ha hb
  obtain ⟨s, hs, hspelled⟩ := ha
  obtain ⟨s', hs', hspelled'⟩ := hb
  cases hs.symm.trans hs'
  exact eq_of_isSpelledBy hspelled hspelled'

/-- What a text names when it is read as it stands, it names. -/
theorem IsNamed.of_plain {g : Grade} {t : RawText} (h : g.IsNamed (fun c => [c]) t) : g.IsNamed Text.readLetters t := by
  obtain ⟨s, hs, w, hw, hsame⟩ := h
  refine ⟨s, hs, w, hw, ?_⟩
  rw [List.flatMap_singleton'] at hsame
  have hread : s.toList.flatMap Text.readLetters = s.toList.flatMap fun c => [c] := by
    refine List.flatMap_congr fun c hc => Text.readLetters_eq_self ?_
    have hmem : c.toLower ∈ w.toList.map Char.toLower := hsame ▸ List.mem_map_of_mem hc
    obtain ⟨d, hd, hlower⟩ := List.mem_map.1 hmem
    exact Text.toNat_lt_of_toLower_eq (mem_nameChars_of_mem_spellings hw d hd) hlower
  rw [hread, List.flatMap_singleton', hsame]

/-- The grade that a text names, where the grades are tried in a certain order. -/
def parseIn (order : List Grade) (text : RawText) : Except GradeFault Grade :=
  match order.find? fun g => (capitalsOf text).any g.isSpelledBy with
  | some g => .ok g
  | none => .error (.unknown text)

theorem parseIn_all (t : RawText) : parseIn all t = parse t := rfl

theorem parseIn_eq_ok_iff {order : List Grade} (hall : ∀ g, g ∈ order) {t : RawText} {g : Grade} :
    parseIn order t = .ok g ↔ g.IsNamed Text.readLetters t := by
  unfold parseIn
  cases hfind : order.find? fun g => (capitalsOf t).any g.isSpelledBy with
  | some found =>
      have hspelled := List.find?_some hfind
      have hfound : found.IsNamed Text.readLetters t := capitalsOf_any_iff.1 hspelled
      constructor
      · rintro ⟨⟩
        exact hfound
      · intro hg
        rw [hfound.unique hg]
  | none =>
      have hno : ¬g.IsNamed Text.readLetters t := fun hg =>
        List.find?_eq_none.1 hfind g (hall g) (capitalsOf_any_iff.2 hg)
      exact iff_of_false nofun hno

theorem parseIn_eq_error_iff {order : List Grade} (hall : ∀ g, g ∈ order) {t : RawText} :
    parseIn order t = .error (.unknown t) ↔ ∀ g : Grade, ¬g.IsNamed Text.readLetters t := by
  constructor
  · intro herror g hg
    cases herror.symm.trans ((parseIn_eq_ok_iff hall).2 hg)
  · intro hno
    cases hparse : parseIn order t with
    | ok g => exact absurd ((parseIn_eq_ok_iff hall).1 hparse) (hno g)
    | error fault =>
        unfold parseIn at hparse
        split at hparse <;> simp_all

/-- A text parses to the one grade that it names, and to none if it names none. The order in which the grades are
tried does not matter. -/
theorem parse_eq_ok_iff_isNamed (t : RawText) :
    (∀ g, parse t = .ok g ↔ g.IsNamed Text.readLetters t) ∧
      (parse t = .error (.unknown t) ↔ ∀ g : Grade, ¬g.IsNamed Text.readLetters t) ∧
      (∀ g : Grade, g.IsNamed (fun c => [c]) t → g.IsNamed Text.readLetters t) ∧
      (∀ a b : Grade, a.IsNamed Text.readLetters t → b.IsNamed Text.readLetters t → a = b) ∧
      ∀ order : List Grade, (∀ g, g ∈ order) → parseIn order t = parse t := by
  rw [← parseIn_all t]
  refine ⟨fun g => parseIn_eq_ok_iff mem_all, parseIn_eq_error_iff mem_all, fun g => IsNamed.of_plain,
    fun a b => IsNamed.unique, fun order hall => ?_⟩
  cases hparse : parseIn all t with
  | ok g => exact (parseIn_eq_ok_iff hall).2 ((parseIn_eq_ok_iff mem_all).1 hparse)
  | error fault =>
      have hno : ∀ g : Grade, ¬g.IsNamed Text.readLetters t := fun g hg =>
        nomatch hparse.symm.trans ((parseIn_eq_ok_iff mem_all).2 hg)
      rw [(parseIn_eq_error_iff hall).2 hno, ← hparse]
      exact ((parseIn_eq_error_iff mem_all).2 hno).symm

/-- With dotless letters, a text names a grade of which it is no spelling in any case of the letters from A to Z. -/
theorem parse_dotless_critical :
    parse (RawText.ofString "crıtıcal") = .ok .critical ∧
      ∀ g : Grade, ¬g.IsNamed (fun c => [c]) (RawText.ofString "crıtıcal") := by
  refine ⟨by decide +kernel, ?_⟩
  rintro g ⟨s, hs, w, hw, hsame⟩
  have hplain : s = "crıtıcal" := by
    rw [RawText.trim_ofString] at hs
    exact (RawText.ofString_injective hs).symm.trans (by decide +kernel)
  subst hplain
  have hall : ∀ g ∈ all, ∀ w ∈ g.spellings,
      ("crıtıcal".toList.flatMap fun c => [c]).map Char.toLower ≠ w.toList.map Char.toLower := by
    decide +kernel
  exact hall g (mem_all g) w hw hsame

example : parse (RawText.ofString " almoﬆ-ok\n") = .ok .almostOk := by decide +kernel

end Grade

end ManifestGrading
