import Mathlib.Data.List.Basic
import ManifestGrading.Files.Basic

/-! Files to which something is added. Whatever adds to them keeps all that there is: directories stay, and a file at
most gets more bytes at its end. -/

namespace ManifestGrading

/-- What an entry may become when something is added: a directory stays one, a file gets more bytes at its end. -/
inductive FileEntry.Grows : FileEntry → FileEntry → Prop
  | directory : Grows .directory .directory
  | file (bytes more : List UInt8) : Grows (.file bytes) (.file (bytes ++ more))

theorem FileEntry.Grows.refl (entry : FileEntry) : entry.Grows entry := by
  cases entry with
  | directory => exact .directory
  | file bytes => simpa using FileEntry.Grows.file bytes []

theorem FileEntry.Grows.trans {a b c : FileEntry} (hab : a.Grows b) (hbc : b.Grows c) : a.Grows c := by
  cases hab with
  | directory => exact hbc
  | file bytes more =>
      cases hbc with
      | file _ still => simpa using FileEntry.Grows.file bytes (more ++ still)

namespace Files

/-- Files that others become when something is added to them. -/
def Grows (files files' : Files) : Prop :=
  ∀ names entry, files.find? names = some entry → ∃ entry', files'.find? names = some entry' ∧ entry.Grows entry'

theorem Grows.refl (files : Files) : files.Grows files := fun _ entry h => ⟨entry, h, .refl entry⟩

theorem Grows.trans {a b c : Files} (hab : a.Grows b) (hbc : b.Grows c) : a.Grows c := by
  intro names entry h
  obtain ⟨entry', h', hgrows⟩ := hab names entry h
  obtain ⟨entry'', h'', hgrows'⟩ := hbc names entry' h'
  exact ⟨entry'', h'', hgrows.trans hgrows'⟩

/-! ### An entry at a place -/

theorem lookup_replaced (l : List (List String × FileEntry)) (names other : List String) (entry : FileEntry) :
    (l.map fun e => if e.1 = names then (names, entry) else e).lookup other =
      if other = names then (l.lookup names).map fun _ => entry else l.lookup other := by
  induction l with
  | nil => simp
  | cons e rest ih =>
      obtain ⟨place, old⟩ := e
      by_cases hplace : place = names
      · subst hplace
        by_cases hother : other = place
        · simp [hother]
        · have hno : (other == place) = false := by simpa using hother
          simpa [List.lookup_cons, hother, hno] using ih
      · by_cases hother : other = place
        · subst hother
          simp [hplace]
        · have hno : (other == place) = false := by simpa using hother
          have hno' : (names == place) = false := by simpa using Ne.symm hplace
          simpa [List.lookup_cons, hplace, hno, hno'] using ih

theorem any_prefix_replaced (l : List (List String × FileEntry)) (names other : List String) (entry : FileEntry) :
    (l.map fun e => if e.1 = names then (names, entry) else e).any (fun e => other.isPrefixOf e.1) =
      l.any fun e => other.isPrefixOf e.1 := by
  rw [List.any_map]
  refine congrArg l.any (funext fun e => ?_)
  by_cases he : e.1 = names <;> simp [he]

/-- An entry stands at its place, and above it there are directories then. -/
theorem find?_put (files : Files) (names other : List String) (entry : FileEntry) :
    (files.put names entry).find? other =
      if other = names then some entry
      else (files.find? other).or (if other <+: names then some .directory else none) := by
  unfold put
  split
  · next hold =>
    obtain ⟨old, hlookup⟩ := Option.isSome_iff_exists.1 hold
    simp only [find?, lookup_replaced, any_prefix_replaced]
    by_cases hother : other = names
    · simp [hother, hlookup]
    · simp only [hother, if_false]
      cases hentry : files.entries.lookup other with
      | some e => simp
      | none =>
          by_cases habove : other <+: names
          · -- the old entry stands below as well
            have hany : files.entries.any (fun e => other.isPrefixOf e.1) = true := by
              obtain ⟨before, behind, hsplit, _⟩ := List.lookup_eq_some_iff.1 hlookup
              exact List.any_eq_true.2 ⟨(names, old), by simp [hsplit], List.isPrefixOf_iff_prefix.2 habove⟩
            simp [hany]
          · simp [habove]
  · next hold =>
    have hnone : files.entries.lookup names = none := Option.not_isSome_iff_eq_none.1 hold
    by_cases hother : other = names
    · simp [find?, List.lookup_append, hother, hnone]
    · have hno : (other == names) = false := by simpa using hother
      simp only [find?, List.lookup_append, List.lookup_cons, hno, List.lookup_nil, Option.or_none, hother, if_false,
        List.any_append, List.any_cons, List.any_nil, Bool.or_false]
      cases files.entries.lookup other with
      | some e => simp
      | none =>
          by_cases habove : other <+: names
          · simp only [List.isPrefixOf_iff_prefix.2 habove, Bool.or_true, if_true, habove]
            split <;> rfl
          · have hnot : other.isPrefixOf names = false := by
              rw [← Bool.not_eq_true, List.isPrefixOf_iff_prefix]
              exact habove
            simp only [hnot, Bool.or_false, if_neg habove, Option.or_none]

theorem grows_put {files : Files} {names : List String} {entry : FileEntry}
    (h : ∀ old, files.find? names = some old → old.Grows entry) : files.Grows (files.put names entry) := by
  intro other old hold
  by_cases hother : other = names
  · subst hother
    exact ⟨entry, by rw [find?_put, if_pos rfl], h old hold⟩
  · exact ⟨old, by rw [find?_put, if_neg hother, hold, Option.some_or], .refl old⟩

theorem ne_nil_of_find?_eq_none {files : Files} {names : List String} (h : files.find? names = none) : names ≠ [] := by
  rintro rfl
  unfold find? at h
  split at h
  · cases h
  · simp [isAbove] at h

/-! ### Where a path leads -/

theorem find?_of_walk_file {files : Files} {here parts names : List String} {bytes : List UInt8}
    (h : files.walk here parts = .file names bytes) : files.find? names = some (.file bytes) := by
  induction parts generalizing here with
  | nil => cases h
  | cons name rest ih =>
      rw [walk] at h
      split at h
      · cases h
      · split at h
        · exact ih h
        · next hstep =>
          split at h
          · cases h
            exact hstep
          · cases h
        · cases h

theorem find?_of_walk_missing {files : Files} {here parts names : List String}
    (h : files.walk here parts = .missing names) (hnames : names ≠ []) : files.find? names = none := by
  induction parts generalizing here with
  | nil => cases h
  | cons name rest ih =>
      rw [walk] at h
      split at h
      · cases h
      · split at h
        · exact ih h
        · split at h <;> cases h
        · next hstep =>
          split at h
          · cases h
            exact hstep
          · cases h
            exact absurd rfl hnames

theorem find?_of_place_file {files : Files} {p : Path} {names : List String} {bytes : List UInt8}
    (h : files.place p = .file names bytes) : files.find? names = some (.file bytes) := by
  unfold place at h
  split at h
  · cases h
  · split at h
    · cases h
    · exact find?_of_walk_file h

theorem find?_of_place_missing {files : Files} {p : Path} {names : List String} (h : files.place p = .missing names)
    (hnames : names ≠ []) : files.find? names = none := by
  unfold place at h
  split at h
  · cases h
    exact absurd rfl hnames
  · split at h
    · cases h
    · exact find?_of_walk_missing h hnames

/-! ### Additions -/

variable {files files' : Files} {p : Path}

theorem grows_of_append {bytes : List UInt8} (h : files.append p bytes = .ok files') : files.Grows files' := by
  unfold append at h
  split at h
  · cases h
  · split at h
    · next names old hplace =>
      cases h
      refine grows_put fun entry hentry => ?_
      cases (find?_of_place_file hplace).symm.trans hentry
      exact .file old bytes
    · cases h
    · next names hno hplace =>
      cases h
      have hnone := find?_of_place_missing hplace fun hnil => hno hnil
      exact grows_put fun _ hold => nomatch hnone.symm.trans hold
    all_goals cases h

/-- Files to which directories have been added, on certain ways or above them. -/
def AddsDirectories (files files' : Files) (ways : List (List String)) : Prop :=
  ∀ names, files'.find? names = files.find? names ∨
    files.find? names = none ∧ files'.find? names = some .directory ∧ ∃ way ∈ ways, names <+: way

theorem AddsDirectories.refl (files : Files) (ways : List (List String)) : files.AddsDirectories files ways :=
  fun _ => Or.inl rfl

theorem AddsDirectories.trans {a b c : Files} {ways ways' : List (List String)} (hab : a.AddsDirectories b ways)
    (hbc : b.AddsDirectories c ways') : a.AddsDirectories c (ways ++ ways') := by
  intro names
  rcases hbc names with hsame | ⟨hnone, hdirectory, way, hway, habove⟩
  · rcases hab names with hold | ⟨hnone, hdirectory, way, hway, habove⟩
    · exact Or.inl (hsame.trans hold)
    · exact Or.inr ⟨hnone, hsame.trans hdirectory, way, List.mem_append_left _ hway, habove⟩
  · rcases hab names with hold | ⟨_, hno, _⟩
    · exact Or.inr ⟨hold.symm.trans hnone, hdirectory, way, List.mem_append_right _ hway, habove⟩
    · cases hnone.symm.trans hno

theorem addsDirectories_put {names : List String} (h : files.find? names = none) :
    files.AddsDirectories (files.put names .directory) [names] := by
  intro other
  rw [find?_put]
  by_cases hother : other = names
  · subst hother
    exact Or.inr ⟨h, if_pos rfl, other, List.mem_singleton_self other, List.prefix_refl other⟩
  · rw [if_neg hother]
    cases hentry : files.find? other with
    | some entry => exact Or.inl rfl
    | none =>
        by_cases habove : other <+: names
        · exact Or.inr ⟨rfl, by simp [habove], names, List.mem_singleton_self names, habove⟩
        · simp [habove]

section AddsDirectories

variable {ways : List (List String)} (h : files.AddsDirectories files' ways)
include h

theorem AddsDirectories.find?_directory {names : List String} (hdirectory : files.find? names = some .directory) :
    files'.find? names = some .directory := by
  rcases h names with hsame | ⟨_, hadded, _⟩
  · exact hsame.trans hdirectory
  · exact hadded

theorem AddsDirectories.find?_file_iff {names : List String} {bytes : List UInt8} :
    files'.find? names = some (.file bytes) ↔ files.find? names = some (.file bytes) := by
  rcases h names with hsame | ⟨hnone, hadded, _⟩
  · rw [hsame]
  · simp [hnone, hadded]

theorem AddsDirectories.grows : files.Grows files' := by
  intro names entry hentry
  refine ⟨entry, ?_, .refl entry⟩
  cases entry with
  | directory => exact h.find?_directory hentry
  | file bytes => exact h.find?_file_iff.2 hentry

/-- A way to a file stays one. -/
theorem AddsDirectories.walk_file {here parts names : List String} {bytes : List UInt8}
    (hwalk : files.walk here parts = .file names bytes) : files'.walk here parts = .file names bytes := by
  induction parts generalizing here with
  | nil => cases hwalk
  | cons name rest ih =>
      rw [walk] at hwalk ⊢
      split at hwalk
      · cases hwalk
      · next hname =>
        rw [if_neg hname]
        split at hwalk
        · next hstep =>
          rw [h.find?_directory hstep]
          exact ih hwalk
        · next old hstep =>
          rw [h.find?_file_iff.2 hstep]
          exact hwalk
        · cases hwalk

theorem AddsDirectories.place_file {names : List String} {bytes : List UInt8}
    (hplace : files.place p = .file names bytes) : files'.place p = .file names bytes := by
  unfold place at hplace ⊢
  split at hplace
  · cases hplace
  · split at hplace
    · cases hplace
    · next hnamable hshort =>
      rw [if_neg hnamable, if_neg hshort]
      exact h.walk_file hplace

end AddsDirectories

theorem exists_addsDirectories_of_makeDirectory (h : files.makeDirectory p = .ok files') :
    ∃ ways, files.AddsDirectories files' ways := by
  unfold makeDirectory at h
  split at h
  · cases h
  · split at h
    · cases h
    · next names hno hplace =>
      cases h
      exact ⟨[names], addsDirectories_put (find?_of_place_missing hplace fun hnil => hno hnil)⟩
    all_goals cases h

theorem exists_addsDirectories_of_ensureDirectory (h : files.ensureDirectory p = .ok files') :
    ∃ ways, files.AddsDirectories files' ways := by
  unfold ensureDirectory at h
  split at h
  · next made hmade =>
    cases h
    exact exists_addsDirectories_of_makeDirectory hmade
  · split at h
    · cases h
      exact ⟨[], .refl _ _⟩
    · cases h

/-- Whatever directories are asked for, nothing but directories is added. -/
theorem exists_addsDirectories {root : String} {reversed : List String}
    (h : files.ensureDirectories root reversed = .ok files') : ∃ ways, files.AddsDirectories files' ways := by
  induction reversed generalizing files' with
  | nil => exact exists_addsDirectories_of_ensureDirectory h
  | cons name above ih =>
      rw [ensureDirectories] at h
      split at h
      · next made hmade =>
        cases h
        exact exists_addsDirectories_of_makeDirectory hmade
      · cases habove : files.ensureDirectories root above with
        | error fault => simp [habove, bind, Except.bind] at h
        | ok between =>
            rw [habove] at h
            obtain ⟨ways, hadds⟩ := ih habove
            obtain ⟨ways', hadds'⟩ := exists_addsDirectories_of_ensureDirectory h
            exact ⟨ways ++ ways', hadds.trans hadds'⟩
      · split at h
        · cases h
          exact ⟨[], .refl _ _⟩
        · cases h

end Files

end ManifestGrading
