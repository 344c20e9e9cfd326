import Mathlib.Data.List.DropRight
import ManifestGrading.Proofs.Files.Growth

/-! Appending to a file that may be missing, together with the directories that hold it. That works for a path that can
be used at all, with no file on the way and no directory at its end. The directories on the way are made one after the
other, which adds nothing but directories; then the bytes come behind what the file held before, or into a new file, and
no other file changes. -/

namespace ManifestGrading

namespace Path

/-- A path that the limits allow to be used. -/
structure IsUsable (p : Path) : Prop where
  namable : p.isUnnamable = false
  short : p.text.utf8ByteSize ≤ Files.pathLimit
  names : ∀ name ∈ p.parts, name.utf8ByteSize ≤ Files.nameLimit

theorem IsUsable.not_unnamable {p : Path} (h : p.IsUsable) : ¬p.isUnnamable = true := by
  rw [h.namable]
  exact Bool.false_ne_true

theorem exists_intercalate_append {front : List String} (h : front ≠ []) (rest : List String) :
    ∃ tail, "/".intercalate (front ++ rest) = "/".intercalate front ++ tail := by
  induction front with
  | nil => exact absurd rfl h
  | cons name front ih =>
      cases front with
      | nil =>
          cases rest with
          | nil => exact ⟨"", by simp⟩
          | cons next rest =>
              refine ⟨"/" ++ "/".intercalate (next :: rest), ?_⟩
              rw [List.singleton_append, String.intercalate_cons_cons, String.append_assoc]
              simp
      | cons second front =>
          obtain ⟨tail, htail⟩ := ih (List.cons_ne_nil _ _)
          refine ⟨tail, ?_⟩
          rw [List.cons_append, List.cons_append, String.intercalate_cons_cons, ← List.cons_append, htail,
            String.intercalate_cons_cons]
          simp only [String.append_assoc]

/-- The text of a path starts with those of the paths on the way to it, apart from that of the current directory. -/
theorem text_of_front (root : String) (front rest : List String) :
    (⟨root, front⟩ : Path).text = "." ∨
      ∃ tail, (⟨root, front ++ rest⟩ : Path).text = (⟨root, front⟩ : Path).text ++ tail := by
  by_cases hfront : front = []
  · subst hfront
    by_cases hroot : root = ""
    · left
      simp [text, hroot]
    · right
      refine ⟨"/".intercalate rest, ?_⟩
      simp [text, hroot]
  · right
    obtain ⟨tail, htail⟩ := exists_intercalate_append hfront rest
    refine ⟨tail, ?_⟩
    have hboth : front ++ rest ≠ [] := fun h => hfront (List.append_eq_nil_iff.1 h).1
    rw [text, text, if_neg fun h => hboth h.2, if_neg fun h => hfront h.2, htail, String.append_assoc]

theorem IsUsable.front {root : String} {front rest : List String} (h : (⟨root, front ++ rest⟩ : Path).IsUsable) :
    (⟨root, front⟩ : Path).IsUsable := by
  obtain ⟨hnamable, hshort, hnames⟩ := h
  have hfront : ∀ name ∈ front, name.utf8ByteSize ≤ Files.nameLimit := fun name hname =>
    hnames name (List.mem_append_left _ hname)
  rcases text_of_front root front rest with hdot | ⟨tail, htail⟩
  · refine ⟨?_, ?_, hfront⟩
    · rw [isUnnamable, hdot]
      decide
    · rw [hdot]
      decide
  · refine ⟨?_, ?_, hfront⟩
    · rw [isUnnamable, htail, String.toList_append, List.contains_append, Bool.or_eq_false_iff] at hnamable
      exact hnamable.1
    · rw [htail, String.utf8ByteSize_append] at hshort
      exact Nat.le_of_add_right_le hshort

end Path

namespace Files

/-- The places that names lead to, one after the other, from the directory at `here`. -/
def visited (here : List String) : List String → List (List String)
  | [] => []
  | name :: rest => step here name :: visited (step here name) rest

/-- The place that names lead to in the end. -/
def route (here names : List String) : List String := names.foldl step here

/-- The place that a path leads to if the directories on the way are there. -/
def target (p : Path) : List String := route p.start p.parts

/-- The bytes of the file at a place, none if there is no file. -/
def contentAt (files : Files) (names : List String) : List UInt8 :=
  match files.find? names with
  | some (.file bytes) => bytes
  | _ => []

/-- A place for a file that can be reached: the path can be used and ends in a name, no file is on the way to it, and
its end is no directory, nor one of those that may have to be made on the way. -/
structure Admits (files : Files) (p : Path) : Prop where
  usable : p.IsUsable
  named : p.parts ≠ []
  way : ∀ names ∈ visited p.start p.parts.dropLast, ∀ bytes, files.find? names ≠ some (.file bytes)
  free : files.find? (target p) ≠ some .directory
  beside : ∀ names ∈ visited p.start p.parts.dropLast, ¬target p <+: names

variable {files files' : Files} {here front : List String} {name root : String}

/-! ### Ways through directories -/

theorem route_concat (here front : List String) (name : String) :
    route here (front ++ [name]) = step (route here front) name := by
  rw [route, List.foldl_append]
  rfl

theorem visited_concat (here front : List String) (name : String) :
    visited here (front ++ [name]) = visited here front ++ [route here (front ++ [name])] := by
  induction front generalizing here with
  | nil => rfl
  | cons first front ih => rw [List.cons_append, visited, ih, visited, List.cons_append]; rfl

theorem walk_append (hdirectories : ∀ names ∈ visited here front, files.find? names = some .directory)
    (hnames : ∀ name ∈ front, name.utf8ByteSize ≤ nameLimit) (rest : List String) :
    files.walk here (front ++ rest) = files.walk (route here front) rest := by
  induction front generalizing here with
  | nil => rfl
  | cons first front ih =>
      rw [visited, List.forall_mem_cons] at hdirectories
      rw [List.forall_mem_cons] at hnames
      rw [List.cons_append, walk, if_neg (Nat.not_lt.2 hnames.1), hdirectories.1]
      exact ih hdirectories.2 hnames.2

/-- A way on which there is no file, but on which something is missing before its end. -/
theorem walk_eq_missing (hfiles : ∀ names ∈ visited here front, ∀ bytes, files.find? names ≠ some (.file bytes))
    (hnames : ∀ name ∈ front, name.utf8ByteSize ≤ nameLimit)
    (hmissing : ¬∀ names ∈ visited here front, files.find? names = some .directory) (name : String) :
    files.walk here (front ++ [name]) = .missing [] := by
  induction front generalizing here with
  | nil => exact absurd nofun hmissing
  | cons first front ih =>
      rw [visited, List.forall_mem_cons] at hfiles hmissing
      rw [List.forall_mem_cons] at hnames
      rw [List.cons_append, walk, if_neg (Nat.not_lt.2 hnames.1)]
      cases hstep : files.find? (step here first) with
      | none => simp
      | some entry =>
          cases entry with
          | file bytes => exact absurd hstep (hfiles.1 bytes)
          | directory => exact ih hfiles.2 hnames.2 fun hall => hmissing ⟨hstep, hall⟩

section Place

variable {p : Path} (hp : p.IsUsable)
include hp

theorem place_eq_walk : files.place p = files.walk p.start p.parts := by
  rw [place, if_neg hp.not_unnamable, if_neg (Nat.not_lt.2 hp.short)]

/-- Behind directories, what stands at the end of a path is what it leads to. -/
theorem place_of_directories (hparts : p.parts = front ++ [name])
    (hdirectories : ∀ names ∈ visited p.start front, files.find? names = some .directory) :
    files.place p =
      match files.find? (target p) with
      | some .directory => .directory (target p)
      | some (.file bytes) => .file (target p) bytes
      | none => .missing (target p) := by
  have hname := hp.names
  rw [hparts] at hname
  have hlast : ¬nameLimit < name.utf8ByteSize := Nat.not_lt.2 (hname name (by simp))
  have hfront : ∀ n ∈ front, n.utf8ByteSize ≤ nameLimit := fun n hn => hname n (List.mem_append_left _ hn)
  rw [place_eq_walk hp, hparts, walk_append hdirectories hfront, target, hparts, route_concat, walk, if_neg hlast]
  cases files.find? (step (route p.start front) name) with
  | none => rfl
  | some entry => cases entry <;> rfl

end Place

/-! ### Making directories -/

/-- Behind directories, a further one is there or can be made. -/
theorem makeDirectory_of_directories {p : Path} (hp : p.IsUsable) (hparts : p.parts = front ++ [name])
    (hdirectories : ∀ names ∈ visited p.start front, files.find? names = some .directory)
    (hfile : ∀ bytes, files.find? (target p) ≠ some (.file bytes)) :
    (files.find? (target p) = some .directory ∧ files.makeDirectory p = .error (.exists p.text) ∧
        files.isDirectory p = true) ∨
      (files.find? (target p) = none ∧ files.makeDirectory p = .ok (files.put (target p) .directory)) := by
  have hplace := place_of_directories hp hparts hdirectories
  cases hentry : files.find? (target p) with
  | none =>
      right
      rw [hentry] at hplace
      refine ⟨rfl, ?_⟩
      rw [makeDirectory, if_neg hp.not_unnamable, hplace]
      cases htarget : target p with
      | nil => exact absurd htarget (ne_nil_of_find?_eq_none hentry)
      | cons first rest => rfl
  | some entry =>
      cases entry with
      | file bytes => exact absurd hentry (hfile bytes)
      | directory =>
          left
          rw [hentry] at hplace
          refine ⟨rfl, ?_, ?_⟩
          · rw [makeDirectory, if_neg hp.not_unnamable, hplace]
          · rw [isDirectory, hplace]

/-- Behind directories, a place without a file is made a directory, if it is none. -/
theorem exists_ensureDirectory {p : Path} (hp : p.IsUsable) (hparts : p.parts = front ++ [name])
    (hdirectories : ∀ names ∈ visited p.start front, files.find? names = some .directory)
    (hfile : ∀ bytes, files.find? (target p) ≠ some (.file bytes)) :
    ∃ files', files.ensureDirectory p = .ok files' ∧ files'.find? (target p) = some .directory ∧
      files.AddsDirectories files' [target p] := by
  rcases makeDirectory_of_directories hp hparts hdirectories hfile with ⟨hentry, hmade, hthere⟩ | ⟨hentry, hmade⟩
  · exact ⟨files, by simp [ensureDirectory, hmade, hthere], hentry, .refl _ _⟩
  · refine ⟨_, by rw [ensureDirectory, hmade], ?_, addsDirectories_put hentry⟩
    rw [find?_put, if_pos rfl]

/-- If only the directory itself may be missing, none above it has to be made. -/
theorem ensureDirectories_eq {above : List String}
    (hmissing : ∀ text, files.makeDirectory ⟨root, above.reverse ++ [name]⟩ ≠ .error (.missing text)) :
    files.ensureDirectories root (name :: above) = files.ensureDirectory ⟨root, above.reverse ++ [name]⟩ := by
  rw [ensureDirectories, ensureDirectory]
  simp only [List.reverse_cons]
  split
  · next hmade => rw [hmade]
  · next text hmade => exact absurd hmade (hmissing text)
  · next fault hno hmade => rw [hmade]

/-- A way through places without files can be made. This adds the directories on it and nothing else. -/
theorem exists_ensureDirectories {reversed : List String} (hp : (⟨root, reversed.reverse⟩ : Path).IsUsable)
    (hfiles : ∀ names ∈ visited (Path.start ⟨root, []⟩) reversed.reverse, ∀ bytes,
      files.find? names ≠ some (.file bytes)) :
    ∃ files', files.ensureDirectories root reversed = .ok files' ∧
      (∀ names ∈ visited (Path.start ⟨root, []⟩) reversed.reverse, files'.find? names = some .directory) ∧
      files.AddsDirectories files' (visited (Path.start ⟨root, []⟩) reversed.reverse) := by
  induction reversed with
  | nil =>
      refine ⟨files, ?_, nofun, .refl _ _⟩
      have hplace : files.place ⟨root, []⟩ = .directory (Path.start ⟨root, []⟩) := place_eq_walk hp
      have hnamable : (⟨root, []⟩ : Path).isUnnamable = false := hp.namable
      simp [ensureDirectories, ensureDirectory, makeDirectory, hnamable, isDirectory, hplace]
  | cons name above ih =>
      rw [List.reverse_cons] at hp hfiles ⊢
      have htarget : target ⟨root, above.reverse ++ [name]⟩ =
          route (Path.start ⟨root, []⟩) (above.reverse ++ [name]) := rfl
      rw [visited_concat, ← htarget] at hfiles ⊢
      have hway : ∀ names ∈ visited (Path.start ⟨root, []⟩) above.reverse, ∀ bytes,
          files.find? names ≠ some (.file bytes) := fun names hnames => hfiles names (List.mem_append_left _ hnames)
      have hend := hfiles _ (List.mem_append_right _ (List.mem_singleton_self _))
      by_cases hall : ∀ names ∈ visited (Path.start ⟨root, []⟩) above.reverse, files.find? names = some .directory
      · -- nothing is missing above the directory
        have hmade := makeDirectory_of_directories hp rfl hall hend
        obtain ⟨files', hok, hdirectory, hadds⟩ := exists_ensureDirectory hp rfl hall hend
        refine ⟨files', ?_, fun names hnames => ?_, ?_⟩
        · rw [ensureDirectories_eq, hok]
          rcases hmade with ⟨_, hmade, _⟩ | ⟨_, hmade⟩ <;> simp [hmade]
        · rcases List.mem_append.1 hnames with hnames | hnames
          · exact hadds.find?_directory (hall names hnames)
          · exact List.mem_singleton.1 hnames ▸ hdirectory
        · exact (AddsDirectories.refl files _).trans hadds
      · obtain ⟨between, habove, hdirectories, hadded⟩ := ih hp.front hway
        obtain ⟨files', hok, hdirectory, hadds⟩ :=
          exists_ensureDirectory hp rfl hdirectories fun bytes hfile => hend bytes (hadded.find?_file_iff.1 hfile)
        have hmade : files.makeDirectory ⟨root, above.reverse ++ [name]⟩ =
            .error (.missing (⟨root, above.reverse ++ [name]⟩ : Path).text) := by
          have hnames : ∀ name ∈ above.reverse, name.utf8ByteSize ≤ nameLimit := hp.front.names
          have hplace : files.place ⟨root, above.reverse ++ [name]⟩ = .missing [] :=
            (place_eq_walk hp).trans (walk_eq_missing hway hnames hall name)
          simp [makeDirectory, hp.namable, hplace]
        refine ⟨files', ?_, fun names hnames => ?_, hadded.trans hadds⟩
        · simp only [ensureDirectories, List.reverse_cons, hmade, habove]
          exact hok
        · rcases List.mem_append.1 hnames with hnames | hnames
          · exact hadds.find?_directory (hdirectories names hnames)
          · exact List.mem_singleton.1 hnames ▸ hdirectory

/-! ### Appending -/

/-- A path that leads to a file at a place, or to a place where there may be one. -/
def Offers (files : Files) (p : Path) (names : List String) : Prop :=
  (∃ old, files.place p = .file names old) ∨ files.place p = .missing names ∧ names ≠ []

/-- Files to which bytes have been added at the end of one of them, or as a new one, and no others. A file that could be
read at the path before is the one at its place. -/
def Appends (files files' : Files) (p : Path) (bytes : List UInt8) : Prop :=
  files'.read p = .ok (files.contentAt (target p) ++ bytes) ∧
    (∀ old, files.read p = .ok old → files.contentAt (target p) = old) ∧
    ∀ other ≠ target p, ∀ old, files'.find? other = some (.file old) ↔ files.find? other = some (.file old)

variable {p : Path} {names : List String} {bytes : List UInt8}

theorem contentAt_of_file (h : files.find? names = some (.file bytes)) : files.contentAt names = bytes := by
  rw [contentAt, h]

theorem contentAt_eq_of_find?_iff
    (h : ∀ bytes, files'.find? names = some (.file bytes) ↔ files.find? names = some (.file bytes)) :
    files'.contentAt names = files.contentAt names := by
  have hnil {f : Files} (hno : ¬∃ bytes, f.find? names = some (.file bytes)) : f.contentAt names = [] := by
    unfold contentAt
    split
    · next bytes hfile => exact absurd ⟨bytes, hfile⟩ hno
    · rfl
  by_cases hfile : ∃ bytes, files.find? names = some (.file bytes)
  · obtain ⟨bytes, hbytes⟩ := hfile
    rw [contentAt_of_file hbytes, contentAt_of_file ((h bytes).2 hbytes)]
  · have hfile' : ¬∃ bytes, files'.find? names = some (.file bytes) := fun ⟨bytes, hbytes⟩ =>
      hfile ⟨bytes, (h bytes).1 hbytes⟩
    rw [hnil hfile, hnil hfile']

theorem walk_put_file {parts : List String}
    (h : (∃ old, files.walk here parts = .file names old) ∨ files.walk here parts = .missing names ∧ names ≠ [])
    (bytes : List UInt8) : (files.put names (.file bytes)).walk here parts = .file names bytes := by
  have hnot : files.find? names ≠ some .directory := by
    rcases h with ⟨old, hwalk⟩ | ⟨hwalk, hnames⟩
    · simp [find?_of_walk_file hwalk]
    · simp [find?_of_walk_missing hwalk hnames]
  induction parts generalizing here with
  | nil => rcases h with ⟨_, h⟩ | ⟨h, _⟩ <;> cases h
  | cons name rest ih =>
      rw [walk] at h ⊢
      by_cases hname : nameLimit < name.utf8ByteSize
      · rw [if_pos hname] at h
        rcases h with ⟨_, h⟩ | ⟨h, _⟩ <;> cases h
      · rw [if_neg hname] at h ⊢
        cases hstep : files.find? (step here name) with
        | none =>
            rw [hstep] at h
            rcases h with ⟨_, h⟩ | ⟨h, hnames⟩
            · cases h
            · by_cases hrest : rest = []
              · simp only [hrest, if_true, Place.missing.injEq] at h
                simp [find?_put, h, hrest]
              · simp only [hrest, if_false, Place.missing.injEq] at h
                exact absurd h.symm hnames
        | some entry =>
            rw [hstep] at h
            cases entry with
            | directory =>
                have hne : step here name ≠ names := fun heq => hnot (heq ▸ hstep)
                rw [find?_put, if_neg hne, hstep, Option.some_or]
                exact ih h
            | file old =>
                by_cases hrest : rest = []
                · simp only [hrest, if_true, Place.file.injEq, reduceCtorEq, false_and, or_false] at h
                  obtain ⟨_, hplace, _⟩ := h
                  simp [find?_put, hplace, hrest]
                · simp [hrest] at h

/-- A walk to a file, or to a place for one, ends where its names lead. -/
theorem eq_route_of_walk {parts : List String}
    (h : (∃ old, files.walk here parts = .file names old) ∨ files.walk here parts = .missing names ∧ names ≠ []) :
    names = route here parts := by
  induction parts generalizing here with
  | nil => rcases h with ⟨_, h⟩ | ⟨h, _⟩ <;> cases h
  | cons name rest ih =>
      have hroute : route here (name :: rest) = route (step here name) rest := rfl
      rw [hroute]
      rw [walk] at h
      split at h
      · rcases h with ⟨_, h⟩ | ⟨h, _⟩ <;> cases h
      · split at h
        · exact ih h
        · rcases h with ⟨old, h⟩ | ⟨h, _⟩
          · split at h
            · next hrest =>
              cases h
              rw [hrest]
              rfl
            · cases h
          · split at h <;> cases h
        · rcases h with ⟨_, h⟩ | ⟨h, hnames⟩
          · cases h
          · split at h
            · next hrest =>
              cases h
              rw [hrest]
              rfl
            · cases h
              exact absurd rfl hnames

namespace Offers

variable (h : files.Offers p names)
include h

theorem namable : ¬p.isUnnamable = true := by
  intro hunnamable
  rcases h with ⟨_, hplace⟩ | ⟨hplace, hnames⟩
  · simp [place, hunnamable] at hplace
  · simp only [place, hunnamable, if_true, Place.missing.injEq] at hplace
    exact hnames hplace.symm

theorem place_put (bytes : List UInt8) : (files.put names (.file bytes)).place p = .file names bytes := by
  have hnamable := h.namable
  unfold Offers at h
  unfold place at h ⊢
  rw [if_neg hnamable] at h ⊢
  by_cases hlong : pathLimit < p.text.utf8ByteSize
  · simp [hlong] at h
  · rw [if_neg hlong] at h ⊢
    exact walk_put_file h bytes

theorem eq_target : names = target p := by
  have hnamable := h.namable
  unfold Offers place at h
  rw [if_neg hnamable] at h
  split at h
  · rcases h with ⟨_, h⟩ | ⟨h, _⟩ <;> cases h
  · exact eq_route_of_walk h

/-- Bytes come behind what the file at the place held before. -/
theorem append_eq (bytes : List UInt8) :
    files.append p bytes = .ok (files.put names (.file (files.contentAt names ++ bytes))) := by
  rw [append, if_neg h.namable]
  rcases h with ⟨old, hplace⟩ | ⟨hplace, hnames⟩
  · rw [hplace, contentAt_of_file (find?_of_place_file hplace)]
  · have hcontent : files.contentAt names = [] := by rw [contentAt, find?_of_place_missing hplace hnames]
    rw [hplace, hcontent, List.nil_append]
    cases names with
    | nil => exact absurd rfl hnames
    | cons first rest => rfl

end Offers

theorem exists_offers_of_append (h : files.append p bytes = .ok files') : ∃ names, files.Offers p names := by
  unfold append at h
  split at h
  · cases h
  · split at h
    · next names old hplace => exact ⟨names, Or.inl ⟨old, hplace⟩⟩
    · cases h
    · next names hno hplace => exact ⟨names, Or.inr ⟨hplace, fun hnil => hno hnil⟩⟩
    all_goals cases h

theorem read_of_place (h : files.place p = .file names bytes) : files.read p = .ok bytes := by
  rw [read, if_neg (Offers.namable (Or.inl ⟨bytes, h⟩)), h]

theorem place_of_read (h : files.read p = .ok bytes) : ∃ names, files.place p = .file names bytes := by
  unfold read at h
  split at h
  · cases h
  · split at h
    · next names old hplace =>
      cases h
      exact ⟨names, hplace⟩
    all_goals cases h

/-- Where directories have been added, a path still leads to the file that it led to. -/
theorem Offers.contentAt_of_read {made : Files} {ways : List (List String)} (hmade : files.AddsDirectories made ways)
    (h : made.Offers p names) {old : List UInt8} (hold : files.read p = .ok old) : files.contentAt names = old := by
  obtain ⟨there, hplace⟩ := place_of_read hold
  have hplace' := hmade.place_file hplace
  obtain rfl : there = names := by
    rcases h with ⟨_, hnames⟩ | ⟨hnames, _⟩
    · cases hplace'.symm.trans hnames
      rfl
    · cases hplace'.symm.trans hnames
  exact contentAt_of_file (find?_of_place_file hplace)

theorem find?_put_file_iff {names other : List String} {bytes old : List UInt8} (h : other ≠ names) :
    (files.put names (.file bytes)).find? other = some (.file old) ↔ files.find? other = some (.file old) := by
  rw [find?_put, if_neg h]
  cases files.find? other with
  | some entry => rw [Option.some_or]
  | none => split <;> simp

/-- To open a file for more, behind directories that have been added, and then to write into it is to append to it. -/
theorem exists_appends {made opened : Files} {ways : List (List String)} (hmade : files.AddsDirectories made ways)
    (hopen : made.append p [] = .ok opened) (bytes : List UInt8) :
    files.Appends opened p [] ∧ ∃ files', opened.append p bytes = .ok files' ∧ files.Appends files' p bytes := by
  obtain ⟨names, hoffers⟩ := exists_offers_of_append hopen
  obtain rfl := hoffers.eq_target
  have hcontent : made.contentAt (target p) = files.contentAt (target p) :=
    contentAt_eq_of_find?_iff fun _ => hmade.find?_file_iff
  have hold {old : List UInt8} (hread : files.read p = .ok old) := hoffers.contentAt_of_read hmade hread
  rw [hoffers.append_eq, hcontent, List.append_nil] at hopen
  cases hopen
  have hplace := hoffers.place_put (files.contentAt (target p))
  have hother {other : List String} (hne : other ≠ target p) {old : List UInt8} :
      (made.put (target p) (.file (files.contentAt (target p)))).find? other = some (.file old) ↔
        files.find? other = some (.file old) := (find?_put_file_iff hne).trans hmade.find?_file_iff
  refine ⟨⟨?_, fun _ => hold, fun _ hne _ => hother hne⟩, ?_⟩
  · rw [read_of_place hplace, List.append_nil]
  · have hoffers' : (made.put (target p) (.file (files.contentAt (target p)))).Offers p (target p) := Or.inl ⟨_, hplace⟩
    have happend := hoffers'.append_eq bytes
    rw [contentAt_of_file (find?_of_place_file hplace)] at happend
    refine ⟨_, happend, read_of_place (hoffers'.place_put _), fun _ => hold, fun _ hne _ => ?_⟩
    exact (find?_put_file_iff hne).trans (hother hne)

/-- Where a place is admitted, the directories on the way to it can be made, and then there may be a file. -/
theorem Admits.exists_offers (h : files.Admits p) :
    ∃ made ways, files.ensureDirectories p.root p.parent.parts.reverse = .ok made ∧ files.AddsDirectories made ways ∧
      made.Offers p (target p) := by
  have hparent : p.parent.parts.reverse.reverse = p.parts.dropLast := List.reverse_reverse _
  have husable : (⟨p.root, p.parent.parts.reverse.reverse⟩ : Path).IsUsable := by
    have hwhole : (⟨p.root, p.parts.dropLast ++ [p.parts.getLast h.named]⟩ : Path).IsUsable := by
      rw [List.dropLast_append_getLast]
      exact h.usable
    rw [hparent]
    exact hwhole.front
  have hway : ∀ names ∈ visited (Path.start ⟨p.root, []⟩) p.parent.parts.reverse.reverse, ∀ bytes,
      files.find? names ≠ some (.file bytes) := by
    rw [hparent]
    exact h.way
  obtain ⟨made, hok, hdirectories, hadds⟩ := exists_ensureDirectories husable hway
  rw [hparent] at hdirectories hadds
  have hfree : made.find? (target p) ≠ some .directory := by
    intro hdirectory
    rcases hadds (target p) with hsame | ⟨_, _, way, hmem, habove⟩
    · exact h.free (hsame ▸ hdirectory)
    · exact h.beside way hmem habove
  have hplace := place_of_directories h.usable (List.dropLast_append_getLast h.named).symm hdirectories
  refine ⟨made, _, hok, hadds, ?_⟩
  cases hentry : made.find? (target p) with
  | none =>
      rw [hentry] at hplace
      exact Or.inr ⟨hplace, ne_nil_of_find?_eq_none hentry⟩
  | some entry =>
      rw [hentry] at hplace
      cases entry with
      | directory => exact absurd hentry hfree
      | file old => exact Or.inl ⟨old, hplace⟩

end Files

end ManifestGrading
