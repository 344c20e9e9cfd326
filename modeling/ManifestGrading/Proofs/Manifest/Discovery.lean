import Mathlib.Data.List.Dedup
import Mathlib.Data.List.Infix
import Mathlib.Data.List.Lex
import Mathlib.Data.List.Sort
import Mathlib.Data.String.Basic
import ManifestGrading.Proofs.Manifest.Loading

/-! The discovery of manifests in a directory. Whatever order a file system lists the things in a directory in, the
same manifests are found in the same order, that of their names from left to right: all files at any depth whose names
end like those of manifests, each once, and no directories. -/

namespace ManifestGrading

namespace Path

/-- The order of paths is the lexicographic one of their names. -/
theorem namesBefore_iff (a b : List String) : namesBefore a b = true ↔ a ≤ b := by
  induction a generalizing b with
  | nil => simp [namesBefore, ← not_lt, List.not_lt_nil]
  | cons x a ih =>
      cases b with
      | nil => simp [namesBefore, ← not_lt]
      | cons y b =>
          have hle : x :: a ≤ y :: b ↔ x < y ∨ x = y ∧ a ≤ b := by
            rw [← not_lt, ← not_lt, List.cons_lt_cons_iff, not_or, not_and, not_lt]
            constructor
            · rintro ⟨hle, h⟩
              rcases hle.lt_or_eq with hlt | rfl
              · exact Or.inl hlt
              · exact Or.inr ⟨rfl, h rfl⟩
            · rintro (hlt | ⟨rfl, h⟩)
              · exact ⟨hlt.le, fun heq => absurd heq hlt.ne'⟩
              · exact ⟨le_rfl, fun _ => h⟩
          rw [hle, namesBefore, ← ih b]
          simp

/-! ### The end of a name -/

theorem exists_last_dot {cs : List Char} (h : '.' ∈ cs) : ∃ stem ext, cs = stem ++ '.' :: ext ∧ '.' ∉ ext := by
  obtain ⟨back, front, hcs, hback⟩ := List.eq_append_cons_of_mem (List.mem_reverse.2 h)
  refine ⟨front.reverse, back.reverse, ?_, by simpa using hback⟩
  rw [← List.reverse_reverse cs, hcs]
  simp

theorem suffix_of_last_dot {stem ext : List Char} (hext : '.' ∉ ext) :
    suffix (String.ofList (stem ++ '.' :: ext)) =
      if stem ≠ [] ∧ ext ≠ [] then String.ofList ('.' :: ext) else "" := by
  have hbehind : ((stem ++ '.' :: ext).reverse.takeWhile (· != '.')).reverse = ext := by
    have hall : ∀ c ∈ ext.reverse, (c != '.') = true := by
      intro c hc
      have hne : c ≠ '.' := fun heq => hext (heq ▸ List.mem_reverse.1 hc)
      simpa using hne
    rw [List.reverse_append, List.reverse_cons, List.append_assoc, List.takeWhile_append_of_pos hall]
    simp
  have hstem : ext.length + 1 < (stem ++ '.' :: ext).length ↔ stem ≠ [] := by
    rw [List.length_append, List.length_cons, ← List.length_pos_iff]
    omega
  simp only [suffix, String.toList_ofList, hbehind, hstem]
  by_cases hs : stem = []
  · simp [hs]
  · by_cases he : ext = []
    · simp [he]
    · simp [hs, he]

theorem suffix_of_no_dot {name : String} (h : '.' ∉ name.toList) : suffix name = "" := by simp [suffix, h]

end Path

namespace Manifest

/-- Whether the part of a name behind its last dot makes it the name of a manifest, where that dot is neither the first
nor the last character of the name. -/
def HasManifestSuffix (name : String) : Prop :=
  ∃ stem ext : String, name = stem ++ "." ++ ext ∧ stem ≠ "" ∧ ext ≠ "" ∧ '.' ∉ ext.toList ∧
    Text.lower ("." ++ ext) ∈ [".yaml", ".yml", ".json"]

theorem isManifestName_iff {name : String} : isManifestName name = true ↔ HasManifestSuffix name := by
  have hnone : suffixes.contains (Text.lower "") = false := by decide
  constructor
  · intro h
    by_cases hdot : '.' ∈ name.toList
    · obtain ⟨stem, ext, hname, hext⟩ := Path.exists_last_dot hdot
      obtain rfl : name = String.ofList (stem ++ '.' :: ext) := by rw [← hname, String.ofList_toList]
      rw [isManifestName, Path.suffix_of_last_dot hext] at h
      split at h
      · next hparts =>
        refine ⟨String.ofList stem, String.ofList ext, ?_, ?_, ?_, by simpa using hext, ?_⟩
        · rw [← String.toList_inj]
          simp
        · simpa using hparts.1
        · simpa using hparts.2
        · have hcons : "." ++ String.ofList ext = String.ofList ('.' :: ext) := by
            rw [← String.toList_inj]
            simp
          rw [hcons]
          simpa [suffixes] using h
      · rw [hnone] at h
        cases h
    · rw [isManifestName, Path.suffix_of_no_dot hdot, hnone] at h
      cases h
  · rintro ⟨stem, ext, rfl, hstem, hext, hdot, hlower⟩
    have hname : stem ++ "." ++ ext = String.ofList (stem.toList ++ '.' :: ext.toList) := by
      rw [← String.toList_inj]
      simp
    have hcons : String.ofList ('.' :: ext.toList) = "." ++ ext := by
      rw [← String.toList_inj]
      simp
    have hparts : stem.toList ≠ [] ∧ ext.toList ≠ [] := by simp [hstem, hext]
    rw [isManifestName, hname, Path.suffix_of_last_dot hdot, if_pos hparts, hcons]
    simpa [suffixes] using hlower

end Manifest

namespace Files

variable {files : Files} {names rest : List String} {bytes : List UInt8} {listing : List (List String × FileEntry)}

/-! ### What stands in a directory -/

/-- Files of which each stands at a place of its own, and none where the current directory or one above it is. -/
structure IsTree (files : Files) : Prop where
  once : (files.entries.map Prod.fst).Nodup
  below : ∀ names bytes, (names, .file bytes) ∈ files.entries → isAbove names = false

theorem IsTree.eq_of_mem (h : files.IsTree) {a b : List String × FileEntry} (ha : a ∈ files.entries)
    (hb : b ∈ files.entries) (hplace : a.1 = b.1) : a = b :=
  List.inj_on_of_nodup_map h.once ha hb hplace

theorem IsTree.find?_eq_file_iff (h : files.IsTree) :
    files.find? names = some (.file bytes) ↔ (names, .file bytes) ∈ files.entries := by
  have hlookup : files.find? names = some (.file bytes) ↔ files.entries.lookup names = some (.file bytes) := by
    cases hentry : files.entries.lookup names with
    | some entry => simp [find?, hentry]
    | none =>
        simp only [find?, hentry]
        split <;> simp
  rw [hlookup, List.lookup_eq_some_iff]
  constructor
  · rintro ⟨before, behind, heq, _⟩
    rw [heq]
    exact List.mem_append_right _ List.mem_cons_self
  · intro hmem
    obtain ⟨before, behind, heq, hfirst⟩ := List.eq_append_cons_of_mem hmem
    refine ⟨before, behind, heq, fun other hother => ?_⟩
    have hne : names ≠ other.1 := by
      intro hplace
      have hin : other ∈ files.entries := heq ▸ List.mem_append_left _ hother
      have hsame : other = (names, .file bytes) := h.eq_of_mem hin hmem hplace.symm
      exact hfirst (hsame ▸ hother)
    simpa using hne

theorem IsTree.find?_of_isAbove (h : files.IsTree) (habove : isAbove names = true) :
    files.find? names = some .directory := by
  cases hentry : files.entries.lookup names with
  | none => simp [find?, hentry, habove]
  | some entry =>
      cases entry with
      | directory => simp [find?, hentry]
      | file bytes =>
          have hfile : files.find? names = some (.file bytes) := by simp [find?, hentry]
          have hbelow := h.below names bytes (h.find?_eq_file_iff.1 hfile)
          rw [habove] at hbelow
          cases hbelow

theorem find?_of_walk {here parts : List String} (h : files.walk here parts = .directory names)
    (hhere : files.find? here = some .directory) : files.find? names = some .directory := by
  induction parts generalizing here with
  | nil =>
      rw [walk] at h
      obtain rfl := Place.directory.inj h
      exact hhere
  | cons name parts ih =>
      rw [walk] at h
      split at h
      · cases h
      · split at h
        · next hstep => exact ih h hstep
        · split at h <;> cases h
        · cases h

theorem IsTree.find?_of_place (h : files.IsTree) {p : Path} (hplace : files.place p = .directory names) :
    files.find? names = some .directory := by
  unfold place at hplace
  split at hplace
  · cases hplace
  · split at hplace
    · cases hplace
    · refine find?_of_walk hplace (h.find?_of_isAbove ?_)
      unfold Path.start
      split <;> simp [isAbove]

/-- Whether names lead from a directory down into it. -/
def LeadsInto (names rest : List String) : Prop :=
  rest ≠ [] ∧ isOutside (names ++ rest) = isOutside names ∧ isAbove (names ++ rest) = false

instance (names rest : List String) : Decidable (LeadsInto names rest) := inferInstanceAs (Decidable (_ ∧ _))

theorem IsTree.mem_below_iff (h : files.IsTree) (hdirectory : files.find? names = some .directory) :
    rest ∈ files.below names ↔ LeadsInto names rest ∧ ∃ bytes, files.find? (names ++ rest) = some (.file bytes) := by
  simp only [mem_below, h.find?_eq_file_iff]
  constructor
  · rintro ⟨⟨bytes, hmem⟩, hside⟩
    have hrest : rest ≠ [] := by
      rintro rfl
      rw [List.append_nil, ← h.find?_eq_file_iff, hdirectory] at hmem
      cases hmem
    exact ⟨⟨hrest, hside, h.below _ bytes hmem⟩, bytes, hmem⟩
  · rintro ⟨⟨_, hside, _⟩, hfile⟩
    exact ⟨hfile, hside⟩

theorem IsTree.nodup_below (h : files.IsTree) (names : List String) : (files.below names).Nodup := by
  have honce : files.entries.Pairwise fun a b => a.1 ≠ b.1 := List.pairwise_map.1 h.once
  -- what leads from the directory to two places leads to the same one if it is the same
  have hplace {place rest : List String}
      (h : (if names.isPrefixOf place && isOutside place = isOutside names then some (place.drop names.length)
        else none) = some rest) : place = names ++ rest := by
    simp only [Option.ite_none_right_eq_some, Option.some.injEq, Bool.and_eq_true, decide_eq_true_eq,
      List.isPrefixOf_iff_prefix] at h
    obtain ⟨⟨⟨tail, htail⟩, _⟩, hrest⟩ := h
    rw [← hrest, ← htail, List.drop_left]
  refine honce.filterMap _ fun a b hne rest ha rest' hb => ?_
  split at ha
  · split at hb
    · rintro rfl
      exact hne ((hplace ha).trans (hplace hb).symm)
    · cases hb
  · cases ha

/-- A list of all that stands in a directory at any depth, with the names that lead there: each thing once, in whatever
order a file system has it. -/
structure Lists (files : Files) (names : List String) (listing : List (List String × FileEntry)) : Prop where
  once : listing.Nodup
  mem_iff : ∀ rest entry, (rest, entry) ∈ listing ↔ LeadsInto names rest ∧ files.find? (names ++ rest) = some entry

theorem Lists.of_perm (h : files.Lists names listing) {other : List (List String × FileEntry)}
    (hperm : other.Perm listing) : files.Lists names other :=
  ⟨hperm.nodup_iff.2 h.once, fun rest entry => hperm.mem_iff.trans (h.mem_iff rest entry)⟩

/-- All that stands in a directory, in the order in which the files are kept. -/
def listed (files : Files) (names : List String) : List (List String × FileEntry) :=
  let ways := (files.entries.flatMap fun e => e.1.inits).filter (names.isPrefixOf ·)
  let rests := (ways.map fun place => place.drop names.length).filter fun rest => LeadsInto names rest
  rests.dedup.filterMap fun rest => (files.find? (names ++ rest)).map (rest, ·)

theorem lists_listed (files : Files) (names : List String) : files.Lists names (files.listed names) := by
  refine ⟨?_, fun rest entry => ?_⟩
  · refine (List.nodup_dedup _).filterMap fun rest rest' b h h' => ?_
    simp only [Option.mem_def, Option.map_eq_some_iff] at h h'
    obtain ⟨_, _, rfl⟩ := h
    obtain ⟨_, _, heq⟩ := h'
    exact (congrArg Prod.fst heq).symm
  · simp only [listed, List.mem_filterMap, Option.map_eq_some_iff, List.mem_dedup, List.mem_filter, List.mem_map,
      List.mem_flatMap, List.mem_inits, decide_eq_true_eq, List.isPrefixOf_iff_prefix]
    constructor
    · rintro ⟨rest, ⟨_, hinto⟩, entry, hentry, heq⟩
      cases heq
      exact ⟨hinto, hentry⟩
    · rintro ⟨hinto, hentry⟩
      -- what is found at a place is an entry, or a directory that an entry stands in
      have hway : ∃ e ∈ files.entries, names ++ rest <+: e.1 := by
        cases hlookup : files.entries.lookup (names ++ rest) with
        | some own =>
            obtain ⟨before, behind, heq, _⟩ := List.lookup_eq_some_iff.1 hlookup
            exact ⟨(names ++ rest, own), heq ▸ List.mem_append_right _ List.mem_cons_self, List.prefix_rfl⟩
        | none =>
            simp only [find?, hlookup, hinto.2.2, Bool.false_or] at hentry
            split at hentry
            · next hany => simpa using hany
            · cases hentry
      refine ⟨rest, ⟨⟨names ++ rest, ⟨?_, List.prefix_append names rest⟩, List.drop_left⟩, hinto⟩, entry, hentry, rfl⟩
      exact hway

/-- The files in a list of things. -/
def filesAmong (listing : List (List String × FileEntry)) : List (List String) :=
  listing.filterMap fun e => match e.2 with
    | .file _ => some e.1
    | .directory => none

theorem mem_filesAmong : rest ∈ filesAmong listing ↔ ∃ bytes, (rest, .file bytes) ∈ listing := by
  simp only [filesAmong, List.mem_filterMap]
  constructor
  · rintro ⟨⟨place, entry⟩, hmem, h⟩
    cases entry with
    | directory => cases h
    | file bytes =>
        obtain rfl := Option.some.inj h
        exact ⟨bytes, hmem⟩
  · rintro ⟨bytes, hmem⟩
    exact ⟨_, hmem, rfl⟩

theorem Lists.nodup_filesAmong (h : files.Lists names listing) : (filesAmong listing).Nodup := by
  -- a place holds one thing, so things at the same place are the same
  have honce : listing.Pairwise fun a b => a.1 ≠ b.1 := by
    refine h.once.imp_of_mem fun {a b} ha hb hne hplace => hne ?_
    obtain ⟨_, hfirst⟩ := (h.mem_iff a.1 a.2).1 ha
    obtain ⟨_, hsecond⟩ := (h.mem_iff b.1 b.2).1 hb
    rw [← hplace, hfirst] at hsecond
    exact Prod.ext hplace (Option.some.inj hsecond)
  refine honce.filterMap _ fun a b hne rest ha rest' hb => ?_
  have hplace {e : List String × FileEntry} {rest : List String}
      (he : (match e.2 with
        | .file _ => some e.1
        | .directory => none) = some rest) : e.1 = rest := by
    split at he
    · exact Option.some.inj he
    · cases he
  rintro rfl
  exact hne ((hplace ha).trans (hplace hb).symm)

theorem Lists.filesAmong_perm_below (h : files.Lists names listing) (htree : files.IsTree)
    (hdirectory : files.find? names = some .directory) : (filesAmong listing).Perm (files.below names) := by
  refine (List.perm_ext_iff_of_nodup h.nodup_filesAmong (htree.nodup_below names)).2 fun rest => ?_
  rw [mem_filesAmong, htree.mem_below_iff hdirectory]
  simp only [h.mem_iff, exists_and_left]

end Files

namespace Manifest

variable {files : Files} {names rest : List String} {places places' : List (List String)}

/-! ### What is found -/

theorem mem_discover_iff :
    names ∈ discover places ↔ names ∈ places ∧ ∃ name, names.getLast? = some name ∧ HasManifestSuffix name := by
  simp only [discover, List.mem_mergeSort, List.mem_filter, Option.any_eq_true, isManifestName_iff]

theorem pairwise_le_discover (places : List (List String)) : (discover places).Pairwise (· ≤ ·) := by
  have hsorted : (discover places).Pairwise fun a b => Path.namesBefore a b = true := by
    refine List.pairwise_mergeSort (fun a b c hab hbc => ?_) (fun a b => ?_) _
    · rw [Path.namesBefore_iff] at *
      exact hab.trans hbc
    · rw [Bool.or_eq_true, Path.namesBefore_iff, Path.namesBefore_iff]
      exact le_total a b
  exact hsorted.imp fun h => (Path.namesBefore_iff _ _).1 h

/-- What is found does not depend on the order of the places. -/
theorem discover_eq_of_perm (h : places.Perm places') : discover places = discover places' := by
  have hperm : (discover places).Perm (discover places') :=
    (List.mergeSort_perm _ _).trans ((h.filter _).trans (List.mergeSort_perm _ _).symm)
  exact hperm.eq_of_pairwise (fun _ _ _ _ hab hba => le_antisymm hab hba) (pairwise_le_discover places)
    (pairwise_le_discover places')

theorem pairwise_lt_discover (h : places.Nodup) : (discover places).Pairwise (· < ·) := by
  have hnodup : (discover places).Nodup := (List.mergeSort_perm _ _).nodup_iff.2 (h.filter _)
  exact ((pairwise_le_discover places).and hnodup).imp fun h => lt_of_le_of_ne h.1 h.2

theorem append_lt_append {base a b : List String} (h : a < b) : base ++ a < base ++ b := by
  induction base with
  | nil => exact h
  | cons name base ih => exact List.cons_lt_cons_iff.2 (Or.inr ⟨rfl, ih⟩)

theorem mem_text_of_mem_parts {p : Path} {name : String} {c : Char} (hname : name ∈ p.parts) (hc : c ∈ name.toList) :
    c ∈ p.text.toList := by
  have hparts : p.parts ≠ [] := List.ne_nil_of_mem hname
  have hjoined (parts : List (List Char)) (part : List Char) (hpart : part ∈ parts) (hc : c ∈ part) :
      c ∈ "/".toList.intercalate parts := by
    induction parts with
    | nil => cases hpart
    | cons first parts ih =>
        cases parts with
        | nil =>
            obtain rfl := List.mem_singleton.1 hpart
            simpa using hc
        | cons second parts =>
            rw [List.intercalate_cons_cons]
            rcases List.mem_cons.1 hpart with rfl | hpart
            · simp [hc]
            · exact List.mem_append_right _ (ih hpart)
  rw [Path.text, if_neg fun h => hparts h.2, String.toList_append, String.toList_intercalate]
  exact List.mem_append_right _ (hjoined _ _ (List.mem_map_of_mem hname) hc)

/-- What is found in a directory is never taken for the standard input. -/
theorem ofPath_append_of_mem_discover (p : Path) (h : rest ∈ discover places) :
    Source.ofPath (p.append rest) = .file (p.append rest) := by
  obtain ⟨_, name, hlast, stem, ext, hname, _⟩ := mem_discover_iff.1 h
  have hmem : name ∈ (p.append rest).parts := List.mem_append_right _ (List.mem_of_getLast? hlast)
  have hdot : '.' ∈ (p.append rest).text.toList := mem_text_of_mem_parts hmem (by simp [hname])
  have hinput : (p.append rest).text ≠ inputPath := by
    intro heq
    rw [heq] at hdot
    simp [inputPath] at hdot
  exact if_neg hinput

/-- However the things in a directory are listed, the same manifests are found. They are the files at any depth whose
names end like those of manifests, each once and in the order of their paths, compared name by name; nothing else is
found, and these are the sources that the path of the directory stands for. -/
theorem discover_of_lists (htree : files.IsTree) {raw : String} (hraw : raw ≠ inputPath)
    (hplace : files.place (Path.ofText raw) = .directory names) :
    ∃ found : List (List String),
      (∀ listing, files.Lists names listing → discover (Files.filesAmong listing) = found) ∧
      sourcesAt files raw = .ok (found.map fun rest => .file ((Path.ofText raw).append rest)) ∧
      (found.map fun rest => ((Path.ofText raw).append rest).parts).Pairwise (· < ·) ∧
      ∀ rest, rest ∈ found ↔ Files.LeadsInto names rest ∧
        (∃ bytes, files.find? (names ++ rest) = some (.file bytes)) ∧
        ∃ name, rest.getLast? = some name ∧ HasManifestSuffix name := by
  have hdirectory := htree.find?_of_place hplace
  refine ⟨discover (files.below names), fun listing hlists => ?_, ?_, ?_, fun rest => ?_⟩
  · exact discover_eq_of_perm (hlists.filesAmong_perm_below htree hdirectory)
  · simp only [sourcesAt, if_neg hraw, hplace]
    exact congrArg Except.ok (List.map_congr_left fun rest hrest => ofPath_append_of_mem_discover _ hrest)
  · exact List.pairwise_map.2 ((pairwise_lt_discover (htree.nodup_below names)).imp append_lt_append)
  · rw [mem_discover_iff, htree.mem_below_iff hdirectory, and_assoc]

/-- A directory with hidden manifests, with a directory that has the name of one, and with names that only look alike. -/
def scattered : Files :=
  ⟨[(["m", "a-b.yml"], .file []), (["m", "a", "z.YAML"], .file []), (["m", "old.yaml", "notes.txt"], .file []),
    (["m", ".yaml"], .file []), (["m", ".git", ".x.Json"], .file []), (["m", "a.json."], .file [])]⟩

theorem discover_of_lists_scattered :
    scattered.IsTree ∧ scattered.place (Path.ofText "./m/") = .directory ["m"] ∧
      (["old.yaml"], .directory) ∈ scattered.listed ["m"] ∧
      ∀ listing, listing.Perm (scattered.listed ["m"]) →
        discover (Files.filesAmong listing) = [[".git", ".x.Json"], ["a", "z.YAML"], ["a-b.yml"]] := by
  have htree : scattered.IsTree := by
    refine ⟨by decide, fun names bytes hmem => ?_⟩
    have hbelow : ∀ e ∈ scattered.entries, Files.isAbove e.1 = false := by decide
    exact hbelow _ hmem
  have hplace : scattered.place (Path.ofText "./m/") = .directory ["m"] := by decide +kernel
  have hraw : "./m/" ≠ inputPath := by decide
  obtain ⟨found, hfound, _⟩ := discover_of_lists htree hraw hplace
  have hown : discover (Files.filesAmong (scattered.listed ["m"])) =
      [[".git", ".x.Json"], ["a", "z.YAML"], ["a-b.yml"]] := by
    have hfiles : (Files.filesAmong (scattered.listed ["m"])).Perm
        [[".git", ".x.Json"], ["a", "z.YAML"], ["a-b.yml"], ["old.yaml", "notes.txt"], [".yaml"], ["a.json."]] := by
      decide +kernel
    rw [discover_eq_of_perm hfiles]
    exact List.mergeSort_of_pairwise (by decide +kernel)
  refine ⟨htree, hplace, by decide +kernel, fun listing hperm => ?_⟩
  have hlists := Files.lists_listed scattered ["m"]
  rw [hfound _ (hlists.of_perm hperm), ← hfound _ hlists]
  exact hown

end Manifest

end ManifestGrading
