import Mathlib.Data.List.Induction
import Mathlib.Data.List.Pairwise
import ManifestGrading.Proofs.Pack.Faults

/-! What entries make of packs. Packs stand where their names first stand, and a pack is what the entries with its name
say, one after the other, wherever they stand. An entry says nothing about the packs with other names, so without
the entries for one pack the other packs are as they were. -/

namespace ManifestGrading

namespace Value

/-- A value that may be a key is the same key as itself. -/
theorem sameKey_self {v : Value} (h : v.isHashable) : v.sameKey v := by
  rw [sameKey_iff]
  cases v with
  | float x => cases x <;> exact ⟨_, rfl, rfl⟩
  | list _ | tuple _ | set _ | map _ | knot _ _ | cell _ => cases h
  | _ => exact ⟨_, rfl, rfl⟩

theorem sameKey_congr {v w : Value} (h : v.sameKey w) (u : Value) : v.sameKey u = w.sameKey u := by
  rw [Bool.eq_iff_iff]
  exact ⟨sameKey_trans (sameKey_comm v w ▸ h), sameKey_trans h⟩

end Value

namespace PackEntry

variable {v : Value} {e : PackEntry}

theorem isHashable_of_ofValue (h : ofValue v = .ok (some e)) : e.name.isHashable := by
  unfold ofValue at h
  split at h
  · next entries _ =>
    unfold ofEntries at h
    by_cases hname : (entries.get "name").isTruthy
    · by_cases hkey : (entries.get "name").isHashable
      · simp only [hname, hkey, Bool.not_true, Bool.false_eq_true, if_false] at h
        obtain ⟨module, _, h⟩ := Attempt.bind_ok_iff.1 h
        obtain ⟨ignore, _, h⟩ := Attempt.bind_ok_iff.1 h
        obtain ⟨optional, _, h⟩ := Attempt.bind_ok_iff.1 h
        cases h
        exact hkey
      · simp [hname, hkey, bind, Except.bind, throw, throwThe, MonadExceptOf.throw] at h
    · simp [hname, pure, Except.pure] at h
  · cases h

theorem isHashable_ofManifest (number : Nat) (e : PackEntry) :
    (e.ofManifest number).name.isHashable = e.name.isHashable := by
  unfold ofManifest
  split
  · next x hname =>
    rw [hname]
    rfl
  · rfl

/-- A name that is some number is the same in all manifests. -/
theorem ofManifest_of_not_nan (h : ∀ origin, e.name ≠ .float (.nan origin)) (number : Nat) :
    e.ofManifest number = e := by
  unfold ofManifest
  split
  · next x hname =>
    cases x with
    | nan origin => exact absurd hname (h origin)
    | _ => simp [Binary64.madeAt, ← hname]
  · rfl

end PackEntry

namespace Pack

variable {e : PackEntry} {entries a b : List PackEntry} {p q : Pack} {packs : List Pack} {name : Value}

/-! ### One entry -/

theorem merge_of_new (h : ∀ p ∈ packs, e.name.sameKey p.name = false) :
    merge e packs = packs ++ [(bare e.name).update e] := by
  induction packs with
  | nil => rfl
  | cons p rest ih =>
      obtain ⟨hp, hrest⟩ := List.forall_mem_cons.1 h
      simp [merge, hp, ih hrest]

/-- Packs no two of which have the same name. -/
def Distinct (packs : List Pack) : Prop := packs.Pairwise fun p q => p.name.sameKey q.name = false

theorem Distinct.eq_of_sameKey (h : Distinct packs) (hp : p ∈ packs) (hq : q ∈ packs) (hname : p.name.sameKey q.name) :
    p = q := by
  have hsymm : Std.Symm fun p q : Pack => p.name.sameKey q.name = false :=
    ⟨fun p q hne => by rw [Value.sameKey_comm, hne]⟩
  by_contra hne
  cases hname.symm.trans (h.forall hp hq hne)

theorem merge_of_known (hdistinct : Distinct packs) (hp : p ∈ packs) (hname : e.name.sameKey p.name) :
    merge e packs = packs.map fun p => if e.name.sameKey p.name then p.update e else p := by
  induction packs with
  | nil => cases hp
  | cons q rest ih =>
      obtain ⟨hq, hrest⟩ := List.pairwise_cons.1 hdistinct
      by_cases hfirst : e.name.sameKey q.name
      · -- all packs behind have other names
        have hothers : ∀ p ∈ rest, e.name.sameKey p.name = false := by
          intro p hp
          rw [Value.sameKey_congr hfirst]
          exact hq p hp
        have hkept : rest.map (fun p => if e.name.sameKey p.name then p.update e else p) = rest := by
          conv_rhs => rw [← List.map_id rest]
          exact List.map_congr_left fun p hp => by simp [hothers p hp]
        simp [merge, hfirst, hkept]
      · rcases List.mem_cons.1 hp with rfl | hp
        · exact absurd hname hfirst
        · simp [merge, hfirst, ih hrest hp]

/-- Packs without those with a name. -/
def without (name : Value) (packs : List Pack) : List Pack := packs.filter fun p => !name.sameKey p.name

theorem without_merge_of_ne (h : name.sameKey e.name = false) (packs : List Pack) :
    without name (merge e packs) = merge e (without name packs) := by
  induction packs with
  | nil => simp [without, merge, name_update, bare, h]
  | cons p rest ih =>
      rw [without] at ih
      by_cases hfirst : e.name.sameKey p.name
      · -- the updated pack keeps its name, which is not the one left out
        have hother : name.sameKey p.name = false := by
          rw [Value.sameKey_comm, ← Value.sameKey_congr hfirst, Value.sameKey_comm, h]
        simp [without, merge, hfirst, hother, name_update]
      · by_cases hp : name.sameKey p.name
        · simp [without, merge, hfirst, hp, ih]
        · simp [without, merge, hfirst, hp, ih]

theorem without_merge_of_same (h : name.sameKey e.name) (packs : List Pack) :
    without name (merge e packs) = without name packs := by
  induction packs with
  | nil => simp [without, merge, name_update, bare, h]
  | cons p rest ih =>
      rw [without] at ih
      by_cases hfirst : e.name.sameKey p.name
      · have hsame : name.sameKey p.name := Value.sameKey_trans h hfirst
        simp [without, merge, hfirst, hsame, name_update]
      · by_cases hp : name.sameKey p.name
        · simpa [without, merge, hfirst, hp] using ih
        · simpa [without, merge, hfirst, hp] using ih

/-! ### All entries -/

/-- Without the entries for a pack the other packs are as they were. -/
theorem without_mergeAll (name : Value) (packs : List Pack) (entries : List PackEntry) :
    without name (mergeAll packs entries) =
      mergeAll (without name packs) (entries.filter fun e => !name.sameKey e.name) := by
  induction entries generalizing packs with
  | nil => rfl
  | cons e rest ih =>
      have hrest : without name (mergeAll packs (e :: rest)) = without name (mergeAll (merge e packs) rest) := rfl
      rw [hrest, ih]
      by_cases h : name.sameKey e.name
      · rw [without_merge_of_same h]
        simp [h]
      · rw [without_merge_of_ne (by simpa using h)]
        simp [h, mergeAll]

/-- The names in entries, each where it first stands. -/
def firstNames : List PackEntry → List Value
  | [] => []
  | e :: rest => e.name :: (firstNames rest).filter fun name => !e.name.sameKey name

theorem firstNames_append (a b : List PackEntry) :
    firstNames (a ++ b) = firstNames a ++ (firstNames b).filter fun name => !a.any (·.name.sameKey name) := by
  induction a with
  | nil => simp [firstNames]
  | cons e rest ih =>
      rw [List.cons_append, firstNames, ih, firstNames, List.filter_append, List.filter_filter, List.cons_append]
      simp [Bool.not_or]

theorem exists_of_mem_firstNames (h : name ∈ firstNames entries) : ∃ e ∈ entries, e.name = name := by
  induction entries with
  | nil => cases h
  | cons e rest ih =>
      rcases List.mem_cons.1 h with rfl | h
      · exact ⟨e, List.mem_cons_self, rfl⟩
      · obtain ⟨e', he', hname⟩ := ih (List.mem_of_mem_filter h)
        exact ⟨e', List.mem_cons_of_mem e he', hname⟩

theorem exists_mem_firstNames (h : ∀ e ∈ entries, e.name.isHashable) (he : e ∈ entries) :
    ∃ name ∈ firstNames entries, e.name.sameKey name := by
  induction entries with
  | nil => cases he
  | cons e' rest ih =>
      obtain ⟨hfirst, hrest⟩ := List.forall_mem_cons.1 h
      rcases List.mem_cons.1 he with rfl | he
      · exact ⟨e.name, List.mem_cons_self, Value.sameKey_self hfirst⟩
      · obtain ⟨name, hname, hsame⟩ := ih hrest he
        by_cases hknown : e'.name.sameKey name
        · refine ⟨e'.name, List.mem_cons_self, ?_⟩
          rw [Value.sameKey_comm, Value.sameKey_congr hknown, Value.sameKey_comm]
          exact hsame
        · exact ⟨name, List.mem_cons_of_mem _ (List.mem_filter.2 ⟨hname, by simpa using hknown⟩), hsame⟩

theorem pairwise_firstNames (entries : List PackEntry) :
    (firstNames entries).Pairwise fun name other => name.sameKey other = false := by
  induction entries with
  | nil => exact List.Pairwise.nil
  | cons e rest ih =>
      refine List.pairwise_cons.2 ⟨fun name hname => ?_, ih.filter _⟩
      simpa using (List.mem_filter.1 hname).2

/-- A pack with what entries say, one after the other. -/
def updateAll (p : Pack) (entries : List PackEntry) : Pack := entries.foldl update p

theorem updateAll_append (p : Pack) (a b : List PackEntry) : p.updateAll (a ++ b) = (p.updateAll a).updateAll b :=
  List.foldl_append

theorem name_updateAll (p : Pack) (entries : List PackEntry) : (p.updateAll entries).name = p.name := by
  induction entries generalizing p with
  | nil => rfl
  | cons e rest ih => exact ih (p.update e)

/-- The entries with a name. -/
def entriesFor (name : Value) (entries : List PackEntry) : List PackEntry := entries.filter (·.name.sameKey name)

theorem entriesFor_append (name : Value) (a b : List PackEntry) :
    entriesFor name (a ++ b) = entriesFor name a ++ entriesFor name b := List.filter_append ..

/-- What the entries with a name say about the pack with it. -/
def described (entries : List PackEntry) (name : Value) : Pack := (bare name).updateAll (entriesFor name entries)

theorem name_described (entries : List PackEntry) (name : Value) : (described entries name).name = name :=
  name_updateAll _ _

theorem described_concat_of_same (h : e.name.sameKey name) :
    described (entries ++ [e]) name = (described entries name).update e := by
  have hown : entriesFor name (entries ++ [e]) = entriesFor name entries ++ [e] := by simp [entriesFor, h]
  rw [described, hown, updateAll_append]
  rfl

theorem described_concat_of_ne (h : e.name.sameKey name = false) :
    described (entries ++ [e]) name = described entries name := by
  have hown : entriesFor name (entries ++ [e]) = entriesFor name entries := by simp [entriesFor, h]
  rw [described, hown, described]

theorem distinct_described (entries : List PackEntry) : Distinct ((firstNames entries).map (described entries)) := by
  refine List.pairwise_map.2 ((pairwise_firstNames entries).imp fun hne => ?_)
  rw [name_described, name_described, hne]

/-- There is one pack for each name, in the order in which the names first stand, and it is what all entries with its
name say. -/
theorem mergeAll_eq (h : ∀ e ∈ entries, e.name.isHashable) :
    mergeAll [] entries = (firstNames entries).map (described entries) := by
  induction entries using List.reverseRecOn with
  | nil => rfl
  | append_singleton entries e ih =>
      have hentries : ∀ e ∈ entries, e.name.isHashable := fun e he => h e (List.mem_append_left _ he)
      have hlast : mergeAll [] (entries ++ [e]) = merge e (mergeAll [] entries) := mergeAll_append [] entries [e]
      have hnames : firstNames [e] = [e.name] := rfl
      rw [hlast, ih hentries, firstNames_append, hnames]
      by_cases hknown : ∃ e' ∈ entries, e'.name.sameKey e.name
      · -- the pack is there, and no other one has its name
        have hany : entries.any (·.name.sameKey e.name) = true := by simpa using hknown
        obtain ⟨e', he', hsame'⟩ := hknown
        obtain ⟨name, hname, hsame⟩ := exists_mem_firstNames hentries he'
        have hsame : e.name.sameKey (described entries name).name := by
          rw [name_described, ← Value.sameKey_congr hsame']
          exact hsame
        rw [merge_of_known (distinct_described entries) (List.mem_map_of_mem hname) hsame, List.map_map,
          List.filter_cons_of_neg (by simp [hany]), List.filter_nil, List.append_nil]
        refine List.map_congr_left fun name _ => ?_
        rw [Function.comp_apply, name_described]
        by_cases hown : e.name.sameKey name
        · rw [if_pos hown, described_concat_of_same hown]
        · rw [if_neg hown, described_concat_of_ne (by simpa using hown)]
      · -- the pack comes last, and nothing was said about it before
        have hnone : ∀ e' ∈ entries, e'.name.sameKey e.name = false := by simpa using hknown
        have hother : ∀ name ∈ firstNames entries, e.name.sameKey name = false := by
          intro name hname
          obtain ⟨e', he', rfl⟩ := exists_of_mem_firstNames hname
          rw [Value.sameKey_comm]
          exact hnone e' he'
        have hself : e.name.sameKey e.name := Value.sameKey_self (h e (by simp))
        have halone : described entries e.name = bare e.name := by
          rw [described, entriesFor, List.filter_eq_nil_iff.2 (by simpa using hnone)]
          rfl
        have hrest : (firstNames entries).map (described (entries ++ [e])) =
            (firstNames entries).map (described entries) :=
          List.map_congr_left fun name hname => described_concat_of_ne (hother name hname)
        rw [merge_of_new, List.filter_cons_of_pos (by simpa using hnone), List.filter_nil, List.map_append, hrest,
          List.map_singleton, described_concat_of_same hself, halone]
        intro p hp
        obtain ⟨name, hname, rfl⟩ := List.mem_map.1 hp
        rw [name_described]
        exact hother name hname

theorem distinct_mergeAll (h : ∀ e ∈ entries, e.name.isHashable) : Distinct (mergeAll [] entries) := by
  rw [mergeAll_eq h]
  exact distinct_described entries

/-! ### What a pack is told -/

/-- The last entry that says whether the pack is enabled counts. -/
theorem enabled_updateAll (p : Pack) (entries : List PackEntry) :
    (p.updateAll entries).enabled = ((entries.filterMap PackEntry.enabled).getLast?).getD p.enabled := by
  induction entries using List.reverseRecOn with
  | nil => rfl
  | append_singleton entries e ih =>
      have hlast : (p.updateAll (entries ++ [e])).enabled = e.enabled.getD (p.updateAll entries).enabled := by
        rw [updateAll_append]
        rfl
      rw [hlast, ih, List.filterMap_append]
      cases he : e.enabled <;> simp [he]

/-- The last entry that names a module counts. -/
theorem module_updateAll (p : Pack) (entries : List PackEntry) :
    (p.updateAll entries).module = ((entries.filterMap PackEntry.module).getLast?).or p.module := by
  induction entries using List.reverseRecOn with
  | nil => rfl
  | append_singleton entries e ih =>
      have hlast : (p.updateAll (entries ++ [e])).module = e.module.or (p.updateAll entries).module := by
        rw [updateAll_append]
        rfl
      rw [hlast, ih, List.filterMap_append]
      cases he : e.module <;> simp [he]

/-- A list that grows by what each entry lists holds what all entries list. -/
theorem listed_updateAll {own : Pack → List RawText} {listed : PackEntry → List RawText}
    (h : ∀ p e, own (p.update e) = own p ++ listed e) (p : Pack) (entries : List PackEntry) :
    own (p.updateAll entries) = own p ++ entries.flatMap listed := by
  induction entries generalizing p with
  | nil => simp [updateAll]
  | cons e rest ih =>
      have hfirst : p.updateAll (e :: rest) = (p.update e).updateAll rest := rfl
      rw [hfirst, ih, h, List.flatMap_cons, List.append_assoc]

theorem ignore_updateAll (p : Pack) (entries : List PackEntry) :
    (p.updateAll entries).ignore = p.ignore ++ entries.flatMap PackEntry.ignore :=
  listed_updateAll (fun _ _ => rfl) p entries

theorem enableOptional_updateAll (p : Pack) (entries : List PackEntry) :
    (p.updateAll entries).enableOptional = p.enableOptional ++ entries.flatMap PackEntry.enableOptional :=
  listed_updateAll (fun _ _ => rfl) p entries

/-- Packs that differ at most in how often and in which order they list checks. -/
structure Resembles (p q : Pack) : Prop where
  name : p.name = q.name
  enabled : p.enabled = q.enabled
  module : p.module = q.module
  ignore : ∀ id, id ∈ p.ignore ↔ id ∈ q.ignore
  enableOptional : ∀ id, id ∈ p.enableOptional ↔ id ∈ q.enableOptional

theorem resembles_updateAll_updateAll (p : Pack) (entries : List PackEntry) :
    ((p.updateAll entries).updateAll entries).Resembles (p.updateAll entries) where
  name := name_updateAll _ entries
  enabled := by
    rw [enabled_updateAll, enabled_updateAll]
    cases (entries.filterMap PackEntry.enabled).getLast? <;> rfl
  module := by
    rw [module_updateAll, module_updateAll]
    cases (entries.filterMap PackEntry.module).getLast? <;> rfl
  ignore id := by simp [ignore_updateAll]
  enableOptional id := by simp [enableOptional_updateAll]

/-- Entries that come a second time add nothing but repetitions. -/
theorem forall₂_mergeAll_repeated (h : ∀ e ∈ a ++ b, e.name.isHashable) :
    List.Forall₂ Resembles (mergeAll [] (a ++ b ++ b)) (mergeAll [] (a ++ b)) := by
  have hall : ∀ e ∈ a ++ b ++ b, e.name.isHashable := by
    intro e he
    rcases List.mem_append.1 he with he | he
    · exact h e he
    · exact h e (List.mem_append_right a he)
  have hnames : firstNames (a ++ b ++ b) = firstNames (a ++ b) := by
    have hnone : ((firstNames b).filter fun name => !(a ++ b).any (·.name.sameKey name)) = [] := by
      refine List.filter_eq_nil_iff.2 fun name hname => ?_
      obtain ⟨e, he, rfl⟩ := exists_of_mem_firstNames hname
      have hself : e.name.sameKey e.name := Value.sameKey_self (h e (List.mem_append_right a he))
      have hany : (a ++ b).any (·.name.sameKey e.name) = true :=
        List.any_eq_true.2 ⟨e, List.mem_append_right a he, hself⟩
      simp [hany]
    rw [firstNames_append, hnone, List.append_nil]
  rw [mergeAll_eq hall, mergeAll_eq h, hnames, List.forall₂_map_left_iff, List.forall₂_map_right_iff,
    List.forall₂_same]
  intro name _
  rw [described, described, entriesFor_append, entriesFor_append, updateAll_append, updateAll_append]
  exact resembles_updateAll_updateAll _ _

/-! ### Manifests -/

variable {read read' : Path → Except PackFault (List PackEntry)} {files : Files} {path : Path}

/-- The entries of a manifest with its number. -/
def entriesFrom (read : Path → Except PackFault (List PackEntry)) (m : Path × Nat) :
    Except PackFault (List PackEntry) := (read m.1).map (List.map (PackEntry.ofManifest m.2))

theorem loadFrom_eq_mapM (read : Path → Except PackFault (List PackEntry)) (paths : List String) :
    loadFrom read paths =
      ((paths.map Path.ofText).zipIdx.mapM (entriesFrom read)).map fun lists => mergeAll [] lists.flatten := by
  have hlists (ps : List Path) (n : Nat) : (ps.zipIdx n).mapM (entriesFrom read) =
      (ps.mapM read).map fun lists => (lists.zipIdx n).map fun l => l.1.map (PackEntry.ofManifest l.2) := by
    induction ps generalizing n with
    | nil => rfl
    | cons p rest ih =>
        rw [List.zipIdx_cons, List.mapM_cons, List.mapM_cons, ih, entriesFrom]
        cases read p with
        | error e => rfl
        | ok entries => cases rest.mapM read <;> rfl
  rw [loadFrom_eq, hlists]
  cases (paths.map Path.ofText).mapM read with
  | error e => rfl
  | ok lists => exact congrArg (fun entries => Except.ok (mergeAll [] entries)) List.flatMap_def

theorem isHashable_of_mem_readEntries {found : List PackEntry} (h : readEntries files path = .ok found)
    (he : e ∈ found) : e.name.isHashable := by
  obtain ⟨text, _, h⟩ := Attempt.bind_ok_iff.1 h
  obtain ⟨manifest, _, h⟩ := Attempt.bind_ok_iff.1 h
  unfold entriesIn at h
  split at h
  · next items _ =>
    obtain ⟨given, hgiven, rfl⟩ := Attempt.map_ok_iff.1 (Attempt.mapError_ok_iff.1 h)
    obtain ⟨item, _, hitem⟩ := Attempt.exists_of_mem_mapM hgiven (by simpa using he)
    exact PackEntry.isHashable_of_ofValue hitem
  · cases h

theorem isHashable_of_mem_entriesFrom {m : Path × Nat} {found : List PackEntry}
    (h : entriesFrom (readEntries files) m = .ok found) (he : e ∈ found) : e.name.isHashable := by
  obtain ⟨read, hread, rfl⟩ := Attempt.map_ok_iff.1 h
  obtain ⟨given, hgiven, rfl⟩ := List.mem_map.1 he
  rw [PackEntry.isHashable_ofManifest]
  exact isHashable_of_mem_readEntries hread hgiven

end Pack

end ManifestGrading
