import Mathlib.Data.List.Nodup
import Mathlib.Data.List.Perm.Basic
import ManifestGrading.Proofs.Pack.Merging
import ManifestGrading.Proofs.Value.Equality
import ManifestGrading.Proofs.Value.Unwritable

/-! What the mappings in manifests make of packs, by three policies: the last mapping that says whether a pack is
enabled counts, so does the last one that gives a module, and all lists are put one behind the other. Only the mappings
with a name matter, in the order in which they stand; which manifests hold them does not, and neither does the order
among mappings with different names. -/

namespace ManifestGrading

theorem Value.eq_nil_of_not_truthy {v : Value} {items : List Value} (h : ¬v.isTruthy)
    (hitems : v.opened = .list items) : items = [] := by
  cases v with
  | list own =>
      obtain rfl := Value.list.inj hitems
      simpa [isTruthy] using h
  | knot cells root => exact absurd rfl h
  | _ => cases hitems

namespace PackEntry

variable {v : Value} {e : Entries} {texts : List RawText} {items : List Value}

/-- The texts that a value lists: those between the commas of a text, or those of the items of a sequence. -/
inductive Lists : Value → List RawText → Prop
  | text {v : Value} {s : RawText} (h : v.opened = .text s) : Lists v (Suppression.segments s)
  | items {v : Value} {items : List Value} {texts : List RawText} (h : v.opened = .list items ∨ v.opened = .tuple items)
    (ht : List.Forall₂ (fun item t => item.display = .ok t) items texts) : Lists v texts
  | nothing {v : Value} (h : ∀ s items, v.opened ≠ .text s ∧ v.opened ≠ .list items ∧ v.opened ≠ .tuple items) :
    Lists v []

theorem exists_lists_of_idsOf {ids : List RawText} (h : idsOf v = .ok ids) :
    ∃ texts, Lists v texts ∧ ids = Suppression.trimmed texts := by
  unfold idsOf at h
  split at h
  · next s hs => exact ⟨Suppression.segments s, .text hs, (Except.ok.inj h).symm⟩
  · next items hs =>
    obtain ⟨texts, htexts, rfl⟩ := Attempt.map_ok_iff.1 h
    exact ⟨texts, .items (Or.inl hs) (Attempt.forall₂_of_mapM_ok htexts), rfl⟩
  · next items hs =>
    obtain ⟨texts, htexts, rfl⟩ := Attempt.map_ok_iff.1 h
    exact ⟨texts, .items (Or.inr hs) (Attempt.forall₂_of_mapM_ok htexts), rfl⟩
  · next htext hlist htuple =>
    refine ⟨[], .nothing fun s items => ⟨?_, ?_, ?_⟩, (Except.ok.inj h).symm⟩
    · exact htext s
    · exact hlist items
    · exact htuple items

/-! ### One mapping -/

/-- A mapping with a name that tells one pack from others, and with a text for all that has to have one. -/
structure IsUsable (e : Entries) : Prop where
  hashable : (e.get "name").isHashable
  number (origin : List Nat) : e.get "name" ≠ .float (.nan origin)
  module : (e.get "module").isTruthy → ¬(e.get "module").HasNoText
  ignored : ¬ListsNoText (e.get "ignore")
  optional : ¬ListsNoText (e.get "enable_optional")

/-- What an entry has from the mapping that it was. -/
structure IsFrom (e : Entries) (p : PackEntry) : Prop where
  name : p.name = e.get "name"
  enabled : p.enabled = (e.get? "enabled").map Value.isTruthy
  module : givenText (e.get "module") = .ok p.module
  ignored : idsOf (e.get "ignore") = .ok p.ignore
  optional : idsOf (e.get "enable_optional") = .ok p.enableOptional

theorem isFrom_of_ofEntries {p : PackEntry} (h : ofEntries e = .ok (some p)) : IsFrom e p := by
  unfold ofEntries at h
  by_cases hname : (e.get "name").isTruthy
  · by_cases hkey : (e.get "name").isHashable
    · simp only [hname, hkey, Bool.not_true, Bool.false_eq_true, if_false] at h
      obtain ⟨module, hmodule, h⟩ := Attempt.bind_ok_iff.1 h
      obtain ⟨ignored, hignored, h⟩ := Attempt.bind_ok_iff.1 h
      obtain ⟨optional, hoptional, h⟩ := Attempt.bind_ok_iff.1 h
      cases h
      exact ⟨rfl, rfl, hmodule, hignored, hoptional⟩
    · simp [hname, hkey, bind, Except.bind, throw, throwThe, MonadExceptOf.throw] at h
  · simp [hname, pure, Except.pure] at h

theorem ofEntries_of_not_named (h : ¬(e.get "name").isTruthy) : ofEntries e = .ok none := by
  simp [ofEntries, h, pure, Except.pure]

theorem exists_ofEntries (hname : (e.get "name").isTruthy) (h : IsUsable e) : ∃ p, ofEntries e = .ok (some p) := by
  have hfine : ¬∃ fault, ofEntries e = .error fault := by
    rw [ofEntries_fails_iff, givenText_fails_iff, idsOf_fails_iff, idsOf_fails_iff]
    rintro ⟨_, hkey | ⟨hgiven, hmodule⟩ | hignored | hoptional⟩
    · exact absurd h.hashable (by simp [hkey])
    · exact h.module hgiven hmodule
    · exact h.ignored hignored
    · exact h.optional hoptional
  cases hof : ofEntries e with
  | error fault => exact absurd ⟨fault, hof⟩ hfine
  | ok found =>
      cases found with
      | some p => exact ⟨p, rfl⟩
      | none =>
          -- only a mapping without a name is left out
          unfold ofEntries at hof
          simp only [hname, h.hashable, Bool.not_true, Bool.false_eq_true, if_false] at hof
          obtain ⟨_, _, hof⟩ := Attempt.bind_ok_iff.1 hof
          obtain ⟨_, _, hof⟩ := Attempt.bind_ok_iff.1 hof
          obtain ⟨_, _, hof⟩ := Attempt.bind_ok_iff.1 hof
          cases hof

theorem isUsable_of_ofEntries {p : PackEntry} (h : ofEntries e = .ok (some p))
    (hnumber : ∀ origin, p.name ≠ .float (.nan origin)) : IsUsable e := by
  have hfrom := isFrom_of_ofEntries h
  have hvalue : ofValue (.map e) = .ok (some p) := h
  exact {
    hashable := hfrom.name ▸ isHashable_of_ofValue hvalue
    number := hfrom.name ▸ hnumber
    module := fun hgiven hno => by
      obtain ⟨fault, hfault⟩ := givenText_fails_iff.2 ⟨hgiven, hno⟩
      cases hfrom.module.symm.trans hfault
    ignored := fun hno => by
      obtain ⟨fault, hfault⟩ := idsOf_fails_iff.2 hno
      cases hfrom.ignored.symm.trans hfault
    optional := fun hno => by
      obtain ⟨fault, hfault⟩ := idsOf_fails_iff.2 hno
      cases hfrom.optional.symm.trans hfault }

/-! ### All mappings -/

/-- The mappings with a name among items. -/
def namedIn (items : List Value) : List Entries :=
  (items.filterMap Value.mapping?).filter fun e => (Entries.get "name" e).isTruthy

theorem gather_namedIn (items : List Value) :
    Attempt.gather ofValue items = Attempt.gather ofEntries (namedIn items) := by
  induction items with
  | nil => rfl
  | cons v rest ih =>
      rw [Attempt.gather_cons, ih, ofValue]
      cases hv : v.mapping? with
      | none =>
          have hskip : namedIn (v :: rest) = namedIn rest := by simp [namedIn, hv]
          rw [hskip]
          cases Attempt.gather ofEntries (namedIn rest) <;> rfl
      | some e =>
          by_cases hname : (Entries.get "name" e).isTruthy
          · have htake : namedIn (v :: rest) = e :: namedIn rest := by simp [namedIn, hv, hname]
            rw [htake, Attempt.gather_cons]
          · have hskip : namedIn (v :: rest) = namedIn rest := by simp [namedIn, hv, hname]
            dsimp only
            rw [hskip, ofEntries_of_not_named hname]
            cases Attempt.gather ofEntries (namedIn rest) <;> rfl

/-- The mappings with the same name. -/
def namedAs (name : Value) (es : List Entries) : List Entries :=
  es.filter fun e => (Entries.get "name" e).sameKey name

theorem forall₂_isFrom {es : List Entries} {entries : List PackEntry}
    (hnamed : ∀ e ∈ es, (Entries.get "name" e).isTruthy) (husable : ∀ e ∈ es, IsUsable e)
    (h : Attempt.gather ofEntries es = .ok entries) : List.Forall₂ IsFrom es entries := by
  have hfound := Attempt.forall₂_of_gather_ok h
  rw [List.filter_eq_self.2] at hfound
  · exact hfound.imp fun e p => isFrom_of_ofEntries
  · exact fun e he => Attempt.finds_iff.2 (exists_ofEntries (hnamed e he) (husable e he))

theorem exists_gather {es : List Entries} (hnamed : ∀ e ∈ es, (Entries.get "name" e).isTruthy)
    (husable : ∀ e ∈ es, IsUsable e) : ∃ entries, Attempt.gather ofEntries es = .ok entries := by
  obtain ⟨found, hfound, _⟩ : ∃ found, es.mapM ofEntries = .ok found ∧ ∀ f ∈ found, True :=
    Attempt.exists_mapM_eq_ok fun e he => by
      obtain ⟨p, hp⟩ := exists_ofEntries (hnamed e he) (husable e he)
      exact ⟨some p, hp, trivial⟩
  exact ⟨found.filterMap id, by rw [Attempt.gather, hfound, Attempt.ok_map]⟩

end PackEntry

namespace Pack

open PackEntry

variable {es es' : List Entries} {entries entries' : List PackEntry} {name : Value} {p : Pack}

/-! ### Names -/

/-- Names, each where it first stands and as it is spelled there. -/
def firstSpellings : List Value → List Value
  | [] => []
  | name :: rest => name :: (firstSpellings rest).filter fun other => !name.sameKey other

theorem firstNames_eq (entries : List PackEntry) :
    firstNames entries = firstSpellings (entries.map PackEntry.name) := by
  induction entries with
  | nil => rfl
  | cons e rest ih => rw [firstNames, List.map_cons, firstSpellings, ih]

/-- A name that stands first is that of the first entry for its pack. -/
theorem mem_firstNames_iff (h : ∀ e ∈ entries, e.name.isHashable) :
    name ∈ firstNames entries ↔ ∃ e, (entriesFor name entries).head? = some e ∧ e.name = name := by
  induction entries with
  | nil => simp [firstNames, entriesFor]
  | cons e rest ih =>
      obtain ⟨hfirst, hrest⟩ := List.forall_mem_cons.1 h
      have hself := Value.sameKey_self hfirst
      rw [firstNames, List.mem_cons, List.mem_filter, ih hrest]
      by_cases hsame : e.name.sameKey name
      · have hhead : (entriesFor name (e :: rest)).head? = some e := by simp [entriesFor, hsame]
        simp [hhead, hsame, eq_comm]
      · have hne : name ≠ e.name := by
          rintro rfl
          exact hsame hself
        have hskip : entriesFor name (e :: rest) = entriesFor name rest := by simp [entriesFor, hsame]
        simp [hskip, hsame, hne]

theorem nodup_firstNames (h : ∀ e ∈ entries, e.name.isHashable) : (firstNames entries).Nodup := by
  refine (pairwise_firstNames entries).imp_of_mem fun {name other} hname _ hne => ?_
  rintro rfl
  obtain ⟨e, he, rfl⟩ := exists_of_mem_firstNames hname
  exact absurd (Value.sameKey_self (h e he)) (by simp [hne])

/-- Entries in another order, in which those for each pack keep theirs, describe the same packs. -/
theorem mergeAll_perm (h : ∀ e ∈ entries, e.name.isHashable) (h' : ∀ e ∈ entries', e.name.isHashable)
    (heach : ∀ name, entriesFor name entries' = entriesFor name entries) :
    (mergeAll [] entries').Perm (mergeAll [] entries) := by
  -- a name is among the first ones if the first entry for its pack has it, and these entries are the same
  have hnames : (firstNames entries').Perm (firstNames entries) := by
    rw [List.perm_ext_iff_of_nodup (nodup_firstNames h') (nodup_firstNames h)]
    intro name
    rw [mem_firstNames_iff h', mem_firstNames_iff h, heach]
  have hpacks : described entries' = described entries := by
    funext name
    rw [described, described, heach]
  rw [mergeAll_eq h', mergeAll_eq h, hpacks]
  exact hnames.map _

/-- The mappings with a name are the entries for the pack with it. -/
theorem gather_namedAs (h : Attempt.gather ofEntries es = .ok entries) (name : Value) :
    Attempt.gather ofEntries (namedAs name es) = .ok (entriesFor name entries) := by
  induction es generalizing entries with
  | nil =>
      cases h
      rfl
  | cons e rest ih =>
      rw [Attempt.gather_cons] at h
      obtain ⟨b, hb, h⟩ := Attempt.bind_ok_iff.1 h
      obtain ⟨more, hmore, rfl⟩ := Attempt.map_ok_iff.1 h
      have hrest := ih hmore
      by_cases hsame : (Entries.get "name" e).sameKey name
      · have htake : namedAs name (e :: rest) = e :: namedAs name rest := by simp [namedAs, hsame]
        rw [htake, Attempt.gather_cons, hb, hrest]
        cases b with
        | none => rfl
        | some p =>
            have hown : p.name.sameKey name := by rwa [(isFrom_of_ofEntries hb).name]
            simp [entriesFor, hown]
      · have hskip : namedAs name (e :: rest) = namedAs name rest := by simp [namedAs, hsame]
        rw [hskip, hrest]
        cases b with
        | none => rfl
        | some p =>
            have hown : p.name.sameKey name = false := by
              rw [(isFrom_of_ofEntries hb).name]
              simpa using hsame
            simp [entriesFor, hown]

/-! ### The three policies -/

/-- The texts under a key in mappings, one list behind the other, without blanks around them. -/
def ListsAll (key : String) (own : List Entries) (ids : List RawText) : Prop :=
  ∃ lists, List.Forall₂ (fun e texts => Lists (Entries.get key e) texts) own lists ∧
    ids = Suppression.trimmed lists.flatten

/-- Whether the last of values has a text; none if there are no values. -/
def IsLastText (values : List Value) (t : Option RawText) : Prop :=
  values.getLast? = none ∧ t = none ∨ ∃ v s, values.getLast? = some v ∧ v.display = .ok s ∧ t = some s

/-- What a pack has from the mappings with its name. -/
structure IsToldBy (own : List Entries) (p : Pack) : Prop where
  enabled : p.enabled = ((own.filterMap (Entries.get? "enabled")).getLast?.map Value.isTruthy).getD true
  module : IsLastText ((own.map (Entries.get "module")).filter Value.isTruthy) p.module
  ignored : ListsAll "ignore" own p.ignore
  optional : ListsAll "enable_optional" own p.enableOptional

/-- The packs of mappings: one for each name, with what the mappings with that name say. -/
structure AreMerged (es : List Entries) (packs : List Pack) : Prop where
  names : packs.map Pack.name = firstSpellings (es.map (Entries.get "name"))
  told (p : Pack) (hp : p ∈ packs) : IsToldBy (namedAs p.name es) p

theorem enabled_of_forall₂ (h : List.Forall₂ IsFrom es entries) :
    entries.filterMap PackEntry.enabled = (es.filterMap (Entries.get? "enabled")).map Value.isTruthy := by
  induction h with
  | nil => rfl
  | @cons e p _ _ hfirst _ ih =>
      rw [List.filterMap_cons, List.filterMap_cons, hfirst.enabled, ih]
      cases Entries.get? "enabled" e <;> rfl

theorem module_of_forall₂ (h : List.Forall₂ IsFrom es entries) :
    List.Forall₂ (fun v t => v.display = .ok t) ((es.map (Entries.get "module")).filter Value.isTruthy)
      (entries.filterMap PackEntry.module) := by
  induction h with
  | nil => exact .nil
  | @cons e p _ _ hfirst _ ih =>
      have hmodule := hfirst.module
      unfold givenText at hmodule
      by_cases hgiven : (Entries.get "module" e).isTruthy
      · rw [if_pos hgiven] at hmodule
        obtain ⟨t, ht, hsome⟩ := Attempt.map_ok_iff.1 hmodule
        rw [List.map_cons, List.filter_cons_of_pos hgiven, List.filterMap_cons, ← hsome]
        exact .cons ht ih
      · rw [if_neg hgiven] at hmodule
        rw [List.map_cons, List.filter_cons_of_neg hgiven, List.filterMap_cons, ← Except.ok.inj hmodule]
        exact ih

theorem isLastText_of_forall₂ {values : List Value} {texts : List RawText}
    (h : List.Forall₂ (fun v t => v.display = .ok t) values texts) : IsLastText values texts.getLast? := by
  induction h with
  | nil => exact Or.inl ⟨rfl, rfl⟩
  | @cons v t values texts hfirst _ ih =>
      refine Or.inr ?_
      rw [List.getLast?_cons, List.getLast?_cons]
      rcases ih with ⟨hnone, htexts⟩ | ⟨w, s, hlast, hs, htexts⟩
      · exact ⟨v, t, by rw [hnone]; rfl, hfirst, by rw [htexts]; rfl⟩
      · exact ⟨w, s, by rw [hlast]; rfl, hs, by rw [htexts]; rfl⟩

theorem listsAll_of_forall₂ {key : String} {listed : PackEntry → List RawText}
    (h : List.Forall₂ (fun e p => idsOf (Entries.get key e) = .ok (listed p)) es entries) :
    ListsAll key es (entries.flatMap listed) := by
  induction h with
  | nil => exact ⟨[], .nil, rfl⟩
  | @cons e p _ _ hfirst _ ih =>
      obtain ⟨texts, htexts, heq⟩ := exists_lists_of_idsOf hfirst
      obtain ⟨lists, hlists, hrest⟩ := ih
      refine ⟨texts :: lists, .cons htexts hlists, ?_⟩
      rw [List.flatMap_cons, heq, hrest, List.flatten_cons, Suppression.trimmed_append]

theorem isToldBy_described (h : List.Forall₂ IsFrom es (entriesFor name entries)) :
    IsToldBy es (described entries name) where
  enabled := by
    rw [described, enabled_updateAll, enabled_of_forall₂ h, List.getLast?_map]
    rfl
  module := by
    have hnone : (bare name).module = none := rfl
    rw [described, module_updateAll, hnone, Option.or_none]
    exact isLastText_of_forall₂ (module_of_forall₂ h)
  ignored := by
    rw [described, ignore_updateAll]
    exact listsAll_of_forall₂ (h.imp fun _ _ hfrom => hfrom.ignored)
  optional := by
    rw [described, enableOptional_updateAll]
    exact listsAll_of_forall₂ (h.imp fun _ _ hfrom => hfrom.optional)

theorem isHashable_of_gather (husable : ∀ e ∈ es, IsUsable e) (h : Attempt.gather ofEntries es = .ok entries) :
    ∀ p ∈ entries, p.name.isHashable := by
  intro p hp
  obtain ⟨e, he, hof⟩ := Attempt.exists_of_mem_gather h hp
  rw [(isFrom_of_ofEntries hof).name]
  exact (husable e he).hashable

theorem areMerged_mergeAll (hnamed : ∀ e ∈ es, (Entries.get "name" e).isTruthy) (husable : ∀ e ∈ es, IsUsable e)
    (h : Attempt.gather ofEntries es = .ok entries) : AreMerged es (mergeAll [] entries) := by
  rw [mergeAll_eq (isHashable_of_gather husable h)]
  constructor
  · have hnames : entries.map PackEntry.name = es.map (Entries.get "name") := by
      have hfrom := forall₂_isFrom hnamed husable h
      rw [← List.forall₂_eq_eq_eq, List.forall₂_map_left_iff, List.forall₂_map_right_iff]
      exact hfrom.flip.imp fun p e hp => hp.name
    rw [List.map_map, ← hnames, ← firstNames_eq]
    conv_rhs => rw [← List.map_id (firstNames entries)]
    exact List.map_congr_left fun name _ => name_described entries name
  · intro p hp
    obtain ⟨name, _, rfl⟩ := List.mem_map.1 hp
    rw [name_described]
    refine isToldBy_described (forall₂_isFrom (fun e he => ?_) (fun e he => ?_) (gather_namedAs h name))
    · exact hnamed e (List.mem_of_mem_filter he)
    · exact husable e (List.mem_of_mem_filter he)

/-! ### Manifests -/

/-- The mapping that the manifest at a path is. -/
def mappingAt (files : Files) (p : Path) : Except PackFault Entries := readManifest files p >>= mappingIn p.text

/-- The packs of manifests, of which `decode` gives the mappings. -/
def loadMappings (decode : Path → Except PackFault Entries) (paths : List String) : Except PackFault (List Pack) :=
  loadFrom (fun p => decode p >>= entriesIn p.text) paths

theorem load_eq_loadMappings (files : Files) (paths : List String) :
    load files paths = loadMappings (mappingAt files) paths := by
  have hread : readEntries files = fun p => mappingAt files p >>= entriesIn p.text := by
    funext p
    rw [readEntries, mappingAt]
    cases readManifest files p <;> rfl
  rw [load, hread, loadMappings]

/-- Whether what a manifest lists as packs, if anything, is a list. -/
def ListsPacks (manifest : Entries) : Prop :=
  (manifest.get "packs").isTruthy → ∃ items, (manifest.get "packs").opened = .list items

/-- What a manifest lists as packs. -/
def packItems (manifest : Entries) : List Value :=
  match (manifest.get "packs").opened with
  | .list items => items
  | _ => []

/-- The mappings with a name in manifests, one manifest after the other. -/
def namedInAll (manifests : List Entries) : List Entries := manifests.flatMap fun m => namedIn (packItems m)

theorem entriesIn_eq {manifest : Entries} (h : ListsPacks manifest) (path : String) :
    entriesIn path manifest = (Attempt.gather ofEntries (namedIn (packItems manifest))).mapError .entry := by
  rw [← gather_namedIn]
  unfold entriesIn packItems
  by_cases hgiven : (Entries.get "packs" manifest).isTruthy
  · obtain ⟨items, hitems⟩ := h hgiven
    rw [Value.orElse_of_truthy hgiven, hitems]
    rfl
  · have hnone : (match (Entries.get "packs" manifest).opened with | .list items => items | _ => []) = [] := by
      split
      · next items hitems => exact Value.eq_nil_of_not_truthy hgiven hitems
      · rfl
    rw [Value.orElse_of_not_truthy (by simpa using hgiven), hnone]
    rfl

/-- The mappings of manifests are read manifest by manifest, and no name in them is different in each manifest. -/
theorem entriesFrom_mapM_eq {decode : Path → Except PackFault Entries} {ps : List Path} {manifests : List Entries}
    (hread : List.Forall₂ (fun p m => decode p = .ok m) ps manifests) (hpacks : ∀ m ∈ manifests, ListsPacks m)
    (hnumber : ∀ e ∈ namedInAll manifests, ∀ origin, Entries.get "name" e ≠ .float (.nan origin)) (n : Nat) :
    ((ps.zipIdx n).mapM (entriesFrom fun p => decode p >>= entriesIn p.text)).map List.flatten =
      (Attempt.gather ofEntries (namedInAll manifests)).mapError PackFault.entry := by
  induction hread generalizing n with
  | nil => rfl
  | @cons p m ps manifests hp _ ih =>
      obtain ⟨hm, hrest⟩ := List.forall_mem_cons.1 hpacks
      have hcons : namedInAll (m :: manifests) = namedIn (packItems m) ++ namedInAll manifests := rfl
      rw [hcons] at hnumber ⊢
      have hfirst : entriesFrom (fun p => decode p >>= entriesIn p.text) (p, n) =
          (Attempt.gather ofEntries (namedIn (packItems m))).mapError PackFault.entry := by
        rw [entriesFrom, hp, Attempt.ok_bind, entriesIn_eq hm]
        cases hfound : Attempt.gather ofEntries (namedIn (packItems m)) with
        | error fault => rfl
        | ok found =>
            -- a name that is some number is the same in all manifests
            have hsame : found.map (ofManifest n) = found := by
              conv_rhs => rw [← List.map_id found]
              refine List.map_congr_left fun q hq => ofManifest_of_not_nan (fun origin => ?_) n
              obtain ⟨e, he, hof⟩ := Attempt.exists_of_mem_gather hfound hq
              rw [(isFrom_of_ofEntries hof).name]
              exact hnumber e (List.mem_append_left _ he) origin
            exact congrArg Except.ok hsame
      have hlater := ih hrest (fun e he => hnumber e (List.mem_append_right _ he)) (n + 1)
      rw [List.zipIdx_cons, List.mapM_cons, hfirst, Attempt.gather_append]
      cases Attempt.gather ofEntries (namedIn (packItems m)) with
      | error fault => rfl
      | ok found =>
          have hjoin (x : Except PackFault (List (List PackEntry))) :
              (x >>= fun lists => pure (found :: lists)).map List.flatten =
                (x.map List.flatten).map fun more => found ++ more := by cases x <;> rfl
          refine (hjoin _).trans ?_
          rw [hlater]
          cases Attempt.gather ofEntries (namedInAll manifests) <;> rfl

/-- Packs are loaded from manifests as from one manifest with all their mappings. -/
theorem loadMappings_eq {decode : Path → Except PackFault Entries} {paths : List String} {manifests : List Entries}
    (hread : (paths.map Path.ofText).mapM decode = .ok manifests) (hpacks : ∀ m ∈ manifests, ListsPacks m)
    (hnumber : ∀ e ∈ namedInAll manifests, ∀ origin, Entries.get "name" e ≠ .float (.nan origin)) :
    loadMappings decode paths =
      ((Attempt.gather ofEntries (namedInAll manifests)).mapError PackFault.entry).map (mergeAll []) := by
  rw [← entriesFrom_mapM_eq (Attempt.forall₂_of_mapM_ok hread) hpacks hnumber 0, loadMappings, loadFrom_eq_mapM]
  cases (paths.map Path.ofText).zipIdx.mapM (entriesFrom fun p => decode p >>= entriesIn p.text) <;> rfl

theorem isTruthy_of_mem_namedInAll {manifests : List Entries} {e : Entries} (he : e ∈ namedInAll manifests) :
    (Entries.get "name" e).isTruthy := by
  obtain ⟨m, _, he⟩ := List.mem_flatMap.1 he
  exact (List.mem_filter.1 he).2

/-! ### The law -/

/-- Packs are what the mappings with their names say, in the manifests that are loaded by default and in extra ones.
Other manifests with the same mappings, however they are split over files, lead to the same packs; and if the mappings
stand in another order, in which those with the same name keep theirs, the same packs come in another order. -/
theorem load_merges (files : Files) (defaults extra : List String) (manifests : List Entries)
    (hread : ((defaults ++ extra).map Path.ofText).mapM (mappingAt files) = .ok manifests)
    (hpacks : ∀ m ∈ manifests, ListsPacks m) (husable : ∀ e ∈ namedInAll manifests, IsUsable e) :
    ∃ packs, load files (defaults ++ extra) = .ok packs ∧ AreMerged (namedInAll manifests) packs ∧
      ∀ files' defaults' extra' manifests',
        ((defaults' ++ extra').map Path.ofText).mapM (mappingAt files') = .ok manifests' →
          (∀ m ∈ manifests', ListsPacks m) →
            (namedInAll manifests' = namedInAll manifests → load files' (defaults' ++ extra') = .ok packs) ∧
            ((namedInAll manifests').Perm (namedInAll manifests) →
              (∀ name, namedAs name (namedInAll manifests') = namedAs name (namedInAll manifests)) →
                ∃ packs', load files' (defaults' ++ extra') = .ok packs' ∧ packs'.Perm packs) := by
  have hnamed : ∀ e ∈ namedInAll manifests, (Entries.get "name" e).isTruthy := fun e he => isTruthy_of_mem_namedInAll he
  obtain ⟨entries, hentries⟩ := exists_gather hnamed husable
  have hload {files' : Files} {paths : List String} {manifests' : List Entries} {entries' : List PackEntry}
      (hread : (paths.map Path.ofText).mapM (mappingAt files') = .ok manifests')
      (hpacks : ∀ m ∈ manifests', ListsPacks m) (husable : ∀ e ∈ namedInAll manifests', IsUsable e)
      (hentries : Attempt.gather ofEntries (namedInAll manifests') = .ok entries') :
      load files' paths = .ok (mergeAll [] entries') := by
    rw [load_eq_loadMappings, loadMappings_eq hread hpacks fun e he => (husable e he).number, hentries]
    rfl
  refine ⟨mergeAll [] entries, hload hread hpacks husable hentries, areMerged_mergeAll hnamed husable hentries, ?_⟩
  intro files' defaults' extra' manifests' hread' hpacks'
  constructor
  · intro hsame
    exact hload hread' hpacks' (hsame ▸ husable) (hsame ▸ hentries)
  · intro hperm heach
    have husable' : ∀ e ∈ namedInAll manifests', IsUsable e := fun e he => husable e (hperm.mem_iff.1 he)
    obtain ⟨entries', hentries'⟩ := exists_gather (fun e he => isTruthy_of_mem_namedInAll he) husable'
    refine ⟨mergeAll [] entries', hload hread' hpacks' husable' hentries', ?_⟩
    have hkeys := isHashable_of_gather husable hentries
    have hkeys' := isHashable_of_gather husable' hentries'
    refine mergeAll_perm hkeys hkeys' fun name => ?_
    have hown := gather_namedAs hentries' name
    rw [heach name, gather_namedAs hentries name] at hown
    exact (Except.ok.inj hown).symm

/-- What manifests say about two packs, one of which is disabled by default and enabled again. -/
def disabled : Entries := [(.text "name", .text "a"), (.text "enabled", .bool false), (.text "ignore", .text "x, y")]

def withModule : Entries := [(.text "name", .text "b"), (.text "module", .text "b.checks")]

def enabledAgain : Entries :=
  [(.text "name", .text "a"), (.text "enabled", .bool true), (.text "ignore", .list [.text " z"])]

/-- Two manifests that say so, and one that says all of it in another order. -/
def coreAndMore : Files :=
  ⟨[(["core.yaml"], .file ("packs:\n- name: a\n  enabled: no\n  ignore: x, y\n" ++
      "- name: b\n  module: b.checks\n").toUTF8.toList),
    (["more.yaml"], .file "packs:\n- name: a\n  enabled: yes\n  ignore: [' z']\n".toUTF8.toList),
    (["all.yaml"], .file ("packs:\n- b\n- name: b\n  module: b.checks\n- name: a\n  enabled: no\n  ignore: x, y\n" ++
      "- name: a\n  enabled: yes\n  ignore: [' z']\n").toUTF8.toList)]⟩

theorem isUsable_coreAndMore : ∀ e ∈ [disabled, withModule, enabledAgain], IsUsable e := by
  simp only [List.forall_mem_cons]
  refine ⟨?_, ?_, ?_, nofun⟩
  · have h : ofEntries disabled = .ok (some ⟨.text "a", some false, none, ["x", "y"], []⟩) := by decide +kernel
    exact isUsable_of_ofEntries h nofun
  · have h : ofEntries withModule = .ok (some ⟨.text "b", none, some "b.checks", [], []⟩) := by decide +kernel
    exact isUsable_of_ofEntries h nofun
  · have h : ofEntries enabledAgain = .ok (some ⟨.text "a", some true, none, ["z"], []⟩) := by decide +kernel
    exact isUsable_of_ofEntries h nofun

/-- The name of the second mapping is not that of the others, so only one of the two orders is seen for a name. -/
theorem namedAs_swapped (name : Value) :
    namedAs name [withModule, disabled, enabledAgain] = namedAs name [disabled, withModule, enabledAgain] := by
  by_cases hname : (Value.text "a").sameKey name
  · have hother : (Entries.get "name" withModule).sameKey name = false := by
      rw [Value.sameKey_comm, ← Value.sameKey_congr hname]
      decide
    simp [namedAs, List.filter_cons, hother]
  · have hfirst : (Entries.get "name" disabled).sameKey name = false := eq_false_of_ne_true hname
    simp [namedAs, List.filter_cons, hfirst]

theorem load_merges_coreAndMore :
    ∃ manifests, (["core.yaml", "more.yaml"].map Path.ofText).mapM (mappingAt coreAndMore) = .ok manifests ∧
      (∀ m ∈ manifests, ListsPacks m) ∧ (∀ e ∈ namedInAll manifests, IsUsable e) ∧
      namedInAll manifests = [disabled, withModule, enabledAgain] ∧
      ∃ packs, load coreAndMore ["core.yaml", "more.yaml"] = .ok packs ∧ AreMerged (namedInAll manifests) packs ∧
        packs = [⟨.text "a", true, none, ["x", "y", "z"], []⟩, ⟨.text "b", true, some "b.checks", [], []⟩] ∧
        ∃ packs', load coreAndMore ["all.yaml"] = .ok packs' ∧ packs'.Perm packs := by
  let manifests : List Entries :=
    [[(.text "packs", .list [.map disabled, .map withModule])], [(.text "packs", .list [.map enabledAgain])]]
  have hread : (["core.yaml", "more.yaml"].map Path.ofText).mapM (mappingAt coreAndMore) = .ok manifests := by
    decide +kernel
  let swapped : List Entries :=
    [[(.text "packs", .list [.text "b", .map withModule, .map disabled, .map enabledAgain])]]
  have hread' : (["all.yaml"].map Path.ofText).mapM (mappingAt coreAndMore) = .ok swapped := by decide +kernel
  have hpacks : ∀ m ∈ manifests, ListsPacks m := by
    simp only [manifests, List.forall_mem_cons]
    exact ⟨fun _ => ⟨_, rfl⟩, fun _ => ⟨_, rfl⟩, nofun⟩
  have hpacks' : ∀ m ∈ swapped, ListsPacks m := by
    simp only [swapped, List.forall_mem_cons]
    exact ⟨fun _ => ⟨_, rfl⟩, nofun⟩
  have hall : namedInAll manifests = [disabled, withModule, enabledAgain] := rfl
  have husable : ∀ e ∈ namedInAll manifests, IsUsable e := isUsable_coreAndMore
  obtain ⟨packs, hload, hmerged, hothers⟩ :=
    load_merges coreAndMore ["core.yaml"] ["more.yaml"] manifests hread hpacks husable
  obtain ⟨_, hreordered⟩ := hothers coreAndMore [] ["all.yaml"] swapped hread' hpacks'
  obtain ⟨packs', hload', hperm⟩ := hreordered (.swap _ _ _) namedAs_swapped
  refine ⟨manifests, hread, hpacks, husable, hall, packs, hload, hmerged, ?_, packs', hload', hperm⟩
  have hfound : load coreAndMore ["core.yaml", "more.yaml"] =
      .ok [⟨.text "a", true, none, ["x", "y", "z"], []⟩, ⟨.text "b", true, some "b.checks", [], []⟩] := by
    rw [load_eq_loadMappings, loadMappings_eq hread hpacks fun e he => (husable e he).number, hall]
    decide +kernel
  exact Except.ok.inj (hload.symm.trans hfound)

/-- A manifest with a number as the module of a pack. -/
def numberedModule (module : Int) : Entries :=
  [(.text "packs", .list [.map [(.text "name", .text "a"), (.text "module", .int module)]])]

theorem loadMappings_numberedModule {module : Int} (h : Nat.pow 10 Number.digitLimit ≤ module.natAbs) :
    loadMappings (fun _ => .ok (numberedModule module)) ["p.yaml"] = .error (.entry (.integer .unwritable)) := by
  have hmodule : givenText (.int module) = .error (.integer .unwritable) := by
    rw [givenText, if_pos (Value.isTruthy_int h), Value.display_int h]
    rfl
  have hentries : ofEntries [(.text "name", .text "a"), (.text "module", .int module)] =
      .error (.integer .unwritable) := by
    change (givenText (.int module) >>= _) = _
    rw [hmodule]
    rfl
  have hread : (["p.yaml"].map Path.ofText).mapM (fun _ => Except.ok (numberedModule module)) =
      (.ok [numberedModule module] : Except PackFault (List Entries)) := rfl
  have hall : namedInAll [numberedModule module] = [[(.text "name", .text "a"), (.text "module", .int module)]] := rfl
  rw [loadMappings_eq hread, hall, Attempt.gather_cons, hentries]
  · rfl
  · simp only [List.forall_mem_cons]
    exact ⟨fun _ => ⟨_, rfl⟩, nofun⟩
  · rw [hall]
    simp only [List.forall_mem_cons]
    exact ⟨nofun, nofun⟩

/-- The manifest lists a pack with a name that is a key, but its module has too many digits for a text. -/
theorem loadMappings_numberedModule_limit :
    ListsPacks (numberedModule (Nat.pow 10 Number.digitLimit : Nat)) ∧
      (namedInAll [numberedModule (Nat.pow 10 Number.digitLimit : Nat)]).map (Entries.get "name") = [.text "a"] ∧
      ¬∃ packs, loadMappings (fun _ => .ok (numberedModule (Nat.pow 10 Number.digitLimit : Nat))) ["p.yaml"] =
        .ok packs := by
  refine ⟨fun _ => ⟨_, rfl⟩, rfl, ?_⟩
  rintro ⟨packs, hload⟩
  exact absurd ((loadMappings_numberedModule (Nat.le_of_eq (Int.natAbs_natCast _).symm)).symm.trans hload) nofun

end Pack

end ManifestGrading
