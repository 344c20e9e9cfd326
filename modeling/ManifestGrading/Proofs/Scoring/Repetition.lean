import ManifestGrading.Proofs.Manifest.Loading
import ManifestGrading.Proofs.Resource.Faults
import ManifestGrading.Proofs.Scoring.Influence

/-! Scorings of what is given more than once. A path that is given again leads to the sources that it led to before; a
file then has the same documents again, and the standard input has none any more. So only resources come again that
came before, and a run registers and visits each of them once. A manifest of packs that is given again repeats what
it said about each pack, and what is said last is what was said last before; its lists count as sets. -/

namespace ManifestGrading

/-! ### Attempts with more of the same -/

/-- An attempt that fails as another one does, or succeeds with what the other one succeeds with and some of it again. -/
def Repeats {ε α : Type} (x y : Except ε (List α)) : Prop :=
  (∃ e, x = .error e ∧ y = .error e) ∨ ∃ a again, x = .ok a ∧ y = .ok (a ++ again) ∧ again ⊆ a

namespace Repeats

variable {ε α β : Type} {x y : Except ε (List α)}

theorem bind {f : List α → Except ε (List β)} (h : Repeats x y)
    (hf : ∀ a again, again ⊆ a → Repeats (f a) (f (a ++ again))) : Repeats (x >>= f) (y >>= f) := by
  rcases h with ⟨e, rfl, rfl⟩ | ⟨a, again, rfl, rfl, hagain⟩
  · exact Or.inl ⟨e, rfl, rfl⟩
  · exact hf a again hagain

/-- Attempts that come behind others repeat them if each of them succeeds with nothing new. -/
theorem of_mapM {f : α → Except ε (List β)} {l again : List α}
    (h : ∀ lists, l.mapM f = .ok lists → ∀ a ∈ again, ∃ list, f a = .ok list ∧ list ⊆ lists.flatten) :
    Repeats ((l.mapM f).map List.flatten) (((l ++ again).mapM f).map List.flatten) := by
  rw [List.mapM_append]
  cases hl : l.mapM f with
  | error e => exact Or.inl ⟨e, rfl, rfl⟩
  | ok lists =>
      obtain ⟨more, hmore, hold⟩ := Attempt.exists_mapM_eq_ok (h lists hl)
      refine Or.inr ⟨lists.flatten, more.flatten, rfl, ?_, fun b hb => ?_⟩
      · rw [hmore, ← List.flatten_append]
        rfl
      · obtain ⟨list, hlist, hb⟩ := List.mem_flatten.1 hb
        exact hold list hlist hb

theorem of_subset {f : α → Except ε (List β)} {l again : List α} (h : again ⊆ l) :
    Repeats ((l.mapM f).map List.flatten) (((l ++ again).mapM f).map List.flatten) := by
  refine of_mapM fun lists hlists a ha => ?_
  obtain ⟨list, hlist, hok⟩ := Attempt.exists_of_mapM_ok hlists (h ha)
  exact ⟨list, hok, fun b hb => List.mem_flatten.2 ⟨list, hlist, hb⟩⟩

end Repeats

/-! ### Sources and documents -/

namespace Manifest

variable {decode : Decoder} {files : Files} {input : List UInt8} {found again : List Source}

/-- Sources that come again have the documents that they had, and the standard input has none. -/
theorem repeats_loadSources (hempty : documentsIn decode inputName "" = .ok []) (hagain : again ⊆ found) :
    Repeats (loadSources decode files input found) (loadSources decode files input (found ++ again)) := by
  rw [loadSources_eq, loadSources_eq, feeds_append]
  refine Repeats.of_mapM fun lists hlists feed hfeed => ?_
  obtain ⟨left, source⟩ := feed
  have hsource : source ∈ found := by
    apply hagain
    rw [← map_snd_feeds (leftBy input found) again]
    exact List.mem_map_of_mem hfeed
  cases source with
  | input =>
      -- it was read before, so nothing is left of it
      rw [leftBy, if_pos hsource, feeds_nil] at hfeed
      obtain ⟨_, _, heq⟩ := List.mem_map.1 hfeed
      obtain rfl : [] = left := congrArg Prod.fst heq
      exact ⟨[], hempty, List.nil_subset _⟩
  | file p =>
      obtain ⟨⟨before, _⟩, hbefore, rfl⟩ : ∃ feed ∈ feeds input found, feed.2 = .file p := by
        rw [← map_snd_feeds input found] at hsource
        exact List.mem_map.1 hsource
      obtain ⟨list, hlist, hok⟩ := Attempt.exists_of_mapM_ok hlists hbefore
      exact ⟨list, hok, fun d hd => List.mem_flatten.2 ⟨list, hlist, hd⟩⟩

theorem repeats_load {paths extra : List String} (hempty : documentsIn decode inputName "" = .ok [])
    (hextra : extra ⊆ paths) :
    Repeats (load decode files input paths) (load decode files input (paths ++ extra)) := by
  refine Repeats.bind (Repeats.of_subset hextra) fun found again hagain => ?_
  exact repeats_loadSources hempty hagain

end Manifest

/-! ### Resources and runs -/

theorem Resource.repeats_ofDocuments (calls : Nat) {documents again : List Document} (h : again ⊆ documents) :
    Repeats (ofDocuments calls documents) (ofDocuments calls (documents ++ again)) := Repeats.of_subset h

theorem Resource.firstsBeside_append {seen : List Identity} {resources again : List Resource}
    (h : ∀ r ∈ again, r.identity ∈ seen ∨ r.identity ∈ resources.map Resource.identity) :
    firstsBeside seen (resources ++ again) = firstsBeside seen resources := by
  induction resources generalizing seen with
  | nil =>
      induction again with
      | nil => rfl
      | cons r rest ih =>
          obtain ⟨hr, hrest⟩ := List.forall_mem_cons.1 h
          have hseen : r.identity ∈ seen := by simpa using hr
          have hfirst : firstsBeside seen (r :: rest) = firstsBeside seen rest := if_pos hseen
          exact hfirst.trans (ih hrest)
  | cons q rest ih =>
      rw [List.cons_append, firstsBeside, firstsBeside]
      split
      · next hseen =>
        refine ih fun r hr => ?_
        rcases h r hr with hr | hr
        · exact Or.inl hr
        · rcases List.mem_cons.1 hr with hr | hr
          · exact Or.inl (hr ▸ hseen)
          · exact Or.inr hr
      · refine congrArg (q :: ·) (ih fun r hr => ?_)
        rcases h r hr with hr | hr
        · exact Or.inl (List.mem_cons_of_mem _ hr)
        · rcases List.mem_cons.1 hr with hr | hr
          · exact Or.inl (hr ▸ List.mem_cons_self)
          · exact Or.inr hr

namespace Scorecard

theorem registerAll_append (resources again : List Resource) (s : Scorecard) :
    s.registerAll (resources ++ again) =
      match s.registerAll resources with
      | (t, some fault) => (t, some fault)
      | (t, none) => t.registerAll again := by
  induction resources generalizing s with
  | nil => rfl
  | cons r rest ih =>
      rw [List.cons_append, registerAll, registerAll]
      cases s.register r.identity r.metadata with
      | error fault => rfl
      | ok t => exact ih t

theorem registerAll_of_mem {resources : List Resource} {s : Scorecard} (h : ∀ r ∈ resources, r.identity ∈ s.identities) :
    s.registerAll resources = (s, none) := by
  induction resources with
  | nil => rfl
  | cons r rest ih =>
      obtain ⟨hr, hrest⟩ := List.forall_mem_cons.1 h
      rw [registerAll, register_of_contains (contains_iff.2 hr)]
      exact ih hrest

end Scorecard

/-- Resources that come again are neither registered nor visited again. -/
theorem Runner.run_append (runner : Runner) {resources again : List Resource} (h : again ⊆ resources) (s : Scorecard) :
    runner.run (resources ++ again) s = runner.run resources s := by
  have hidentity : ∀ r ∈ again, r.identity ∈ resources.map Resource.identity :=
    fun r hr => List.mem_map_of_mem (h hr)
  have hfirsts : Resource.firsts (resources ++ again) = Resource.firsts resources :=
    Resource.firstsBeside_append fun r hr => Or.inr (hidentity r hr)
  have hregister : s.registerAll (resources ++ again) = s.registerAll resources := by
    rw [Scorecard.registerAll_append]
    rcases hfirst : s.registerAll resources with ⟨t, _ | fault⟩
    · refine Scorecard.registerAll_of_mem fun r hr => ?_
      exact (Scorecard.mem_identities_registerAll hfirst).2 (Or.inr (hidentity r hr))
    · rfl
  rw [run, run, hregister, hfirsts]

/-! ### Manifests of packs -/

namespace Pack

variable {read : Path → Except PackFault (List PackEntry)} {files : Files} {packs packs' : List Pack}
  {manifests : List String}

/-- Entries without the names that are different in each manifest are the same whatever the number of their manifest. -/
theorem mapM_entriesFrom {ps : List Path}
    (h : ∀ p ∈ ps, ∀ found, read p = .ok found → ∀ e ∈ found, ∀ origin, e.name ≠ .float (.nan origin)) (n : Nat) :
    (ps.zipIdx n).mapM (entriesFrom read) = ps.mapM read := by
  induction ps generalizing n with
  | nil => rfl
  | cons p rest ih =>
      obtain ⟨hp, hrest⟩ := List.forall_mem_cons.1 h
      have hfirst : entriesFrom read (p, n) = read p := by
        rw [entriesFrom]
        cases hread : read p with
        | error e => rfl
        | ok found =>
            refine congrArg Except.ok ?_
            conv_rhs => rw [← List.map_id found]
            exact List.map_congr_left fun e he => PackEntry.ofManifest_of_not_nan (hp found hread e he) n
      rw [List.zipIdx_cons, List.mapM_cons, List.mapM_cons, hfirst, ih hrest]

/-- Manifests that are given a second time fail as they did, or repeat what they said. -/
theorem load_repeated (defaults : List String)
    (h : ∀ path ∈ manifests, ∀ found, readEntries files (Path.ofText path) = .ok found →
      ∀ e ∈ found, ∀ origin, e.name ≠ .float (.nan origin)) :
    (∃ e, load files (defaults ++ manifests) = .error e ∧
        load files (defaults ++ (manifests ++ manifests)) = .error e) ∨
      ∃ packs packs', load files (defaults ++ manifests) = .ok packs ∧
        load files (defaults ++ (manifests ++ manifests)) = .ok packs' ∧ List.Forall₂ Resembles packs' packs := by
  have hsame (n : Nat) : ((manifests.map Path.ofText).zipIdx n).mapM (entriesFrom (readEntries files)) =
      (manifests.map Path.ofText).mapM (readEntries files) := mapM_entriesFrom (by simpa using h) n
  simp only [load, loadFrom_eq_mapM, List.map_append, List.zipIdx_append, List.mapM_append, hsame]
  cases hold : (defaults.map Path.ofText).zipIdx.mapM (entriesFrom (readEntries files)) with
  | error e => exact Or.inl ⟨e, rfl, rfl⟩
  | ok lists =>
      cases hnew : (manifests.map Path.ofText).mapM (readEntries files) with
      | error e => exact Or.inl ⟨e, rfl, rfl⟩
      | ok more =>
          have hkeys : ∀ e ∈ lists.flatten ++ more.flatten, e.name.isHashable := by
            intro e he
            rcases List.mem_append.1 he with he | he
            · exact Attempt.forall_mem_flatten hold (fun _ _ _ hm _ => isHashable_of_mem_entriesFrom hm) e he
            · exact Attempt.forall_mem_flatten hnew (fun _ _ _ hm _ => isHashable_of_mem_readEntries hm) e he
          refine Or.inr ⟨_, _, rfl, rfl, ?_⟩
          simp only [List.flatten_append, ← List.append_assoc]
          exact forall₂_mergeAll_repeated hkeys

theorem forall₂_enabledOnes (h : List.Forall₂ Resembles packs' packs) :
    List.Forall₂ Resembles (enabledOnes packs') (enabledOnes packs) := by
  induction h with
  | nil => exact .nil
  | @cons p' p rest' rest hhead _ ih =>
      by_cases henabled : p.enabled
      · have henabled' : p'.enabled = true := hhead.enabled.trans henabled
        rw [enabledOnes, enabledOnes, List.filter_cons_of_pos henabled', List.filter_cons_of_pos henabled]
        exact .cons hhead ih
      · have henabled' : ¬p'.enabled = true := by rwa [hhead.enabled]
        rw [enabledOnes, enabledOnes, List.filter_cons_of_neg henabled', List.filter_cons_of_neg henabled]
        exact ih

theorem mem_flatMap_iff_of_forall₂ {lists : Pack → List RawText} {id : RawText}
    (h : List.Forall₂ (fun p q => id ∈ lists p ↔ id ∈ lists q) packs' packs) :
    id ∈ packs'.flatMap lists ↔ id ∈ packs.flatMap lists := by
  induction h with
  | nil => exact Iff.rfl
  | cons hhead _ ih => rw [List.flatMap_cons, List.flatMap_cons, List.mem_append, List.mem_append, hhead, ih]

end Pack

namespace Scoring

variable {here : Surroundings} {request : ScoringRequest} {documents documents' : Except ManifestFault (List Document)}
  {read : Path → Except PackFault (List PackEntry)} {modules : ModuleTable}

theorem score_of_repeated_manifests {defaults manifests : List String} (hgiven : request.manifests = defaults ++ manifests)
    (h : ∀ path ∈ manifests, ∀ found, Pack.readEntries here.files (Path.ofText path) = .ok found →
      ∀ e ∈ found, ∀ origin, e.name ≠ .float (.nan origin)) :
    score here { request with manifests := defaults ++ (manifests ++ manifests) } = score here request := by
  rcases Pack.load_repeated defaults h with ⟨e, hload, hload'⟩ | ⟨packs, packs', hload, hload', hsame⟩
  · rw [← hgiven] at hload
    rw [Pack.load] at hload hload'
    simp only [score, scoreFrom, hload, hload']
    rfl
  · rw [← hgiven] at hload
    have hsame := Pack.forall₂_enabledOnes hsame
    refine scoreFrom_eq hload hload' rfl ?_ fun rules => ?_
    · exact Pack.allRules_eq (hsame.imp fun _ _ h => ⟨h.name, h.module⟩) fun _ _ _ _ => rfl
    · show runnerFor request (Pack.enabledOnes packs') rules = runnerFor request (Pack.enabledOnes packs) rules
      refine runnerFor_eq_of_mem_iff rules (fun id => ?_) fun id => ?_
      · exact Pack.mem_flatMap_iff_of_forall₂ (hsame.imp fun _ _ h => h.ignore id)
      · exact Pack.mem_flatMap_iff_of_forall₂ (hsame.imp fun _ _ h => h.enableOptional id)

/-- What a scoring finds: the scorecard, the number of resources in it, and the number of checks. -/
def findings (r : ScoringResult) : Scorecard × Nat × Nat := (r.scorecard, r.scorecard.size, r.checkCount)

/-- Documents that come again change nothing in what a scoring finds. -/
theorem scoreFrom_of_repeats (h : Repeats documents documents') (paths : List String) :
    (scoreFrom documents' read modules { request with paths := paths }).map findings =
      (scoreFrom documents read modules request).map findings := by
  rcases h with ⟨e, rfl, rfl⟩ | ⟨given, again, rfl, rfl, hagain⟩
  · rfl
  · rcases Resource.repeats_ofDocuments Value.callLimit hagain with ⟨e, hold, hnew⟩ | ⟨resources, more, hold, hnew, hmore⟩
    · simp only [scoreFrom, hold, hnew, Attempt.ok_mapError, Attempt.ok_bind]
      rfl
    · have hrun (runner : Runner) := runner.run_append hmore .empty
      have hrunner (packs : List Pack) (rules : List Rule) :
          runnerFor { request with paths := paths } packs rules = runnerFor request packs rules := rfl
      simp only [scoreFrom, hold, hnew, Attempt.ok_mapError, Attempt.ok_bind, hrun, hrunner]
      -- from here on the two differ only in the paths and in the number of documents
      cases ((Pack.loadFrom read request.manifests).map Pack.enabledOnes).mapError ScoringFault.pack with
      | error e => rfl
      | ok packs =>
          simp only [Attempt.ok_bind]
          cases (Pack.allRules modules packs).mapError ScoringFault.module with
          | error e => rfl
          | ok rules =>
              simp only [Attempt.ok_bind]
              cases (runnerFor request packs rules).mapError ScoringFault.request with
              | error e => rfl
              | ok runner =>
                  simp only [Attempt.ok_bind]
                  rcases runner.run resources .empty with ⟨s, _ | fault⟩ <;> rfl

/-- What is given again changes nothing. Paths that are given again lead to the same fault or to the same scorecard
with as many checks, and so do manifests of packs, unless a pack in them has a name that is different each time. -/
theorem score_of_repeated (here : Surroundings) (request : ScoringRequest) :
    (∀ extra : List String, (∀ path ∈ extra, path ∈ request.paths) →
      (score here { request with paths := request.paths ++ extra }).map findings =
        (score here request).map findings) ∧
    ∀ defaults manifests : List String, request.manifests = defaults ++ manifests →
      (∀ path ∈ manifests, ∀ found, Pack.readEntries here.files (Path.ofText path) = .ok found →
        ∀ e ∈ found, ∀ origin, e.name ≠ .float (.nan origin)) →
      score here { request with manifests := defaults ++ (manifests ++ manifests) } = score here request := by
  refine ⟨fun extra hextra => ?_, fun defaults manifests hgiven h => score_of_repeated_manifests hgiven h⟩
  have hempty : Manifest.documentsIn Yaml.readAll Manifest.inputName "" = .ok [] := rfl
  exact scoreFrom_of_repeats (Manifest.repeats_load hempty hextra) _

/-- A pod on the standard input, a service in a file, and a pack. -/
def podAndService : Surroundings :=
  ⟨⟨[(["s.yaml"], .file "kind: Service\n".toUTF8.toList),
    (["p.yaml"], .file "packs:\n- name: a\n  ignore: old\n".toUTF8.toList)]⟩, "kind: Pod\n".toUTF8.toList, []⟩

def inputFirst : ScoringRequest := { paths := ["-", "s.yaml"], manifests := ["p.yaml"], rules := Runner.locatingRules }

theorem score_of_repeated_inputFirst :
    (∀ path ∈ ["s.yaml", "-"], path ∈ inputFirst.paths) ∧
      (score podAndService { inputFirst with paths := ["-", "s.yaml", "s.yaml", "-"] }).map findings =
        (score podAndService inputFirst).map findings ∧
      score podAndService { inputFirst with manifests := ["p.yaml", "p.yaml"] } = score podAndService inputFirst ∧
      (score podAndService inputFirst).toOption.map (fun r => (r.documentCount, r.checkCount,
          r.scorecard.records.map fun r => r.outcomes.map fun o => o.check.map (·.id.shown))) =
        some (2, 3, [[some "labels", some "probes"], [some "labels", some "probes", some "ports"]]) := by
  have hextra : ∀ path ∈ ["s.yaml", "-"], path ∈ inputFirst.paths := by decide
  have hread : Pack.readEntries podAndService.files (Path.ofText "p.yaml") =
      .ok [⟨.text "a", none, none, ["old"], []⟩] := by decide +kernel
  have hnames : ∀ path ∈ ["p.yaml"], ∀ found, Pack.readEntries podAndService.files (Path.ofText path) = .ok found →
      ∀ e ∈ found, ∀ origin, e.name ≠ .float (.nan origin) := by
    intro path hpath found hfound e he origin
    obtain rfl := List.mem_singleton.1 hpath
    obtain rfl := Except.ok.inj (hread.symm.trans hfound)
    obtain rfl := List.mem_singleton.1 he
    simp
  obtain ⟨hpaths, hmanifests⟩ := score_of_repeated podAndService inputFirst
  exact ⟨hextra, hpaths _ hextra, hmanifests [] ["p.yaml"] rfl hnames, by decide +kernel⟩

end Scoring

end ManifestGrading
