import ManifestGrading.Proofs.Pack.Merging
import ManifestGrading.Proofs.Runner.Reference
import ManifestGrading.Proofs.Suppression.Annotation
import ManifestGrading.Proofs.Value.Equality
import ManifestGrading.Scoring

/-! What packs can do to a scoring. The enabled ones bring rules and lists of checks, and the lists count together with
those of the caller, as one set each. A pack that is not enabled after all entries are merged does nothing: neither its
lists nor its module matter, and the scoring is that without its entries. -/

namespace ManifestGrading

namespace Suppression

variable {a b : List RawText}

theorem setOf_eq_of_mem_iff (h : ∀ id, id ∈ trimmed a ↔ id ∈ trimmed b) : setOf a = setOf b :=
  IdSet.eq_of_mem_iff fun id => by rw [setOf, setOf, IdSet.mem_ofList, IdSet.mem_ofList, h]

theorem trimmed_flatMap {α : Type} (l : List α) (f : α → List RawText) :
    trimmed (l.flatMap f) = l.flatMap fun x => trimmed (f x) := by
  simp [trimmed, List.map_flatMap, List.filter_flatMap]

end Suppression

namespace Pack

variable {packs packs' : List Pack} {name : Value}

/-- Packs that bring the same rules. -/
def SameSource (p q : Pack) : Prop := p.name = q.name ∧ p.module = q.module

theorem allRules_eq {table table' : ModuleTable} (h : List.Forall₂ SameSource packs' packs)
    (htable : ∀ p ∈ packs, ∀ module, p.module = some module →
      (table'.find? fun m => module = m.1) = table.find? fun m => module = m.1) :
    allRules table' packs' = allRules table packs := by
  have hmapM : packs'.mapM (rules table') = packs.mapM (rules table) := by
    induction h with
    | nil => rfl
    | @cons p' p rest' rest hhead _ ih =>
        have hrules : p'.rules table' = p.rules table := by
          rw [rules, rules, hhead.2]
          cases hmodule : p.module with
          | none => rfl
          | some module => simp only [Module.find, hhead.1, htable p List.mem_cons_self module hmodule]
        rw [List.mapM_cons, List.mapM_cons, hrules, ih fun q hq => htable q (List.mem_cons_of_mem p hq)]
  rw [allRules, allRules, hmapM]

theorem load_singleton {files : Files} {path : String} {entries : List PackEntry}
    (h : readEntries files (Path.ofText path) = .ok entries) :
    load files [path] = .ok (mergeAll [] (entries.map (PackEntry.ofManifest 0))) := by
  simp [load, loadFrom, h, List.zipIdx_cons, pure, Except.pure]

/-- If the packs with a name are not enabled, the enabled ones are those of the others. -/
theorem enabledOnes_without (h : ∀ p ∈ packs, name.sameKey p.name → p.enabled = false) :
    enabledOnes (without name packs) = enabledOnes packs := by
  rw [enabledOnes, enabledOnes, without, List.filter_filter]
  refine List.filter_congr fun p hp => ?_
  by_cases hname : name.sameKey p.name
  · simp [hname, h p hp hname]
  · simp [hname]

end Pack

namespace Scoring

variable {here here' : Surroundings} {request request' : ScoringRequest} {packs packs' : List Pack}
  {documents : Except ManifestFault (List Document)} {read read' : Path → Except PackFault (List PackEntry)}
  {modules modules' : ModuleTable}

/-! ### Packs and the runner -/

theorem runnerFor_eq_of_mem_iff (rules : List Rule)
    (hignore : ∀ id, id ∈ packs'.flatMap Pack.ignore ↔ id ∈ packs.flatMap Pack.ignore)
    (hoptional : ∀ id, id ∈ packs'.flatMap Pack.enableOptional ↔ id ∈ packs.flatMap Pack.enableOptional) :
    runnerFor request packs' rules = runnerFor request packs rules := by
  have hlists {a b : List RawText} (h : ∀ id, id ∈ a ↔ id ∈ b) (own : List RawText) :
      Suppression.setOf (own ++ a) = Suppression.setOf (own ++ b) := by
    refine Suppression.setOf_eq_of_mem_iff fun id => ?_
    simp only [Suppression.mem_trimmed, List.mem_append, h]
  have hnew (ignored optional : List RawText) (workers : Int) :
      Runner.new (request.rules ++ rules) (ignored ++ packs'.flatMap Pack.ignore)
          (optional ++ packs'.flatMap Pack.enableOptional) workers =
        Runner.new (request.rules ++ rules) (ignored ++ packs.flatMap Pack.ignore)
          (optional ++ packs.flatMap Pack.enableOptional) workers := by
    simp only [Runner.new, hlists hignore, hlists hoptional]
  simp only [runnerFor, hnew]

/-- The runner when the caller lists checks as texts. -/
theorem runnerFor_of_texts {ignored optional : List RawText} (hignored : Suppression.texts request.ignored = .ok ignored)
    (hoptional : Suppression.texts request.optional = .ok optional) (packs : List Pack) (rules : List Rule) :
    runnerFor request packs rules = (Runner.workersOf request.workers).map fun workers =>
      .new (request.rules ++ rules) (ignored ++ packs.flatMap Pack.ignore)
        (optional ++ packs.flatMap Pack.enableOptional) workers := by
  obtain ⟨items, hitems, htexts⟩ := Attempt.bind_ok_iff.1 hignored
  obtain ⟨items', hitems', htexts'⟩ := Attempt.bind_ok_iff.1 hoptional
  simp only [runnerFor, hitems, hitems', htexts, htexts', Attempt.ok_bind]
  cases Runner.workersOf request.workers <;> rfl

/-- Scorings of the same documents by packs that bring the same rules and lead to the same runner are the same. -/
theorem scoreFrom_eq (hload : Pack.loadFrom read request.manifests = .ok packs)
    (hload' : Pack.loadFrom read' request'.manifests = .ok packs') (hpaths : request'.paths = request.paths)
    (hrules : Pack.allRules modules' (Pack.enabledOnes packs') = Pack.allRules modules (Pack.enabledOnes packs))
    (hrunner : ∀ rules, runnerFor request' (Pack.enabledOnes packs') rules =
      runnerFor request (Pack.enabledOnes packs) rules) :
    scoreFrom documents read' modules' request' = scoreFrom documents read modules request := by
  simp only [scoreFrom, hload, hload', Attempt.ok_map, Attempt.ok_mapError, Attempt.ok_bind, hrules, hrunner, hpaths]

/-! ### Entries that do not matter -/

/-- The documents that a scoring looks at. -/
def documentsOf (here : Surroundings) (request : ScoringRequest) : Except ManifestFault (List Document) :=
  Manifest.load Yaml.readAll here.files here.input request.paths

/-- A scoring of the standard input looks at no file. -/
theorem documentsOf_of_input (hpaths : request.paths = [Manifest.inputPath]) (hinput : here'.input = here.input) :
    documentsOf here' request = documentsOf here request := by
  have hsources (files : Files) : Manifest.sources files [Manifest.inputPath] = .ok [.input] := by
    simp [Manifest.sources, Manifest.sourcesAt, pure, Except.pure]
  simp only [documentsOf, hpaths, hinput, Manifest.load, hsources, Attempt.ok_bind, Manifest.loadSources]

/-- The manifests of packs that a scoring reads, each with its number. -/
def manifestsOf (request : ScoringRequest) : List (Path × Nat) := (request.manifests.map Path.ofText).zipIdx

/-- Other surroundings for a scoring, in which no manifest has an entry for a pack, and in which the modules that none of
the enabled packs names may be different ones or missing. -/
structure LeavesOut (p : Pack) (packs : List Pack) (request : ScoringRequest) (here here' : Surroundings) : Prop where
  documents : documentsOf here' request = documentsOf here request
  entries : ∀ m ∈ manifestsOf request, Pack.entriesFrom (Pack.readEntries here'.files) m =
    (Pack.entriesFrom (Pack.readEntries here.files) m).map (List.filter fun e => !p.name.sameKey e.name)
  modules : ∀ q ∈ packs, q.enabled → ∀ module, q.module = some module →
    (here'.modules.find? fun m => module = m.1) = here.modules.find? fun m => module = m.1

theorem score_of_leavesOut {p : Pack} (hload : Pack.load here.files request.manifests = .ok packs) (hp : p ∈ packs)
    (hdisabled : p.enabled = false) (h : LeavesOut p packs request here here') :
    score here' request = score here request := by
  have hmapM := hload
  rw [Pack.load, Pack.loadFrom_eq_mapM, Attempt.map_ok_iff] at hmapM
  obtain ⟨lists, hlists, hpacks⟩ := hmapM
  have hkeys : ∀ e ∈ lists.flatten, e.name.isHashable :=
    Attempt.forall_mem_flatten hlists fun _ _ _ hm _ he => Pack.isHashable_of_mem_entriesFrom hm he
  have hload' : Pack.load here'.files request.manifests = .ok (Pack.without p.name packs) := by
    rw [Pack.load, Pack.loadFrom_eq_mapM, ← manifestsOf, Attempt.mapM_eq_map h.entries, manifestsOf, hlists, ← hpacks,
      Pack.without_mergeAll, List.filter_flatten]
    rfl
  have hothers : ∀ q ∈ packs, p.name.sameKey q.name → q.enabled = false := by
    intro q hq hname
    have hdistinct : Pack.Distinct packs := hpacks ▸ Pack.distinct_mergeAll hkeys
    rw [← hdistinct.eq_of_sameKey hp hq hname, hdisabled]
  have henabled := Pack.enabledOnes_without hothers
  refine (congrArg (scoreFrom · _ _ _) h.documents).trans (scoreFrom_eq hload hload' rfl ?_ fun rules => ?_)
  · rw [henabled]
    refine Pack.allRules_eq (List.forall₂_same.2 fun _ _ => ⟨rfl, rfl⟩) fun q hq => ?_
    exact h.modules q (List.mem_of_mem_filter hq) (List.of_mem_filter hq)
  · rw [henabled]

/-! ### Whoever asks -/

/-- What a scoring asks for: its packs, and the checks that its caller lists. -/
structure Asking (here : Surroundings) (request : ScoringRequest) where
  packs : List Pack
  ignored : List RawText
  optional : List RawText
  load : Pack.load here.files request.manifests = .ok packs
  ignored_eq : Suppression.texts request.ignored = .ok ignored
  optional_eq : Suppression.texts request.optional = .ok optional

namespace Asking

/-- The packs that are enabled. -/
def enabled (a : Asking here request) : List Pack := Pack.enabledOnes a.packs

/-- Whether the caller or an enabled pack has a check ignored. -/
def Ignores (a : Asking here request) (id : RawText) : Prop :=
  id ∈ Suppression.trimmed a.ignored ∨ ∃ p ∈ a.enabled, id ∈ Suppression.trimmed p.ignore

/-- Whether the caller or an enabled pack asks for an optional check. -/
def Wants (a : Asking here request) (id : RawText) : Prop :=
  id ∈ Suppression.trimmed a.optional ∨ ∃ p ∈ a.enabled, id ∈ Suppression.trimmed p.enableOptional

end Asking

theorem runnerFor_eq_of_asking (a : Asking here request) (a' : Asking here' request')
    (hown : request'.rules = request.rules) (hworkers : request'.workers = request.workers)
    (hignores : ∀ id, a'.Ignores id ↔ a.Ignores id) (hwants : ∀ id, a'.Wants id ↔ a.Wants id) (rules : List Rule) :
    runnerFor request' a'.enabled rules = runnerFor request a.enabled rules := by
  have hmem (own : List RawText) (packs : List Pack) (lists : Pack → List RawText) (id : RawText) :
      id ∈ Suppression.trimmed (own ++ packs.flatMap lists) ↔
        id ∈ Suppression.trimmed own ∨ ∃ p ∈ packs, id ∈ Suppression.trimmed (lists p) := by
    rw [Suppression.trimmed_append, Suppression.trimmed_flatMap, List.mem_append, List.mem_flatMap]
  have hignored : Suppression.setOf (a'.ignored ++ a'.enabled.flatMap Pack.ignore) =
      Suppression.setOf (a.ignored ++ a.enabled.flatMap Pack.ignore) :=
    Suppression.setOf_eq_of_mem_iff fun id => by rw [hmem, hmem, ← Asking.Ignores, ← Asking.Ignores, hignores]
  have hoptional : Suppression.setOf (a'.optional ++ a'.enabled.flatMap Pack.enableOptional) =
      Suppression.setOf (a.optional ++ a.enabled.flatMap Pack.enableOptional) :=
    Suppression.setOf_eq_of_mem_iff fun id => by rw [hmem, hmem, ← Asking.Wants, ← Asking.Wants, hwants]
  rw [runnerFor_of_texts a'.ignored_eq a'.optional_eq, runnerFor_of_texts a.ignored_eq a.optional_eq, hworkers]
  simp only [Runner.new, hown, hignored, hoptional]

/-- A pack that is not enabled has no influence: without its entries the scoring is the same, whatever has become of
its module. And it does not matter who asks: scorings of the same documents with the same rules are the same if the
caller and the enabled packs together list the same checks to be ignored and the same optional checks. -/
theorem score_eq_of_same_influence (here : Surroundings) (request : ScoringRequest) :
    (∀ packs, Pack.load here.files request.manifests = .ok packs → ∀ p ∈ packs, p.enabled = false →
      ∀ here', LeavesOut p packs request here here' → score here' request = score here request) ∧
    ∀ (a : Asking here request) (here' : Surroundings) (request' : ScoringRequest) (a' : Asking here' request'),
      documentsOf here' request' = documentsOf here request → request'.paths = request.paths →
      here'.modules = here.modules → request'.rules = request.rules → request'.workers = request.workers →
      List.Forall₂ Pack.SameSource a'.enabled a.enabled →
      (∀ id, a'.Ignores id ↔ a.Ignores id) → (∀ id, a'.Wants id ↔ a.Wants id) →
      score here' request' = score here request := by
  refine ⟨fun packs hload p hp hdisabled here' h => score_of_leavesOut hload hp hdisabled h, ?_⟩
  intro a here' request' a' hdocuments hpaths hmodules hown hworkers hsource hignores hwants
  have hrules : Pack.allRules here'.modules a'.enabled = Pack.allRules here.modules a.enabled :=
    Pack.allRules_eq hsource fun _ _ _ _ => by rw [hmodules]
  have hrunner := runnerFor_eq_of_asking a a' hown hworkers hignores hwants
  exact (congrArg (scoreFrom · _ _ _) hdocuments).trans (scoreFrom_eq a.load a'.load hpaths hrules hrunner)

/-- A deployment on the standard input, and the packs that a text describes. -/
def describing (packs : String) (modules : ModuleTable) : Surroundings :=
  ⟨⟨[(["p.yaml"], .file packs.toUTF8.toList)]⟩, "kind: Deployment\n".toUTF8.toList, modules⟩

def moreRules : String × Module := ("more", .exports [.rule (Runner.locating { id := "limits" })])

/-- A pack that is disabled by its second entry, and whose module cannot be loaded. -/
def withOldPack : Surroundings :=
  describing "packs:\n- name: a\n  module: more\n- name: b\n  module: gone\n  ignore: old\n- name: b\n  enabled: no\n"
    [moreRules, ("gone", .broken (.other "ValueError" "gone"))]

def withoutOldPack : Surroundings := describing "packs:\n- name: a\n  module: more\n" [moreRules]

/-- The pack that is left, with a check that it ignores. -/
def withProbesIgnored : Surroundings :=
  describing "packs:\n- name: a\n  module: more\n  ignore: probes ,\n" withOldPack.modules

def ignoringProbes : ScoringRequest :=
  { paths := ["-"], manifests := ["p.yaml"], rules := Runner.locatingRules, ignored := .list [.text " probes"] }

theorem score_eq_of_same_influence_withOldPack :
    (∃ packs, Pack.load withOldPack.files ["p.yaml"] = .ok packs ∧ ∃ p ∈ packs, p.enabled = false ∧
        p.module = some (RawText.ofString "gone") ∧ LeavesOut p packs ignoringProbes withOldPack withoutOldPack) ∧
      score withoutOldPack ignoringProbes = score withOldPack ignoringProbes ∧
      score withProbesIgnored { ignoringProbes with ignored := .null } = score withOldPack ignoringProbes ∧
      (score withOldPack ignoringProbes).toOption.map
          (fun r => r.scorecard.records.map fun r => r.outcomes.map fun o => o.check.map (·.id.shown)) =
        some [[some "labels", some "old", some "limits"]] := by
  have hread : Pack.readEntries withOldPack.files (Path.ofText "p.yaml") =
      .ok [⟨.text "a", none, some "more", [], []⟩, ⟨.text "b", none, some "gone", ["old"], []⟩,
        ⟨.text "b", some false, none, [], []⟩] := by decide +kernel
  have hread' : Pack.readEntries withoutOldPack.files (Path.ofText "p.yaml") =
      .ok [⟨.text "a", none, some "more", [], []⟩] := by decide +kernel
  have hload : Pack.load withOldPack.files ["p.yaml"] =
      .ok [⟨.text "a", true, some "more", [], []⟩, ⟨.text "b", false, some "gone", ["old"], []⟩] := by
    rw [Pack.load_singleton hread]
    rfl
  have hload' : Pack.load withProbesIgnored.files ["p.yaml"] =
      .ok [⟨.text "a", true, some "more", ["probes"], []⟩] := by decide +kernel
  have hleft : LeavesOut ⟨.text "b", false, some "gone", ["old"], []⟩
      [⟨.text "a", true, some "more", [], []⟩, ⟨.text "b", false, some "gone", ["old"], []⟩] ignoringProbes
      withOldPack withoutOldPack :=
    { documents := documentsOf_of_input rfl rfl
      entries := by
        intro m hm
        obtain rfl : m = (Path.ofText "p.yaml", 0) := List.mem_singleton.1 hm
        rw [Pack.entriesFrom, Pack.entriesFrom, hread, hread']
        rfl
      modules := by
        intro q hq henabled module hmodule
        rcases List.mem_cons.1 hq with rfl | hq
        · cases hmodule
          rfl
        · obtain rfl := List.mem_singleton.1 hq
          cases henabled }
  let asking : Asking withOldPack ignoringProbes := ⟨_, [" probes"], [], hload, rfl, rfl⟩
  let asking' : Asking withProbesIgnored { ignoringProbes with ignored := .null } := ⟨_, [], [], hload', rfl, rfl⟩
  have hignores : ∀ id, asking'.Ignores id ↔ asking.Ignores id := by
    intro id
    have hblank : Suppression.trimmed [RawText.ofString " probes"] = [RawText.ofString "probes"] := by decide
    have hplain : Suppression.trimmed [RawText.ofString "probes"] = [RawText.ofString "probes"] := by decide
    have hnone : Suppression.trimmed [] = [] := rfl
    simp [Asking.Ignores, Asking.enabled, asking, asking', Pack.enabledOnes, hblank, hplain, hnone]
  have hwants : ∀ id, asking'.Wants id ↔ asking.Wants id := by
    intro id
    simp [Asking.Wants, Asking.enabled, asking, asking', Pack.enabledOnes]
  obtain ⟨hdisabled, hasking⟩ := score_eq_of_same_influence withOldPack ignoringProbes
  have hwithout := hdisabled _ hload _ (by simp) rfl _ hleft
  refine ⟨⟨_, hload, _, by simp, rfl, rfl, hleft⟩, hwithout, ?_, ?_⟩
  · exact hasking asking _ _ asking' (documentsOf_of_input rfl rfl) rfl rfl rfl rfl (.cons ⟨rfl, rfl⟩ .nil) hignores hwants
  · rw [← hwithout]
    decide +kernel

end Scoring

end ManifestGrading
