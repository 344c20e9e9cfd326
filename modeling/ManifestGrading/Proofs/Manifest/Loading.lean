import ManifestGrading.Manifest
import ManifestGrading.Proofs.FirstFailure

/-! How the loading of manifests fails. All paths are looked up first; then the sources are read in order, each
with what the earlier ones left of the standard input. The first path or source that fails decides about the
fault. Two kinds of fault are told to nobody: a path that no file can have because it is too long, and a text in
YAML that is well formed with a scalar in it that cannot be built. -/

namespace ManifestGrading

namespace Manifest

variable {decode : Decoder} {files : Files} {input : List UInt8} {paths : List String}

/-- Whether a path stands for sources: it is that of the standard input, or something stands there. -/
def Leads (files : Files) (raw : String) : Prop :=
  raw = inputPath ∨ (∃ names, files.place (Path.ofText raw) = .directory names) ∨
    ∃ names bytes, files.place (Path.ofText raw) = .file names bytes

theorem sourcesAt_ok_iff {raw : String} : (∃ found, sourcesAt files raw = .ok found) ↔ Leads files raw := by
  unfold sourcesAt Leads
  by_cases hraw : raw = inputPath
  · simp [hraw]
  · simp only [hraw, if_false, false_or]
    cases files.place (Path.ofText raw) <;> simp

/-- Sources, each with what is left of the standard input when it is read. -/
def feeds (input : List UInt8) : List Source → List (List UInt8 × Source)
  | [] => []
  | .input :: rest => (input, .input) :: feeds [] rest
  | .file p :: rest => (input, .file p) :: feeds input rest

/-- What sources leave of the standard input. -/
def leftBy (input : List UInt8) (found : List Source) : List UInt8 := if Source.input ∈ found then [] else input

theorem feeds_append (input : List UInt8) (found again : List Source) :
    feeds input (found ++ again) = feeds input found ++ feeds (leftBy input found) again := by
  induction found generalizing input with
  | nil => rfl
  | cons source rest ih =>
      cases source with
      | input =>
          have hleft : leftBy [] rest = leftBy input (.input :: rest) := by simp [leftBy]
          rw [List.cons_append, feeds, feeds, ih, hleft, List.cons_append]
      | file p =>
          have hleft : leftBy input rest = leftBy input (.file p :: rest) := by simp [leftBy]
          rw [List.cons_append, feeds, feeds, ih, hleft, List.cons_append]

theorem map_snd_feeds (input : List UInt8) (found : List Source) : (feeds input found).map Prod.snd = found := by
  induction found generalizing input with
  | nil => rfl
  | cons source rest ih =>
      cases source with
      | input => rw [feeds, List.map_cons, ih]
      | file p => rw [feeds, List.map_cons, ih]

theorem feeds_nil (found : List Source) : feeds [] found = found.map fun source => ([], source) := by
  induction found with
  | nil => rfl
  | cons source rest ih =>
      cases source with
      | input => rw [feeds, ih, List.map_cons]
      | file p => rw [feeds, ih, List.map_cons]

/-- The name of a source. -/
def Source.name : Source → String
  | .input => inputName
  | .file p => p.text

/-- The text of a source. -/
def textOf (files : Files) : List UInt8 × Source → Except ManifestFault String
  | (input, .input) => (Text.Utf8.readText input).mapError fun _ => .unreadableInput
  | (_, .file p) => do
    let bytes ← (files.read p).mapError fun _ => .unreadable p.text
    (Text.Utf8.readText bytes).mapError fun _ => .unreadable p.text

/-- The documents of a source. -/
def documentsOf (decode : Decoder) (files : Files) (feed : List UInt8 × Source) :
    Except ManifestFault (List Document) := do
  documentsIn decode feed.2.name (← textOf files feed)

/-- The sources are loaded independently of each other, but for what they leave of the standard input. -/
theorem loadSources_eq (found : List Source) :
    loadSources decode files input found = ((feeds input found).mapM (documentsOf decode files)).map List.flatten := by
  induction found generalizing input with
  | nil => rfl
  | cons source rest ih =>
      cases source with
      | input =>
          rw [loadSources, feeds, List.mapM_cons, ih, documentsOf, textOf]
          cases (Text.Utf8.readText input).mapError fun _ => ManifestFault.unreadableInput with
          | error e => rfl
          | ok text =>
              simp only [bind, Except.bind, pure, Except.pure, Source.name]
              cases documentsIn decode inputName text with
              | error e => rfl
              | ok docs => cases (feeds [] rest).mapM (documentsOf decode files) <;> rfl
      | file p =>
          rw [loadSources, feeds, List.mapM_cons, ih, documentsOf, textOf]
          cases (files.read p).mapError fun _ => ManifestFault.unreadable p.text with
          | error e => rfl
          | ok bytes =>
              simp only [bind, Except.bind, pure, Except.pure, Source.name]
              cases (Text.Utf8.readText bytes).mapError fun _ => ManifestFault.unreadable p.text with
              | error e => rfl
              | ok text =>
                  dsimp only
                  cases documentsIn decode p.text text with
                  | error e => rfl
                  | ok docs => cases (feeds input rest).mapM (documentsOf decode files) <;> rfl

/-- Whether a source can be read and has values. -/
def HasValues (decode : Decoder) (files : Files) (feed : List UInt8 × Source) : Prop :=
  ∃ text values, textOf files feed = .ok text ∧ decode text = .ok values

theorem documentsOf_ok_iff {feed : List UInt8 × Source} :
    (∃ docs, documentsOf decode files feed = .ok docs) ↔ HasValues decode files feed := by
  unfold documentsOf HasValues
  cases textOf files feed with
  | error e => simp [bind, Except.bind]
  | ok text =>
      simp only [bind, Except.bind, documentsIn, Except.ok.injEq, exists_and_left, exists_eq_left']
      cases decode text with
      | ok values => simp
      | error fault => cases fault <;> simp

end Manifest

end ManifestGrading
