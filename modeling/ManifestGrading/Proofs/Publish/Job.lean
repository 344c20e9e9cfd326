import ManifestGrading.CommandLine.Publish
import ManifestGrading.Proofs.Files.Appending
import ManifestGrading.Proofs.FirstFailure
import ManifestGrading.Proofs.Text.Halves
import ManifestGrading.Proofs.Value.Equality

/-! The publishing of a report, with all that can go wrong. A file that holds no report, or a report that has no
summary where one is asked for, ends it before anything is done. Else the summary comes once behind what its file held,
and then the annotations are printed one after the other, up to the first check, or the first resource, that cannot be
read. Whatever happens, nothing that is in a file gets lost. A text with a half of a pair in it has no form in UTF-8. If
the summary is one, its file is opened, which makes it if it is missing, and then nothing is written; if a command is
one, those before it are printed, and it ends the publishing. -/

namespace ManifestGrading

namespace Publish

/-- Whether a file holds a report: a blank text, which is an empty one, or a mapping in JSON. -/
def Holds (files : Files) (p : Path) (report : Value) : Prop :=
  ∃ bytes text, files.read p = .ok bytes ∧ Text.Utf8.readMarkedText bytes = .ok text ∧
    (Text.isBlankText text = true ∧ report = .map [] ∨
      Text.isBlankText text = false ∧ Json.read text = .ok report ∧ ∃ entries, report = .map entries)

theorem readReport_eq_ok_iff {path text : String} {report : Value} :
    readReport path text = .ok report ↔
      Text.isBlankText text = true ∧ report = .map [] ∨
        Text.isBlankText text = false ∧ Json.read text = .ok report ∧ ∃ entries, report = .map entries := by
  unfold readReport
  by_cases hblank : Text.isBlankText text = true
  · simp [hblank, eq_comm]
  · rw [if_neg hblank]
    simp only [hblank, Bool.false_eq_true, false_and, false_or, true_and]
    cases hread : Json.read text with
    | error fault => cases fault <;> simp
    | ok v =>
        cases v with
        | map entries =>
            simp only [Except.ok.injEq]
            exact ⟨fun h => ⟨h, entries, h.symm⟩, fun h => h.1⟩
        | _ =>
            refine iff_of_false (by simp) ?_
            rintro ⟨hv, entries, rfl⟩
            cases hv

theorem loadReport_eq_ok_iff {files : Files} {p : Path} {report : Value} :
    loadReport files p = .ok report ↔ Holds files p report := by
  simp only [loadReport, Attempt.bind_ok_iff, Attempt.mapError_ok_iff, readReport_eq_ok_iff]
  constructor
  · rintro ⟨bytes, hbytes, text, htext, hreport⟩
    exact ⟨bytes, text, hbytes, htext, hreport⟩
  · rintro ⟨bytes, text, hbytes, htext, hreport⟩
    exact ⟨bytes, hbytes, text, htext, hreport⟩

/-! ### Annotations one after the other -/

/-- The checks of a resource, and how it is referred to. -/
def checksOf (resource : Value) : Except Value.Fault (RawText × List Value) := do
  let ref ← (← fieldOr "ref" (.text "") resource).display
  return (ref.trim, ← itemsOf "checks" resource)

/-- What the checks of a resource come to, each by itself; a resource whose checks cannot be read is a fault. -/
def resourceTries (resource : Value) : List (Except Value.Fault (Option Annotation)) :=
  match checksOf resource with
  | .error fault => [.error fault]
  | .ok (ref, checks) => checks.map fun check => annotation ref check

/-- What the checks of a report come to, each by itself. -/
def tries (report : Value) : List (Except Value.Fault (Option Annotation)) :=
  match itemsOf "resources" report with
  | .error fault => [.error fault]
  | .ok resources => resources.flatMap resourceTries

/-- Whether a listing has what tries found, up to the first one that failed, and the fault of this one. -/
def Listing.Follows {α : Type} (found : Listing α) (tries : List (Except Value.Fault (Option α))) : Prop :=
  ∃ good : List (Option α), found.items = good.filterMap id ∧
    (tries = good.map .ok ∧ found.fault = none ∨
      ∃ fault behind, tries = good.map .ok ++ .error fault :: behind ∧ found.fault = some fault)

section Follows

variable {α : Type} {found more : Listing α} {first later : List (Except Value.Fault (Option α))}

theorem follows_nil : (⟨[], none⟩ : Listing α).Follows [] := ⟨[], rfl, Or.inl ⟨rfl, rfl⟩⟩

theorem follows_error (fault : Value.Fault) (behind : List (Except Value.Fault (Option α))) :
    (⟨[], some fault⟩ : Listing α).Follows (.error fault :: behind) := ⟨[], rfl, Or.inr ⟨fault, behind, rfl, rfl⟩⟩

theorem Listing.Follows.append (hfound : found.Follows first) (hnone : found.fault = none)
    (hmore : more.Follows later) :
    (⟨found.items ++ more.items, more.fault⟩ : Listing α).Follows (first ++ later) := by
  obtain ⟨good, hitems, ⟨hfirst, _⟩ | ⟨fault, _, _, hfault⟩⟩ := hfound
  · obtain ⟨good', hitems', hlater⟩ := hmore
    refine ⟨good ++ good', by rw [hitems, hitems', List.filterMap_append], ?_⟩
    rcases hlater with ⟨hlater, hfault⟩ | ⟨fault, behind, hlater, hfault⟩
    · exact Or.inl ⟨by rw [hfirst, hlater, List.map_append], hfault⟩
    · exact Or.inr ⟨fault, behind, by rw [hfirst, hlater, List.map_append, List.append_assoc], hfault⟩
  · rw [hnone] at hfault
    cases hfault

theorem Listing.Follows.of_fault (hfound : found.Follows first) {fault : Value.Fault}
    (hfault : found.fault = some fault) (later : List (Except Value.Fault (Option α))) :
    found.Follows (first ++ later) := by
  obtain ⟨good, hitems, ⟨_, hnone⟩ | ⟨fault', behind, hfirst, hfault'⟩⟩ := hfound
  · rw [hnone] at hfault
    cases hfault
  · exact ⟨good, hitems, Or.inr ⟨fault', behind ++ later, by rw [hfirst, List.append_assoc, List.cons_append], hfault'⟩⟩

end Follows

theorem checkAnnotations_follows (ref : RawText) (checks : List Value) :
    (checkAnnotations ref checks).Follows (checks.map fun check => annotation ref check) := by
  induction checks with
  | nil => exact follows_nil
  | cons check rest ih =>
      rw [checkAnnotations, List.map_cons]
      cases hcheck : annotation ref check with
      | error fault => exact follows_error fault _
      | ok found =>
          have hone : (⟨found.toList, none⟩ : Listing Annotation).Follows [.ok found] := by
            refine ⟨[found], ?_, Or.inl ⟨rfl, rfl⟩⟩
            cases found <;> rfl
          exact hone.append rfl ih

theorem resourceAnnotations_follows (resource : Value) :
    (resourceAnnotations resource).Follows (resourceTries resource) := by
  have hchecks : resourceAnnotations resource =
      match checksOf resource with
      | .error fault => ⟨[], some fault⟩
      | .ok (ref, checks) => checkAnnotations ref checks := rfl
  rw [hchecks, resourceTries]
  cases checksOf resource with
  | error fault => exact follows_error fault []
  | ok checks => exact checkAnnotations_follows checks.1 checks.2

theorem allAnnotations_follows (resources : List Value) :
    (allAnnotations resources).Follows (resources.flatMap resourceTries) := by
  induction resources with
  | nil => exact follows_nil
  | cons resource rest ih =>
      have hresource := resourceAnnotations_follows resource
      rw [allAnnotations, List.flatMap_cons]
      cases hfault : (resourceAnnotations resource).fault with
      | none => exact hresource.append hfault ih
      | some fault =>
          have hsame : (⟨(resourceAnnotations resource).items, some fault⟩ : Listing Annotation) =
              resourceAnnotations resource := by rw [← hfault]
          exact hsame ▸ hresource.of_fault hfault _

/-- The annotations of a report are those of its checks up to the first one that cannot be read. -/
theorem annotations_follows (report : Value) : (annotations report).Follows (tries report) := by
  rw [annotations, tries]
  cases itemsOf "resources" report with
  | error fault => exact follows_error fault []
  | ok resources => exact allAnnotations_follows resources

/-! ### The summary -/

/-- If a text has been added, it has been appended in UTF-8. -/
theorem appends_of_addText {files files' : Files} {text : RawText} {p : Path}
    (h : addText files text p = (files', none)) :
    ∃ s, text.string? = some s ∧ files.Appends files' p s.toUTF8.toList := by
  unfold addText at h
  cases hmade : files.ensureDirectories p.root p.parent.parts.reverse with
  | error fault => simp [hmade] at h
  | ok made =>
      simp only [hmade] at h
      cases hopen : made.append p [] with
      | error fault => simp [hopen] at h
      | ok opened =>
          simp only [hopen] at h
          cases hencode : Text.Utf8.encode text with
          | error fault => simp [hencode] at h
          | ok bytes =>
              simp only [hencode] at h
              obtain ⟨ways, hadds⟩ := Files.exists_addsDirectories hmade
              obtain ⟨_, written, hwrite, happends⟩ := Files.exists_appends hadds hopen bytes
              obtain ⟨s, hs, rfl⟩ := Text.Utf8.encode_eq_ok_iff.1 hencode
              rw [hwrite] at h
              cases h
              exact ⟨s, hs, happends⟩

/-- Where a place is admitted, a text is added, or its file is opened and nothing is written. -/
theorem addText_of_admits {files : Files} {p : Path} (h : files.Admits p) (text : RawText) :
    (∃ s files', text.string? = some s ∧ addText files text p = (files', none)) ∨
      ∃ fault files', Text.Utf8.encode text = .error fault ∧ addText files text p = (files', some (.writing fault)) ∧
        files.Appends files' p [] := by
  obtain ⟨made, ways, hmade, hadds, hoffers⟩ := h.exists_offers
  have hopen := hoffers.append_eq []
  unfold addText
  simp only [hmade, hopen]
  cases hencode : Text.Utf8.encode text with
  | ok bytes =>
      left
      obtain ⟨s, hs, _⟩ := Text.Utf8.encode_eq_ok_iff.1 hencode
      obtain ⟨_, files', hwrite, _⟩ := Files.exists_appends hadds hopen bytes
      exact ⟨s, files', hs, by simp only [hwrite]⟩
  | error fault =>
      right
      exact ⟨fault, _, rfl, rfl, (Files.exists_appends hadds hopen []).1⟩

theorem grows_addText (files : Files) (text : RawText) (p : Path) : files.Grows (addText files text p).1 := by
  unfold addText
  cases hmade : files.ensureDirectories p.root p.parent.parts.reverse with
  | error fault => exact .refl files
  | ok made =>
      obtain ⟨ways, hadds⟩ := Files.exists_addsDirectories hmade
      cases hopen : made.append p [] with
      | error fault => simpa [hopen] using hadds.grows
      | ok opened =>
          have hopened := hadds.grows.trans (Files.grows_of_append hopen)
          cases hencode : Text.Utf8.encode text with
          | error fault => simpa [hopen] using hopened
          | ok bytes =>
              cases hwrite : opened.append p bytes with
              | error fault => simpa [hopen, hwrite] using hopened
              | ok written => simpa [hopen, hwrite] using hopened.trans (Files.grows_of_append hwrite)

/-! ### The command -/

/-- The end of a publishing before anything is printed. -/
def stopped (fault : JobFault) : CommandLine.Outcome JobFault := ⟨"", .fault fault⟩

/-- What is printed of a report, and how that ends. -/
def printed (report : Value) : CommandLine.Outcome JobFault :=
  let (lines, fault) := Text.Utf8.writeEach ((annotations report).items.map Annotation.command)
  ⟨CommandLine.linesText lines,
    ((fault.map .printing).or ((annotations report).fault.map .report)).elim (.exit 0) .fault⟩

/-- How the printing of annotations ends: all of their commands are printed, and what ended the annotations ends it too;
or those before the first one that has no form in UTF-8, and that one ends it. -/
inductive Prints (found : Listing Annotation) : CommandLine.Outcome JobFault → Prop
  | all {lines : List String} (h : found.items.map Annotation.command = lines.map RawText.ofString) :
    Prints found ⟨CommandLine.linesText lines, found.fault.elim (.exit 0) fun fault => .fault (.report fault)⟩
  | upTo {lines : List String} {command : RawText} {behind : List RawText} {fault : Text.Utf8.WritingFault}
    (h : found.items.map Annotation.command = lines.map RawText.ofString ++ command :: behind)
    (hhalf : command.string? = none) (hfault : Text.Utf8.encode command = .error fault) :
    Prints found ⟨CommandLine.linesText lines, .fault (.printing fault)⟩

theorem prints_printed (report : Value) : Prints (annotations report) (printed report) := by
  rcases Text.Utf8.writeEach_cases ((annotations report).items.map Annotation.command) with
    ⟨lines, hlines, hwritten⟩ | ⟨lines, command, behind, fault, hlines, hcommand, hwritten⟩
  · have hprinted : printed report = ⟨CommandLine.linesText lines,
        (annotations report).fault.elim (.exit 0) fun fault => .fault (.report fault)⟩ := by
      simp only [printed, hwritten]
      cases (annotations report).fault <;> rfl
    exact hprinted ▸ .all hlines
  · have hprinted : printed report = ⟨CommandLine.linesText lines, .fault (.printing fault)⟩ := by
      simp only [printed, hwritten]
      rfl
    exact hprinted ▸ .upTo hlines (Text.Utf8.exists_encode_error_iff.1 ⟨fault, hcommand⟩) hcommand

/-- What holds of a publishing. Nothing that is in a file gets lost. Without a report, or without a summary where there
is a place for one, nothing happens. A summary is appended where there can be a file, and then the annotations are
printed; if no place is named, they are printed at once. They are those of the checks one after the other, up to the
first that cannot be read, and they are printed up to the first that has no form in UTF-8. A summary that has none adds
nothing to its file, which is made if it is missing. Wherever the summary is to go, nothing is printed before it has been
appended. -/
structure IsPublished (files : Files) (path : Path) (destination : Destination)
    (result : Files × CommandLine.Outcome JobFault) : Prop where
  grows : files.Grows result.1
  unread : (¬∃ report, Holds files path report) → ∃ fault, result = (files, stopped fault)
  nowhere : ∀ report, Holds files path report → destination = .nowhere → result = (files, printed report)
  unsummarized : ∀ report fault, Holds files path report → destination ≠ .nowhere → summary report = .error fault →
    result = (files, stopped (.report fault))
  appended : ∀ report text s p, Holds files path report → summary report = .ok text → text.string? = some s →
    destination = .file p → files.Admits p →
    ∃ files', result = (files', printed report) ∧ files.Appends files' p s.toUTF8.toList
  unwritten : ∀ report text p, Holds files path report → summary report = .ok text → text.string? = none →
    destination = .file p → files.Admits p →
    ∃ fault files', Text.Utf8.encode text = .error fault ∧ result = (files', stopped (.writing fault)) ∧
      files.Appends files' p []
  before : ∀ report, Holds files path report → destination ≠ .nowhere →
    (∃ fault files', result = (files', stopped fault)) ∨
      ∃ text s p files', summary report = .ok text ∧ text.string? = some s ∧ destination = .file p ∧
        result = (files', printed report) ∧ files.Appends files' p s.toUTF8.toList
  follows : ∀ report, Holds files path report → (annotations report).Follows (tries report)
  prints : ∀ report, Holds files path report → Prints (annotations report) (printed report)

/-- What a command leaves whose work has a certain result. -/
def left (result : JobResult) : Files × CommandLine.Outcome JobFault :=
  (result.files, ⟨CommandLine.linesText result.lines, result.fault.elim (.exit 0) .fault⟩)

section Left

variable {files files' : Files} {path : Path} {report : Value} {destination : Destination}

theorem left_of_not_holds (h : ¬∃ report, Holds files path report) (destination : Destination) :
    ∃ fault, left (publish files path destination) = (files, stopped fault) := by
  cases hload : loadReport files path with
  | error fault => exact ⟨fault, by rw [publish, hload]; rfl⟩
  | ok report => exact absurd ⟨report, loadReport_eq_ok_iff.1 hload⟩ h

theorem left_of_fault (h : Holds files path report) {fault : JobFault}
    (hsummary : addSummary files report destination = (files', some fault)) :
    left (publish files path destination) = (files', stopped fault) := by
  rw [publish, loadReport_eq_ok_iff.2 h]
  simp only [hsummary]
  rfl

theorem left_of_summary (h : Holds files path report)
    (hsummary : addSummary files report destination = (files', none)) :
    left (publish files path destination) = (files', printed report) := by
  rw [publish, loadReport_eq_ok_iff.2 h]
  simp only [hsummary]
  rfl

theorem grows_addSummary (files : Files) (report : Value) (destination : Destination) :
    files.Grows (addSummary files report destination).1 := by
  unfold addSummary
  split
  · exact .refl files
  · exact .refl files
  · exact grows_addText files _ _
  · exact .refl files

theorem grows_left (files : Files) (path : Path) (destination : Destination) :
    files.Grows (left (publish files path destination)).1 := by
  cases hload : loadReport files path with
  | error fault =>
      rw [publish, hload]
      exact .refl files
  | ok report =>
      have hgrows := grows_addSummary files report destination
      have hholds := loadReport_eq_ok_iff.1 hload
      cases hsummary : addSummary files report destination with
      | mk files' fault =>
          rw [hsummary] at hgrows
          cases fault with
          | none => rwa [left_of_summary hholds hsummary]
          | some fault => rwa [left_of_fault hholds hsummary]

theorem addSummary_file (files : Files) (p : Path) {text : RawText} (hsummary : summary report = .ok text) :
    addSummary files report (.file p) = addText files text p := by
  simp only [addSummary, hsummary]

end Left

/-- Publishing appends the summary once and then prints the annotations, or it stops before anything is printed. -/
theorem isPublished_left (files : Files) (path : Path) (destination : Destination) :
    IsPublished files path destination (left (publish files path destination)) where
  grows := grows_left files path destination
  unread h := left_of_not_holds h destination
  nowhere report h hnowhere := by
    subst hnowhere
    exact left_of_summary h rfl
  unsummarized report fault h hplace hsummary := by
    refine left_of_fault h ?_
    cases destination with
    | nowhere => exact absurd rfl hplace
    | file p => simp only [addSummary, hsummary]
    | thing kind => simp only [addSummary, hsummary]
  appended report text s p h hsummary hs hdestination hadmits := by
    subst hdestination
    have hadd := addSummary_file files p hsummary
    rcases addText_of_admits hadmits text with ⟨_, files', _, hok⟩ | ⟨fault, _, hfault, _⟩
    · obtain ⟨s', hs', happends⟩ := appends_of_addText hok
      cases hs.symm.trans hs'
      exact ⟨files', left_of_summary h (hadd.trans hok), happends⟩
    · cases hs.symm.trans (Text.Utf8.exists_encode_error_iff.1 ⟨fault, hfault⟩)
  unwritten report text p h hsummary hs hdestination hadmits := by
    subst hdestination
    have hadd := addSummary_file files p hsummary
    rcases addText_of_admits hadmits text with ⟨s, _, hs', _⟩ | ⟨fault, files', hencode, hfault, happends⟩
    · cases hs.symm.trans hs'
    · exact ⟨fault, files', hencode, left_of_fault h (hadd.trans hfault), happends⟩
  before report h hplace := by
    cases hresult : addSummary files report destination with
    | mk files' fault =>
        cases fault with
        | some fault => exact Or.inl ⟨fault, files', left_of_fault h hresult⟩
        | none =>
            right
            cases hsummary : summary report with
            | error fault => cases destination <;> simp [addSummary, hsummary] at hresult hplace
            | ok text =>
                cases destination with
                | nowhere => exact absurd rfl hplace
                | thing kind => simp [addSummary, hsummary] at hresult
                | file p =>
                    have hadd := (addSummary_file files p hsummary).symm.trans hresult
                    obtain ⟨s, hs, happends⟩ := appends_of_addText hadd
                    exact ⟨text, s, p, files', rfl, hs, rfl, left_of_summary h hresult, happends⟩
  follows report _ := annotations_follows report
  prints report _ := prints_printed report

theorem publish_eq_left {arguments : List String} {path : Path} {named : Destination}
    (harguments : CommandLine.PublishSettings.ofArguments arguments = .settings (path, named))
    (files : Files) (surroundings : Option String) :
    CommandLine.publish files surroundings arguments =
      left (publish files path (CommandLine.summaryDestination named surroundings)) := by
  rw [CommandLine.publish, harguments]
  rfl

/-- For all arguments that name a report, whatever the surroundings are and whatever the files hold, the command appends
the summary of the report once to the file that is named for it and then prints the annotations, or it stops before
anything is printed. -/
theorem publish_appends_or_stops {arguments : List String} {path : Path} {named : Destination}
    (harguments : CommandLine.PublishSettings.ofArguments arguments = .settings (path, named))
    (files : Files) (surroundings : Option String) :
    IsPublished files path (CommandLine.summaryDestination named surroundings)
      (CommandLine.publish files surroundings arguments) := by
  rw [publish_eq_left harguments]
  exact isPublished_left files path _

/-- A report whose only resource passes as healthy, though of its checks one does not and the other is none. -/
def healthyInName : Value :=
  .map [(.text "resources", .list [.map [(.text "grade", .text "ALL_OK"), (.text "checks", .list
    [.map [(.text "id", .text "a"), (.text "grade", .text "CRITICAL"), (.text "remark", .text "down")], .int 5])]])]

/-- This report in a file, and the beginning of a summary in another one. -/
def summaryBegun : Files :=
  ⟨[(["r.json"], .file ("\x7b\"resources\":[\x7b\"grade\":\"ALL_OK\",\"checks\":[\x7b\"id\":\"a\"," ++
      "\"grade\":\"CRITICAL\",\"remark\":\"down\"\x7d,5]\x7d]\x7d").toUTF8.toList),
    (["out", "s.md"], .file "old\n".toUTF8.toList)]⟩

theorem admits_summaryBegun : summaryBegun.Admits ⟨"", ["out", "s.md"]⟩ where
  usable := ⟨by decide, by decide, by decide⟩
  named := by decide
  way names hnames bytes := by
    obtain rfl : names = ["out"] := List.mem_singleton.1 hnames
    have hdirectory : summaryBegun.find? ["out"] = some .directory := by decide +kernel
    simp [hdirectory]
  free := by decide +kernel
  beside := by decide

theorem holds_summaryBegun : Holds summaryBegun ⟨"", ["r.json"]⟩ healthyInName :=
  loadReport_eq_ok_iff.1 (by decide +kernel)

/-- What the summary of this report shows. -/
def nothingScored : String :=
  "# Kubernetes Scorecard\n\n**Resources scored:** 0\n**Lowest grade:** None\n\n| Grade | Resources |\n" ++
    "| --- | ---: |\n| Critical | 0 |\n| Warning | 0 |\n| Almost OK | 0 |\n| OK | 0 |\n"

theorem summary_healthyInName : summary healthyInName = .ok (RawText.ofString nothingScored) := by decide +kernel

theorem publish_appends_or_stops_summaryBegun :
    CommandLine.PublishSettings.ofArguments ["r.json", "--summary-path", "out/s.md"] =
        .settings (⟨"", ["r.json"]⟩, .file ⟨"", ["out", "s.md"]⟩) ∧
      ∃ files', CommandLine.publish summaryBegun (some "other.md") ["r.json", "--summary-path", "out/s.md"] =
          (files', ⟨"::error title=Critical - a::down\n", .fault (.report (.noMember "int" "get"))⟩) ∧
        files'.read ⟨"", ["out", "s.md"]⟩ = .ok ("old\n" ++ nothingScored).toUTF8.toList := by
  have harguments : CommandLine.PublishSettings.ofArguments ["r.json", "--summary-path", "out/s.md"] =
      .settings (⟨"", ["r.json"]⟩, .file ⟨"", ["out", "s.md"]⟩) := by rfl
  have houtput : (printed healthyInName).output = "::error title=Critical - a::down\n" := by decide +kernel
  have hending : (printed healthyInName).ending = .fault (.report (.noMember "int" "get")) := by decide +kernel
  obtain ⟨files', hleft, hread, hold, _⟩ :=
    (publish_appends_or_stops harguments summaryBegun (some "other.md")).appended healthyInName _ nothingScored _
      holds_summaryBegun summary_healthyInName (RawText.string?_ofString _) rfl admits_summaryBegun
  have hbefore : summaryBegun.read ⟨"", ["out", "s.md"]⟩ = .ok "old\n".toUTF8.toList := by decide +kernel
  refine ⟨harguments, files', ?_, ?_⟩
  · rw [hleft, ← houtput, ← hending]
  · rw [hread, hold _ hbefore]
    decide +kernel

/-- Metadata with a half of a pair in it. -/
def halfKept : Value := .map [(.text "metadata", .map [(.text "k", .text ⟨[.half 0]⟩)])]

/-- A report with such metadata in a file. -/
def halfInFile : Files :=
  ⟨[(["r.json"], .file "\x7b\"metadata\":\x7b\"k\":\"\\ud800\"\x7d\x7d".toUTF8.toList)]⟩

/-- A report on a healthy resource with three checks that are not, the second of which has a half of a pair in its
remark. -/
def halfSaid : Value :=
  let check (remark : RawText) : Value := .map [(.text "grade", .text "WARNING"), (.text "remark", .text remark)]
  .map [(.text "resources", .list [.map [(.text "grade", .text "ALL_OK"),
    (.text "checks", .list [check "one", check ⟨[.half 0]⟩, check "three"])]])]

/-- This report in a file. -/
def halfSaidInFile : Files :=
  ⟨[(["r.json"], .file ("\x7b\"resources\":[\x7b\"grade\":\"ALL_OK\",\"checks\":[" ++
      "\x7b\"grade\":\"WARNING\",\"remark\":\"one\"\x7d,\x7b\"grade\":\"WARNING\",\"remark\":\"\\ud800\"\x7d," ++
      "\x7b\"grade\":\"WARNING\",\"remark\":\"three\"\x7d]\x7d]\x7d").toUTF8.toList)]⟩

theorem admits_beside {files : Files} (h : files.find? ["s.md"] = none) : files.Admits ⟨"", ["s.md"]⟩ where
  usable := ⟨by decide, by decide, by decide⟩
  named := by decide
  way := nofun
  free hdirectory := absurd (h.symm.trans hdirectory) nofun
  beside := nofun

theorem summary_halfSaid : summary halfSaid = .ok (RawText.ofString nothingScored) := by decide +kernel

/-- A report with a summary is not enough. If the summary has no form in UTF-8, it is not appended, and an empty file is
made for it; if its place is below a file, there is none for it. And if all annotations are found, but one of them has no
form in UTF-8, the summary is appended, and only the annotations before this one are printed. -/
theorem publish_stops_halfInFile :
    (Holds halfInFile ⟨"", ["r.json"]⟩ halfKept ∧ (∃ text, summary halfKept = .ok text) ∧
        (CommandLine.publish halfInFile none ["r.json", "--summary-path", "s.md"]).1.read ⟨"", ["s.md"]⟩ = .ok [] ∧
        (CommandLine.publish halfInFile none ["r.json", "--summary-path", "s.md"]).2 =
          stopped (.writing ⟨0xD800, 194, 1⟩)) ∧
      (Holds summaryBegun ⟨"", ["r.json"]⟩ healthyInName ∧ (∃ text, summary healthyInName = .ok text) ∧
        (CommandLine.publish summaryBegun none ["r.json", "--summary-path", "r.json/s.md"]).2 =
          stopped (.file (.exists "r.json"))) ∧
      Holds halfSaidInFile ⟨"", ["r.json"]⟩ halfSaid ∧ (annotations halfSaid).items.length = 3 ∧
        (annotations halfSaid).fault = none ∧
        (CommandLine.publish halfSaidInFile none ["r.json", "--summary-path", "s.md"]).1.read ⟨"", ["s.md"]⟩ =
          .ok nothingScored.toUTF8.toList ∧
        (CommandLine.publish halfSaidInFile none ["r.json", "--summary-path", "s.md"]).2 =
          ⟨"::warning title=Warning::one\n", .fault (.printing ⟨0xD800, 25, 1⟩)⟩ := by
  have hbeside : CommandLine.PublishSettings.ofArguments ["r.json", "--summary-path", "s.md"] =
      .settings (⟨"", ["r.json"]⟩, .file ⟨"", ["s.md"]⟩) := by rfl
  have hbelow : CommandLine.PublishSettings.ofArguments ["r.json", "--summary-path", "r.json/s.md"] =
      .settings (⟨"", ["r.json"]⟩, .file ⟨"", ["r.json", "s.md"]⟩) := by rfl
  have hfile (p : Path) : CommandLine.summaryDestination (.file p) none = .file p := rfl
  rw [publish_eq_left hbeside, publish_eq_left hbelow, publish_eq_left hbeside, hfile, hfile]
  refine ⟨?_, ?_, ?_⟩
  · have hholds : Holds halfInFile ⟨"", ["r.json"]⟩ halfKept := loadReport_eq_ok_iff.1 (by decide +kernel)
    have hunwritten : (summary halfKept).map Text.Utf8.encode = .ok (.error ⟨0xD800, 194, 1⟩) := by decide +kernel
    obtain ⟨text, htext, hencode⟩ := Attempt.map_ok_iff.1 hunwritten
    obtain ⟨fault, files', hfault, hleft, hread, _⟩ := (isPublished_left halfInFile _ (.file ⟨"", ["s.md"]⟩)).unwritten
      halfKept text _ hholds htext (Text.Utf8.exists_encode_error_iff.1 ⟨_, hencode⟩) rfl (admits_beside (by decide))
    obtain rfl : fault = ⟨0xD800, 194, 1⟩ := Except.error.inj (hfault.symm.trans hencode)
    have hnew : halfInFile.contentAt (Files.target ⟨"", ["s.md"]⟩) = [] := by decide +kernel
    rw [hleft, hread, hnew]
    exact ⟨hholds, ⟨text, htext⟩, rfl, rfl⟩
  · have hrefused : (addSummary summaryBegun healthyInName (.file ⟨"", ["r.json", "s.md"]⟩)).2 =
        some (.file (.exists "r.json")) := by
      rw [addSummary_file _ _ summary_healthyInName]
      decide +kernel
    have hleft := left_of_fault holds_summaryBegun (Prod.ext rfl hrefused)
    rw [hleft]
    exact ⟨holds_summaryBegun, ⟨_, summary_healthyInName⟩, rfl⟩
  · have hholds : Holds halfSaidInFile ⟨"", ["r.json"]⟩ halfSaid := loadReport_eq_ok_iff.1 (by decide +kernel)
    obtain ⟨files', hleft, hread, _⟩ := (isPublished_left halfSaidInFile _ (.file ⟨"", ["s.md"]⟩)).appended halfSaid _
      nothingScored _ hholds summary_halfSaid (RawText.string?_ofString _) rfl (admits_beside (by decide))
    have hnew : halfSaidInFile.contentAt (Files.target ⟨"", ["s.md"]⟩) = [] := by decide +kernel
    have houtput : (printed halfSaid).output = "::warning title=Warning::one\n" := by decide +kernel
    have hending : (printed halfSaid).ending = .fault (.printing ⟨0xD800, 25, 1⟩) := by decide +kernel
    rw [hleft, hread, hnew, ← houtput, ← hending]
    exact ⟨hholds, by decide +kernel, by decide +kernel, rfl, rfl⟩

end Publish

end ManifestGrading
