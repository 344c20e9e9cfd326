import Mathlib.Algebra.GroupWithZero.Nat
import ManifestGrading.Proofs.Publish.Spelling
import ManifestGrading.Proofs.Value.Equality

/-! Summaries of reports in which the best grade is spelled in another way than it is listed. The title of a grade, the
numbers by grade and the annotations take every spelling of a name for the name. Whether something is listed as
failing is decided by a comparison with the one spelling, so that a resource or a check with the best grade in another
one is listed. The summary is that of the report in the spelling of the list if, and only if, nothing of the kind
comes into it. -/

namespace ManifestGrading

theorem RawText.length_intercalate (between text : RawText) (texts : List RawText) :
    (intercalate between (text :: texts)).points.length + between.points.length =
      ((text :: texts).map fun t => t.points.length + between.points.length).sum := by
  induction texts generalizing text with
  | nil => simp [intercalate]
  | cons next rest ih =>
      have hrest := ih next
      have hstep : (intercalate between (text :: next :: rest)).points =
          text.points ++ between.points ++ (intercalate between (next :: rest)).points := List.intercalate_cons_cons
      rw [hstep, List.length_append, List.length_append, List.map_cons, List.sum_cons]
      omega

namespace Publish

/-! ### Lists of identifiers -/

/-- The room that identifiers take behind a line, but for the dash. -/
def room (ids : List RawText) : Nat := (ids.map fun t => t.points.length + 2).sum

theorem room_of_sublist {ids' ids : List RawText} (h : ids'.Sublist ids) :
    room ids' + 2 * ids.length ≤ room ids + 2 * ids'.length := by
  induction h with
  | slnil => exact Nat.le_refl _
  | cons id _ ih =>
      simp only [room, List.map_cons, List.sum_cons, List.length_cons] at ih ⊢
      omega
  | cons_cons id _ ih =>
      simp only [room, List.map_cons, List.sum_cons, List.length_cons] at ih ⊢
      omega

theorem length_withIds (line : RawText) (ids : List RawText) :
    (withIds line ids).points.length = line.points.length + room ids + if ids = [] then 0 else 1 := by
  cases ids with
  | nil => rfl
  | cons id rest =>
      have hroom := RawText.length_intercalate (RawText.ofString ", ") id rest
      have hparts : (withIds line (id :: rest)).points.length =
          line.points.length + 3 + (RawText.intercalate (RawText.ofString ", ") (id :: rest)).points.length := by
        rw [withIds, if_neg (by simp), RawText.points_append, RawText.points_append, List.length_append,
          List.length_append]
        rfl
      have htwo : (RawText.ofString ", ").points.length = 2 := rfl
      rw [htwo] at hroom
      rw [hparts, if_neg (List.cons_ne_nil id rest), room]
      omega

/-- Identifiers behind a line can be told from fewer of them. -/
theorem withIds_eq_iff {ids' ids : List RawText} (h : ids'.Sublist ids) (line : RawText) :
    withIds line ids = withIds line ids' ↔ ids' = ids := by
  refine ⟨fun heq => h.eq_of_length_le ?_, fun heq => heq ▸ rfl⟩
  have hlength := congrArg (fun t => t.points.length) heq
  have hroom := room_of_sublist h
  simp only [length_withIds] at hlength
  by_cases hnone : ids' = []
  · subst hnone
    by_cases hids : ids = []
    · simp [hids]
    · simp only [hids, if_false, if_true] at hlength
      simp only [room, List.map_nil, List.sum_nil, List.length_nil] at hlength hroom
      omega
  · have hids : ids ≠ [] := fun hids => hnone (List.sublist_nil.1 (hids ▸ h))
    simp only [hnone, hids, if_false] at hlength
    omega

/-! ### What is taken for failing -/

/-- Whether the entry for a resource or a check has the best grade in another spelling than the listed one. -/
def isMisspelled (entry : Value) : Bool :=
  ((entry.held? "grade").bind Value.text?).any fun t => gradeNamed? t = some .allOk ∧ t ≠ Grade.allOk.name

theorem isFailing_of_isMisspelled {entry : Value} (h : isMisspelled entry = true) : isFailing entry = .ok true := by
  obtain ⟨t, ht, hspelling⟩ := (Option.any_eq_true _ _).1 h
  obtain ⟨x, hx, htext⟩ := Option.bind_eq_some_iff.1 ht
  cases entry with
  | map entries =>
      cases x with
      | text s =>
          obtain rfl : s = t := Option.some.inj htext
          have hne : (Value.text s).isText Grade.allOk.name = false := decide_eq_false (of_decide_eq_true hspelling).2
          have hget : Entries.get? "grade" entries = some (.text s) := hx
          rw [isFailing, Value.field_map, Entries.get, hget, Option.getD_some, Attempt.ok_map, hne]
          rfl
      | _ => cases htext
  | _ => cases hx

/-- In the spelling of the list an entry is taken for failing only if it does not have the best grade. -/
theorem isFailing_under_nameOf (entry : Value) :
    isFailing (entry.under "grade" (·.onText nameOf)) = (isFailing entry).map (· && !isMisspelled entry) := by
  cases entry with
  | map entries =>
      simp only [isFailing, Value.under, Value.field_map, Entries.get, Entries.get?_changed, isMisspelled, Value.held?]
      cases Entries.get? "grade" entries with
      | none => rfl
      | some x =>
          cases x with
          | text t =>
              have hself : t = RawText.ofString Grade.allOk.name → gradeNamed? t = some .allOk := by
                rintro rfl
                exact gradeNamed?_name .allOk
              simp only [Option.map_some, if_pos, Option.getD_some, Attempt.ok_map, Value.onText, Option.bind_some,
                Value.text?, Option.any_some, Value.isText, nameOf_eq_allOk_iff]
              by_cases hgrade : gradeNamed? t = some .allOk
              · by_cases hlisted : t = RawText.ofString Grade.allOk.name <;> simp [hgrade, hlisted]
              · simp [hgrade, mt hself hgrade]
          | _ => rfl
  | _ =>
      have hleft (x : Except Value.Fault Bool) : x = x.map (· && !false) := by cases x <;> simp [Except.map]
      exact hleft _

theorem isMisspelled_under_checks (g : Value → Value) (resource : Value) :
    isMisspelled (resource.under "checks" g) = isMisspelled resource := by
  rw [isMisspelled, held?_under_of_ne (by decide), isMisspelled]

theorem isFailing_respellResource (resource : Value) :
    isFailing (respellResource nameOf resource) = (isFailing resource).map (· && !isMisspelled resource) := by
  rw [respellResource, isFailing_under_nameOf, isMisspelled_under_checks, isFailing, field_under_of_ne (by decide),
    ← isFailing]

/-- In the spelling of the list the resources whose best grade is misspelled are no longer among the failing ones. -/
theorem failingAmong_respelled {resources failing failing' : List Value} (h : failingAmong resources = .ok failing)
    (h' : failingAmong (resources.map (respellResource nameOf)) = .ok failing') :
    failing' = (failing.filter fun r => !isMisspelled r).map (respellResource nameOf) := by
  rw [failingAmong_eq_filter h', failingAmong_eq_filter h, List.filter_map, List.filter_filter]
  refine congrArg _ (List.filter_congr fun r _ => ?_)
  rw [Function.comp_apply, fails, isFailing_respellResource, fails]
  cases isFailing r with
  | error fault => exact (Bool.and_false _).symm
  | ok b => exact Bool.and_comm ..

/-! ### The lines for resources -/

/-- What stands behind the lines for the first failing resources. -/
def moreLines (n : Nat) : List RawText :=
  if n - listLimit = 0 then [] else [RawText.ofString ("- ...and " ++ toString (n - listLimit) ++ " more resources.")]

theorem resourceLines_ok {failing : List Value} {listed : List RawText} (h : resourceLines failing = .ok listed) :
    ∃ lines, (failing.take listLimit).mapM resourceLine = .ok lines ∧
      listed = if failing = [] then [] else headLines "Resources" ++ lines ++ moreLines failing.length := by
  rw [resourceLines] at h
  cases failing with
  | nil => exact ⟨[], rfl, (Except.ok.inj h).symm⟩
  | cons r rest =>
      obtain ⟨lines, hlines, h⟩ := Attempt.bind_ok_iff.1 h
      exact ⟨lines, hlines, (Except.ok.inj h).symm⟩

theorem length_moreLines (n : Nat) : (moreLines n).length = if n ≤ listLimit then 0 else 1 := by
  unfold moreLines
  by_cases h : n ≤ listLimit
  · rw [if_pos (by omega), if_pos h, List.length_nil]
  · rw [if_neg (by omega), if_neg h, List.length_singleton]

theorem moreLines_injective {m n : Nat} (hm : listLimit < m) (hn : listLimit < n) (h : moreLines m = moreLines n) :
    m = n := by
  rw [moreLines, moreLines, if_neg (by omega), if_neg (by omega), List.cons.injEq] at h
  have htext := RawText.ofString_injective h.1
  rw [String.append_left_inj, String.append_right_inj] at htext
  have hdigits := congrArg (fun text : String => Nat.ofDigitChars 10 text.toList 0) htext
  simp only [Nat.toString_eq_ofList_toDigits, String.toList_ofList, Nat.ofDigitChars_ten_toDigits] at hdigits
  omega

/-- The lines tell how many resources are failing. -/
theorem length_eq_of_resourceLines {failing failing' : List Value} {listed : List RawText}
    (h : resourceLines failing = .ok listed) (h' : resourceLines failing' = .ok listed) :
    failing.length = failing'.length := by
  obtain ⟨lines, hlines, hlisted⟩ := resourceLines_ok h
  obtain ⟨lines', hlines', hlisted'⟩ := resourceLines_ok h'
  have hlength := Attempt.length_of_mapM_ok hlines
  have hlength' := Attempt.length_of_mapM_ok hlines'
  rw [List.length_take] at hlength hlength'
  rw [hlisted] at hlisted'
  by_cases hnil : failing = []
  · by_cases hnil' : failing' = []
    · rw [hnil, hnil']
    · rw [if_pos hnil, if_neg hnil'] at hlisted'
      cases hlisted'
  · by_cases hnil' : failing' = []
    · rw [if_neg hnil, if_pos hnil'] at hlisted'
      cases hlisted'
    · rw [if_neg hnil, if_neg hnil', List.append_assoc, List.append_assoc] at hlisted'
      have hbody := List.append_cancel_left hlisted'
      have hsize := congrArg List.length hbody
      rw [List.length_append, List.length_append, length_moreLines, length_moreLines, hlength, hlength'] at hsize
      by_cases hlong : listLimit < failing.length ∧ listLimit < failing'.length
      · -- as many lines stand in front, so the last lines are the same
        have hmore := (List.append_inj hbody (by omega)).2
        exact moreLines_injective hlong.1 hlong.2 hmore
      · split at hsize <;> split at hsize <;> omega

/-! ### What is listed although it is healthy -/

/-- A check with the best grade whose identifier is listed all the same, since the grade is misspelled. -/
def IsListedCheck (check : Value) : Prop :=
  isMisspelled check = true ∧ (check.field "id").toOption.any Value.isTruthy = true

instance : DecidablePred IsListedCheck := fun _ => inferInstanceAs (Decidable (_ ∧ _))

theorem isFailing_respellCheck {check : Value} (h : ¬IsListedCheck check) :
    ∀ id, check.field "id" = .ok id →
      (isFailing (respellCheck nameOf check)).map (· && id.isTruthy) = (isFailing check).map (· && id.isTruthy) := by
  intro id hid
  rw [respellCheck, isFailing_under_nameOf]
  have hclash : isMisspelled check = true → id.isTruthy = false := by
    intro hmisspelled
    exact Bool.eq_false_iff.2 fun htruthy => h ⟨hmisspelled, by rwa [hid]⟩
  cases hmisspelled : isMisspelled check with
  | true => cases isFailing check <;> simp [hclash hmisspelled, Except.map]
  | false => cases isFailing check <;> simp [Except.map]

/-- The identifiers that are listed in the spelling of the list are some of them, and fewer if one of a healthy check
is listed. -/
theorem failingIds_respelled {checks : List Value} {ids : List RawText} (h : failingIds checks = .ok ids) :
    ∃ ids', failingIds (checks.map (respellCheck nameOf)) = .ok ids' ∧ ids'.Sublist ids ∧
      (ids' = ids → ∀ check ∈ checks, ¬IsListedCheck check) := by
  induction checks generalizing ids with
  | nil =>
      obtain rfl := Except.ok.inj h
      exact ⟨[], rfl, List.Sublist.refl [], fun _ => nofun⟩
  | cons check rest ih =>
      rw [failingIds_cons] at h
      obtain ⟨id, hid, h⟩ := Attempt.bind_ok_iff.1 h
      obtain ⟨listed, hlisted, h⟩ := Attempt.bind_ok_iff.1 h
      rw [List.map_cons, failingIds_cons, field_id_respellCheck, hid, Attempt.ok_bind]
      by_cases hcheck : IsListedCheck check
      · -- the identifier of the check is listed, and is not in the spelling of the list
        obtain ⟨hmisspelled, hgiven⟩ := hcheck
        have htruthy : id.isTruthy = true := by rwa [hid] at hgiven
        rw [isFailing_of_isMisspelled hmisspelled, Attempt.ok_map, htruthy] at hlisted
        obtain rfl := Except.ok.inj hlisted
        obtain ⟨shown, _, h⟩ := Attempt.bind_ok_iff.1 h
        obtain ⟨more, hmore, h⟩ := Attempt.bind_ok_iff.1 h
        obtain rfl := Except.ok.inj h
        obtain ⟨ids', hids', hsublist, _⟩ := ih hmore
        refine ⟨ids', ?_, hsublist.cons shown, fun heq => ?_⟩
        · rw [respellCheck, isFailing_under_nameOf, isFailing_of_isMisspelled hmisspelled, hmisspelled]
          exact hids'
        · have hlength := hsublist.length_le
          rw [heq, List.length_cons] at hlength
          omega
      · rw [isFailing_respellCheck hcheck id hid, hlisted, Attempt.ok_bind]
        cases listed with
        | false =>
            obtain ⟨ids', hids', hsublist, hall⟩ := ih h
            exact ⟨ids', hids', hsublist, fun heq => List.forall_mem_cons.2 ⟨hcheck, hall heq⟩⟩
        | true =>
            obtain ⟨shown, hshown, h⟩ := Attempt.bind_ok_iff.1 h
            obtain ⟨more, hmore, h⟩ := Attempt.bind_ok_iff.1 h
            obtain rfl := Except.ok.inj h
            obtain ⟨ids', hids', hsublist, hall⟩ := ih hmore
            refine ⟨shown :: ids', ?_, hsublist.cons_cons shown, fun heq => ?_⟩
            · rw [if_pos rfl, hshown, Attempt.ok_bind, hids']
              rfl
            · exact List.forall_mem_cons.2 ⟨hcheck, hall (List.cons.inj heq).2⟩

theorem resourceLine_respelled {resource : Value} (h : ∀ check ∈ resource.heldItems "checks", ¬IsListedCheck check) :
    resourceLine (respellResource nameOf resource) = resourceLine resource := by
  rw [resourceLine_eq, lineStart_respellResource keepsNames_nameOf,
    checkIds_respellResource fun check hcheck => isFailing_respellCheck (h check hcheck), resourceLine_eq]

/-- The line for a resource with a healthy check that is listed is another one in the spelling of the list. -/
theorem not_isListedCheck_of_resourceLine {resource : Value} {line : RawText} (h : resourceLine resource = .ok line)
    (h' : resourceLine (respellResource nameOf resource) = .ok line) :
    ∀ check ∈ resource.heldItems "checks", ¬IsListedCheck check := by
  rw [resourceLine_eq] at h h'
  obtain ⟨start, hstart, h⟩ := Attempt.bind_ok_iff.1 h
  obtain ⟨ids, hids, h⟩ := Attempt.bind_ok_iff.1 h
  obtain rfl := Except.ok.inj h
  rw [lineStart_respellResource keepsNames_nameOf, hstart, Attempt.ok_bind] at h'
  rw [checkIds] at hids h'
  rcases itemsOf_checks_respellResource (h := nameOf) resource with ⟨_, hnone⟩ | ⟨hchecks, hmapped⟩
  · rw [hnone]
    intro check hcheck
    cases hcheck
  · rw [hchecks, Attempt.ok_bind] at hids
    obtain ⟨ids', hids', hsublist, hall⟩ := failingIds_respelled hids
    rw [hmapped, Attempt.ok_bind, hids', Attempt.ok_bind] at h'
    exact hall ((withIds_eq_iff hsublist start).1 (Except.ok.inj h').symm)

/-- Whether something with the best grade is listed as failing: a resource, wherever it stands, or a check of one of the
failing resources that have a line. -/
def ListsHealthy (report : Value) : Prop :=
  (∃ resource ∈ report.heldItems "resources", isMisspelled resource = true) ∨
    ∃ resource ∈ ((report.heldItems "resources").filter fails).take listLimit,
      ∃ check ∈ resource.heldItems "checks", IsListedCheck check

instance : DecidablePred ListsHealthy := fun _ => inferInstanceAs (Decidable (_ ∨ _))

theorem not_listsHealthy_iff {report : Value} :
    ¬ListsHealthy report ↔ (∀ resource ∈ report.heldItems "resources", isMisspelled resource = false) ∧
      ∀ resource ∈ ((report.heldItems "resources").filter fails).take listLimit,
        ∀ check ∈ resource.heldItems "checks", ¬IsListedCheck check := by
  simp [ListsHealthy]

theorem isFailing_respellResource_of_not {resource : Value} (h : isMisspelled resource = false) :
    isFailing (respellResource nameOf resource) = isFailing resource := by
  rw [isFailing_respellResource, h]
  cases isFailing resource <;> simp [Except.map]

/-- A summary that lists nothing healthy is that of the report in the spelling of the list. -/
theorem summaryLines_respelled_nameOf {report : Value} (h : ¬ListsHealthy report) :
    summaryLines (respelled nameOf nameOf report) = summaryLines report := by
  obtain ⟨hresources, hchecks⟩ := not_listsHealthy_iff.1 h
  refine summaryLines_respelled_of_listedLines keepsNames_nameOf (listedLines_map ?_ ?_)
  · exact fun resource hresource => isFailing_respellResource_of_not (hresources resource hresource)
  · exact fun resource hresource => resourceLine_respelled (hchecks resource hresource)

/-- Resources whose lines are those of the same resources in the spelling of the list have no misspelled name of the
best grade that comes into them. -/
theorem spelled_of_listedLines {resources : List Value} {listed : List RawText} (h : listedLines resources = .ok listed)
    (h' : listedLines (resources.map (respellResource nameOf)) = .ok listed) :
    (∀ resource ∈ resources, isMisspelled resource = false) ∧
      ∀ resource ∈ (resources.filter fails).take listLimit,
        ∀ check ∈ resource.heldItems "checks", ¬IsListedCheck check := by
  obtain ⟨failing, hfailing, h⟩ := Attempt.bind_ok_iff.1 h
  obtain ⟨failing', hfailing', h'⟩ := Attempt.bind_ok_iff.1 h'
  have hfails := failingAmong_eq_filter hfailing
  have hspelled : ∀ resource ∈ resources, isMisspelled resource = false := by
    -- the lines are as many, so that no failing resource is left out in the spelling of the list
    have hlength := length_eq_of_resourceLines h h'
    rw [failingAmong_respelled hfailing hfailing', List.length_map] at hlength
    have hkept := List.length_filter_eq_length_iff.1 hlength.symm
    intro resource hresource
    cases hmisspelled : isMisspelled resource with
    | false => rfl
    | true =>
        have hin : resource ∈ failing := by
          rw [hfails, List.mem_filter, fails, isFailing_of_isMisspelled hmisspelled]
          exact ⟨hresource, rfl⟩
        have hgood := hkept resource hin
        rw [hmisspelled] at hgood
        cases hgood
  refine ⟨hspelled, ?_⟩
  have hall : failing' = failing.map (respellResource nameOf) := by
    have hmapped := failingAmong_map_of_isFailing fun resource hresource =>
      isFailing_respellResource_of_not (hspelled resource hresource)
    rw [hfailing', hfailing] at hmapped
    exact Except.ok.inj hmapped
  rw [← hfails]
  obtain ⟨lines, hlines, hlisted⟩ := resourceLines_ok h
  obtain ⟨lines', hlines', hlisted'⟩ := resourceLines_ok h'
  rw [hall, ← List.map_take, List.mapM_map] at hlines'
  by_cases hnil : failing = []
  · rw [hnil]
    intro resource hresource
    cases hresource
  · have hsame : lines = lines' := by
      rw [hlisted, hall, if_neg hnil, if_neg (mt List.map_eq_nil_iff.1 hnil), List.length_map, List.append_left_inj,
        List.append_right_inj] at hlisted'
      exact hlisted'
    subst hsame
    intro resource hresource
    obtain ⟨line, _, hline⟩ := Attempt.exists_of_mapM_ok hlines hresource
    exact not_isListedCheck_of_resourceLine hline
      ((Attempt.eq_of_mapM_eq_ok hlines hlines' resource hresource).symm.trans hline)

theorem not_listsHealthy_of_summaryLines {report : Value} {lines : List RawText} (h : summaryLines report = .ok lines)
    (h' : summaryLines (respelled nameOf nameOf report) = .ok lines) : ¬ListsHealthy report := by
  rw [summaryLines_eq] at h h'
  rw [upperLines_respelled keepsNames_nameOf] at h'
  obtain ⟨upper, hupper, h⟩ := Attempt.bind_ok_iff.1 h
  obtain ⟨resources, hresources, h⟩ := Attempt.bind_ok_iff.1 h
  obtain ⟨listed, hlisted, h⟩ := Attempt.bind_ok_iff.1 h
  rw [hupper, Attempt.ok_bind] at h'
  obtain ⟨resources', hresources', h'⟩ := Attempt.bind_ok_iff.1 h'
  obtain ⟨listed', hlisted', h'⟩ := Attempt.bind_ok_iff.1 h'
  have hsame : listed = listed' := by
    have hlines : upper ++ listed ++ [RawText.ofString ""] = upper ++ listed' ++ [RawText.ofString ""] :=
      Except.ok.inj (h.trans h'.symm)
    rwa [List.append_left_inj, List.append_right_inj] at hlines
  subst hsame
  rw [not_listsHealthy_iff]
  rcases itemsOf_resources_respelled (f := nameOf) (h := nameOf) report with ⟨_, hnone⟩ | ⟨hheld, hmapped⟩
  · rw [hnone]
    exact ⟨nofun, nofun⟩
  · obtain rfl := Except.ok.inj (hheld.symm.trans hresources)
    obtain rfl := Except.ok.inj (hmapped.symm.trans hresources')
    exact spelled_of_listedLines hlisted hlisted'

theorem annotation_eq_none {ref : RawText} {check : Value} {t : RawText}
    (h : fieldOr "grade" (.text "") check = .ok (.text t)) (hgrade : gradeNamed? t = some .allOk) :
    annotation ref check = .ok none := by
  unfold annotation
  rw [h, Attempt.ok_bind, Value.display_text, Attempt.ok_bind, hgrade]
  rfl

/-- The annotations of a report are the same for all spellings of the names of grades, which may differ in the case of
letters, and nothing with the best grade has one. The summary is the same as well for all spellings that leave which
names of the best grade are spelled as it is listed, and for all that list nothing healthy; it is the summary of the
report in the spelling of the list if, and only if, it lists nothing healthy. -/
theorem same_up_to_spelling_iff (report : Value) :
    (∀ s t : String, s.toLower = t.toLower → gradeNamed? (RawText.ofString s) = gradeNamed? (RawText.ofString t)) ∧
    (∀ report', respelled nameOf nameOf report' = respelled nameOf nameOf report →
      annotations report' = annotations report ∧
        (¬ListsHealthy report → ¬ListsHealthy report' → summary report' = summary report)) ∧
    (∀ ref check t, fieldOr "grade" (.text "") check = .ok (.text t) → gradeNamed? t = some .allOk →
      annotation ref check = .ok none) ∧
    (∀ report', respelled nameOf markOf report' = respelled nameOf markOf report → summary report' = summary report) ∧
    ∀ lines, summaryLines report = .ok lines →
      (summaryLines (respelled nameOf nameOf report) = .ok lines ↔ ¬ListsHealthy report) := by
  refine ⟨fun s t => gradeNamed?_eq_of_toLower_eq, fun report' h => ⟨?_, fun hlists hlists' => ?_⟩,
    fun ref check t => annotation_eq_none, fun report' h => ?_,
    fun lines hlines => ⟨not_listsHealthy_of_summaryLines hlines, fun hlists => ?_⟩⟩
  · rw [← annotations_respelled keepsNames_nameOf nameOf report', h, annotations_respelled keepsNames_nameOf]
  · rw [summary, ← summaryLines_respelled_nameOf hlists', h, summaryLines_respelled_nameOf hlists, summary]
  · have hsame (v : Value) : summaryLines (respelled nameOf markOf v) = summaryLines v :=
      summaryLines_respelled keepsNames_nameOf keepsNames_markOf (fun t => markOf_eq_allOk_iff) v
    rw [summary, ← hsame report', h, hsame, summary]
  · rw [summaryLines_respelled_nameOf hlists, hlines]

/-- The entry for a check with a grade in some spelling. -/
def spelledCheck (grade : String) : Value := Report.named [("id", .text "labels"), ("grade", .text grade)]

/-- A report on two resources, with the grades of one of them and of a check of the other one in some spelling. -/
def spelledReport (resource check : String) : Value :=
  Report.named [
    ("summary", Report.named [("total_resources", Report.number 2), ("lowest_grade", .text "Critical"),
      ("counts", Report.named [("all_ok", Report.number 1), ("CRITICAL", Report.number 1)])]),
    ("resources", .list [
      Report.named [("ref", .text "web v1/Pod"), ("grade", .text resource), ("checks", .list [])],
      Report.named [("ref", .text "api v1/Pod"), ("grade", .text "critical"), ("checks", .list [spelledCheck check])]])]

theorem same_up_to_spelling_iff_webAndApi :
    let mixed := spelledReport "all_ok" "All_Ok"
    let plain := spelledReport "ALL_OK" "ALL_OK"
    gradeNamed? (RawText.ofString "All_Ok") = gradeNamed? (RawText.ofString "ALL_OK") ∧
      annotation "api v1/Pod" (spelledCheck "All_Ok") = .ok none ∧
      respelled nameOf nameOf mixed = respelled nameOf nameOf plain ∧ annotations mixed = annotations plain ∧
      summary (spelledReport "All_OK" "aLL_OK") = summary mixed ∧
      ¬ListsHealthy plain ∧ summary (respelled nameOf nameOf mixed) = summary plain ∧ ListsHealthy mixed ∧
      (summaryLines mixed).toOption.map (fun lines => (lines.drop 12).map RawText.shown) =
        some ["## Resources", "", "- **OK** `web v1/Pod`", "- **Critical** `api v1/Pod` - labels", ""] ∧
      summaryLines (respelled nameOf nameOf mixed) ≠ summaryLines mixed := by
  intro mixed plain
  obtain ⟨hletters, hspelled, hnone, _, _⟩ := same_up_to_spelling_iff plain
  obtain ⟨_, _, _, hmarked, hlines⟩ := same_up_to_spelling_iff mixed
  have hcase : "All_Ok".toLower = "ALL_OK".toLower := by
    rw [← String.toList_inj, Text.toList_toLower, Text.toList_toLower]
    decide
  have hread : fieldOr "grade" (.text "") (spelledCheck "All_Ok") = .ok (.text "All_Ok") := by simp [spelledCheck]
  have hbest : gradeNamed? (RawText.ofString "All_Ok") = some .allOk := by decide +kernel
  have hnames : respelled nameOf nameOf mixed = respelled nameOf nameOf plain := by decide +kernel
  have hagain : respelled nameOf nameOf (respelled nameOf nameOf mixed) = respelled nameOf nameOf plain := by
    decide +kernel
  have hmarks : respelled nameOf markOf (spelledReport "All_OK" "aLL_OK") = respelled nameOf markOf mixed := by
    decide +kernel
  have hlists : ListsHealthy mixed := by decide +kernel
  have hplain : ¬ListsHealthy plain := by decide +kernel
  have hnormal : ¬ListsHealthy (respelled nameOf nameOf mixed) := by decide +kernel
  have hshown : (summaryLines mixed).toOption.map (fun lines => (lines.drop 12).map RawText.shown) =
      some ["## Resources", "", "- **OK** `web v1/Pod`", "- **Critical** `api v1/Pod` - labels", ""] := by
    decide +kernel
  refine ⟨hletters "All_Ok" "ALL_OK" hcase, hnone "api v1/Pod" (spelledCheck "All_Ok") _ hread hbest, hnames,
    (hspelled mixed hnames).1, hmarked _ hmarks, hplain, (hspelled _ hagain).2 hplain hnormal, hlists, hshown,
    fun heq => ?_⟩
  cases hmixed : summaryLines mixed with
  | error fault =>
      rw [hmixed] at hshown
      cases hshown
  | ok lines => exact (hlines lines hmixed).1 (heq.trans hmixed) hlists

end Publish

end ManifestGrading
