import ManifestGrading.Proofs.Publish.Message
import ManifestGrading.Proofs.Scorecard.History
import ManifestGrading.Proofs.Text.Quoting
import ManifestGrading.Proofs.Text.Trimming
import ManifestGrading.Report.Human

/-! Resources are told apart by the texts they are called by. The parts of an identity stand behind one another without
any escapes, and the version may hold the very slash that separates them. Yet if the other parts have none, a key can be
taken apart from both its ends: the kind is before the first slash, and namespace and name are behind the last two. A
reference is taken apart at its first space and its last slash; whether it names a namespace shows in a slash before
the space.

So two records of a scorecard differ in the key that stands for them in messages, and in the reference by which the
report and its human form call them. Annotations do not show all of a reference: the blanks at its ends and its carriage
returns are left out, and two references are shown alike exactly if they differ in nothing else. -/

namespace ManifestGrading

namespace Text

variable {α : Type} {c : α} {front front' behind behind' : List α}

/-- Texts with a separator in them are equal in the parts before the first one and behind it. -/
theorem eq_of_first_separator (h : front ++ c :: behind = front' ++ c :: behind') (hfront : c ∉ front)
    (hfront' : c ∉ front') : front = front' ∧ behind = behind' := by
  induction front generalizing front' with
  | nil =>
      cases front' with
      | nil => exact ⟨rfl, (List.cons.inj h).2⟩
      | cons d rest =>
          obtain ⟨rfl, _⟩ := List.cons.inj h
          exact absurd List.mem_cons_self hfront'
  | cons d rest ih =>
      cases front' with
      | nil =>
          obtain ⟨rfl, _⟩ := List.cons.inj h
          exact absurd List.mem_cons_self hfront
      | cons e rest' =>
          obtain ⟨rfl, hrest⟩ := List.cons.inj h
          obtain ⟨rfl, hbehind⟩ := ih hrest (mt (List.mem_cons_of_mem d) hfront) (mt (List.mem_cons_of_mem d) hfront')
          exact ⟨rfl, hbehind⟩

/-- Texts with a separator in them are equal in the parts before the last one and behind it. -/
theorem eq_of_last_separator (h : front ++ c :: behind = front' ++ c :: behind') (hbehind : c ∉ behind)
    (hbehind' : c ∉ behind') : front = front' ∧ behind = behind' := by
  have hreverse : behind.reverse ++ c :: front.reverse = behind'.reverse ++ c :: front'.reverse := by
    simpa using congrArg List.reverse h
  obtain ⟨hlast, hrest⟩ := eq_of_first_separator hreverse (by simpa using hbehind) (by simpa using hbehind')
  exact ⟨List.reverse_injective hrest, List.reverse_injective hlast⟩

end Text

namespace Identity

/-- An identity with no slash in its kind, its namespace and its name. -/
@[mk_iff] structure IsSlashless (i : Identity) : Prop where
  kind : CodePoint.char '/' ∉ i.kind.points
  space : CodePoint.char '/' ∉ i.space.points
  name : CodePoint.char '/' ∉ i.name.points

/-- An identity with no slash in these, and no space in its namespace and its name. -/
@[mk_iff] structure IsUnspaced (i : Identity) : Prop extends i.IsSlashless where
  unspacedSpace : CodePoint.char ' ' ∉ i.space.points
  unspacedName : CodePoint.char ' ' ∉ i.name.points

instance (i : Identity) : Decidable i.IsSlashless := decidable_of_iff' _ (isSlashless_iff i)

instance (i : Identity) : Decidable i.IsUnspaced := decidable_of_iff' _ (isUnspaced_iff i)

variable {i j : Identity}

theorem eq_of_parts (hkind : i.kind.points = j.kind.points) (hversion : i.apiVersion.points = j.apiVersion.points)
    (hspace : i.space.points = j.space.points) (hname : i.name.points = j.name.points) : i = j := by
  obtain ⟨kind, apiVersion, space, name⟩ := i
  obtain ⟨kind', apiVersion', space', name'⟩ := j
  obtain rfl : kind = kind' := RawText.ext hkind
  obtain rfl : apiVersion = apiVersion' := RawText.ext hversion
  obtain rfl : space = space' := RawText.ext hspace
  obtain rfl : name = name' := RawText.ext hname
  rfl

/-! ### Keys -/

theorem points_key (i : Identity) :
    i.key.points = i.kind.points ++ .char '/' ::
      (i.apiVersion.points ++ .char '/' :: i.space.points ++ .char '/' :: i.name.points) := by
  simp [key, parts, RawText.intercalate_cons_cons]

theorem eq_of_key_eq (hi : i.IsSlashless) (hj : j.IsSlashless) (h : i.key = j.key) : i = j := by
  have htext := congrArg RawText.points h
  rw [points_key, points_key] at htext
  obtain ⟨hkind, hbehind⟩ := Text.eq_of_first_separator htext hi.kind hj.kind
  -- the version may have slashes in it, so the other two parts are found from the end
  obtain ⟨hfront, hname⟩ := Text.eq_of_last_separator hbehind hi.name hj.name
  obtain ⟨hversion, hspace⟩ := Text.eq_of_last_separator hfront hi.space hj.space
  exact eq_of_parts hkind hversion hspace hname

/-! ### References -/

/-- What a reference begins with: the name, and the namespace if there is one. -/
def place (i : Identity) : RawText := if i.space = "" then i.name else i.name ++ RawText.ofString "/" ++ i.space

theorem points_ref (i : Identity) :
    i.ref.points = i.place.points ++ .char ' ' :: (i.apiVersion.points ++ .char '/' :: i.kind.points) := by
  simp [ref, place]

theorem points_place_of_space (h : i.space ≠ "") : i.place.points = i.name.points ++ .char '/' :: i.space.points := by
  simp [place, h]

/-- A namespace shows in a slash before the first space. -/
theorem slash_mem_place_iff (h : i.IsSlashless) : CodePoint.char '/' ∈ i.place.points ↔ i.space ≠ "" := by
  by_cases hspace : i.space = ""
  · simp [place, hspace, h.name]
  · simp [points_place_of_space hspace, hspace]

theorem space_not_mem_place (h : i.IsUnspaced) : CodePoint.char ' ' ∉ i.place.points := by
  by_cases hspace : i.space = ""
  · simp [place, hspace, h.unspacedName]
  · simp [points_place_of_space hspace, h.unspacedName, h.unspacedSpace]

theorem eq_of_place_eq (hi : i.IsSlashless) (hj : j.IsSlashless) (h : i.place = j.place) :
    i.name.points = j.name.points ∧ i.space.points = j.space.points := by
  have hslash : i.space ≠ "" ↔ j.space ≠ "" := by rw [← slash_mem_place_iff hi, h, slash_mem_place_iff hj]
  by_cases hspace : i.space = RawText.ofString ""
  · have hspace' : j.space = RawText.ofString "" := not_not.1 (mt hslash.2 (not_not.2 hspace))
    simp only [place, hspace, hspace', if_true] at h
    exact ⟨congrArg RawText.points h, by rw [hspace, hspace']⟩
  · have htext := congrArg RawText.points h
    rw [points_place_of_space hspace, points_place_of_space (hslash.1 hspace)] at htext
    exact Text.eq_of_first_separator htext hi.name hj.name

theorem eq_of_ref_eq (hi : i.IsUnspaced) (hj : j.IsUnspaced) (h : i.ref = j.ref) : i = j := by
  have htext := congrArg RawText.points h
  rw [points_ref, points_ref] at htext
  obtain ⟨hplace, hbehind⟩ := Text.eq_of_first_separator htext (space_not_mem_place hi) (space_not_mem_place hj)
  obtain ⟨hversion, hkind⟩ := Text.eq_of_last_separator hbehind hi.kind hj.kind
  obtain ⟨hname, hspace⟩ := eq_of_place_eq hi.toIsSlashless hj.toIsSlashless (RawText.ext hplace)
  exact eq_of_parts hkind hversion hspace hname

/-! ### References without blanks at their ends -/

/-- An identity whose reference has no blank at its ends and no carriage return in it. -/
@[mk_iff] structure IsTidy (i : Identity) : Prop where
  named : i.name ≠ "" ∨ i.space ≠ ""
  front : i.name.points.head?.any RawText.isBlank = false
  back : i.kind.points.getLast?.any RawText.isBlank = false
  returns : ∀ part ∈ i.parts, .char '\r' ∉ part.points

instance (i : Identity) : Decidable i.IsTidy := decidable_of_iff' _ (isTidy_iff i)

/-- A reference has a slash in it, so only what is before the slash is trimmed at its front, and only the kind at its
end. -/
theorem trim_ref_eq (i : Identity) :
    i.ref.trim = ⟨RawText.trimStart (i.place.points ++ .char ' ' :: i.apiVersion.points) ++
      .char '/' :: RawText.trimEnd i.kind.points⟩ := by
  have hparts : i.ref = ⟨(i.place.points ++ .char ' ' :: i.apiVersion.points) ++ .char '/' :: i.kind.points⟩ := by
    refine RawText.ext ?_
    rw [points_ref, List.append_assoc, List.cons_append]
  rw [hparts, RawText.trim_append_cons (by decide)]

theorem trim_ref_ne_empty (i : Identity) : i.ref.trim ≠ "" := by
  rw [trim_ref_eq]
  intro h
  simpa using congrArg RawText.points h

theorem IsTidy.head_place (h : i.IsTidy) : ∃ p rest, i.place.points = p :: rest ∧ RawText.isBlank p = false := by
  cases hname : i.name.points with
  | cons p rest =>
      refine ⟨p, rest ++ (if i.space = "" then [] else .char '/' :: i.space.points), ?_, by simpa [hname] using h.front⟩
      by_cases hspace : i.space = RawText.ofString ""
      · simp [place, hspace, hname]
      · simp [points_place_of_space hspace, hspace, hname]
  | nil =>
      have hspace : i.space ≠ "" := h.named.resolve_left (not_not.2 (RawText.ext hname))
      exact ⟨.char '/', i.space.points, by rw [points_place_of_space hspace, hname, List.nil_append], by decide⟩

theorem IsTidy.trim_ref (h : i.IsTidy) : i.ref.trim = i.ref := by
  obtain ⟨p, rest, hplace, hp⟩ := h.head_place
  have hstart : RawText.trimStart (i.place.points ++ .char ' ' :: i.apiVersion.points) =
      i.place.points ++ .char ' ' :: i.apiVersion.points := by
    rw [hplace, RawText.trimStart, List.cons_append, List.dropWhile_cons_of_neg (by simp [hp])]
  have hend : RawText.trimEnd i.kind.points = i.kind.points := by
    rcases List.eq_nil_or_concat i.kind.points with hnil | ⟨before, p, hkind⟩
    · rw [hnil]
      rfl
    · rw [List.concat_eq_append] at hkind
      rw [hkind, RawText.trimEnd_append_cons (by simpa [hkind] using h.back)]
      rfl
  refine RawText.ext ?_
  rw [trim_ref_eq, hstart, hend, points_ref, List.append_assoc, List.cons_append]

theorem IsTidy.withoutReturns_ref (h : i.IsTidy) : Publish.withoutReturns i.ref = i.ref := by
  obtain ⟨hkind, hversion, hspace, hname⟩ : CodePoint.char '\r' ∉ i.kind.points ∧
      CodePoint.char '\r' ∉ i.apiVersion.points ∧ CodePoint.char '\r' ∉ i.space.points ∧
      CodePoint.char '\r' ∉ i.name.points := by simpa [parts] using h.returns
  have hplace : CodePoint.char '\r' ∉ i.place.points := by
    unfold place
    split <;> simp [hname, hspace]
  have hnone : CodePoint.char '\r' ∉ i.ref.points := by simp [points_ref, hplace, hversion, hkind]
  exact RawText.ext (List.filter_eq_self.2 fun p hp => decide_eq_true fun heq => hnone (heq ▸ hp))

end Identity

/-! ### Messages -/

namespace Record

/-- The key can be read off the constructor form of a record, whatever stands in it. -/
theorem key_eq_of_expression_eq {r q : Record} (h : r.expression = q.expression) :
    r.identity.key = q.identity.key := by
  have hdigits (n : Nat) : ',' ∉ " outcomes=".toList ++ ((toString n).toList ++ ")".toList) := by
    have hnumber : ',' ∉ (toString n).toList := by
      rw [Nat.toString_eq_repr, Nat.toList_repr]
      intro hmem
      have hdigit : ','.isDigit = true := Nat.isDigit_of_mem_toDigits (by decide) (Nat.le_refl 10) hmem
      exact absurd hdigit (by decide)
    simpa using hnumber
  have hmark : ", outcomes=".toList = ',' :: " outcomes=".toList := rfl
  have hparts (p : Record) : p.expression.toList = "ResourceRecord(".toList ++ (p.identity.key.quoted.toList ++
      ',' :: (" outcomes=".toList ++ ((toString p.outcomes.length).toList ++ ")".toList))) := by
    unfold expression
    rw [String.toList_append, String.toList_append, String.toList_append, String.toList_append, List.append_assoc,
      List.append_assoc, List.append_assoc, hmark, List.cons_append]
  have htext := congrArg String.toList h
  rw [hparts r, hparts q] at htext
  -- the number behind the key has no comma in it, so the last one ends the key
  have hbehind := List.append_cancel_left htext
  have hkey := (Text.eq_of_last_separator hbehind (hdigits r.outcomes.length) (hdigits q.outcomes.length)).1
  exact RawText.quoted_injective (String.toList_injective hkey)

end Record

/-! ### Headlines -/

namespace Report

theorem space_not_mem_paint (useColor : Bool) (g : Grade) :
    CodePoint.char ' ' ∉ (paint useColor g g.glyph).points := by
  cases useColor <;> cases g <;> decide

/-- The sign of the grade behind a reference has no space in it, so the last one of a headline ends the reference. -/
theorem ref_eq_of_head?_eq {useColor showOk : Bool} {s : Scorecard} {r q : Record}
    (h : (recordLines useColor showOk s r).head? = (recordLines useColor showOk s q).head?) :
    r.identity.ref = q.identity.ref := by
  have hhead (p : Record) : (recordLines useColor showOk s p).head? =
      some (p.identity.ref ++ RawText.ofString " " ++ paint useColor p.grade p.grade.glyph) := rfl
  have hparts (p : Record) : (p.identity.ref ++ RawText.ofString " " ++ paint useColor p.grade p.grade.glyph).points =
      p.identity.ref.points ++ .char ' ' :: (paint useColor p.grade p.grade.glyph).points := by
    rw [RawText.points_append, RawText.points_append, List.append_assoc]
    rfl
  rw [hhead r, hhead q] at h
  have htext := congrArg RawText.points (Option.some.inj h)
  rw [hparts r, hparts q] at htext
  exact RawText.ext
    (Text.eq_of_last_separator htext (space_not_mem_paint useColor r.grade) (space_not_mem_paint useColor q.grade)).1

theorem member_ref_recordValue (s : Scorecard) (r : Record) :
    (recordValue s r).member "ref" = .text r.identity.ref := by
  simp [recordValue, recordMembers]

end Report

/-! ### Annotations -/

namespace Publish

/-- A reference as annotations show it: without the blanks at its ends, and written as a message is. -/
def shownRef (ref : RawText) : RawText := encodeMessage ref.trim

/-- What the command of the annotation for an outcome says before it comes to the resource. -/
def commandStart (s : Scorecard) (o : Outcome) : RawText :=
  (annotationFor s "" o).header ++ encodeMessage (RawText.intercalate "; " (partsFor s "" o ++ [RawText.ofString ""]))

theorem encodeMessage_append (s t : RawText) : encodeMessage (s ++ t) = encodeMessage s ++ encodeMessage t := by
  rw [encodeMessage, RawText.points_append, List.flatMap_append]
  rfl

theorem partsFor_of_ne_empty {ref : RawText} (h : ref ≠ "") (s : Scorecard) (o : Outcome) :
    partsFor s ref o = partsFor s "" o ++ [RawText.ofString "Resource: " ++ ref] := by
  simp [partsFor, h]

/-- An annotation ends with the reference of its resource, and nothing before that hangs on the resource. -/
theorem command_annotationFor (s : Scorecard) (i : Identity) (o : Outcome) :
    (annotationFor s i.ref.trim o).command =
      commandStart s o ++ RawText.ofString "Resource: " ++ shownRef i.ref := by
  have hgiven : partsFor s i.ref.trim o =
      partsFor s "" o ++ [RawText.ofString "Resource: " ++ i.ref.trim] :=
    partsFor_of_ne_empty i.trim_ref_ne_empty s o
  have hbody : (annotationFor s i.ref.trim o).body =
      RawText.intercalate "; " (partsFor s "" o ++ [RawText.ofString ""]) ++
        (RawText.ofString "Resource: " ++ i.ref.trim) := by
    rw [annotationFor, hgiven, if_neg (by simp), RawText.intercalate_concat]
  have hheader : (annotationFor s i.ref.trim o).header = (annotationFor s "" o).header := by
    rw [ Annotation.header, Annotation.header, annotationFor, annotationFor]
  have hlabel : encodeMessage "Resource: " = "Resource: " := by decide
  rw [ Annotation.command, ← Annotation.header, hheader, hbody, encodeMessage_append, encodeMessage_append, hlabel,
    commandStart, shownRef, RawText.append_assoc, RawText.append_assoc]

theorem commands_toValue (s : Scorecard) (metadata : Entries) :
    (annotations (Report.toValue ⟨s, metadata⟩)).items.map Annotation.command =
      s.records.flatMap fun r => r.failing.map fun o =>
        commandStart s o ++ RawText.ofString "Resource: " ++ shownRef r.identity.ref := by
  rw [annotations_toValue, List.map_flatMap]
  refine List.flatMap_congr fun r _ => ?_
  rw [List.map_map]
  exact List.map_congr_left fun o _ => command_annotationFor s r.identity o

theorem shownRef_ne {i j : Identity} (hi : i.IsTidy) (hj : j.IsTidy) (h : i.ref ≠ j.ref) :
    shownRef i.ref ≠ shownRef j.ref := by
  intro hshown
  have hsame := encodeMessage_eq_iff.1 hshown
  rw [hi.trim_ref, hj.trim_ref, hi.withoutReturns_ref, hj.withoutReturns_ref] at hsame
  exact h hsame

end Publish

/-! ### Scorecards -/

open Report Publish

/-- What tells the resources of two records of a scorecard apart: their keys as messages quote them, whatever else the
messages say; their references in the entries of the report, and those that begin their lines in the report for human
readers. In annotations the references are shown alike if they are the same without the blanks at their ends and without
carriage returns, and in no other case; never if none of them has any. -/
structure Scorecard.TellsApart (s : Scorecard) (r q : Record) : Prop where
  key : r.identity.IsSlashless → q.identity.IsSlashless →
    r.identity.key.quoted ≠ q.identity.key.quoted ∧ r.expression ≠ q.expression
  entry : r.identity.IsUnspaced → q.identity.IsUnspaced →
    (recordValue s r).member "ref" ≠ (recordValue s q).member "ref"
  headline : r.identity.IsUnspaced → q.identity.IsUnspaced → ∀ useColor showOk,
    (recordLines useColor showOk s r).head? ≠ (recordLines useColor showOk s q).head?
  annotation : shownRef r.identity.ref = shownRef q.identity.ref ↔
    withoutReturns r.identity.ref.trim = withoutReturns q.identity.ref.trim
  tidy : r.identity.IsUnspaced → q.identity.IsUnspaced → r.identity.IsTidy → q.identity.IsTidy →
    shownRef r.identity.ref ≠ shownRef q.identity.ref

theorem Scorecard.tellsApart_of_ne (s : Scorecard) {r q : Record} (h : r.identity ≠ q.identity) : s.TellsApart r q where
  key hr hq := by
    have hkey : r.identity.key ≠ q.identity.key := mt (Identity.eq_of_key_eq hr hq) h
    exact ⟨mt RawText.quoted_injective hkey, mt Record.key_eq_of_expression_eq hkey⟩
  entry hr hq := by
    rw [member_ref_recordValue, member_ref_recordValue]
    intro hentry
    exact h (Identity.eq_of_ref_eq hr hq (Value.text.inj hentry))
  headline hr hq _ _ := mt ref_eq_of_head?_eq (mt (Identity.eq_of_ref_eq hr hq) h)
  annotation := encodeMessage_eq_iff
  tidy hr hq hrtidy hqtidy := shownRef_ne hrtidy hqtidy (mt (Identity.eq_of_ref_eq hr hq) h)

namespace Identity

/-- Keys of identities without slashes, and references of those without spaces as well, determine the identities; that
there is a namespace shows in a reference. Every entry in the report on a scorecard has the reference of its resource,
and every annotation ends with it, behind words that do not hang on the resource. So all of these tell any two records
of the scorecard apart, annotations as far as they show the references. -/
theorem references_tell_apart :
    (∀ i j : Identity, i.IsSlashless → j.IsSlashless → i.key = j.key → i = j) ∧
      (∀ i j : Identity, i.IsUnspaced → j.IsUnspaced → i.ref = j.ref → i = j) ∧
      (∀ i j : Identity, i.IsUnspaced → j.IsUnspaced → i.space = "" → j.space ≠ "" → i.ref ≠ j.ref) ∧
      ∀ (s : Scorecard) (metadata : Entries),
        (resourcesIn (toValue ⟨s, metadata⟩)).map (·.member "ref") =
          s.records.map (fun r => .text r.identity.ref) ∧
        (annotations (toValue ⟨s, metadata⟩)).items.map Annotation.command =
          (s.records.flatMap fun r => r.failing.map fun o =>
            commandStart s o ++ RawText.ofString "Resource: " ++ shownRef r.identity.ref) ∧
        s.records.Pairwise s.TellsApart := by
  refine ⟨fun i j => eq_of_key_eq, fun i j => eq_of_ref_eq, ?_, fun s metadata => ⟨?_, ?_, ?_⟩⟩
  · intro i j hi hj hnone hsome href
    obtain rfl := eq_of_ref_eq hi hj href
    exact hsome hnone
  · rw [resourcesIn_toValue, List.map_map]
    exact List.map_congr_left fun r _ => member_ref_recordValue s r
  · exact commands_toValue s metadata
  · have hdistinct : s.records.Pairwise fun r q => r.identity ≠ q.identity := List.pairwise_map.1 s.distinct
    exact hdistinct.imp s.tellsApart_of_ne

/-- A scorecard with a record for each of several resources, all of them faulted by one check. -/
def faulted (identities : List Identity) : Scorecard :=
  .after (identities.flatMap fun i => [.register i .null, .add i { grade := .critical } { id := "probes" }])

/-- Deployments of one name, with a namespace and without one, and with a version that looks like a namespace. -/
def deployments : List Identity :=
  [⟨"Deployment", "apps/v1", "default", "web"⟩, ⟨"Deployment", "apps/v1", "", "web"⟩,
    ⟨"Deployment", "default apps/v1", "", "web"⟩, ⟨"Deployment", "v1", "apps", "web"⟩]

theorem references_tell_apart_deployments :
    (∀ i ∈ deployments, i.IsUnspaced ∧ i.IsTidy) ∧ (faulted deployments).identities = deployments ∧
      (faulted deployments).records.Pairwise fun r q =>
        r.expression ≠ q.expression ∧
        (recordValue (faulted deployments) r).member "ref" ≠ (recordValue (faulted deployments) q).member "ref" ∧
        (recordLines true false (faulted deployments) r).head? ≠
          (recordLines true false (faulted deployments) q).head? ∧
        shownRef r.identity.ref ≠ shownRef q.identity.ref := by
  have hplain : ∀ i ∈ deployments, i.IsUnspaced ∧ i.IsTidy := by decide +kernel
  have hidentities : (faulted deployments).identities = deployments := by decide +kernel
  have hrecord {r : Record} (hr : r ∈ (faulted deployments).records) : r.identity.IsUnspaced ∧ r.identity.IsTidy :=
    hplain r.identity (hidentities ▸ List.mem_map_of_mem hr)
  obtain ⟨_, _, hapart⟩ := references_tell_apart.2.2.2 (faulted deployments) []
  refine ⟨hplain, hidentities, hapart.imp_of_mem fun {r q} hr hq h => ?_⟩
  obtain ⟨hr, hrtidy⟩ := hrecord hr
  obtain ⟨hq, hqtidy⟩ := hrecord hq
  exact ⟨(h.key hr.toIsSlashless hq.toIsSlashless).2, h.entry hr hq, h.headline hr hq true false,
    h.tidy hr hq hrtidy hqtidy⟩

/-- Identities that differ in a blank behind the kind, a blank before the name, or a carriage return behind it. -/
def padded : List Identity :=
  [⟨"Pod", "v1", "", "web"⟩, ⟨"Pod ", "v1", "", "web"⟩, ⟨"Pod", "v1", "", "\tweb"⟩, ⟨"Pod", "v1", "", "web\r"⟩]

/-- Annotations do not tell all resources apart: these are four, and they are annotated alike. -/
theorem annotations_alike_padded :
    (∀ i ∈ padded, i.IsUnspaced) ∧ (faulted padded).identities = padded ∧ padded.Nodup ∧
      (annotations (toValue ⟨faulted padded, []⟩)).items.map Annotation.command =
        List.replicate 4 (RawText.ofString "::error title=Critical - probes::Resource: web v1/Pod") := by
  refine ⟨?_, ?_, ?_, ?_⟩ <;> decide +kernel

end Identity

end ManifestGrading
