import ManifestGrading.Pack.Basic
import ManifestGrading.Proofs.Suppression.Annotation
import ManifestGrading.Proofs.Text.Trimming
import ManifestGrading.Runner

/-! Lists of identifiers between commas, written and read again. A list is a sequence of places, each with an identifier
or with nothing in it and with blanks on both sides. Whatever the order and the blanks are, and however often an
identifier is repeated, what is read is the set of the identifiers; and what is read of any text at all is a set that
can be written so. Annotations, packs and runs read the same text alike. -/

namespace ManifestGrading

namespace Suppression

theorem not_mem_of_mem_splitOn {α : Type} [BEq α] [LawfulBEq α] {a : α} {l part : List α}
    (h : part ∈ l.splitOn a) : a ∉ part := by
  induction l generalizing part with
  | nil =>
      obtain rfl := List.mem_singleton.1 h
      exact List.not_mem_nil
  | cons b rest ih =>
      rw [List.splitOn_cons_eq_if_modifyHead] at h
      split at h
      · rcases List.mem_cons.1 h with rfl | h
        · exact List.not_mem_nil
        · exact ih h
      · next hne =>
        cases hparts : rest.splitOn a with
        | nil => exact absurd hparts (List.splitOn_ne_nil a rest)
        | cons first more =>
            rw [hparts] at h ih
            rcases List.mem_cons.1 h with rfl | h
            · rw [List.mem_cons, not_or]
              exact ⟨fun heq => hne (beq_iff_eq.2 heq.symm), ih List.mem_cons_self⟩
            · exact ih (List.mem_cons_of_mem first h)

/-- A place between two commas: an identifier if there is one, and blanks on both sides. -/
structure Slot where
  before : RawText
  id? : Option RawText
  behind : RawText
  before_blank : ∀ c ∈ before.points, RawText.isBlank c
  behind_blank : ∀ c ∈ behind.points, RawText.isBlank c

def Slot.text (p : Slot) : RawText := p.before ++ p.id?.getD "" ++ p.behind

/-- The text of a list: its places with commas between them. -/
def listText (slots : List Slot) : RawText := RawText.intercalate "," (slots.map Slot.text)

/-- Whether the identifiers in the places of a list are those of a set, in whatever order and however often. -/
def Lists (slots : List Slot) (set : IdSet) : Prop := ∀ x, x ∈ slots.filterMap Slot.id? ↔ x ∈ set

/-- Whether metadata has a text in the annotation that lists checks. -/
def Carries (metadata : Value) (t : RawText) : Prop :=
  ∃ entries annotations, metadata.mapping? = some entries ∧
    (Entries.get "annotations" entries).mapping? = some annotations ∧
    Entries.get annotation annotations = .text t

theorem annotationText?_eq_some_iff {metadata : Value} {t : RawText} :
    annotationText? metadata = some t ↔ Carries metadata t := by
  have htext (v : Value) : v.text? = some t ↔ v = .text t := by cases v <;> simp [Value.text?]
  simp only [annotationText?, Option.bind_eq_bind, Option.bind_eq_some_iff, htext, Carries, exists_and_left]

theorem ofMetadata_of_carries {metadata : Value} {t : RawText} (h : Carries metadata t) :
    ofMetadata metadata = .ofList (idsIn t) := by
  rw [ofMetadata, annotationText?_eq_some_iff.2 h]

theorem ofMetadata_of_not_carries {metadata : Value} (h : ∀ t, ¬Carries metadata t) : ofMetadata metadata = .empty := by
  have hnone : annotationText? metadata = none := by
    by_contra hsome
    obtain ⟨t, ht⟩ := Option.ne_none_iff_exists'.1 hsome
    exact h t (annotationText?_eq_some_iff.1 ht)
  rw [ofMetadata, hnone]

/-! ### Written and read -/

theorem idsIn_slot {p : Slot} (h : ∀ x ∈ p.id?, IsListable x) : idsIn p.text = p.id?.toList := by
  have hcomma : .char ',' ∉ (p.id?.getD "").points := by
    cases hid : p.id? with
    | none => exact List.not_mem_nil
    | some x => exact (h x hid).no_comma
  have hnone : .char ',' ∉ p.text.points := by
    rw [Slot.text, RawText.points_append, RawText.points_append, List.mem_append, List.mem_append]
    rintro ((hmem | hmem) | hmem)
    · exact absurd (p.before_blank _ hmem) (by decide)
    · exact hcomma hmem
    · exact absurd (p.behind_blank _ hmem) (by decide)
  have htrim : p.text.trim = (p.id?.getD "").trim := RawText.trim_padded p.before_blank _ p.behind_blank
  rw [idsIn, segments_of_no_comma hnone, trimmed, List.map_singleton, htrim]
  cases hid : p.id? with
  | none => rfl
  | some x =>
      have hx := h x hid
      simp [hx.trimmed, hx.ne_empty]

/-- What is read of the text of a list are the identifiers in its places, in order. -/
theorem idsIn_listText {slots : List Slot} (h : ∀ p ∈ slots, ∀ x ∈ p.id?, IsListable x) :
    idsIn (listText slots) = slots.filterMap Slot.id? := by
  induction slots with
  | nil => rfl
  | cons p rest ih =>
      obtain ⟨hp, hrest⟩ := List.forall_mem_cons.1 h
      have hfirst : (p :: rest).filterMap Slot.id? = p.id?.toList ++ rest.filterMap Slot.id? := by
        rw [List.filterMap_cons]
        cases p.id? <;> rfl
      cases rest with
      | nil =>
          rw [hfirst, List.filterMap_nil, List.append_nil, listText, List.map_singleton, RawText.intercalate_singleton]
          exact idsIn_slot hp
      | cons next more =>
          have htext : listText (p :: next :: more) = p.text ++ RawText.ofString "," ++ listText (next :: more) :=
            RawText.intercalate_cons_cons _ _ _ _
          rw [htext, idsIn_append_comma, idsIn_slot hp, ih hrest, hfirst]

theorem ofMetadata_of_listText {set : IdSet} {slots : List Slot} {metadata : Value} (hset : ∀ x ∈ set, IsListable x)
    (hlists : Lists slots set) (hcarries : Carries metadata (listText slots)) : ofMetadata metadata = set := by
  have hslots : ∀ p ∈ slots, ∀ x ∈ p.id?, IsListable x := fun p hp x hx =>
    hset x ((hlists x).1 (List.mem_filterMap.2 ⟨p, hp, hx⟩))
  apply IdSet.eq_of_mem_iff
  intro x
  rw [ofMetadata_of_carries hcarries, IdSet.mem_ofList, idsIn_listText hslots]
  exact hlists x

/-! ### Read and written -/

theorem isListable_of_mem_idsIn {t x : RawText} (h : x ∈ idsIn t) : IsListable x := by
  obtain ⟨hne, s, hs, rfl⟩ := mem_trimmed.1 h
  obtain ⟨part, hpart, rfl⟩ := List.mem_map.1 hs
  refine ⟨hne, fun hcomma => ?_, RawText.trim_trim _⟩
  exact not_mem_of_mem_splitOn hpart ((RawText.trim_sublist _).subset hcomma)

theorem isListable_of_mem_ofMetadata {metadata : Value} {x : RawText} (h : x ∈ ofMetadata metadata) : IsListable x := by
  unfold ofMetadata at h
  split at h
  · exact isListable_of_mem_idsIn (IdSet.mem_ofList.1 h)
  · exact absurd h (IdSet.not_mem_empty x)

theorem trimmed_trimmed (texts : List RawText) : trimmed (trimmed texts) = trimmed texts := by
  have hself : ∀ s ∈ trimmed texts, s.trim = s := by
    intro s hs
    obtain ⟨_, r, _, rfl⟩ := mem_trimmed.1 hs
    exact RawText.trim_trim r
  have hgiven : ∀ s ∈ trimmed texts, (s != RawText.ofString "") = true := fun s hs =>
    bne_iff_ne.2 (mem_trimmed.1 hs).1
  rw [trimmed, List.map_congr_left hself, List.map_id', List.filter_eq_self.2 hgiven]

/-- The checks that metadata names are read from the list in its annotation. From the text of a list the identifiers in it
are read, if each of them can stand between commas: in whatever order they are, however often, with whatever blanks
around them, and with nothing at all in some places. What is read of any text are identifiers of this kind, so that
the same ones are read of every list of them. Metadata without such a text names no checks. From each text a pack
reads the same identifiers, and a runner that is given what the pack has read ignores just these checks. -/
theorem ofMetadata_reads_lists :
    (∀ (set : IdSet) (slots : List Slot) (metadata : Value), (∀ x ∈ set, IsListable x) → Lists slots set →
      Carries metadata (listText slots) → ofMetadata metadata = set) ∧
    (∀ metadata : Value, (∀ x ∈ ofMetadata metadata, IsListable x) ∧
      ∀ (slots : List Slot) (again : Value), Lists slots (ofMetadata metadata) → Carries again (listText slots) →
        ofMetadata again = ofMetadata metadata) ∧
    (∀ metadata : Value, (∀ t, ¬Carries metadata t) → ofMetadata metadata = .empty) ∧
    ∀ (t : RawText) (metadata : Value), Carries metadata t → ∃ listed, PackEntry.idsOf (.text t) = .ok listed ∧
      (∀ x, x ∈ listed ↔ x ∈ ofMetadata metadata) ∧
      ∀ (rules : List Rule) (optional : List RawText) (workers : Int),
        (Runner.new rules listed optional workers).ignored = ofMetadata metadata := by
  refine ⟨fun set slots metadata => ofMetadata_of_listText, fun metadata => ⟨fun x => isListable_of_mem_ofMetadata, ?_⟩,
    fun metadata => ofMetadata_of_not_carries, ?_⟩
  · intro slots again hlists hcarries
    exact ofMetadata_of_listText (fun x => isListable_of_mem_ofMetadata) hlists hcarries
  · intro t metadata hcarries
    refine ⟨_, rfl, fun x => ?_, fun rules optional workers => ?_⟩
    · rw [ofMetadata_of_carries hcarries, IdSet.mem_ofList]
    · show setOf _ = _
      rw [setOf, idsIn, trimmed_trimmed, ofMetadata_of_carries hcarries, idsIn]

/-- Metadata with a text in the annotation. -/
def annotated (t : RawText) : Value := .map [(.text "annotations", .map [(.text annotation, .text t)])]

theorem carries_annotated (t : RawText) : Carries (annotated t) t := ⟨_, _, rfl, rfl, rfl⟩

/-- Two identifiers between blanks of several kinds, one of them twice, and an empty place. -/
def spacedSlots : List Slot :=
  [⟨"\u00A0", some "probes", "\t", by decide, by decide⟩, ⟨" ", none, "\n", by decide, by decide⟩,
    ⟨"", some "memory limits", "\u2003", by decide, by decide⟩, ⟨"\u3000 ", some "probes", "", by decide, by decide⟩]

/-- The same identifiers without blanks, each of them once. -/
def plainSlots : List Slot :=
  [⟨"", some "memory limits", "", by decide, by decide⟩, ⟨"", some "probes", "", by decide, by decide⟩]

theorem ofMetadata_reads_lists_spacedSlots :
    ((∀ x ∈ IdSet.ofList ["memory limits", "probes"], IsListable x) ∧
      Lists spacedSlots (.ofList ["memory limits", "probes"]) ∧
      Carries (annotated (listText spacedSlots)) (listText spacedSlots) ∧
      ofMetadata (annotated (listText spacedSlots)) = .ofList ["memory limits", "probes"]) ∧
    (Lists plainSlots (ofMetadata (annotated (listText spacedSlots))) ∧
      Carries (annotated (listText plainSlots)) (listText plainSlots) ∧
      ofMetadata (annotated (listText plainSlots)) = ofMetadata (annotated (listText spacedSlots))) ∧
    ((∀ t, ¬Carries (.list [.text "probes"]) t) ∧ ofMetadata (.list [.text "probes"]) = .empty) ∧
    ∃ listed, PackEntry.idsOf (.text (listText spacedSlots)) = .ok listed ∧
      (Runner.new [] listed [] 1).ignored = .ofList ["memory limits", "probes"] := by
  obtain ⟨hread, hback, hnone, hagree⟩ := ofMetadata_reads_lists
  have hlistable : ∀ x ∈ IdSet.ofList ["memory limits", "probes"], IsListable x := by
    intro x hx
    rw [IdSet.mem_ofList, List.mem_cons, List.mem_singleton] at hx
    rcases hx with rfl | rfl <;> exact ⟨by decide, by decide, by decide +kernel⟩
  have hspaced : Lists spacedSlots (.ofList ["memory limits", "probes"]) := by
    intro x
    have hids : spacedSlots.filterMap Slot.id? = .map RawText.ofString ["probes", "memory limits", "probes"] := rfl
    rw [hids, IdSet.mem_ofList]
    simp only [List.map_cons, List.map_nil, List.mem_cons, List.not_mem_nil, or_false]
    tauto
  have hset := hread _ spacedSlots _ hlistable hspaced (carries_annotated _)
  have hplain : Lists plainSlots (ofMetadata (annotated (listText spacedSlots))) := by
    intro x
    have hids : plainSlots.filterMap Slot.id? = .map RawText.ofString ["memory limits", "probes"] := rfl
    rw [hids, hset, IdSet.mem_ofList]
    rfl
  have hother : ∀ t, ¬Carries (.list [.text "probes"]) t := by
    rintro t ⟨entries, _, hmapping, _⟩
    cases hmapping
  obtain ⟨listed, hlisted, _, hignored⟩ := hagree _ _ (carries_annotated (listText spacedSlots))
  exact ⟨⟨hlistable, hspaced, carries_annotated _, hset⟩,
    ⟨hplain, carries_annotated _, (hback _).2 plainSlots _ hplain (carries_annotated _)⟩,
    ⟨hother, hnone _ hother⟩, listed, hlisted, (hignored [] [] 1).trans hset⟩

end Suppression

end ManifestGrading
