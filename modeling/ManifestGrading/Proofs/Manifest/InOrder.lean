import ManifestGrading.Proofs.Manifest.Discovery

/-! The loading of manifests as a whole. The first path that leads nowhere decides, whatever the sources before it are
like. If there is none, the sources follow each other as the paths do, and the first of them that cannot be read or
decoded decides; otherwise their documents follow each other, each with its place in the stream that it comes from. -/

namespace ManifestGrading.Manifest

variable {decode : Decoder} {files : Files} {input : List UInt8} {paths : List String} {raw : String}

/-! ### The documents of one source -/

/-- The documents of a stream of values: all of them but null, in order, each with its place among all values. -/
structure IsStream (source : String) (values : List Value) (documents : List Document) : Prop where
  path : ∀ d ∈ documents, d.path = source
  increasing : documents.Pairwise fun d e => d.index < e.index
  mem_iff : ∀ i v, ⟨source, i, v⟩ ∈ documents ↔ values[i]? = some v ∧ v ≠ .null

theorem mem_numbered_iff {source : String} {values : List Value} {d : Document} :
    d ∈ numbered source values ↔ d.path = source ∧ values[d.index]? = some d.content ∧ d.content ≠ .null := by
  simp only [numbered, List.mem_filterMap, Prod.exists, List.mem_zipIdx_iff_getElem?]
  constructor
  · rintro ⟨v, i, hv, h⟩
    split at h
    · cases h
    · next hnull =>
      obtain rfl := Option.some.inj h
      exact ⟨rfl, hv, hnull⟩
  · rintro ⟨rfl, hv, hnull⟩
    refine ⟨d.content, d.index, hv, ?_⟩
    split
    · next heq => exact absurd heq hnull
    · rfl

theorem isStream_numbered (source : String) (values : List Value) : IsStream source values (numbered source values) where
  path d hd := (mem_numbered_iff.1 hd).1
  increasing := by
    have hplaces : values.zipIdx.Pairwise fun v w => v.2 < w.2 := by
      refine List.pairwise_map.1 ?_
      rw [List.zipIdx_map_snd]
      exact List.pairwise_lt_range'
    refine hplaces.filterMap _ fun v w hlt d hd e he => ?_
    split at hd
    · cases hd
    · split at he
      · cases he
      · rw [← Option.some.inj hd, ← Option.some.inj he]
        exact hlt
  mem_iff i v := by
    rw [mem_numbered_iff]
    exact and_iff_right rfl

/-- What a source comes to: its text is a stream of values, of which these are the documents. -/
def Yields (decode : Decoder) (files : Files) (feed : List UInt8 × Source) (documents : List Document) : Prop :=
  ∃ text values, textOf files feed = .ok text ∧ decode text = .ok values ∧ IsStream feed.2.name values documents

/-- How a source fails: it cannot be read, or its text is no stream of values. -/
def FailsWith (decode : Decoder) (files : Files) (feed : List UInt8 × Source) (e : ManifestFault) : Prop :=
  textOf files feed = .error e ∨ ∃ text fault, textOf files feed = .ok text ∧ decode text = .error fault ∧
    e = if fault = .malformed then .malformed feed.2.name else .value fault

theorem yields_of_documentsOf {feed : List UInt8 × Source} {documents : List Document}
    (h : documentsOf decode files feed = .ok documents) : Yields decode files feed documents := by
  obtain ⟨text, htext, h⟩ := Attempt.bind_ok_iff.1 h
  cases hdecode : decode text with
  | ok values =>
      simp only [documentsIn, hdecode, Except.ok.injEq] at h
      exact ⟨text, values, htext, hdecode, h ▸ isStream_numbered feed.2.name values⟩
  | error fault => cases fault <;> simp [documentsIn, hdecode] at h

theorem documentsOf_of_yields {feed : List UInt8 × Source} {documents : List Document}
    (h : Yields decode files feed documents) : ∃ found, documentsOf decode files feed = .ok found := by
  obtain ⟨text, values, htext, hvalues, _⟩ := h
  exact documentsOf_ok_iff.2 ⟨text, values, htext, hvalues⟩

theorem documentsOf_eq_error_iff {feed : List UInt8 × Source} {e : ManifestFault} :
    documentsOf decode files feed = .error e ↔ FailsWith decode files feed e := by
  rw [documentsOf, Attempt.bind_eq_error_iff, FailsWith]
  refine or_congr Iff.rfl ?_
  constructor
  · rintro ⟨text, htext, h⟩
    cases hdecode : decode text with
    | ok values => simp [documentsIn, hdecode] at h
    | error fault =>
        refine ⟨text, fault, htext, hdecode, ?_⟩
        cases fault <;> simpa [documentsIn, hdecode, eq_comm] using h
  · rintro ⟨text, fault, htext, hdecode, rfl⟩
    refine ⟨text, htext, ?_⟩
    cases fault <;> simp [documentsIn, hdecode]

/-! ### The sources of one path -/

/-- The sources that a path stands for, none if it leads nowhere. A file with the name of the standard input is taken for
it, however its path is written. -/
def sourcesOf (files : Files) (raw : String) : List Source :=
  if raw = inputPath then [.input]
  else
    match files.place (Path.ofText raw) with
    | .directory names => (discover (files.below names)).map fun rest => .file ((Path.ofText raw).append rest)
    | .file .. => [if (Path.ofText raw).text = inputPath then .input else .file (Path.ofText raw)]
    | _ => []

/-- The fault of a path that leads nowhere. -/
def missingAt (files : Files) (raw : String) : ManifestFault :=
  if files.place (Path.ofText raw) = .tooLong then .file (.tooLong (Path.ofText raw).text)
  else .missing (Path.ofText raw).text

theorem sourcesAt_of_leads (h : Leads files raw) : sourcesAt files raw = .ok (sourcesOf files raw) := by
  unfold sourcesAt sourcesOf
  by_cases hraw : raw = inputPath
  · simp [hraw]
  · simp only [if_neg hraw]
    rcases h with h | ⟨names, hplace⟩ | ⟨names, bytes, hplace⟩
    · exact absurd h hraw
    · rw [hplace]
      exact congrArg Except.ok (List.map_congr_left fun rest hrest => ofPath_append_of_mem_discover _ hrest)
    · rw [hplace]
      rfl

theorem sourcesAt_of_not_leads (h : ¬Leads files raw) : sourcesAt files raw = .error (missingAt files raw) := by
  simp only [Leads, not_or, not_exists] at h
  obtain ⟨hraw, hdirectory, hfile⟩ := h
  cases hplace : files.place (Path.ofText raw) with
  | directory names => exact absurd hplace (hdirectory names)
  | file names bytes => exact absurd hplace (hfile names bytes)
  | missing names | blocked | tooLong => simp [sourcesAt, missingAt, hraw, hplace]

/-- Besides its own path only that of a file can stand for the standard input. -/
theorem input_mem_sourcesOf_iff : .input ∈ sourcesOf files raw ↔
    raw = inputPath ∨
      (Path.ofText raw).text = inputPath ∧ ∃ names bytes, files.place (Path.ofText raw) = .file names bytes := by
  unfold sourcesOf
  by_cases hraw : raw = inputPath
  · simp [hraw]
  · rw [if_neg hraw]
    cases files.place (Path.ofText raw) with
    | file names bytes => split <;> simp_all
    | _ => simp [hraw]

/-! ### All paths -/

theorem sources_of_leads (h : ∀ raw ∈ paths, Leads files raw) :
    sources files paths = .ok (paths.flatMap (sourcesOf files)) := by
  rw [sources, Attempt.mapM_eq_ok fun raw hraw => sourcesAt_of_leads (h raw hraw), List.flatMap_def]
  rfl

theorem load_of_leads (h : ∀ raw ∈ paths, Leads files raw) : load decode files input paths =
    ((feeds input (paths.flatMap (sourcesOf files))).mapM (documentsOf decode files)).map List.flatten := by
  rw [load, sources_of_leads h, Attempt.ok_bind, loadSources_eq]

theorem load_of_not_leads {before behind : List String} (hbefore : ∀ raw ∈ before, Leads files raw)
    (h : ¬Leads files raw) : load decode files input (before ++ raw :: behind) = .error (missingAt files raw) := by
  have hsources : (before ++ raw :: behind).mapM (sourcesAt files) = .error (missingAt files raw) :=
    Attempt.mapM_eq_error_iff.2 ⟨before, raw, behind, rfl, fun r hr => ⟨_, sourcesAt_of_leads (hbefore r hr)⟩,
      sourcesAt_of_not_leads h⟩
  rw [load, sources, hsources]
  rfl

theorem leads_of_load {documents : List Document} (h : load decode files input paths = .ok documents) :
    ∀ raw ∈ paths, Leads files raw := by
  obtain ⟨found, hfound, _⟩ := Attempt.bind_ok_iff.1 h
  obtain ⟨lists, hlists, _⟩ := Attempt.map_ok_iff.1 hfound
  intro raw hraw
  obtain ⟨list, _, hlist⟩ := Attempt.exists_of_mapM_ok hlists hraw
  exact sourcesAt_ok_iff.1 ⟨list, hlist⟩

/-- What is left of the standard input for it depends on the sources before it only. -/
theorem left_of_feeds {found : List Source} {before behind : List (List UInt8 × Source)} {left : List UInt8}
    (h : feeds input found = before ++ (left, .input) :: behind) : left = leftBy input (before.map Prod.snd) := by
  have hfound : found = before.map Prod.snd ++ .input :: behind.map Prod.snd := by
    rw [← map_snd_feeds input found, h, List.map_append, List.map_cons]
  have hlength : (feeds input (before.map Prod.snd)).length = before.length := by
    rw [← List.length_map Prod.snd, map_snd_feeds, List.length_map]
  rw [hfound, feeds_append] at h
  obtain ⟨_, hrest⟩ := List.append_inj h hlength
  rw [feeds] at hrest
  exact (congrArg Prod.fst (List.cons.inj hrest).1).symm

/-- Sources without the standard input do not depend on what is left of it. -/
theorem mapM_documentsOf_feeds {found : List Source} (h : .input ∉ found) (left : List UInt8) :
    (feeds left found).mapM (documentsOf decode files) = (feeds input found).mapM (documentsOf decode files) := by
  induction found with
  | nil => rfl
  | cons source rest ih =>
      cases source with
      | input => exact absurd List.mem_cons_self h
      | file p =>
          have hfile : documentsOf decode files (left, .file p) = documentsOf decode files (input, .file p) := rfl
          rw [feeds, feeds, List.mapM_cons, List.mapM_cons, hfile, ih fun hmem => h (List.mem_cons_of_mem _ hmem)]

theorem load_append_ok_iff {more : List String} {documents : List Document}
    (h : ¬((∃ raw ∈ paths, .input ∈ sourcesOf files raw) ∧ ∃ raw ∈ more, .input ∈ sourcesOf files raw)) :
    load decode files input (paths ++ more) = .ok documents ↔ ∃ first second, load decode files input paths = .ok first ∧
      load decode files input more = .ok second ∧ documents = first ++ second := by
  -- what the first paths leave of the standard input is all of it, or it is not asked for again
  have hleft : (feeds (leftBy input (paths.flatMap (sourcesOf files))) (more.flatMap (sourcesOf files))).mapM
      (documentsOf decode files) = (feeds input (more.flatMap (sourcesOf files))).mapM (documentsOf decode files) := by
    by_cases hfirst : .input ∈ paths.flatMap (sourcesOf files)
    · have hsecond : .input ∉ more.flatMap (sourcesOf files) := by
        intro hsecond
        exact h ⟨List.mem_flatMap.1 hfirst, List.mem_flatMap.1 hsecond⟩
      exact mapM_documentsOf_feeds hsecond _
    · rw [leftBy, if_neg hfirst]
  have hboth (hpaths : ∀ raw ∈ paths, Leads files raw) (hmore : ∀ raw ∈ more, Leads files raw) :
      load decode files input (paths ++ more) =
        load decode files input paths >>= fun first => (load decode files input more).map (first ++ ·) := by
    have hall : ∀ raw ∈ paths ++ more, Leads files raw := by
      intro raw hraw
      rcases List.mem_append.1 hraw with hraw | hraw
      · exact hpaths raw hraw
      · exact hmore raw hraw
    rw [load_of_leads hall, load_of_leads hpaths, load_of_leads hmore, List.flatMap_append, feeds_append,
      List.mapM_append, hleft]
    cases (feeds input (paths.flatMap (sourcesOf files))).mapM (documentsOf decode files) with
    | error e => rfl
    | ok first =>
        cases (feeds input (more.flatMap (sourcesOf files))).mapM (documentsOf decode files) with
        | error e => rfl
        | ok second => exact congrArg Except.ok List.flatten_append
  constructor
  · intro hload
    have hleads := leads_of_load hload
    rw [hboth (fun raw hraw => hleads raw (List.mem_append_left _ hraw))
      fun raw hraw => hleads raw (List.mem_append_right _ hraw)] at hload
    obtain ⟨first, hfirst, hload⟩ := Attempt.bind_ok_iff.1 hload
    obtain ⟨second, hsecond, hload⟩ := Attempt.map_ok_iff.1 hload
    exact ⟨first, second, hfirst, hsecond, hload.symm⟩
  · rintro ⟨first, second, hfirst, hsecond, rfl⟩
    rw [hboth (leads_of_load hfirst) (leads_of_load hsecond), hfirst, hsecond]
    rfl

/-- Loading decides in this order. The first path that leads nowhere makes it fail, whatever stands before it. Else the
sources follow each other as their paths do, the first one to ask for the standard input has all of it and the later ones
nothing, and the first source that fails makes the loading fail as it does. Else the documents of the sources follow
each other. Two lists of paths load together what they load in turn, if they do not share the standard input; it is
asked for by its own path, and by that of a file with its name. -/
theorem load_in_order (decode : Decoder) (files : Files) (input : List UInt8) :
    (∀ before raw behind, (∀ r ∈ before, Leads files r) → ¬Leads files raw →
      load decode files input (before ++ raw :: behind) = .error (missingAt files raw)) ∧
    (∀ paths, (∀ raw ∈ paths, Leads files raw) → ∃ fed : List (List UInt8 × Source),
      fed.map Prod.snd = paths.flatMap (sourcesOf files) ∧
      (∀ before left behind, fed = before ++ (left, .input) :: behind → left = leftBy input (before.map Prod.snd)) ∧
      (∀ before feed behind e, fed = before ++ feed :: behind →
        (∀ earlier ∈ before, ∃ documents, Yields decode files earlier documents) → FailsWith decode files feed e →
        load decode files input paths = .error e) ∧
      ((∀ feed ∈ fed, ∀ e, ¬FailsWith decode files feed e) →
        ∃ lists, List.Forall₂ (Yields decode files) fed lists ∧ load decode files input paths = .ok lists.flatten)) ∧
    (∀ paths more documents,
      ¬((∃ raw ∈ paths, .input ∈ sourcesOf files raw) ∧ ∃ raw ∈ more, .input ∈ sourcesOf files raw) →
      (load decode files input (paths ++ more) = .ok documents ↔ ∃ first second,
        load decode files input paths = .ok first ∧ load decode files input more = .ok second ∧
          documents = first ++ second)) ∧
    ∀ raw, .input ∈ sourcesOf files raw ↔ raw = inputPath ∨
      (Path.ofText raw).text = inputPath ∧ ∃ names bytes, files.place (Path.ofText raw) = .file names bytes := by
  refine ⟨fun before raw behind hbefore h => load_of_not_leads hbefore h, fun paths hpaths => ?_,
    fun paths more documents h => load_append_ok_iff h, fun raw => input_mem_sourcesOf_iff⟩
  refine ⟨feeds input (paths.flatMap (sourcesOf files)), map_snd_feeds _ _,
    fun before left behind h => left_of_feeds h, fun before feed behind e h hbefore hfails => ?_, fun hnone => ?_⟩
  · have hmapM : (feeds input (paths.flatMap (sourcesOf files))).mapM (documentsOf decode files) = .error e := by
      refine Attempt.mapM_eq_error_iff.2 ⟨before, feed, behind, h, fun earlier hearlier => ?_,
        documentsOf_eq_error_iff.2 hfails⟩
      obtain ⟨documents, hyields⟩ := hbefore earlier hearlier
      exact documentsOf_of_yields hyields
    rw [load_of_leads hpaths, hmapM]
    rfl
  · cases hmapM : (feeds input (paths.flatMap (sourcesOf files))).mapM (documentsOf decode files) with
    | error e =>
        obtain ⟨feed, hfeed, he⟩ := Attempt.exists_of_mapM_error hmapM
        exact absurd (documentsOf_eq_error_iff.1 he) (hnone feed hfeed e)
    | ok lists =>
        refine ⟨lists, (Attempt.forall₂_of_mapM_ok hmapM).imp fun _ _ h => yields_of_documentsOf h, ?_⟩
        rw [load_of_leads hpaths, hmapM]
        rfl

/-- A file with an empty document between two others, and one with the name of the standard input. -/
def twoStreams : Files :=
  ⟨[(["m", "a.yaml"], .file "kind: Pod\n---\n---\nkind: Service\n".toUTF8.toList), (["-"], .file [])]⟩

def secretInput : List UInt8 := "kind: Secret\n".toUTF8.toList

theorem load_in_order_twoStreams :
    Leads twoStreams "./-" ∧ ¬Leads twoStreams "m/b.yaml" ∧
      load Yaml.readAll twoStreams secretInput ["./-", "m/b.yaml", "m"] = .error (.missing "m/b.yaml") ∧
      ¬(∃ raw ∈ ["m/a.yaml"], .input ∈ sourcesOf twoStreams raw) ∧
      ∃ first second, load Yaml.readAll twoStreams secretInput ["m/a.yaml"] = .ok first ∧
        load Yaml.readAll twoStreams secretInput ["./-", "-"] = .ok second ∧
        load Yaml.readAll twoStreams secretInput ["m/a.yaml", "./-", "-"] = .ok (first ++ second) ∧
        (first ++ second).map (fun d => (d.path, d.index)) = [("m/a.yaml", 0), ("m/a.yaml", 2), ("<stdin>", 0)] := by
  obtain ⟨hmissing, _, hboth, hinput⟩ := load_in_order Yaml.readAll twoStreams secretInput
  have hdash : twoStreams.place (Path.ofText "./-") = .file ["-"] [] := by decide +kernel
  have hgone : twoStreams.place (Path.ofText "m/b.yaml") = .missing ["m", "b.yaml"] := by decide +kernel
  have hleads : Leads twoStreams "./-" := Or.inr (Or.inr ⟨_, _, hdash⟩)
  have hnowhere : ¬Leads twoStreams "m/b.yaml" := by
    rintro (h | ⟨names, h⟩ | ⟨names, bytes, h⟩)
    · exact absurd h (by decide)
    · cases hgone.symm.trans h
    · cases hgone.symm.trans h
  have hfault : missingAt twoStreams "m/b.yaml" = .missing "m/b.yaml" := by decide +kernel
  have hfile : ¬(∃ raw ∈ ["m/a.yaml"], .input ∈ sourcesOf twoStreams raw) := by
    rintro ⟨raw, hraw, hmem⟩
    obtain rfl := List.mem_singleton.1 hraw
    rcases (hinput _).1 hmem with h | ⟨h, _⟩
    · exact absurd h (by decide)
    · exact absurd h (by decide +kernel)
  have hall : ((load Yaml.readAll twoStreams secretInput ["m/a.yaml", "./-", "-"]).toOption.map
      (List.map fun d => (d.path, d.index))) = some [("m/a.yaml", 0), ("m/a.yaml", 2), ("<stdin>", 0)] := by
    decide +kernel
  cases hload : load Yaml.readAll twoStreams secretInput ["m/a.yaml", "./-", "-"] with
  | error e =>
      rw [hload] at hall
      cases hall
  | ok documents =>
      obtain ⟨first, second, hfirst, hsecond, rfl⟩ := (hboth ["m/a.yaml"] ["./-", "-"] documents fun h => hfile h.1).1 hload
      refine ⟨hleads, hnowhere, ?_, hfile, first, second, hfirst, hsecond, rfl, ?_⟩
      · rw [← hfault]
        exact hmissing ["./-"] "m/b.yaml" ["m"] (by simpa using hleads) hnowhere
      · rw [hload] at hall
        exact Option.some.inj hall

end ManifestGrading.Manifest
