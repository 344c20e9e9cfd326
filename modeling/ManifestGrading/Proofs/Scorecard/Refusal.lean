import ManifestGrading.Proofs.Scorecard.Reachable
import ManifestGrading.Proofs.Value.Entries

/-! Registrations that are refused. A registration looks for the record first, so metadata of any kind will do for a
resource that has one; a new record is made before it is stored, so one that cannot be made leaves the scorecard as it
was. Then nothing that is done later can tell that there has been an attempt, and the next registration of the resource
is its first. -/

namespace ManifestGrading

theorem Record.exists_new_error_iff (identity : Identity) {metadata : Value} :
    (∃ fault, new identity metadata = .error fault) ↔ metadata.isTruthy ∧ ¬metadata.IsEntries := by
  rw [← Value.exists_toEntries_iff]
  by_cases htruthy : metadata.isTruthy
  · rw [new, Value.orElse_of_truthy htruthy]
    cases metadata.toEntries <;> simp [htruthy, bind, Except.bind, pure, Except.pure]
  · have hfalse : metadata.isTruthy = false := by simpa using htruthy
    rw [new, Value.orElse_of_not_truthy hfalse, Value.toEntries_map]
    simp [hfalse, bind, Except.bind, pure, Except.pure]

namespace Scorecard

/-- A registration as its effects come one after the other: the record is looked for, made and stored. -/
def registering (identity : Identity) (metadata : Value) : ExceptT Value.Fault (StateM Scorecard) Record := do
  let found := (← get).get? identity
  match found with
  | some existing => return existing
  | none =>
    let record ← Record.new identity metadata
    modifyThe Scorecard (·.insert record)
    return record

/-- What a step answers. -/
inductive Reply where
  | registered (answer : Except Value.Fault Record)
  | ran (fault : Option RunFault)
  | done

/-- The answer of a step. -/
def Step.reply (s : Scorecard) : Step → Reply
  | .register identity metadata => .registered (registering identity metadata s).1
  | .run runner resources => .ran (runner.run resources s).2
  | _ => .done

/-- The answers of steps one after the other, each with the scorecard behind it, from which everything that can be
asked of a scorecard is read. -/
def trace : List Step → Scorecard → List (Reply × Scorecard)
  | [], _ => []
  | step :: rest, s => (step.reply s, step.apply s) :: trace rest (step.apply s)

/-! ### Registration by its effects -/

theorem registering_eq (s : Scorecard) (i : Identity) (metadata : Value) :
    registering i metadata s =
      match s.get? i with
      | some existing => (.ok existing, s)
      | none =>
        match Record.new i metadata with
        | .ok r => (.ok r, s.insert r)
        | .error fault => (.error fault, s) := by
  unfold registering
  simp only [bind, ExceptT.bind, ExceptT.mk, StateT.bind, ExceptT.bindCont, get, getThe, MonadStateOf.get, liftM,
    monadLift, MonadLift.monadLift, ExceptT.lift, StateT.get, Functor.map, StateT.map, pure]
  cases s.get? i with
  | some existing => rfl
  | none => cases Record.new i metadata <;> rfl

theorem registering_of_some {s : Scorecard} {i : Identity} {r : Record} (h : s.get? i = some r) (metadata : Value) :
    registering i metadata s = (.ok r, s) := by
  rw [registering_eq, h]

/-- A scorecard with a resource registered is what the effects of the registration leave, unless it is refused. -/
theorem register_eq (s : Scorecard) (i : Identity) (metadata : Value) :
    s.register i metadata = (registering i metadata s).1.map fun _ => (registering i metadata s).2 := by
  rw [registering_eq, register]
  cases hget : s.get? i with
  | some existing => simp [contains, hget, Except.map]
  | none => cases Record.new i metadata <;> simp [contains, hget, Except.map]

theorem registering_of_error {s : Scorecard} {i : Identity} {metadata : Value} {fault : Value.Fault}
    (h : (registering i metadata s).1 = .error fault) : (registering i metadata s).2 = s := by
  rw [registering_eq] at h ⊢
  cases hget : s.get? i with
  | some existing => rfl
  | none => cases hnew : Record.new i metadata with
    | ok r => simp [hget, hnew] at h
    | error fault => rfl

/-- A step leaves the scorecard that the effects of its registration leave. -/
theorem registering_snd (s : Scorecard) (i : Identity) (metadata : Value) :
    (registering i metadata s).2 = (Step.register i metadata).apply s := by
  rw [Step.apply, register_eq]
  cases hanswer : (registering i metadata s).1 with
  | ok r => rfl
  | error fault => exact registering_of_error hanswer

/-- A registration is refused exactly if there is no record and the metadata is given and cannot be turned into
entries. -/
theorem exists_registering_error_iff {s : Scorecard} {i : Identity} {metadata : Value} :
    (∃ fault, (registering i metadata s).1 = .error fault) ↔
      s.get? i = none ∧ metadata.isTruthy ∧ ¬metadata.IsEntries := by
  rw [← Record.exists_new_error_iff i, registering_eq]
  cases s.get? i with
  | some existing => simp
  | none => cases Record.new i metadata <;> simp

/-! ### Later steps -/

theorem trace_append (first later : List Step) (s : Scorecard) :
    trace (first ++ later) s = trace first s ++ trace later (first.foldl Step.apply s) := by
  induction first generalizing s with
  | nil => rfl
  | cons step rest ih => rw [List.cons_append, trace, trace, ih, List.cons_append, List.foldl_cons]

theorem after_append (first later : List Step) : after (first ++ later) = later.foldl Step.apply (after first) :=
  List.foldl_append

/-- Whatever is done, a record keeps the metadata and the ignored checks that it was opened with. -/
theorem exists_kept_of_get? (later : List Step) {s : Scorecard} {i : Identity} {r : Record} (h : s.get? i = some r) :
    ∃ r', (later.foldl Step.apply s).get? i = some r' ∧ r'.metadata = r.metadata ∧ r'.ignored = r.ignored ∧
      r.outcomes <+: r'.outcomes := by
  induction later generalizing s r with
  | nil => exact ⟨r, h, rfl, rfl, List.prefix_refl _⟩
  | cons step rest ih =>
      obtain ⟨r₁, hr₁, added, rfl, _⟩ := step.exists_grows_of_get? h
      obtain ⟨r', hr', hmetadata, hignored, houtcomes⟩ := ih hr₁
      exact ⟨r', hr', hmetadata, hignored, (List.prefix_append _ _).trans houtcomes⟩

/-- A registration that opens a record puts it behind the others. -/
theorem apply_register_of_new {s : Scorecard} {i : Identity} {metadata : Value} {r : Record} (h : s.get? i = none)
    (hnew : Record.new i metadata = .ok r) : (Step.register i metadata).apply s = s.insert r := by
  rw [← registering_snd, registering_eq, h, hnew]

/-- What it is that a refused registration leaves no trace: the scorecard stays as it is; whatever is done next, the
answers are those without the attempt, apart from the one refusal; and the registration that opens the record later is
the first one of its resource, which puts it behind the others and decides its metadata for good. -/
structure LeavesNoTrace (before : List Step) (i : Identity) (metadata : Value) : Prop where
  same : (registering i metadata (after before)).2 = after before
  answers : ∀ continuation, ∃ fault,
    trace (before ++ .register i metadata :: continuation) empty =
        trace before empty ++
          (.registered (.error fault), after before) :: trace continuation (after before) ∧
      trace (before ++ continuation) empty = trace before empty ++ trace continuation (after before)
  opensLater : ∀ between later metadata' r, (after (before ++ between)).get? i = none →
    Record.new i metadata' = .ok r →
    (after (before ++ .register i metadata :: between ++ [.register i metadata'])).records =
        (after (before ++ between)).records ++ [r] ∧
      ∃ r', (after (before ++ .register i metadata :: between ++ .register i metadata' :: later)).get? i = some r' ∧
        r'.metadata = r.metadata ∧ r'.ignored = r.ignored

theorem leavesNoTrace {before : List Step} {i : Identity} {metadata : Value}
    (h : ∃ fault, (registering i metadata (after before)).1 = .error fault) : LeavesNoTrace before i metadata := by
  obtain ⟨fault, hfault⟩ := h
  have hsame := registering_of_error hfault
  have happly : (Step.register i metadata).apply (after before) = after before := by rw [← registering_snd, hsame]
  have hbetween (between : List Step) :
      after (before ++ .register i metadata :: between) = after (before ++ between) := by
    rw [after_append, List.foldl_cons, happly, after_append]
  refine ⟨hsame, fun continuation => ⟨fault, ?_, trace_append before continuation empty⟩, ?_⟩
  · rw [trace_append, trace, Step.reply, ← after, hfault, happly]
  · intro between later metadata' r hnone hnew
    have hidentity := (Record.identity_new hnew).1
    have hopened : after (before ++ .register i metadata :: between ++ [.register i metadata']) =
        (after (before ++ between)).insert r := by
      rw [after_concat, hbetween, apply_register_of_new hnone hnew]
    have hnot : r.identity ∉ (after (before ++ between)).identities := hidentity ▸ get?_eq_none_iff.1 hnone
    refine ⟨?_, ?_⟩
    · rw [hopened, records_insert hnot]
    · have hget : ((after (before ++ between)).insert r).get? i = some r := by
        rw [get?_insert hnot, hnone, hidentity, if_pos rfl, Option.none_or]
      obtain ⟨r', hr', hmetadata, hignored, _⟩ := exists_kept_of_get? later hget
      refine ⟨r', ?_, hmetadata, hignored⟩
      rw [List.append_cons, after_append, hopened]
      exact hr'

/-- After every history, a registration has the effects of looking for the record, making it and storing it. That of a
resource with a record answers with this record, whatever comes with it, and changes nothing. That of another one is
refused exactly if its metadata is given and cannot be turned into entries, and then it leaves no trace. -/
theorem refused_registration_leaves_no_trace (before : List Step) (i : Identity) (metadata : Value) :
    ((after before).register i metadata = (registering i metadata (after before)).1.map fun _ =>
        (registering i metadata (after before)).2) ∧
      (∀ r, (after before).get? i = some r → registering i metadata (after before) = (.ok r, after before)) ∧
      ((after before).get? i = none →
        ((∃ fault, (registering i metadata (after before)).1 = .error fault) ↔
          metadata.isTruthy ∧ ¬metadata.IsEntries) ∧
        (metadata.isTruthy → ¬metadata.IsEntries → LeavesNoTrace before i metadata)) := by
  refine ⟨register_eq _ i metadata, fun r hr => registering_of_some hr metadata,
    fun hnone => ⟨?_, fun htruthy hentries => ?_⟩⟩
  · rw [exists_registering_error_iff, and_iff_right hnone]
  · exact leavesNoTrace (exists_registering_error_iff.2 ⟨hnone, htruthy, hentries⟩)

/-- A resource that has a record. -/
def database : Identity := ⟨"Pod", "v1", "", "db"⟩

/-- A resource that has none. -/
def newcomer : Identity := ⟨"Pod", "v1", "", "web"⟩

theorem refused_registration_leaves_no_trace_newcomer :
    let before : List Step := [.register database .null]
    (∃ r, (after before).get? database = some r ∧
        registering database (.list [.text "app"]) (after before) = (.ok r, after before)) ∧
      (after before).get? newcomer = none ∧ (Value.list [.text "app"]).isTruthy ∧
      ¬(Value.list [.text "app"]).IsEntries ∧ LeavesNoTrace before newcomer (.list [.text "app"]) := by
  intro before
  obtain ⟨r, hr⟩ : ∃ r, (after before).get? database = some r := ⟨_, rfl⟩
  have hnone : (after before).get? newcomer = none := rfl
  have hrefused : ∃ fault, (registering newcomer (.list [.text "app"]) (after before)).1 = .error fault := ⟨_, rfl⟩
  obtain ⟨_, hkept, _⟩ := refused_registration_leaves_no_trace before database (.list [.text "app"])
  obtain ⟨_, _, hnew⟩ := refused_registration_leaves_no_trace before newcomer (.list [.text "app"])
  obtain ⟨hiff, htrace⟩ := hnew hnone
  obtain ⟨hgiven, hentries⟩ := hiff.1 hrefused
  exact ⟨⟨r, hr, hkept r hr⟩, hnone, hgiven, hentries, htrace hgiven hentries⟩

end Scorecard

end ManifestGrading
