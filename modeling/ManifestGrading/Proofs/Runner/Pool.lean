import ManifestGrading.Proofs.Runner.Visits

/-! Several workers at the resources of a run. Each resource is the task of one worker, and a task moves in small
steps: it looks at the resource with the next rule, or it records one finding. A schedule says which task
moves next, and any schedule will do that never begins more tasks than there are workers. Every move puts a part
of what the task owes to its record there, and no move touches the record of another task, so what a task has recorded
together with what it still owes is at all times what a visit of its resource yields. -/

namespace ManifestGrading

/-- How far a worker has come with a resource: not begun, in front of rules, with findings of a check that are not yet
recorded, or at the end. -/
inductive Stage where
  | waiting
  | looking (rules : List Rule)
  | recording (check : Check) (found : List Finding) (rules : List Rule)
  | ended (fault : Option RunFault)

/-- A resource and how far a worker has come with it. -/
structure Task where
  resource : Resource
  stage : Stage

/-- The tasks of all workers and the scorecard that they share. -/
structure Pool where
  scorecard : Scorecard
  tasks : List Task

namespace Scorecard

/-- The checks that do not count for a resource. -/
def ignoredAt (s : Scorecard) (i : Identity) : IdSet := ((s.get? i).map Record.ignored).getD .empty

/-- A scorecard that is an earlier one with outcomes added to one record, and comments. -/
structure GainsAt (i : Identity) (added : List Outcome) (said : List Posting) (s t : Scorecard) : Prop where
  identities : t.identities = s.identities
  postings : t.postings = s.postings ++ said
  records : ∀ j, t.get? j = (s.get? j).map (·.extend (if i = j then added else []))

theorem gainsAt_refl (i : Identity) (s : Scorecard) : s.GainsAt i [] [] s where
  identities := rfl
  postings := (List.append_nil _).symm
  records j := by simp

theorem gainsAt_post (i : Identity) (said : List Posting) (s : Scorecard) : s.GainsAt i [] said (s.post said) where
  identities := rfl
  postings := rfl
  records j := by simp

theorem gainsAt_add (s : Scorecard) (i : Identity) (o : Outcome) (check : Check) :
    s.GainsAt i (if check.id ∈ s.ignoredAt i then [] else [o.stamped check]) [] (s.add i o check) where
  identities := identities_modify s i _
  postings := (List.append_nil _).symm
  records j := by
    by_cases hj : i = j
    · subst hj
      rw [add, get?_modify, ignoredAt]
      cases hget : s.get? i with
      | none => rfl
      | some r =>
          have hr := (get?_eq_some_iff.1 hget).2
          simp [changedAt, hr, Record.add_eq_extend, Record.extend]
    · rw [add, get?_modify_of_ne s (Ne.symm hj)]
      simp [hj]

end Scorecard

namespace Stage

variable {rules : List Rule} {resource : Resource} {s t : Scorecard} {stage next : Stage}

/-- Whether a worker is at a task. -/
def isActive : Stage → Bool
  | looking _ | recording _ _ _ => true
  | waiting | ended _ => false

/-- Whether a task has not begun. -/
def isWaiting : Stage → Bool
  | waiting => true
  | _ => false

/-- The fault that a task has ended with. -/
def fault? : Stage → Option RunFault
  | ended fault => fault
  | _ => none

/-- Whether a task is at its end. -/
def isEnded : Stage → Bool
  | ended _ => true
  | _ => false

/-- The next move of a task: the scorecard and the stage after it. -/
def advance (rules : List Rule) (resource : Resource) (s : Scorecard) : Stage → Option (Scorecard × Stage)
  | waiting => some (s, looking rules)
  | looking [] => some (s, ended none)
  | looking (rule :: rest) =>
    if rule.appliesTo resource.kind then
      let evaluation := rule.evaluate resource
      match evaluation.result with
      | .error reason =>
        some (s.post evaluation.said, ended (some (.check rule.check.id resource.identity.ref reason)))
      | .ok found => some (s.post evaluation.said, recording rule.check found rest)
    else some (s, looking rest)
  | recording _ [] rest => some (s, looking rest)
  | recording check (.outcome o :: found) rest => some (s.add resource.identity o check, recording check found rest)
  | recording check (.stray kind :: found) rest =>
    some (s, if check.id ∈ s.ignoredAt resource.identity then recording check found rest
      else ended (some (.stray kind)))
  | ended _ => none

/-- What a task still owes to its record. -/
def rest (rules : List Rule) (resource : Resource) (ignored : IdSet) : Stage → Yield
  | waiting => Rule.yieldAll resource ignored rules
  | looking rules => Rule.yieldAll resource ignored rules
  | recording check found rules => (check.yield ignored found).andThen (Rule.yieldAll resource ignored rules)
  | ended fault => ⟨[], [], fault⟩

theorem rest_of_isEnded (h : stage.isEnded) (ignored : IdSet) :
    stage.rest rules resource ignored = ⟨[], [], stage.fault?⟩ := by
  cases stage with
  | ended fault => rfl
  | waiting | looking _ | recording _ _ _ => cases h

theorem rest_looking_cons (rule : Rule) (later : List Rule) (ignored : IdSet) :
    (looking (rule :: later)).rest rules resource ignored =
      (rule.yield resource ignored).andThen ((looking later).rest rules resource ignored) := rfl

/-- A finding is owed in front of the other ones, if its check counts. -/
theorem rest_recording_outcome (check : Check) (o : Outcome) (found : List Finding) (later : List Rule)
    (ignored : IdSet) :
    (recording check (.outcome o :: found) later).rest rules resource ignored =
      (⟨if check.id ∈ ignored then [] else [o.stamped check], [], none⟩ : Yield).andThen
        ((recording check found later).rest rules resource ignored) := by
  by_cases h : check.id ∈ ignored
  · simp [rest, Check.yield, h, Yield.andThen, Yield.nothing]
  · simp only [rest, Check.yield, h, if_false, Finding.leading, Finding.firstStray?, Yield.andThen]
    cases Finding.firstStray? found <;> simp

theorem rest_recording_stray (check : Check) (kind : String) (found : List Finding) (later : List Rule)
    (ignored : IdSet) :
    (recording check (.stray kind :: found) later).rest rules resource ignored =
      (if check.id ∈ ignored then recording check found later else ended (some (.stray kind))).rest rules resource
        ignored := by
  by_cases h : check.id ∈ ignored
  · simp [rest, Check.yield, h]
  · simp [rest, Check.yield, h, Finding.leading, Finding.firstStray?, Yield.andThen]

/-- All that a move of a task can be. -/
inductive Advances (rules : List Rule) (resource : Resource) (s : Scorecard) : Stage → Scorecard → Stage → Prop
  | begin : Advances rules resource s waiting s (looking rules)
  | finish : Advances rules resource s (looking []) s (ended none)
  | pass {rule : Rule} {later : List Rule} (happlies : ¬rule.appliesTo resource.kind) :
    Advances rules resource s (looking (rule :: later)) s (looking later)
  | fail {rule : Rule} {later : List Rule} {reason : RawText} (happlies : rule.appliesTo resource.kind)
    (hresult : (rule.evaluate resource).result = .error reason) :
    Advances rules resource s (looking (rule :: later)) (s.post (rule.evaluate resource).said)
      (ended (some (.check rule.check.id resource.identity.ref reason)))
  | find {rule : Rule} {later : List Rule} {found : List Finding} (happlies : rule.appliesTo resource.kind)
    (hresult : (rule.evaluate resource).result = .ok found) :
    Advances rules resource s (looking (rule :: later)) (s.post (rule.evaluate resource).said)
      (recording rule.check found later)
  | leave {check : Check} {later : List Rule} : Advances rules resource s (recording check [] later) s (looking later)
  | record {check : Check} {o : Outcome} {found : List Finding} {later : List Rule} :
    Advances rules resource s (recording check (.outcome o :: found) later) (s.add resource.identity o check)
      (recording check found later)
  | stray {check : Check} {kind : String} {found : List Finding} {later : List Rule} :
    Advances rules resource s (recording check (.stray kind :: found) later) s
      (if check.id ∈ s.ignoredAt resource.identity then recording check found later else ended (some (.stray kind)))

theorem advances_of_advance (h : stage.advance rules resource s = some (t, next)) :
    Advances rules resource s stage t next := by
  cases stage with
  | waiting =>
      obtain ⟨rfl, rfl⟩ : s = t ∧ looking rules = next := by simpa [advance] using h
      exact .begin
  | looking ahead =>
      cases ahead with
      | nil =>
          obtain ⟨rfl, rfl⟩ : s = t ∧ ended none = next := by simpa [advance] using h
          exact .finish
      | cons rule later =>
          by_cases happlies : rule.appliesTo resource.kind
          · simp only [advance, happlies, if_true] at h
            cases hresult : (rule.evaluate resource).result with
            | error reason =>
                simp only [hresult, Option.some.injEq, Prod.mk.injEq] at h
                obtain ⟨rfl, rfl⟩ := h
                exact .fail happlies hresult
            | ok found =>
                simp only [hresult, Option.some.injEq, Prod.mk.injEq] at h
                obtain ⟨rfl, rfl⟩ := h
                exact .find happlies hresult
          · obtain ⟨rfl, rfl⟩ : s = t ∧ looking later = next := by simpa [advance, happlies] using h
            exact .pass happlies
  | recording check found later =>
      cases found with
      | nil =>
          obtain ⟨rfl, rfl⟩ : s = t ∧ looking later = next := by simpa [advance] using h
          exact .leave
      | cons f found =>
          cases f with
          | outcome o =>
              obtain ⟨rfl, rfl⟩ : s.add resource.identity o check = t ∧ recording check found later = next := by
                simpa [advance] using h
              exact .record
          | stray kind =>
              simp only [advance, Option.some.injEq, Prod.mk.injEq] at h
              obtain ⟨rfl, rfl⟩ := h
              exact .stray
  | ended fault => cases h

/-- One move of a task adds a part of what the task owes, and the task then owes what is left. -/
theorem Advances.gainsAt (h : Advances rules resource s stage t next) :
    ∃ added said, s.GainsAt resource.identity added said t ∧
      stage.rest rules resource (s.ignoredAt resource.identity) =
        (⟨added, said, none⟩ : Yield).andThen (next.rest rules resource (s.ignoredAt resource.identity)) := by
  have hstay : s.GainsAt resource.identity [] [] s := s.gainsAt_refl _
  cases h with
  | begin => exact ⟨[], [], hstay, rfl⟩
  | finish => exact ⟨[], [], hstay, rfl⟩
  | @pass rule later happlies =>
      refine ⟨[], [], hstay, ?_⟩
      have hnothing : rule.yield resource (s.ignoredAt resource.identity) = .nothing := if_neg happlies
      rw [rest_looking_cons, hnothing]
      rfl
  | @fail rule later reason happlies hresult =>
      refine ⟨[], (rule.evaluate resource).said, s.gainsAt_post _ _, ?_⟩
      rw [rest_looking_cons]
      simp [Rule.yield, happlies, hresult, rest, Yield.andThen]
  | @find rule later found happlies hresult =>
      refine ⟨[], (rule.evaluate resource).said, s.gainsAt_post _ _, ?_⟩
      have hyield : rule.yield resource (s.ignoredAt resource.identity) =
          { rule.check.yield (s.ignoredAt resource.identity) found with said := (rule.evaluate resource).said } := by
        simp [Rule.yield, happlies, hresult]
      rw [rest_looking_cons, hyield]
      exact Yield.andThen_of_said (rule.check.yield_said _ found) _ _
  | @leave check later =>
      refine ⟨[], [], hstay, ?_⟩
      show (check.yield (s.ignoredAt resource.identity) []).andThen _ = _
      rw [Check.yield_nil]
      rfl
  | @record check o found later =>
      exact ⟨_, [], s.gainsAt_add _ o check, rest_recording_outcome check o found later _⟩
  | @stray check kind found later =>
      refine ⟨[], [], hstay, ?_⟩
      rw [rest_recording_stray]
      rfl

end Stage

namespace Task

/-- A task whose record holds a part of what a visit of its resource yields at the start, and which owes the rest. -/
def Owes (start : Scorecard) (rules : List Rule) (s : Scorecard) (task : Task) : Prop :=
  ∃ r added said, start.get? task.resource.identity = some r ∧
    s.get? task.resource.identity = some (r.extend added) ∧
    (⟨added, said, none⟩ : Yield).andThen (task.stage.rest rules task.resource r.ignored) =
      start.yieldOf rules task.resource

variable {start s t : Scorecard} {rules : List Rule} {task : Task}

/-- What another record gains does not matter to a task. -/
theorem Owes.frame (h : task.Owes start rules s) {i : Identity} {added : List Outcome} {said : List Posting}
    (hgains : s.GainsAt i added said t) (hne : i ≠ task.resource.identity) : task.Owes start rules t := by
  obtain ⟨r, held, told, hstart, hnow, howes⟩ := h
  exact ⟨r, held, told, hstart, by simp [hgains.records, hne, hnow], howes⟩

/-- A move of a task puts a part of what it owes to its record. -/
theorem Owes.advance (h : task.Owes start rules s) {next : Stage}
    (hadvance : task.stage.advance rules task.resource s = some (t, next)) :
    ∃ added said, s.GainsAt task.resource.identity added said t ∧ Owes start rules t ⟨task.resource, next⟩ ∧
      ((∀ rule ∈ rules, rule.IsSilent) → said = []) := by
  obtain ⟨r, held, told, hstart, hnow, howes⟩ := h
  obtain ⟨added, said, hgains, hrest⟩ := (Stage.advances_of_advance hadvance).gainsAt
  have hignored : s.ignoredAt task.resource.identity = r.ignored := by simp [Scorecard.ignoredAt, hnow]
  rw [hignored] at hrest
  rw [hrest, Yield.andThen_andThen_of_none] at howes
  refine ⟨added, said, hgains, ⟨r, held ++ added, told ++ said, hstart, by simp [hgains.records, hnow], howes⟩,
    fun hsilent => ?_⟩
  have hquiet := start.yieldOf_said_of_isSilent hsilent task.resource
  rw [← howes, Yield.andThen_of_none rfl] at hquiet
  exact (List.append_eq_nil_iff.1 (List.append_eq_nil_iff.1 hquiet).1).2

end Task

namespace Pool

variable {rules : List Rule} {workers : Nat} {pending : List Resource} {s : Scorecard} {p q : Pool}

/-- The tasks of a run, none of which has begun. -/
def ofResources (s : Scorecard) (pending : List Resource) : Pool := ⟨s, pending.map fun r => ⟨r, .waiting⟩⟩

/-- The number of tasks that a worker is at. -/
def active (p : Pool) : Nat := p.tasks.countP (·.stage.isActive)

/-- The pool after a move of the task at a position. A task begins only if there is a worker for it. -/
def move (rules : List Rule) (workers : Nat) (p : Pool) (k : Nat) : Option Pool :=
  match p.tasks[k]? with
  | none => none
  | some task =>
    if task.stage.isWaiting ∧ workers ≤ p.active then none
    else (task.stage.advance rules task.resource p.scorecard).map fun (s, stage) =>
      ⟨s, p.tasks.set k ⟨task.resource, stage⟩⟩

/-- The pool after the moves of a schedule, which names the position of one task after the other. -/
def follow (rules : List Rule) (workers : Nat) (p : Pool) (schedule : List Nat) : Option Pool :=
  schedule.foldlM (move rules workers) p

/-- Whether all tasks are at their end. -/
def isFinished (p : Pool) : Bool := p.tasks.all (·.stage.isEnded)

/-- The fault of the first task that ended with one. -/
def fault? (p : Pool) : Option RunFault := p.tasks.findSome? (·.stage.fault?)

theorem move_eq_some_iff {k : Nat} :
    p.move rules workers k = some q ↔
      ∃ task t stage, p.tasks[k]? = some task ∧ (task.stage.isWaiting → p.active < workers) ∧
        task.stage.advance rules task.resource p.scorecard = some (t, stage) ∧
        q = ⟨t, p.tasks.set k ⟨task.resource, stage⟩⟩ := by
  unfold move
  cases htask : p.tasks[k]? with
  | none => simp
  | some task =>
      by_cases hbusy : task.stage.isWaiting ∧ workers ≤ p.active
      · simp only [if_pos hbusy]
        refine ⟨nofun, ?_⟩
        rintro ⟨_, _, _, hsame, hfree, _⟩
        cases hsame
        have hlt := hfree hbusy.1
        omega
      · simp only [if_neg hbusy]
        have hfree : task.stage.isWaiting → p.active < workers := fun hwaiting => by
          by_contra hfull
          exact hbusy ⟨hwaiting, by omega⟩
        constructor
        · intro h
          obtain ⟨⟨t, stage⟩, hadvance, rfl⟩ := Option.map_eq_some_iff.1 h
          exact ⟨task, t, stage, rfl, hfree, hadvance, rfl⟩
        · rintro ⟨_, t, stage, hsame, _, hadvance, rfl⟩
          cases hsame
          simp [hadvance]

theorem follow_cons_eq_some_iff {k : Nat} {later : List Nat} :
    p.follow rules workers (k :: later) = some q ↔
      ∃ between, p.move rules workers k = some between ∧ between.follow rules workers later = some q := by
  simp [follow, List.foldlM_cons, Option.bind_eq_some_iff]

/-! ### What tasks owe -/

/-- What all moves preserve: the tasks are those of the start, each owes what is missing on its record, and nothing else
has changed but for comments. -/
structure Sound (start : Scorecard) (rules : List Rule) (pending : List Resource) (p : Pool) : Prop where
  resources : p.tasks.map Task.resource = pending
  identities : p.scorecard.identities = start.identities
  others : ∀ i, i ∉ pending.map Resource.identity → p.scorecard.get? i = start.get? i
  owes : ∀ task ∈ p.tasks, task.Owes start rules p.scorecard
  postings : (∀ rule ∈ rules, rule.IsSilent) → p.scorecard.postings = start.postings

theorem sound_ofResources (rules : List Rule) (h : ∀ r ∈ pending, r.identity ∈ s.identities) :
    (ofResources s pending).Sound s rules pending where
  resources := by simp [ofResources, Function.comp_def]
  identities := rfl
  others _ _ := rfl
  owes task htask := by
    obtain ⟨resource, hresource, rfl⟩ := List.mem_map.1 htask
    obtain ⟨r, hr⟩ := Scorecard.exists_get?_of_mem (h resource hresource)
    refine ⟨r, [], [], hr, by simpa [ofResources] using hr, ?_⟩
    rw [Scorecard.yieldOf, hr]
    rfl
  postings _ := rfl

theorem resources_set {tasks : List Task} {k : Nat} {task : Task} (h : tasks[k]? = some task) (stage : Stage) :
    (tasks.set k ⟨task.resource, stage⟩).map Task.resource = tasks.map Task.resource := by
  refine List.ext_getElem? fun j => ?_
  by_cases hj : k = j
  · subst hj
    rw [List.getElem?_map, List.getElem?_map, List.getElem?_set_self (List.getElem?_eq_some_iff.1 h).1, h]
    rfl
  · rw [List.getElem?_map, List.getElem?_map, List.getElem?_set_ne hj]

/-- A move of one task leaves the others their records, since no two tasks are about one resource. -/
theorem Sound.move (h : p.Sound s rules pending) (hdistinct : (pending.map Resource.identity).Nodup) {k : Nat}
    (hmove : p.move rules workers k = some q) : q.Sound s rules pending := by
  obtain ⟨task, t, stage, htask, _, hadvance, rfl⟩ := move_eq_some_iff.1 hmove
  obtain ⟨added, said, hgains, howes, hquiet⟩ := (h.owes task (List.mem_of_getElem? htask)).advance hadvance
  have hlt : k < p.tasks.length := (List.getElem?_eq_some_iff.1 htask).1
  refine ⟨(resources_set htask stage).trans h.resources, hgains.identities.trans h.identities, fun i hi => ?_,
    fun other hother => ?_, fun hsilent => ?_⟩
  · have hmem : task.resource.identity ∈ pending.map Resource.identity := by
      rw [← h.resources]
      exact List.mem_map_of_mem (List.mem_map_of_mem (List.mem_of_getElem? htask))
    have hne : task.resource.identity ≠ i := fun heq => hi (heq ▸ hmem)
    simp [hgains.records, hne, h.others i hi]
  · obtain ⟨j, hj⟩ := List.mem_iff_getElem?.1 hother
    by_cases hjk : k = j
    · subst hjk
      obtain rfl : ⟨task.resource, stage⟩ = other := by simpa [List.getElem?_set, hlt] using hj
      exact howes
    · have hold : p.tasks[j]? = some other := by simpa [List.getElem?_set, hjk] using hj
      have hne : task.resource.identity ≠ other.resource.identity := by
        intro heq
        rw [← h.resources, List.map_map] at hdistinct
        refine hjk ((List.getElem?_inj ?_ hdistinct).1 ?_)
        · simpa using hlt
        · simp [htask, hold, heq]
      exact (h.owes other (List.mem_of_getElem? hold)).frame hgains hne
  · rw [hgains.postings, hquiet hsilent, List.append_nil]
    exact h.postings hsilent

/-- What every schedule preserves. -/
theorem Sound.follow (h : p.Sound s rules pending) (hdistinct : (pending.map Resource.identity).Nodup)
    {schedule : List Nat} (hfollow : p.follow rules workers schedule = some q) : q.Sound s rules pending := by
  induction schedule generalizing p with
  | nil =>
      obtain rfl : p = q := by simpa [Pool.follow] using hfollow
      exact h
  | cons k later ih =>
      obtain ⟨between, hmove, hlater⟩ := follow_cons_eq_some_iff.1 hfollow
      exact ih (h.move hdistinct hmove) hlater

/-- The tasks of a finished pool owe nothing, so its scorecard is that of all visits, and its fault is theirs. -/
theorem Sound.eq_visitAll (h : p.Sound s rules pending) (hdistinct : (pending.map Resource.identity).Nodup)
    (hfinished : p.isFinished) (hsilent : ∀ rule ∈ rules, rule.IsSilent) :
    (p.scorecard, p.fault?) = s.visitAll rules pending := by
  have howed : ∀ task ∈ p.tasks, ∃ r, s.get? task.resource.identity = some r ∧
      p.scorecard.get? task.resource.identity = some (r.extend (s.yieldOf rules task.resource).outcomes) ∧
      task.stage.fault? = (s.yieldOf rules task.resource).fault := by
    intro task htask
    obtain ⟨r, added, said, hstart, hnow, howes⟩ := h.owes task htask
    rw [Stage.rest_of_isEnded (List.all_eq_true.1 hfinished task htask), Yield.andThen_of_none rfl] at howes
    rw [← howes]
    exact ⟨r, hstart, by simpa using hnow, rfl⟩
  refine Prod.ext (Scorecard.ext_get? ?_ (fun i => ?_) ?_) ?_
  · exact h.identities.trans (Scorecard.identities_visitAll s rules pending).symm
  · rw [Scorecard.get?_visitAll]
    by_cases hi : i ∈ pending.map Resource.identity
    · obtain ⟨resource, hresource, rfl⟩ := List.mem_map.1 hi
      obtain ⟨task, htask, rfl⟩ : ∃ task ∈ p.tasks, task.resource = resource := by
        rw [← h.resources] at hresource
        exact List.mem_map.1 hresource
      obtain ⟨r, hstart, hnow, _⟩ := howed task htask
      rw [hnow, hstart, Scorecard.outcomesFor_of_mem _ _ hdistinct hresource, Option.map_some]
    · rw [h.others i hi, Scorecard.outcomesFor_of_not_mem _ _ hi]
      simp
  · rw [Scorecard.postings_visitAll_of_isSilent _ hsilent, h.postings hsilent]
  · rw [Scorecard.visitAll_snd, ← h.resources, List.findSome?_map, fault?, ← List.head?_filterMap,
      ← List.head?_filterMap, List.filterMap_congr]
    intro task htask
    obtain ⟨_, _, _, hfault⟩ := howed task htask
    exact hfault

/-! ### Schedules -/

/-- There are never more tasks begun than workers. -/
theorem active_move_le (h : p.active ≤ workers) {k : Nat} (hmove : p.move rules workers k = some q) :
    q.active ≤ workers := by
  obtain ⟨task, t, stage, htask, hfree, hadvance, rfl⟩ := move_eq_some_iff.1 hmove
  obtain ⟨hlt, hget⟩ := List.getElem?_eq_some_iff.1 htask
  have hcount : (p.tasks.set k ⟨task.resource, stage⟩).countP (·.stage.isActive) =
      p.active - (if task.stage.isActive then 1 else 0) + (if stage.isActive then 1 else 0) := by
    rw [List.countP_set hlt, hget, active]
  show (p.tasks.set k ⟨task.resource, stage⟩).countP (·.stage.isActive) ≤ workers
  have hpositive : task.stage.isActive → 0 < p.active := fun hactive =>
    List.countP_pos_iff.2 ⟨task, List.mem_of_getElem? htask, hactive⟩
  rw [hcount]
  have hone : (if stage.isActive then 1 else 0) ≤ 1 := by split <;> omega
  by_cases hactive : task.stage.isActive
  · have hpos := hpositive hactive
    rw [if_pos hactive]
    omega
  · have hwaiting : task.stage.isWaiting := by
      cases hstage : task.stage with
      | waiting => rfl
      | looking _ | recording _ _ _ => exact absurd (by rw [hstage]; rfl) hactive
      | ended _ =>
          rw [hstage] at hadvance
          cases hadvance
    have hbelow := hfree hwaiting
    omega

theorem active_follow_le (h : p.active ≤ workers) {schedule : List Nat}
    (hfollow : p.follow rules workers schedule = some q) : q.active ≤ workers := by
  induction schedule generalizing p with
  | nil =>
      obtain rfl : p = q := by simpa [Pool.follow] using hfollow
      exact h
  | cons k later ih =>
      obtain ⟨between, hmove, hlater⟩ := follow_cons_eq_some_iff.1 hfollow
      exact ih (active_move_le h hmove) hlater

end Pool

namespace Stage

/-- A bound on the moves that a task has ahead of it with rules. -/
def sizeOfRules (resource : Resource) : List Rule → Nat
  | [] => 1
  | rule :: rest =>
    match (rule.evaluate resource).result with
    | .error _ => 1 + sizeOfRules resource rest
    | .ok found => found.length + 2 + sizeOfRules resource rest

/-- A bound on the moves that a task has ahead of it. -/
def size (rules : List Rule) (resource : Resource) : Stage → Nat
  | waiting => 1 + sizeOfRules resource rules
  | looking rules => sizeOfRules resource rules
  | recording _ found rules => found.length + 1 + sizeOfRules resource rules
  | ended _ => 0

theorem sizeOfRules_pos (resource : Resource) (rules : List Rule) : 0 < sizeOfRules resource rules := by
  cases rules with
  | nil => exact Nat.one_pos
  | cons rule rest =>
      unfold sizeOfRules
      split <;> omega

theorem sizeOfRules_lt_cons (resource : Resource) (rule : Rule) (later : List Rule) :
    sizeOfRules resource later < sizeOfRules resource (rule :: later) := by
  conv => rhs; unfold sizeOfRules
  split <;> omega

theorem Advances.size_lt {rules : List Rule} {resource : Resource} {s t : Scorecard} {stage next : Stage}
    (h : Advances rules resource s stage t next) : next.size rules resource < stage.size rules resource := by
  cases h with
  | begin => simp [size]
  | finish => simp [size, sizeOfRules]
  | pass => exact sizeOfRules_lt_cons resource _ _
  | fail => exact sizeOfRules_pos resource _
  | find _ hresult =>
      simp only [size, sizeOfRules, hresult]
      omega
  | leave => simp [size]
  | record => simp [size]
  | stray =>
      split
      · simp [size]
      · simp only [size]
        omega

theorem advance_isSome (rules : List Rule) (resource : Resource) (s : Scorecard) {stage : Stage}
    (h : stage.isEnded = false) : (stage.advance rules resource s).isSome := by
  cases stage with
  | waiting => rfl
  | looking ahead =>
      cases ahead with
      | nil => rfl
      | cons rule later =>
          simp only [advance]
          split
          · split <;> rfl
          · rfl
  | recording check found later =>
      cases found with
      | nil => rfl
      | cons f found => cases f <;> rfl
  | ended fault => cases h

end Stage

namespace Pool

variable {rules : List Rule} {workers : Nat} {p q : Pool}

/-- A bound on the moves that tasks have ahead of them. -/
def sizeOfTasks (rules : List Rule) : List Task → Nat
  | [] => 0
  | task :: rest => task.stage.size rules task.resource + sizeOfTasks rules rest

theorem sizeOfTasks_append (rules : List Rule) (a b : List Task) :
    sizeOfTasks rules (a ++ b) = sizeOfTasks rules a + sizeOfTasks rules b := by
  induction a with
  | nil => simp [sizeOfTasks]
  | cons task rest ih => rw [List.cons_append, sizeOfTasks, sizeOfTasks, ih, Nat.add_assoc]

theorem sizeOfTasks_move_lt {k : Nat} (h : p.move rules workers k = some q) :
    sizeOfTasks rules q.tasks < sizeOfTasks rules p.tasks := by
  obtain ⟨task, t, stage, htask, _, hadvance, rfl⟩ := move_eq_some_iff.1 h
  obtain ⟨hlt, hget⟩ := List.getElem?_eq_some_iff.1 htask
  have hless := (Stage.advances_of_advance hadvance).size_lt
  have hold : p.tasks = p.tasks.take k ++ task :: p.tasks.drop (k + 1) := by
    rw [← hget, ← List.drop_eq_getElem_cons hlt, List.take_append_drop]
  have hnew : p.tasks.set k ⟨task.resource, stage⟩ =
      p.tasks.take k ++ ⟨task.resource, stage⟩ :: p.tasks.drop (k + 1) := by
    rw [List.set_eq_take_append_cons_drop, if_pos hlt]
  show sizeOfTasks rules (p.tasks.set k ⟨task.resource, stage⟩) < _
  conv => rhs; rw [hold]
  rw [hnew, sizeOfTasks_append, sizeOfTasks_append, sizeOfTasks, sizeOfTasks]
  exact Nat.add_lt_add_left (Nat.add_lt_add_right hless _) _

/-- As long as a task is not at its end, some task can move. -/
theorem exists_move (rules : List Rule) (hworkers : 0 < workers) (h : p.isFinished = false) :
    ∃ k q, p.move rules workers k = some q := by
  have hmove (task : Task) (hmem : task ∈ p.tasks) (hends : task.stage.isEnded = false)
      (hfree : task.stage.isWaiting → p.active < workers) : ∃ k q, p.move rules workers k = some q := by
    obtain ⟨k, hk⟩ := List.mem_iff_getElem?.1 hmem
    obtain ⟨⟨t, stage⟩, hadvance⟩ :=
      Option.isSome_iff_exists.1 (Stage.advance_isSome rules task.resource p.scorecard hends)
    exact ⟨k, _, move_eq_some_iff.2 ⟨task, t, stage, hk, hfree, hadvance, rfl⟩⟩
  by_cases hactive : ∃ task ∈ p.tasks, task.stage.isActive
  · -- a task that has begun needs no further worker
    obtain ⟨task, hmem, htask⟩ := hactive
    refine hmove task hmem ?_ ?_
    all_goals cases hstage : task.stage <;> simp_all [Stage.isActive, Stage.isEnded, Stage.isWaiting]
  · obtain ⟨task, hmem, htask⟩ : ∃ task ∈ p.tasks, task.stage.isEnded = false := by
      simpa [isFinished] using h
    refine hmove task hmem htask fun _ => ?_
    have hnone : p.active = 0 := List.countP_eq_zero.2 fun other hother hbusy => hactive ⟨other, hother, hbusy⟩
    omega

/-- Whatever has been done, a schedule leads from there to the end of all tasks. -/
theorem exists_follow_isFinished (rules : List Rule) (hworkers : 0 < workers) (p : Pool) :
    ∃ schedule q, p.follow rules workers schedule = some q ∧ q.isFinished := by
  induction hsize : sizeOfTasks rules p.tasks using Nat.strongRecOn generalizing p with
  | ind n ih =>
      cases hfinished : p.isFinished with
      | true => exact ⟨[], p, rfl, hfinished⟩
      | false =>
          obtain ⟨k, between, hmove⟩ := exists_move rules hworkers hfinished
          have hless := sizeOfTasks_move_lt hmove
          obtain ⟨later, q, hlater, hq⟩ := ih _ (hsize ▸ hless) between rfl
          exact ⟨k :: later, q, follow_cons_eq_some_iff.2 ⟨between, hmove, hlater⟩, hq⟩

end Pool

end ManifestGrading
