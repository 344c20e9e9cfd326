import ManifestGrading.Gate
import ManifestGrading.Session
import ManifestGrading.Proofs.Scorecard.Reachable

/-! Comments in a session. A thread stands for the list of comments that an outcome shares with its recorded copies.
Every draft opens a thread of its own, and a copy keeps the thread of its original, so a recorded outcome has the thread
of a draft exactly if it was put there by a step that offered this draft. A comment on the draft therefore reaches these
outcomes, in whatever records and under whatever checks they stand, and no others. Nothing else of a session changes by
a comment, in particular nothing that is graded. -/

namespace ManifestGrading

/-- An outcome that shares its comments with another one: the same outcome, perhaps as the verdict of another check. -/
def Outcome.IsCopyOf (p o : Outcome) : Prop := ∃ check, p = { o with check := check }

theorem Outcome.IsCopyOf.refl (o : Outcome) : o.IsCopyOf o := ⟨o.check, rfl⟩

theorem Outcome.IsCopyOf.stamped_eq {p o : Outcome} (h : p.IsCopyOf o) (check : Check) :
    p.stamped check = o.stamped check := by
  obtain ⟨_, rfl⟩ := h
  rfl

@[simp] theorem Outcome.thread_stamped (o : Outcome) (check : Check) : (o.stamped check).thread = o.thread := rfl

/-! ### Places in records -/

namespace Scorecard

/-- The outcome at a place of the record of a resource. -/
def at? (s : Scorecard) (i : Identity) (place : Nat) : Option Outcome := (s.get? i).bind (·.outcomes[place]?)

theorem at?_eq_some_iff {s : Scorecard} {i : Identity} {place : Nat} {p : Outcome} :
    s.at? i place = some p ↔ ∃ r, s.get? i = some r ∧ r.outcomes[place]? = some p := Option.bind_eq_some_iff

/-- Outcomes stay in their places. -/
theorem at?_apply_of_some (step : Step) {s : Scorecard} {i : Identity} {place : Nat} {p : Outcome}
    (h : s.at? i place = some p) : (step.apply s).at? i place = some p := by
  obtain ⟨r, hr, hp⟩ := at?_eq_some_iff.1 h
  obtain ⟨r', hr', added, rfl, _⟩ := step.exists_grows_of_get? hr
  refine at?_eq_some_iff.2 ⟨_, hr', ?_⟩
  rw [Record.outcomes_extend, List.getElem?_append_left (List.getElem?_eq_some_iff.1 hp).1, hp]

/-- An outcome is in its place already, or the place is new and the step offers what is put there. -/
theorem at?_apply_cases (step : Step) {s : Scorecard} {i : Identity} {place : Nat} {p : Outcome}
    (h : (step.apply s).at? i place = some p) :
    s.at? i place = some p ∨
      s.at? i place = none ∧ ∃ original check, step.Offers i original check ∧ p = original.stamped check := by
  obtain ⟨r', hr', hp⟩ := at?_eq_some_iff.1 h
  obtain ⟨r, ⟨hold, hnew⟩, added, rfl, hadded⟩ := step.exists_grows_apply hr'
  rw [Record.outcomes_extend] at hp
  by_cases hplace : place < r.outcomes.length
  · left
    cases hget : s.get? i with
    | none => simp [hnew hget] at hplace
    | some q =>
        obtain rfl := hold q hget
        rw [List.getElem?_append_left hplace] at hp
        exact at?_eq_some_iff.2 ⟨_, hget, hp⟩
  · right
    have hlength : r.outcomes.length ≤ place := Nat.le_of_not_lt hplace
    rw [List.getElem?_append_right hlength] at hp
    obtain ⟨original, check, hoffered, _, hstamped⟩ := hadded p (List.mem_of_getElem? hp)
    refine ⟨?_, original, check, hoffered, hstamped⟩
    cases hget : s.get? i with
    | none => simp [at?, hget]
    | some q =>
        obtain rfl := hold q hget
        simpa [at?, hget] using hlength

end Scorecard

namespace Session

/-- One thing that is done in a session. -/
inductive Step where
  | register (identity : Identity) (metadata : Value)
  | draft (name : String) (o : Outcome)
  | add (identity : Identity) (name : String) (check : Check)
  | comment (name : String) (note : Comment)
  | run (runner : Runner) (resources : List Resource) (threads : Nat)

/-- The outcomes that have been drafted, also those whose names have been given to others since. -/
def objects (s : Session) : List Outcome := s.drafts.map Prod.snd

namespace Step

/-- The session after a step. What is refused, or is about a name that there is not, leaves the session as it is. -/
def apply (s : Session) : Step → Session
  | register identity metadata =>
    match s.register identity metadata with
    | .ok t => t
    | .error _ => s
  | draft name o => s.draft name o
  | add identity name check => (s.draft? name).elim s fun o => s.add identity o check
  | comment name note => (s.draft? name).elim s fun o => s.comment o note
  | run runner resources threads => (s.run runner resources threads).1

/-- What a step does with the scorecard, if anything. -/
def onScorecard (s : Session) : Step → Option Scorecard.Step
  | register identity metadata => some (.register identity metadata)
  | draft _ _ => none
  | add identity name check => (s.draft? name).map fun o => .add identity o check
  | comment name note => (s.draft? name).map fun o => .comment o note
  | run runner resources _ => some (.run runner resources)

/-- Whether a step offers an outcome to the record of a resource, and the check that it is added under. -/
def Offers (s : Session) (step : Step) (i : Identity) (original : Outcome) (check : Check) : Prop :=
  ∃ t, step.onScorecard s = some t ∧ t.Offers i original check

/-- A run is right about threads if it numbers no list of comments of its own as that of a draft, or as one that is
still to come: each outcome that it offers has a thread that is in use then, which is that of a draft only if the
outcome is a copy of the draft. -/
def FitsIn (s : Session) (step : Step) : Prop :=
  match step with
  | run _ _ threads =>
    ∀ i original check thread, step.Offers s i original check → original.thread = some thread →
      thread < max s.threads threads ∧ ∀ d ∈ s.objects, d.thread = some thread → original.IsCopyOf d
  | _ => True

/-- Whether a step puts an outcome, or a copy of it, into a new place of a record. -/
def Puts (s : Session) (step : Step) (o : Outcome) (i : Identity) (place : Nat) : Prop :=
  s.scorecard.at? i place = none ∧ ∃ original check, step.Offers s i original check ∧ original.IsCopyOf o ∧
    (step.apply s).scorecard.at? i place = some (o.stamped check)

end Step

/-- The session after a history. -/
def after (history : List Step) : Session := history.foldl Step.apply start

/-- A history all of whose runs are right about threads. -/
def Fits (history : List Step) : Prop :=
  ∀ before step behind, history = before ++ step :: behind → step.FitsIn (after before)

/-- Whether the outcome at a place of a record is there since a step of the history offered a certain outcome. -/
def StemsFrom (history : List Step) (o : Outcome) (i : Identity) (place : Nat) : Prop :=
  ∃ before step behind, history = before ++ step :: behind ∧ step.Puts (after before) o i place

theorem after_append (history later : List Step) : after (history ++ later) = later.foldl Step.apply (after history) :=
  List.foldl_append

theorem after_concat (history : List Step) (step : Step) : after (history ++ [step]) = step.apply (after history) :=
  after_append history [step]

theorem StemsFrom.append {history : List Step} {o : Outcome} {i : Identity} {place : Nat}
    (h : StemsFrom history o i place) (later : List Step) : StemsFrom (history ++ later) o i place := by
  obtain ⟨before, step, behind, rfl, hputs⟩ := h
  exact ⟨before, step, behind ++ later, by simp, hputs⟩

/-! ### One step -/

namespace Step

variable {s : Session}

theorem scorecard_apply (step : Step) (s : Session) :
    (step.apply s).scorecard = (step.onScorecard s).elim s.scorecard fun t => t.apply s.scorecard := by
  cases step with
  | register identity metadata =>
      simp only [apply, onScorecard, Session.register, Scorecard.Step.apply, Option.elim_some]
      cases s.scorecard.register identity metadata <;> rfl
  | draft name o => rfl
  | add identity name check => cases hname : s.draft? name <;> (simp only [apply, onScorecard, hname]; rfl)
  | comment name note => cases hname : s.draft? name <;> (simp only [apply, onScorecard, hname]; rfl)
  | run runner resources threads => rfl

theorem at?_apply_of_some (step : Step) {i : Identity} {place : Nat} {p : Outcome}
    (h : s.scorecard.at? i place = some p) : (step.apply s).scorecard.at? i place = some p := by
  rw [scorecard_apply]
  cases step.onScorecard s with
  | none => exact h
  | some t => exact Scorecard.at?_apply_of_some t h

theorem at?_apply_cases (step : Step) {i : Identity} {place : Nat} {p : Outcome}
    (h : (step.apply s).scorecard.at? i place = some p) :
    s.scorecard.at? i place = some p ∨
      s.scorecard.at? i place = none ∧
        ∃ original check, step.Offers s i original check ∧ p = original.stamped check := by
  rw [scorecard_apply] at h
  cases hstep : step.onScorecard s with
  | none =>
      rw [hstep] at h
      exact Or.inl h
  | some t =>
      rw [hstep] at h
      refine (Scorecard.at?_apply_cases t h).imp_right fun ⟨hnone, original, check, hoffered, hp⟩ => ?_
      exact ⟨hnone, original, check, ⟨t, hstep, hoffered⟩, hp⟩

theorem mem_objects_of_draft? {name : String} {o : Outcome} (h : s.draft? name = some o) : o ∈ s.objects := by
  obtain ⟨before, behind, hdrafts, _⟩ := List.lookup_eq_some_iff.1 h
  exact List.mem_map.2 ⟨(name, o), by simp [hdrafts], rfl⟩

/-- A draft is a new object with a thread of its own; no other step drafts anything. -/
theorem objects_apply (step : Step) (s : Session) :
    (∃ name o, step = draft name o ∧ (step.apply s).objects = { o with thread := some s.threads } :: s.objects ∧
        (step.apply s).threads = s.threads + 1 ∧ (step.apply s).scorecard = s.scorecard) ∨
      (step.apply s).objects = s.objects ∧ s.threads ≤ (step.apply s).threads := by
  cases step with
  | register identity metadata =>
      right
      simp only [apply, Session.register]
      cases s.scorecard.register identity metadata <;> exact ⟨rfl, Nat.le_refl _⟩
  | draft name o => exact Or.inl ⟨name, o, rfl, rfl, rfl, rfl⟩
  | add identity name check =>
      right
      cases hname : s.draft? name <;> (simp only [apply, hname]; exact ⟨rfl, Nat.le_refl _⟩)
  | comment name note =>
      right
      cases hname : s.draft? name <;> (simp only [apply, hname]; exact ⟨rfl, Nat.le_refl _⟩)
  | run runner resources threads => exact Or.inr ⟨rfl, Nat.le_max_left _ _⟩

theorem objects_suffix_apply (step : Step) (s : Session) : s.objects <:+ (step.apply s).objects := by
  rcases step.objects_apply s with ⟨name, o, _, hobjects, _⟩ | ⟨hobjects, _⟩
  · rw [hobjects]
    exact List.suffix_cons _ _
  · simp only [hobjects, List.suffix_rfl]

end Step

theorem objects_suffix_foldl (later : List Step) (s : Session) : s.objects <:+ (later.foldl Step.apply s).objects := by
  induction later generalizing s with
  | nil => exact List.suffix_refl _
  | cons step rest ih => exact (step.objects_suffix_apply s).trans (ih _)

theorem at?_foldl_of_some (later : List Step) {s : Session} {i : Identity} {place : Nat} {p : Outcome}
    (h : s.scorecard.at? i place = some p) : (later.foldl Step.apply s).scorecard.at? i place = some p := by
  induction later generalizing s with
  | nil => exact h
  | cons step rest ih => exact ih (step.at?_apply_of_some h)

theorem StemsFrom.exists_at? {history : List Step} {o : Outcome} {i : Identity} {place : Nat}
    (h : StemsFrom history o i place) : ∃ check, (after history).scorecard.at? i place = some (o.stamped check) := by
  obtain ⟨before, step, behind, rfl, _, original, check, _, _, hput⟩ := h
  refine ⟨check, ?_⟩
  rw [after_append, List.foldl_cons]
  exact at?_foldl_of_some behind hput

/-! ### Threads -/

/-- What holds of the threads in a session with a history: every draft has one of its own, all those that outcomes have
are in use, and a recorded outcome has the thread of a draft only if it stems from the draft. -/
structure SharesThreads (history : List Step) (s : Session) : Prop where
  numbered : ∀ d ∈ s.objects, ∃ thread < s.threads, d.thread = some thread
  distinct : ∀ d ∈ s.objects, ∀ e ∈ s.objects, d.thread = e.thread → d = e
  below : ∀ i place p thread, s.scorecard.at? i place = some p → p.thread = some thread → thread < s.threads
  stems : ∀ i place p, s.scorecard.at? i place = some p → ∀ d ∈ s.objects, p.thread = d.thread →
    StemsFrom history d i place

variable {history : List Step} {s : Session}

theorem sharesThreads_start : SharesThreads [] start where
  numbered := nofun
  distinct := nofun
  below _ _ _ _ h := by cases h
  stems _ _ _ h := by cases h

/-- What a step offers has a thread that is in use behind the step, and that of a draft only if it is a copy of it. -/
theorem SharesThreads.of_offers (hs : SharesThreads history s) {step : Step} (hfits : step.FitsIn s) {i : Identity}
    {original : Outcome} {check : Check} (h : step.Offers s i original check) {thread : Nat}
    (hthread : original.thread = some thread) :
    thread < (step.apply s).threads ∧ ∀ d ∈ s.objects, d.thread = some thread → original.IsCopyOf d := by
  cases step with
  | register identity metadata =>
      obtain ⟨t, ht, hoffered⟩ := h
      cases ht
      cases hoffered
  | draft name o =>
      obtain ⟨t, ht, _⟩ := h
      cases ht
  | add identity name check' =>
      obtain ⟨t, ht, hoffered⟩ := h
      obtain ⟨o, hname, rfl⟩ := Option.map_eq_some_iff.1 ht
      obtain ⟨_, rfl, _⟩ := hoffered
      have hmem := Step.mem_objects_of_draft? hname
      refine ⟨?_, fun d hd hsame => ?_⟩
      · obtain ⟨used, hused, hequal⟩ := hs.numbered _ hmem
        obtain rfl : thread = used := Option.some.inj (hthread.symm.trans hequal)
        simp only [Step.apply, hname]
        exact hused
      · rw [hs.distinct d hd _ hmem (hsame.trans hthread.symm)]
        exact .refl _
  | comment name note =>
      obtain ⟨t, ht, hoffered⟩ := h
      obtain ⟨o, _, rfl⟩ := Option.map_eq_some_iff.1 ht
      cases hoffered
  | run runner resources threads => exact hfits i original check thread h hthread

theorem SharesThreads.draft (hs : SharesThreads history s) (name : String) (o : Outcome) :
    SharesThreads (history ++ [.draft name o]) ((Step.draft name o).apply s) := by
  have hnew {d : Outcome} (hd : d ∈ s.objects) : d.thread ≠ some s.threads := by
    obtain ⟨thread, hlt, hthread⟩ := hs.numbered d hd
    rw [hthread, Ne, Option.some.injEq]
    exact Nat.ne_of_lt hlt
  have hobjects : ((Step.draft name o).apply s).objects = { o with thread := some s.threads } :: s.objects := rfl
  refine ⟨fun d hd => ?_, fun d hd e he hsame => ?_, fun i place p thread hp hthread => ?_,
    fun i place p hp d hd hsame => ?_⟩
  · rcases List.mem_cons.1 (hobjects ▸ hd) with rfl | hd
    · exact ⟨s.threads, Nat.lt_succ_self _, rfl⟩
    · obtain ⟨thread, hlt, hthread⟩ := hs.numbered d hd
      exact ⟨thread, Nat.lt_succ_of_lt hlt, hthread⟩
  · rcases List.mem_cons.1 (hobjects ▸ hd) with rfl | hd <;> rcases List.mem_cons.1 (hobjects ▸ he) with rfl | he
    · rfl
    · exact absurd hsame.symm (hnew he)
    · exact absurd hsame (hnew hd)
    · exact hs.distinct d hd e he hsame
  · exact Nat.lt_succ_of_lt (hs.below i place p thread hp hthread)
  · rcases List.mem_cons.1 (hobjects ▸ hd) with rfl | hd
    · exact absurd (hs.below i place p s.threads hp hsame) (Nat.lt_irrefl _)
    · exact (hs.stems i place p hp d hd hsame).append _

/-- A step that drafts nothing keeps the threads right: what it puts somewhere is a copy of the draft whose thread it
has. -/
theorem SharesThreads.apply (hs : SharesThreads history s) {step : Step} (hfits : step.FitsIn s)
    (hafter : s = after history) : SharesThreads (history ++ [step]) (step.apply s) := by
  rcases step.objects_apply s with ⟨name, o, rfl, _⟩ | ⟨hobjects, hthreads⟩
  · exact hs.draft name o
  · refine ⟨fun d hd => ?_, fun d hd e he => ?_, fun i place p thread hp hthread => ?_,
      fun i place p hp d hd hsame => ?_⟩
    · obtain ⟨thread, hlt, hthread⟩ := hs.numbered d (hobjects ▸ hd)
      exact ⟨thread, Nat.lt_of_lt_of_le hlt hthreads, hthread⟩
    · exact hs.distinct d (hobjects ▸ hd) e (hobjects ▸ he)
    · rcases step.at?_apply_cases hp with hold | ⟨_, original, check, hoffered, rfl⟩
      · exact Nat.lt_of_lt_of_le (hs.below i place p thread hold hthread) hthreads
      · exact (hs.of_offers hfits hoffered hthread).1
    · rw [hobjects] at hd
      rcases step.at?_apply_cases hp with hold | ⟨hnone, original, check, hoffered, rfl⟩
      · exact (hs.stems i place p hold d hd hsame).append _
      · obtain ⟨thread, _, hthread⟩ := hs.numbered d hd
        have hcopy : original.IsCopyOf d := (hs.of_offers hfits hoffered (hsame.trans hthread)).2 d hd hthread
        refine ⟨history, step, [], rfl, ?_⟩
        rw [← hafter]
        exact ⟨hnone, original, check, hoffered, hcopy, hcopy.stamped_eq check ▸ hp⟩

theorem fits_concat_iff {step : Step} : Fits (history ++ [step]) ↔ Fits history ∧ step.FitsIn (after history) := by
  constructor
  · intro h
    refine ⟨fun before earlier behind hsplit => ?_, h history step [] rfl⟩
    exact h before earlier (behind ++ [step]) (by simp [hsplit])
  · rintro ⟨hfits, hlast⟩ before earlier behind hsplit
    rcases List.eq_nil_or_concat behind with rfl | ⟨front, last, rfl⟩
    · obtain ⟨rfl, hsame⟩ := List.append_inj' hsplit rfl
      cases hsame
      exact hlast
    · rw [List.concat_eq_append, ← List.cons_append, ← List.append_assoc] at hsplit
      exact hfits before earlier front (List.append_inj_left' hsplit rfl)

theorem sharesThreads_after (h : Fits history) : SharesThreads history (after history) := by
  induction history using List.reverseRecOn with
  | nil => exact sharesThreads_start
  | append_singleton history step ih =>
      rw [after_concat]
      obtain ⟨hfits, hlast⟩ := fits_concat_iff.1 h
      exact (ih hfits).apply hlast rfl

/-- A recorded outcome shares the thread of a draft exactly if it stems from it. -/
theorem thread_eq_iff_stemsFrom (h : Fits history) {o : Outcome} (ho : o ∈ (after history).objects) {i : Identity}
    {place : Nat} {p : Outcome} (hp : (after history).scorecard.at? i place = some p) :
    p.thread = o.thread ↔ StemsFrom history o i place := by
  constructor
  · exact (sharesThreads_after h).stems i place p hp o ho
  · intro hstems
    obtain ⟨check, hcheck⟩ := hstems.exists_at?
    cases hp.symm.trans hcheck
    rfl

/-! ### Comments -/

theorem commentsOn_comment {o : Outcome} {thread : Nat} (ho : o.thread = some thread) (s : Session) (note : Comment)
    (p : Outcome) :
    (s.comment o note).scorecard.commentsOn p =
      s.scorecard.commentsOn p ++ if p.thread = o.thread then [note] else [] := by
  simp only [comment, Scorecard.commentsOn, Scorecard.post, Outcome.allComments, ho, Option.toList_some, List.map_cons,
    List.map_nil, List.filter_append, List.map_append, List.append_assoc]
  by_cases hp : p.thread = some thread <;> simp [hp]

/-- After every history, a comment on a draft comes last among the comments on the draft and on each recorded outcome
that stems from it. The comments on other drafts and on other recorded outcomes, all records and all drafts stay as they
are, and so do the grades, their numbers, the lowest one, the thresholds that are reached and the exit status. Nor does
anything that is done later, in particular no addition, change the draft. -/
theorem comment_reaches_copies (h : Fits history) {o : Outcome} (ho : o ∈ (after history).objects) (note : Comment) :
    ((after history).comment o note).scorecard.commentsOn o = (after history).scorecard.commentsOn o ++ [note] ∧
      (∀ d ∈ (after history).objects, d ≠ o →
        ((after history).comment o note).scorecard.commentsOn d = (after history).scorecard.commentsOn d) ∧
      (∀ i place p, (after history).scorecard.at? i place = some p →
        (StemsFrom history o i place →
          (∃ check, p = o.stamped check) ∧
            (after history).scorecard.commentsOn p = (after history).scorecard.commentsOn o ∧
            ((after history).comment o note).scorecard.commentsOn p =
              (after history).scorecard.commentsOn p ++ [note]) ∧
        (¬StemsFrom history o i place →
          ((after history).comment o note).scorecard.commentsOn p = (after history).scorecard.commentsOn p)) ∧
      ((after history).comment o note).scorecard.records = (after history).scorecard.records ∧
      ((after history).comment o note).drafts = (after history).drafts ∧
      ((after history).comment o note).scorecard.counts = (after history).scorecard.counts ∧
      ((after history).comment o note).scorecard.lowest = (after history).scorecard.lowest ∧
      (∀ threshold, ((after history).comment o note).scorecard.anyAtOrBelow threshold =
        (after history).scorecard.anyAtOrBelow threshold) ∧
      (∀ onWarning threshold, Gate.exitStatus ((after history).comment o note).scorecard onWarning threshold =
        Gate.exitStatus (after history).scorecard onWarning threshold) ∧
      ∀ later, o ∈ (after (history ++ later)).objects := by
  have hs := sharesThreads_after h
  obtain ⟨thread, _, hthread⟩ := hs.numbered o ho
  refine ⟨?_, fun d hd hne => ?_, fun i place p hp => ⟨fun hstems => ?_, fun hno => ?_⟩, rfl, rfl, rfl, rfl,
    fun _ => rfl, fun _ _ => rfl, fun later => ?_⟩
  · rw [commentsOn_comment hthread, if_pos rfl]
  · have hother : d.thread ≠ o.thread := fun hsame => hne (hs.distinct d hd o ho hsame)
    rw [commentsOn_comment hthread, if_neg hother, List.append_nil]
  · obtain ⟨check, hcheck⟩ := hstems.exists_at?
    obtain rfl : p = o.stamped check := Option.some.inj (hp.symm.trans hcheck)
    refine ⟨⟨check, rfl⟩, rfl, ?_⟩
    rw [commentsOn_comment hthread, if_pos (Outcome.thread_stamped o check)]
  · have hother : p.thread ≠ o.thread := fun hsame => hno ((thread_eq_iff_stemsFrom h ho hp).1 hsame)
    rw [commentsOn_comment hthread, if_neg hother, List.append_nil]
  · rw [after_append]
    exact (objects_suffix_foldl later _).mem ho

/-- An outcome drafted first. -/
def down : Outcome := { grade := .critical, thread := some 0 }

/-- A rule that gives a draft away beside an outcome of its own. -/
def givesDown : Rule where
  check := { id := "c" }
  evaluate _ := { result := .ok [.outcome down, .outcome { grade := .allOk, thread := some 2 }] }

/-- Two drafts, the first of which is recorded for two resources. -/
def twoDrafts : List Step :=
  [.draft "down" { grade := .critical }, .draft "slow" { grade := .warning },
    .register ⟨"Pod", "v1", "", "web"⟩ .null, .register ⟨"Pod", "v1", "", "api"⟩ .null,
    .add ⟨"Pod", "v1", "", "web"⟩ "down" { id := "a" }, .add ⟨"Pod", "v1", "", "web"⟩ "slow" { id := "a" },
    .add ⟨"Pod", "v1", "", "api"⟩ "down" { id := "b" }]

/-- Behind these, a run that records the first draft once more, and a comment on it. -/
def downAgain : List Step :=
  twoDrafts ++ [.run ⟨[givesDown], .empty, .empty, 1⟩ [⟨⟨"Pod", "v1", "", "api"⟩, .null, .null, ""⟩] 3] ++
    [.comment "down" ⟨"/", "seen", ""⟩]

theorem fits_downAgain : Fits downAgain := by
  refine fits_concat_iff.2 ⟨fits_concat_iff.2 ⟨?_, ?_⟩, trivial⟩
  · intro before step behind hsplit
    have hmem : step ∈ twoDrafts := hsplit ▸ by simp
    cases step with
    | run runner resources threads => simp [twoDrafts] at hmem
    | _ => trivial
  · rintro i original check thread ⟨t, ht, hoffered⟩ hthread
    cases ht
    obtain ⟨resource, _, _, rule, hrule, _, findings, hresult, hmem⟩ := hoffered
    obtain rfl := List.mem_singleton.1 hrule
    cases hresult
    have hobjects : (after twoDrafts).objects = [{ grade := .warning, thread := some 1 }, down] := by decide +kernel
    rw [hobjects]
    simp only [List.mem_cons, Finding.outcome.injEq, List.not_mem_nil, or_false] at hmem
    rcases hmem with rfl | rfl
    · cases hthread
      refine ⟨by decide, fun d hd hsame => ?_⟩
      simp only [List.mem_cons, List.not_mem_nil, or_false] at hd
      rcases hd with rfl | rfl
      · cases hsame
      · exact .refl _
    · cases hthread
      refine ⟨by decide, fun d hd hsame => ?_⟩
      simp only [List.mem_cons, List.not_mem_nil, or_false] at hd
      rcases hd with rfl | rfl <;> cases hsame

theorem comment_reaches_copies_downAgain :
    Fits downAgain ∧ down ∈ (after downAgain).objects ∧
      ((after downAgain).comment down ⟨"/", "again", ""⟩).scorecard.commentsOn down =
        [⟨"/", "seen", ""⟩, ⟨"/", "again", ""⟩] ∧
      (after downAgain).scorecard.records.map (fun r => r.outcomes.map fun p => (p.grade, p.check.map Check.id,
          (((after downAgain).comment down ⟨"/", "again", ""⟩).scorecard.commentsOn p).map Comment.summary)) =
        ([[(.critical, some "a", ["seen", "again"]), (.warning, some "a", [])],
          [(.critical, some "b", ["seen", "again"]), (.critical, some "c", ["seen", "again"]),
            (.allOk, some "c", [])]] : List (List (Grade × Option RawText × List RawText))) := by
  have hmem : down ∈ (after downAgain).objects := by decide +kernel
  have hreaches := comment_reaches_copies fits_downAgain hmem ⟨"/", "again", ""⟩
  exact ⟨fits_downAgain, hmem, hreaches.1.trans (by decide +kernel), by decide +kernel⟩

end Session

end ManifestGrading
