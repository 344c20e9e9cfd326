import ManifestGrading.Proofs.Gate.Agreement
import ManifestGrading.Proofs.Scorecard.Reachable

/-! Requests to register resources and to add outcomes, from any number of clients in any interleaving. A request
reads and changes the record of its own resource and nothing else, so a record is what the requests for its resource
make of it, whatever comes between them. The order of the records is that of the registrations that open them, and
whether a registration can open a record depends on its metadata alone. -/

namespace ManifestGrading.Scorecard

namespace Step

/-- The resource that a request is for. -/
def target? : Step → Option Identity
  | register identity _ => some identity
  | add identity _ _ => some identity
  | _ => none

/-- A registration or an addition. -/
def IsRequest (step : Step) : Prop := ∃ i, step.target? = some i

/-- Whether a step is a request for a resource. -/
def isFor (i : Identity) (step : Step) : Bool := step.target? = some i

/-- What a request makes of the record of its resource. An addition is refused as long as there is none. -/
def answer (step : Step) (r : Option Record) : Option Record :=
  match step with
  | register identity metadata => r.or (Record.new identity metadata).toOption
  | add _ original check => r.map (·.add original check)
  | _ => r

/-- The resource for which a registration can open a record: its metadata can be kept. -/
def opens? : Step → Option Identity
  | register identity metadata => if (Record.new identity metadata).toOption.isSome then some identity else none
  | _ => none

/-! ### One request -/

theorem get?_register_answer (s : Scorecard) (identity : Identity) (metadata : Value) :
    ((register identity metadata).apply s).get? identity =
      (register identity metadata).answer (s.get? identity) := by
  cases hregister : s.register identity metadata with
  | ok t =>
      simp only [apply, hregister, answer]
      rw [get?_register hregister, opening]
      simp
  | error fault =>
      obtain ⟨hmem, hnew⟩ := register_eq_error_iff.1 hregister
      simp only [apply, hregister, answer, hnew, get?_eq_none_iff.2 hmem]
      rfl

theorem get?_register_of_ne (s : Scorecard) {identity i : Identity} (hne : i ≠ identity) (metadata : Value) :
    ((register identity metadata).apply s).get? i = s.get? i := by
  cases hregister : s.register identity metadata with
  | ok t =>
      have hno : (i == identity) = false := by simpa using hne
      simp only [apply, hregister]
      rw [get?_register hregister, opening]
      simp [List.lookup_cons, hno]
  | error fault => simp only [apply, hregister]

theorem get?_add_answer (s : Scorecard) (identity : Identity) (original : Outcome) (check : Check) :
    ((add identity original check).apply s).get? identity =
      (add identity original check).answer (s.get? identity) := by
  simp only [apply, answer, Scorecard.add, get?_modify]
  refine Option.map_congr fun r hr => ?_
  obtain rfl : r.identity = identity := (get?_eq_some_iff.1 hr).2
  rw [changedAt, if_pos rfl]
  exact congrArg (fun i => { r.add original check with identity := i }) (r.identity_add original check).symm

theorem IsRequest.register_or_add {step : Step} (h : step.IsRequest) :
    (∃ identity metadata, step = register identity metadata) ∨
      ∃ identity original check, step = add identity original check := by
  obtain ⟨i, hi⟩ := h
  cases step with
  | register identity metadata => exact Or.inl ⟨identity, metadata, rfl⟩
  | add identity original check => exact Or.inr ⟨identity, original, check, rfl⟩
  | comment target note => cases hi
  | run runner resources => cases hi

/-- A request changes the record of its own resource, as this record alone decides, and no other one. -/
theorem get?_apply_request {step : Step} (hrequest : step.IsRequest) (s : Scorecard) (i : Identity) :
    (step.apply s).get? i = if step.isFor i then step.answer (s.get? i) else s.get? i := by
  rcases hrequest.register_or_add with ⟨identity, metadata, rfl⟩ | ⟨identity, original, check, rfl⟩
  · by_cases hi : identity = i
    · subst hi
      rw [if_pos (by simp [isFor, target?])]
      exact get?_register_answer s identity metadata
    · rw [if_neg (by simp [isFor, target?, hi])]
      exact get?_register_of_ne s (Ne.symm hi) metadata
  · by_cases hi : identity = i
    · subst hi
      rw [if_pos (by simp [isFor, target?])]
      exact get?_add_answer s identity original check
    · rw [if_neg (by simp [isFor, target?, hi])]
      exact get?_modify_of_ne s (Ne.symm hi) _

theorem postings_apply_request {step : Step} (hrequest : step.IsRequest) (s : Scorecard) :
    (step.apply s).postings = s.postings := by
  rcases hrequest.register_or_add with ⟨identity, metadata, rfl⟩ | ⟨identity, original, check, rfl⟩
  · simp only [apply]
    cases hregister : s.register identity metadata with
    | ok t => exact postings_register hregister
    | error fault => rfl
  · rfl

/-- A request puts the resource for which it can open a record behind the others, unless it is there already. -/
theorem identities_apply_request {step : Step} (hrequest : step.IsRequest) (s : Scorecard) :
    (step.apply s).identities = s.identities ++ (step.opens?.toList.removeAll s.identities).eraseDups := by
  rcases hrequest.register_or_add with ⟨identity, metadata, rfl⟩ | ⟨identity, original, check, rfl⟩
  · simp only [apply, opens?]
    cases hregister : s.register identity metadata with
    | ok t =>
        rw [identities_register hregister]
        rcases register_eq_ok_iff.1 hregister with ⟨hmem, _⟩ | ⟨_, r, hnew, _⟩
        · by_cases hkept : (Record.new identity metadata).toOption.isSome <;> simp [hkept, hmem, List.removeAll]
        · simp [hnew, Except.toOption]
    | error fault =>
        obtain ⟨_, hnew⟩ := register_eq_error_iff.1 hregister
        simp [hnew, Except.toOption, List.removeAll]
  · simp [apply, opens?, Scorecard.add, List.removeAll]

end Step

/-! ### Sequences of requests -/

/-- The resources in the order of the registrations that open their records. -/
def openings (history : List Step) : List Identity := (history.filterMap Step.opens?).eraseDups

variable {history history' : List Step}

/-- A record is what the requests for its resource make of it, one after the other. -/
theorem get?_foldl_requests (hrequests : ∀ step ∈ history, step.IsRequest) (s : Scorecard) (i : Identity) :
    (history.foldl Step.apply s).get? i =
      (history.filter (·.isFor i)).foldl (fun r step => step.answer r) (s.get? i) := by
  induction history generalizing s with
  | nil => rfl
  | cons step rest ih =>
      -- the scorecard behind the first request is another one, but only in the record of its resource
      have hrest := ih (fun later hlater => hrequests later (List.mem_cons_of_mem step hlater)) (step.apply s)
      rw [List.foldl_cons, hrest, Step.get?_apply_request (hrequests step List.mem_cons_self), List.filter_cons]
      by_cases hfor : step.isFor i
      · rw [if_pos hfor, if_pos hfor, List.foldl_cons]
      · rw [if_neg hfor, if_neg hfor]

theorem get?_after_requests (hrequests : ∀ step ∈ history, step.IsRequest) (i : Identity) :
    (after history).get? i = (history.filter (·.isFor i)).foldl (fun r step => step.answer r) none :=
  get?_foldl_requests hrequests empty i

theorem postings_after_requests (hrequests : ∀ step ∈ history, step.IsRequest) : (after history).postings = [] := by
  induction history using List.reverseRecOn with
  | nil => rfl
  | append_singleton history step ih =>
      rw [after_concat, Step.postings_apply_request (hrequests step (by simp))]
      exact ih fun earlier hearlier => hrequests earlier (List.mem_append_left _ hearlier)

theorem identities_foldl_requests (hrequests : ∀ step ∈ history, step.IsRequest) (s : Scorecard) :
    (history.foldl Step.apply s).identities =
      s.identities ++ ((history.filterMap Step.opens?).removeAll s.identities).eraseDups := by
  induction history generalizing s with
  | nil => simp [List.removeAll]
  | cons step rest ih =>
      have hrest := ih (fun later hlater => hrequests later (List.mem_cons_of_mem step hlater)) (step.apply s)
      have hsplit : (step :: rest).filterMap Step.opens? = step.opens?.toList ++ rest.filterMap Step.opens? := by
        cases hopens : step.opens? <;> simp [hopens]
      rw [List.foldl_cons, hrest, Step.identities_apply_request (hrequests step List.mem_cons_self), hsplit]
      exact append_eraseDups_removeAll_append _ _ _

theorem identities_after_requests (hrequests : ∀ step ∈ history, step.IsRequest) :
    (after history).identities = openings history := by
  rw [after, identities_foldl_requests hrequests, empty_append_eraseDups, openings]

/-! ### Records in another order -/

/-- Scorecards with the same record for each resource have the same records, perhaps in another order. -/
theorem records_perm_of_get?_eq {s t : Scorecard} (h : ∀ i, s.get? i = t.get? i) : s.records.Perm t.records := by
  have hmem (u : Scorecard) (r : Record) : r ∈ u.records ↔ u.get? r.identity = some r := by
    rw [get?_eq_some_iff]
    exact ⟨fun hr => ⟨hr, rfl⟩, fun hr => hr.1⟩
  refine (List.perm_ext_iff_of_nodup (List.Nodup.of_map _ s.distinct) (List.Nodup.of_map _ t.distinct)).2 fun r => ?_
  rw [hmem, hmem, h]

theorem count_eq_of_perm {s t : Scorecard} (h : s.records.Perm t.records) (g : Grade) : s.count g = t.count g :=
  (h.filter _).length_eq

theorem lowest_eq_of_perm {s t : Scorecard} (h : s.records.Perm t.records) : s.lowest = t.lowest :=
  Grade.worst_eq_of_perm (h.map Record.grade)

theorem anyAtOrBelow_eq_of_perm {s t : Scorecard} (h : s.records.Perm t.records) (threshold : Grade) :
    s.anyAtOrBelow threshold = t.anyAtOrBelow threshold := by
  rw [Bool.eq_iff_iff, anyAtOrBelow_iff, anyAtOrBelow_iff]
  exact exists_congr fun r => and_congr_left fun _ => h.mem_iff

/-- Two sequences of requests with the same requests for each resource, in the same order, leave the same record for
each, so that as many resources have each grade, the lowest grade is the same and the same thresholds are reached. If
the records are opened in the same order as well, the two scorecards are one, and so are the reports on them. -/
theorem after_eq_of_same_requests (hrequests : ∀ step ∈ history, step.IsRequest)
    (hrequests' : ∀ step ∈ history', step.IsRequest)
    (hsame : ∀ i, history.filter (·.isFor i) = history'.filter (·.isFor i)) :
    (∀ i, (after history).get? i = (after history').get? i) ∧
      (after history).counts = (after history').counts ∧
      (after history).lowest = (after history').lowest ∧
      (∀ threshold, (after history).anyAtOrBelow threshold = (after history').anyAtOrBelow threshold) ∧
      (openings history = openings history' →
        after history = after history' ∧
          ∀ metadata, Report.toValue ⟨after history, metadata⟩ = Report.toValue ⟨after history', metadata⟩) := by
  have hget : ∀ i, (after history).get? i = (after history').get? i := by
    intro i
    rw [get?_after_requests hrequests, get?_after_requests hrequests', hsame]
  have hperm := records_perm_of_get?_eq hget
  refine ⟨hget, ?_, lowest_eq_of_perm hperm, anyAtOrBelow_eq_of_perm hperm, fun horder => ?_⟩
  · rw [counts, counts, funext (count_eq_of_perm hperm)]
  · have heq : after history = after history' := by
      apply ext_get?
      · rw [identities_after_requests hrequests, identities_after_requests hrequests', horder]
      · exact hget
      · rw [postings_after_requests hrequests, postings_after_requests hrequests']
    exact ⟨heq, fun metadata => by rw [heq]⟩

def web : Identity := ⟨"Deployment", "apps/v1", "default", "web"⟩

def api : Identity := ⟨"Service", "v1", "", "api"⟩

/-- The requests of two clients, one client after the other. Each of them is refused once and registers twice. -/
def oneByOne : List Step :=
  [.add web { grade := .critical } { id := "early" }, .register web (metadataIgnoring "check-a"),
    .add web { grade := .critical } { id := "check-a" }, .register web .null,
    .add web { grade := .warning } { id := "check-b" },
    .register api (.int 5), .register api .null, .add api { grade := .allOk } { id := "check-a" }, .register api (.int 5)]

/-- The same requests, those of the two clients in turn. -/
def inTurn : List Step :=
  [.register api (.int 5), .add web { grade := .critical } { id := "early" },
    .register web (metadataIgnoring "check-a"), .register api .null,
    .add web { grade := .critical } { id := "check-a" }, .add api { grade := .allOk } { id := "check-a" },
    .register web .null, .register api (.int 5), .add web { grade := .warning } { id := "check-b" }]

theorem after_eq_of_same_requests_inTurn :
    (∀ step ∈ oneByOne, step.IsRequest) ∧ (∀ step ∈ inTurn, step.IsRequest) ∧
      (∀ i, oneByOne.filter (·.isFor i) = inTurn.filter (·.isFor i)) ∧ openings oneByOne = openings inTurn ∧
      after oneByOne = after inTurn ∧
      (after inTurn).records.map (fun r => (r.identity, r.ignored.ids, r.outcomes.map Outcome.grade)) =
        [(web, [RawText.ofString "check-a"], [.warning]), (api, [], [.allOk])] := by
  have hrequests : ∀ step ∈ oneByOne, step.IsRequest := by simp [oneByOne, Step.IsRequest, Step.target?]
  have hrequests' : ∀ step ∈ inTurn, step.IsRequest := by simp [inTurn, Step.IsRequest, Step.target?]
  have hsame : ∀ i, oneByOne.filter (·.isFor i) = inTurn.filter (·.isFor i) := by
    intro i
    by_cases hweb : web = i
    · have hapi : api ≠ i := hweb ▸ by decide
      simp [oneByOne, inTurn, Step.isFor, Step.target?, hweb, hapi]
    · simp [oneByOne, inTurn, Step.isFor, Step.target?, List.filter_cons, hweb]
  have horder : openings oneByOne = openings inTurn := by decide +kernel
  obtain ⟨_, _, _, _, hequal⟩ := after_eq_of_same_requests hrequests hrequests' hsame
  exact ⟨hrequests, hrequests', hsame, horder, (hequal horder).1, by decide +kernel⟩

end ManifestGrading.Scorecard
