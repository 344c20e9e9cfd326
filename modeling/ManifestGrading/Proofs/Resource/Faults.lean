import ManifestGrading.Proofs.FirstFailure
import ManifestGrading.Resource

/-! Which documents stand for no resources because something is wrong with them. A value is reached from a document along
a way, which names, list by list, the place of an item. A document is faulty if what is reached from it is: a list
whose items cannot be walked through, a resource with a part of its identity that no text shows, or anything at the end
of a way that takes more calls than may be nested. Lists that are among their own items have ways of every length. -/

namespace ManifestGrading

namespace Value

/-- Whether a value can be walked through. -/
def isCollection (v : Value) : Bool :=
  match v.opened with
  | list _ | tuple _ | set _ | map _ | text _ | bytes _ => true
  | _ => false

/-- What can be walked through in a value, nothing if it is no collection. -/
def parts (v : Value) : List Value := v.elements.toOption.getD []

theorem opened_opened (v : Value) : v.opened.opened = v.opened := by
  cases v with
  | knot cells root =>
      rw [opened]
      split <;> rfl
  | _ => rfl

theorem elements_of_isCollection {v : Value} (h : v.isCollection) : v.elements = .ok v.parts := by
  unfold isCollection at h
  unfold parts elements
  split <;> simp_all [Except.toOption]

theorem elements_of_not_isCollection {v : Value} (h : v.isCollection = false) :
    v.elements = .error (.notIterable v.kind) := by
  have hkind : v.opened.kind = v.kind := by
    rw [kind, kind, opened_opened]
  unfold isCollection at h
  unfold elements
  split <;> simp_all

theorem parts_of_not_isTruthy {v : Value} (h : v.isTruthy = false) : v.parts = [] := by
  cases v <;> simp_all [isTruthy, parts, elements, opened, Except.toOption, RawText.isEmpty]

end Value

namespace Resource

variable {source : String} {v w : Value} {entries : Entries}

/-! ### The identity -/

/-- The metadata of a resource; what is no mapping does not count. -/
def metadataOf (entries : Entries) : Entries := ((entries.get "metadata").mapping?).getD []

/-- The values that the parts of an identity are the texts of. -/
def identityValues (entries : Entries) : List Value :=
  [entries.get "kind", entries.get "apiVersion", (metadataOf entries).get "namespace", (metadataOf entries).get "name"]

/-- How the identity of a resource cannot be told: of its parts that are given, the first without a text has none for
this reason. -/
def IsUnnamable (entries : Entries) (e : Value.Fault) : Prop :=
  First (fun v => v.isTruthy → ∃ t, v.display = .ok t) (fun v => v.isTruthy ∧ v.display = .error e)
    (identityValues entries)

theorem fieldText_eq_error_iff {name : String} {e : Value.Fault} :
    fieldText name entries = .error e ↔ (entries.get name).isTruthy ∧ (entries.get name).display = .error e := by
  rw [fieldText]
  by_cases htruthy : (entries.get name).isTruthy <;> simp [htruthy]

theorem exists_fieldText_iff {name : String} :
    (∃ t, fieldText name entries = .ok t) ↔ ((entries.get name).isTruthy → ∃ t, (entries.get name).display = .ok t) := by
  rw [fieldText]
  by_cases htruthy : (entries.get name).isTruthy <;> simp [htruthy]

theorem ofEntries_eq_error_iff (hkind : (entries.get "kind").isTruthy) {e : Value.Fault} :
    ofEntries source entries = .error e ↔ IsUnnamable entries e := by
  change ((entries.get "kind").display >>= fun kind => fieldText "apiVersion" entries >>= fun apiVersion =>
    fieldText "namespace" (metadataOf entries) >>= fun space => fieldText "name" (metadataOf entries) >>= fun name =>
      pure _) = .error e ↔ _
  simp only [IsUnnamable, identityValues, First.cons_iff, First.not_nil, ← fieldText_eq_error_iff,
    ← exists_fieldText_iff, hkind, forall_const, true_and, and_false, or_false, Attempt.bind_eq_error_iff]
  simp [pure, Except.pure]

/-- The items of a list, nothing for any other value. -/
def itemsOf (v : Value) : List Value :=
  match v.mapping? with
  | some entries => if (entries.get "kind").isText listKind then (entries.get "items").parts else []
  | none => []

/-- The resource that a value itself is. -/
def own (source : String) (v : Value) : Except Value.Fault (Option Resource) :=
  match v.mapping? with
  | none => .ok none
  | some entries =>
    if (entries.get "kind").isText listKind then
      if (entries.get "items").isTruthy && !(entries.get "items").isCollection then
        .error (.notIterable (entries.get "items").kind)
      else .ok none
    else if (entries.get "kind").isTruthy then (ofEntries source entries).map some
    else .ok none

theorem elements_items (v : Value) :
    (v.orElse (.list [])).elements =
      if v.isTruthy && !v.isCollection then .error (.notIterable v.kind) else .ok v.parts := by
  cases htruthy : v.isTruthy with
  | false =>
      rw [Value.orElse_of_not_truthy htruthy, Value.parts_of_not_isTruthy htruthy]
      rfl
  | true =>
      rw [Value.orElse_of_truthy htruthy]
      cases hcollection : v.isCollection with
      | true => exact Value.elements_of_isCollection hcollection
      | false => exact Value.elements_of_not_isCollection hcollection

/-- A value stands for itself, if it is a resource, and for what its items do. -/
theorem ofValue_succ (source : String) (calls : Nat) (v : Value) :
    ofValue source (calls + 1) v = own source v >>= fun r =>
      ((itemsOf v).mapM (ofValue source calls)).map fun found => r.toList ++ found.flatten := by
  rw [ofValue, own, itemsOf]
  cases v.mapping? with
  | none => rfl
  | some entries =>
      dsimp only
      by_cases hlist : (entries.get "kind").isText listKind
      · have hkind : (entries.get "kind").isTruthy := by
          rw [Value.isText_iff.1 hlist]
          rfl
        simp only [hkind, hlist, Bool.not_true, Bool.false_eq_true, if_false, if_true, elements_items]
        split <;> rfl
      · by_cases hkind : (entries.get "kind").isTruthy
        · simp only [hkind, hlist, Bool.not_true, Bool.false_eq_true, if_false, if_true]
          cases ofEntries source entries <;> rfl
        · simp only [hkind, hlist, Bool.not_false, Bool.false_eq_true, if_false, if_true]
          rfl

/-- Whether the entries are those of a resource: with a kind that is given and is not that of lists. -/
def IsObject (entries : Entries) : Prop :=
  (entries.get "kind").isTruthy ∧ (entries.get "kind").isText listKind = false

/-- How a value makes a walk fail that reaches it: as a list with items that cannot be walked through, or as a resource
with a part of its identity that has no text. -/
inductive FailsWith (v : Value) : Value.Fault → Prop
  | items {entries : Entries} (hentries : v.mapping? = some entries) (hlist : (entries.get "kind").isText listKind)
    (hgiven : (entries.get "items").isTruthy) (h : (entries.get "items").isCollection = false) :
    FailsWith v (.notIterable (entries.get "items").kind)
  | name {entries : Entries} {e : Value.Fault} (hentries : v.mapping? = some entries) (hobject : IsObject entries)
    (h : IsUnnamable entries e) : FailsWith v e

theorem own_of_isObject (hentries : v.mapping? = some entries) (h : IsObject entries) :
    own source v = (ofEntries source entries).map some := by
  rw [own, hentries]
  simp [h.1, h.2]

theorem own_eq_error_iff {e : Value.Fault} : own source v = .error e ↔ FailsWith v e := by
  constructor
  · intro h
    unfold own at h
    split at h
    · cases h
    · next entries hentries =>
      split at h
      · next hlist =>
        split at h
        · next hitems =>
          rw [Bool.and_eq_true, Bool.not_eq_true'] at hitems
          exact Except.error.inj h ▸ .items hentries hlist hitems.1 hitems.2
        · cases h
      · next hlist =>
        split at h
        · next hkind =>
          have hfault := (ofEntries_eq_error_iff hkind).1 (Attempt.map_eq_error_iff.1 h)
          exact .name hentries ⟨hkind, by simpa using hlist⟩ hfault
        · cases h
  · intro h
    cases h with
    | items hentries hlist hgiven h => simp [own, hentries, hlist, hgiven, h]
    | name hentries hobject h =>
        rw [own_of_isObject hentries hobject, Attempt.map_eq_error_iff]
        exact (ofEntries_eq_error_iff hobject.1).2 h

/-! ### Ways -/

/-- What is at the end of a way through lists. -/
def at? (v : Value) : List Nat → Option Value
  | [] => some v
  | place :: way => (itemsOf v)[place]?.bind fun w => at? w way

/-- How a value to which so many calls lead makes a walk fail: by what is wrong with it, or since the calls before it
are all that may be nested. -/
inductive Breaks (calls depth : Nat) (v : Value) : Value.Fault → Prop
  | own {e : Value.Fault} (hdepth : depth < calls) (h : FailsWith v e) : Breaks calls depth v e
  | tooDeep (hdepth : depth = calls) : Breaks calls depth v .tooDeep

/-- A value that stands for no resources because something that is reached from it makes a walk fail. -/
def IsFaulty (calls : Nat) (v : Value) : Prop := ∃ way w e, at? v way = some w ∧ Breaks calls way.length w e

theorem isFaulty_zero (v : Value) : IsFaulty 0 v := ⟨[], v, _, rfl, .tooDeep rfl⟩

theorem breaks_succ_iff {calls depth : Nat} {e : Value.Fault} :
    Breaks (calls + 1) (depth + 1) v e ↔ Breaks calls depth v e := by
  constructor
  · rintro (⟨hdepth, h⟩ | hdepth)
    · exact .own (by omega) h
    · exact .tooDeep (by omega)
  · rintro (⟨hdepth, h⟩ | hdepth)
    · exact .own (by omega) h
    · exact .tooDeep (by omega)

theorem breaks_zero_iff {calls : Nat} {e : Value.Fault} : Breaks (calls + 1) 0 v e ↔ FailsWith v e := by
  constructor
  · rintro (⟨_, h⟩ | hdepth)
    · exact h
    · cases hdepth
  · exact .own (Nat.succ_pos calls)

theorem isFaulty_succ_iff {calls : Nat} :
    IsFaulty (calls + 1) v ↔ (∃ e, FailsWith v e) ∨ ∃ w ∈ itemsOf v, IsFaulty calls w := by
  constructor
  · rintro ⟨way, u, e, hway, h⟩
    cases way with
    | nil =>
        obtain rfl := Option.some.inj hway
        exact Or.inl ⟨e, breaks_zero_iff.1 h⟩
    | cons place way =>
        obtain ⟨w, hw, hway⟩ := Option.bind_eq_some_iff.1 hway
        exact Or.inr ⟨w, List.mem_of_getElem? hw, way, u, e, hway, breaks_succ_iff.1 h⟩
  · rintro (⟨e, h⟩ | ⟨w, hw, way, u, e, hway, h⟩)
    · exact ⟨[], v, e, rfl, breaks_zero_iff.2 h⟩
    · obtain ⟨place, hplace⟩ := List.getElem?_of_mem hw
      exact ⟨place :: way, u, e, Option.bind_eq_some_iff.2 ⟨w, hplace, hway⟩, breaks_succ_iff.2 h⟩

theorem ofValue_fails_iff (source : String) (calls : Nat) (v : Value) :
    (∃ e, ofValue source calls v = .error e) ↔ IsFaulty calls v := by
  induction calls generalizing v with
  | zero => exact iff_of_true ⟨_, rfl⟩ (isFaulty_zero v)
  | succ calls ih =>
      have hitems : (∃ e, (itemsOf v).mapM (ofValue source calls) = .error e) ↔ ∃ w ∈ itemsOf v, IsFaulty calls w := by
        simp only [Attempt.mapM_fails_iff, ih]
      have hown : (∃ e, own source v = .error e) ↔ ∃ e, FailsWith v e := exists_congr fun e => own_eq_error_iff
      rw [isFaulty_succ_iff, ← hown, ← hitems, ofValue_succ]
      cases own source v with
      | error e => simp [bind, Except.bind]
      | ok r => simp [Attempt.fails_map_iff]

/-- Documents stand for resources unless one of them is faulty. -/
theorem ofDocuments_fails_iff (calls : Nat) (documents : List Document) :
    (∃ e, ofDocuments calls documents = .error e) ↔ ∃ d ∈ documents, IsFaulty calls d.content := by
  rw [ofDocuments, Attempt.fails_map_iff, Attempt.mapM_fails_iff]
  simp only [ofValue_fails_iff]

/-! ### The resources that are found -/

end Resource

end ManifestGrading
