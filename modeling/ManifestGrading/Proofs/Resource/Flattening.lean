import Mathlib.Data.List.Lex
import Mathlib.Data.List.MinMax
import ManifestGrading.Proofs.Resource.Faults
import ManifestGrading.Proofs.Value.Unwritable

/-! Resources as what is left of documents when their lists are flattened. A value is reached from a document along a
way, which names the place of the document and then, list by list, the place of an item; ways are in the order in which
a walk comes to their ends, a list before its items. The resources are those mappings with a kind that are reached, in
this order, and a walk fails as the first value that is reached and cannot be used makes it fail. A way that takes more
calls than may be nested cannot be walked; for documents of finite contents some number of calls is enough, and more
calls change nothing. -/

namespace ManifestGrading

/-- What holds of null and of all values in a mapping holds of the value under a name. -/
theorem Entries.get_of_forall {p : Value → Prop} {entries : Entries} (hnull : p .null) (h : ∀ e ∈ entries, p e.2)
    (name : String) : p (entries.get name) := by
  induction entries with
  | nil => exact hnull
  | cons e rest ih =>
      obtain ⟨k, v⟩ := e
      obtain ⟨hv, hrest⟩ := List.forall_mem_cons.1 h
      by_cases hk : k.isText name
      · simpa [get, get?, hk] using hv
      · simpa [get, get?, hk] using ih hrest

namespace Value

/-- Whether a value is finite: nothing in it is a part of itself. Keys and members of sets are no collections. -/
inductive IsTree : Value → Prop
  | single {v : Value} (h : v.isHashable) : IsTree v
  | list {items : List Value} (h : ∀ v ∈ items, IsTree v) : IsTree (.list items)
  | tuple {items : List Value} (h : ∀ v ∈ items, IsTree v) : IsTree (.tuple items)
  | set {members : List Value} (h : ∀ v ∈ members, v.isHashable) : IsTree (.set members)
  | map {entries : List (Value × Value)} (hkeys : ∀ e ∈ entries, e.1.isHashable) (h : ∀ e ∈ entries, IsTree e.2) :
    IsTree (.map entries)

theorem isHashable_of_mem_parts {v w : Value} (h : ∀ items, v ≠ .list items ∧ v ≠ .tuple items) (hv : v.IsTree)
    (hw : w ∈ v.parts) : w.isHashable := by
  cases hv with
  | single hv =>
      cases v with
      | text s =>
          obtain ⟨p, _, rfl⟩ := List.mem_map.1 hw
          rfl
      | bytes b =>
          obtain ⟨x, _, rfl⟩ := List.mem_map.1 hw
          rfl
      | list _ | tuple _ | set _ | map _ | knot _ _ | cell _ => cases hv
      | _ => cases hw
  | list => exact absurd rfl (h _).1
  | tuple => exact absurd rfl (h _).2
  | set hmembers => exact hmembers w hw
  | map hkeys _ =>
      obtain ⟨e, he, rfl⟩ := List.mem_map.1 hw
      exact hkeys e he

theorem IsTree.get {entries : Entries} (h : (Value.map entries).IsTree) (name : String) :
    (entries.get name).IsTree := by
  refine Entries.get_of_forall (.single rfl) ?_ name
  cases h with
  | single h => cases h
  | map _ h => exact h

end Value

namespace Resource

variable {source : String} {v w : Value} {entries : Entries}

/-! ### Finite values -/

/-- What holds of a value as soon as it holds of its items holds of every value. -/
theorem of_itemsOf {motive : Value → Prop} (step : ∀ v, v.IsTree → (∀ w ∈ itemsOf v, motive w) → motive v)
    (h : v.IsTree) : motive v := by
  have hnone {w : Value} (hw : w.IsTree) (hitems : itemsOf w = []) : motive w := by
    refine step w hw fun u hu => ?_
    rw [hitems] at hu
    cases hu
  have hkey {k : Value} (hk : k.isHashable) : motive k := by
    refine hnone (.single hk) ?_
    cases k with
    | map _ | knot _ _ => cases hk
    | _ => rfl
  -- items are two steps down: in the collection under a key of the list
  suffices h : motive v ∧ ∀ w ∈ v.parts, motive w from h.1
  induction h with
  | @single v hv =>
      refine ⟨hkey hv, fun w hw => hkey ?_⟩
      refine Value.isHashable_of_mem_parts (fun items => ⟨?_, ?_⟩) (.single hv) hw
      · rintro rfl
        cases hv
      · rintro rfl
        cases hv
  | list h ih => exact ⟨hnone (.list h) rfl, fun w hw => (ih w hw).1⟩
  | tuple h ih => exact ⟨hnone (.tuple h) rfl, fun w hw => (ih w hw).1⟩
  | set h => exact ⟨hnone (.set h) rfl, fun w hw => hkey (h w hw)⟩
  | @map entries hkeys h ih =>
      have hvalue (name : String) : ∀ w ∈ (Entries.get name entries).parts, motive w :=
        Entries.get_of_forall (p := fun v => ∀ w ∈ v.parts, motive w) nofun (fun e he => (ih e he).2) name
      refine ⟨step _ (.map hkeys h) fun w hw => ?_, fun w hw => ?_⟩
      · simp only [itemsOf, Value.mapping?_map] at hw
        split at hw
        · exact hvalue "items" w hw
        · cases hw
      · obtain ⟨e, he, rfl⟩ := List.mem_map.1 hw
        exact hkey (hkeys e he)

/-! ### Ways -/

/-- Whether every way from a value takes fewer calls than this. -/
def Fits (calls : Nat) (v : Value) : Prop := ∀ way w, at? v way = some w → way.length < calls

theorem Fits.item {calls : Nat} (h : Fits (calls + 1) v) (hw : w ∈ itemsOf v) : Fits calls w := by
  intro way u hway
  obtain ⟨place, hplace⟩ := List.getElem?_of_mem hw
  exact Nat.lt_of_succ_lt_succ (h (place :: way) u (Option.bind_eq_some_iff.2 ⟨w, hplace, hway⟩))

/-- A finite value has no ways but short ones. -/
theorem exists_fits (h : v.IsTree) : ∃ calls, Fits calls v := by
  refine of_itemsOf (motive := fun v => ∃ calls, Fits calls v) (fun v _ ih => ?_) h
  choose! calls hcalls using ih
  refine ⟨((itemsOf v).map calls).foldr max 0 + 1, fun way u hway => ?_⟩
  cases way with
  | nil => exact Nat.succ_pos _
  | cons place way =>
      obtain ⟨w, hplace, hway⟩ := Option.bind_eq_some_iff.1 hway
      have hw := List.mem_of_getElem? hplace
      have hle : calls w ≤ ((itemsOf v).map calls).foldr max 0 :=
        List.le_max_of_le' 0 (List.mem_map_of_mem hw) (Nat.le_refl _)
      exact Nat.succ_lt_succ (Nat.lt_of_lt_of_le (hcalls w hw way u hway) hle)

/-- More calls than a value has ways for change nothing. -/
theorem ofValue_of_fits {calls more : Nat} (h : Fits calls v) (hmore : calls ≤ more) :
    ofValue source more v = ofValue source calls v := by
  induction calls generalizing more v with
  | zero => exact absurd (h [] v rfl) (Nat.lt_irrefl 0)
  | succ calls ih =>
      obtain ⟨more, rfl⟩ : ∃ n, more = n + 1 := ⟨more - 1, by omega⟩
      have hitems : (itemsOf v).mapM (ofValue source more) = (itemsOf v).mapM (ofValue source calls) :=
        Attempt.mapM_congr_of_mem fun w hw => ih (h.item hw) (by omega)
      rw [ofValue_succ, ofValue_succ, hitems]

/-- A shorter way leads to something too. -/
theorem exists_at?_take {way : List Nat} (h : at? v way = some w) (n : Nat) : ∃ u, at? v (way.take n) = some u := by
  induction n generalizing v way with
  | zero => exact ⟨v, rfl⟩
  | succ n ih =>
      cases way with
      | nil => exact ⟨w, h⟩
      | cons place way =>
          obtain ⟨item, hitem, hway⟩ := Option.bind_eq_some_iff.1 h
          obtain ⟨u, hu⟩ := ih hway
          exact ⟨u, Option.bind_eq_some_iff.2 ⟨item, hitem, hu⟩⟩

/-! ### Surveys -/

/-- Things with the ways that lead to them, in the order of the ways. -/
structure IsSurvey {α : Type} (at? : List Nat → Option α) (survey : List (List Nat × α)) : Prop where
  sorted : survey.Pairwise fun a b => a.1 < b.1
  mem_iff (way : List Nat) (a : α) : (way, a) ∈ survey ↔ at? way = some a

/-- The survey of things that are reached through others, of which each has a survey. -/
def branches {α : Type} (surveys : List (List (List Nat × α))) : List (List Nat × α) :=
  surveys.zipIdx.flatMap fun s => s.1.map fun a => (s.2 :: a.1, a.2)

section Branches

variable {α β : Type} {l : List α} {reach? : α → List Nat → Option β} {survey : α → List (List Nat × β)}

theorem map_branches {f g : List Nat × α → β} (h : ∀ place way a, f (place :: way, a) = g (way, a))
    (surveys : List (List (List Nat × α))) : (branches surveys).map f = (surveys.map (List.map g)).flatten := by
  calc (branches surveys).map f
      = surveys.zipIdx.flatMap fun s => s.1.map g := by simp [branches, List.map_flatMap, Function.comp_def, h]
    _ = ((surveys.zipIdx.map Prod.fst).map (List.map g)).flatten := by
        rw [List.flatMap_def, List.map_map]
        rfl
    _ = (surveys.map (List.map g)).flatten := by simp

theorem sorted_branches (h : ∀ a ∈ l, IsSurvey (reach? a) (survey a)) :
    (branches (l.map survey)).Pairwise fun a b => a.1 < b.1 := by
  rw [branches, List.pairwise_flatMap]
  constructor
  · intro s hs
    obtain ⟨a, ha, hsurvey⟩ := List.mem_map.1 (List.fst_mem_of_mem_zipIdx hs)
    rw [List.pairwise_map, ← hsurvey]
    exact (h a ha).sorted.imp fun hlt => List.cons_lt_cons_iff.2 (Or.inr ⟨rfl, hlt⟩)
  · have hplaces : (l.map survey).zipIdx.Pairwise fun s t => s.2 < t.2 := by
      rw [List.pairwise_iff_getElem]
      intro i j hi hj hij
      simpa using hij
    refine hplaces.imp fun hlt x hx y hy => ?_
    obtain ⟨_, _, rfl⟩ := List.mem_map.1 hx
    obtain ⟨_, _, rfl⟩ := List.mem_map.1 hy
    exact List.cons_lt_cons_iff.2 (Or.inl hlt)

theorem mem_branches_iff (h : ∀ a ∈ l, IsSurvey (reach? a) (survey a)) {place : Nat} {way : List Nat} {b : β} :
    (place :: way, b) ∈ branches (l.map survey) ↔ (l[place]?.bind fun a => reach? a way) = some b := by
  rw [branches, List.mem_flatMap, Option.bind_eq_some_iff]
  constructor
  · rintro ⟨⟨s, i⟩, hs, hb⟩
    obtain ⟨⟨rest, c⟩, hc, heq⟩ := List.mem_map.1 hb
    obtain ⟨hway, rfl⟩ := Prod.mk.inj heq
    obtain ⟨rfl, rfl⟩ := List.cons.inj hway
    rw [List.mem_zipIdx_iff_getElem?, List.getElem?_map, Option.map_eq_some_iff] at hs
    obtain ⟨a, ha, rfl⟩ := hs
    exact ⟨a, ha, ((h a (List.mem_of_getElem? ha)).mem_iff rest c).1 hc⟩
  · rintro ⟨a, ha, hb⟩
    refine ⟨(survey a, place), ?_, List.mem_map_of_mem (((h a (List.mem_of_getElem? ha)).mem_iff way b).2 hb)⟩
    rw [List.mem_zipIdx_iff_getElem?, List.getElem?_map, ha]
    rfl

theorem nil_not_mem_branches (surveys : List (List (List Nat × β))) (b : β) : ([], b) ∉ branches surveys := by
  simp [branches]

end Branches

/-! ### Walks -/

theorem gather_branches {ε α β γ : Type} {f g : List Nat × β → Except ε (Option γ)}
    (h : ∀ place way b, f (place :: way, b) = g (way, b)) (l : List α) (survey : α → List (List Nat × β)) :
    Attempt.gather f (branches (l.map survey)) = (l.mapM fun a => Attempt.gather g (survey a)).map List.flatten := by
  have hgather {f : List Nat × β → Except ε (Option γ)} (l : List (List Nat × β)) :
      Attempt.gather f l = Attempt.gather id (l.map f) := by
    rw [Attempt.gather, Attempt.gather, List.mapM_map]
    rfl
  rw [hgather, map_branches h, Attempt.gather_flatten, List.mapM_map, List.mapM_map]
  refine congrArg (Except.map List.flatten) (Attempt.mapM_congr_of_mem fun a _ => ?_)
  exact (hgather (survey a)).symm

/-- What a walk does at a value to which so many calls lead. -/
def visit (source : String) (calls depth : Nat) (v : Value) : Except Value.Fault (Option Resource) :=
  if depth < calls then own source v else .error .tooDeep

theorem visit_succ_succ (source : String) (calls depth : Nat) (v : Value) :
    visit source (calls + 1) (depth + 1) v = visit source calls depth v := by
  simp [visit]

theorem visit_eq_error_iff {calls depth : Nat} (hdepth : depth ≤ calls) {e : Value.Fault} :
    visit source calls depth v = .error e ↔ Breaks calls depth v e := by
  rw [visit]
  constructor
  · intro h
    split at h
    · next hlt => exact .own hlt (own_eq_error_iff.1 h)
    · obtain rfl := Except.error.inj h
      exact .tooDeep (by omega)
  · rintro (⟨hlt, h⟩ | heq)
    · rw [if_pos hlt]
      exact own_eq_error_iff.2 h
    · rw [if_neg (by omega)]

/-- What can be reached with so many calls from a value, and the ways to it, is what the walk through the value comes
to. -/
theorem exists_survey (calls : Nat) (v : Value) :
    ∃ survey, IsSurvey (fun way => if way.length ≤ calls then at? v way else none) survey ∧
      ∀ source, ofValue source calls v = Attempt.gather (fun a => visit source calls a.1.length a.2) survey := by
  induction calls generalizing v with
  | zero =>
      refine ⟨[([], v)], ⟨List.pairwise_singleton _ _, fun way w => ?_⟩, fun source => rfl⟩
      cases way with
      | nil => simp [at?, eq_comm]
      | cons place way => simp
  | succ calls ih =>
      choose survey hsurvey hwalk using ih
      have hitems : ∀ w ∈ itemsOf v, IsSurvey (fun way => if way.length ≤ calls then at? w way else none) (survey w) :=
        fun w _ => hsurvey w
      -- the value comes first, and behind it what is reached from its items, item by item
      refine ⟨([], v) :: branches ((itemsOf v).map survey), ⟨?_, fun way w => ?_⟩, fun source => ?_⟩
      · rw [List.pairwise_cons]
        refine ⟨fun b hb => ?_, sorted_branches hitems⟩
        obtain ⟨way, w⟩ := b
        cases way with
        | nil => exact absurd hb (nil_not_mem_branches _ w)
        | cons place way => exact List.nil_lt_cons place way
      · cases way with
        | nil => simp [nil_not_mem_branches, at?, eq_comm]
        | cons place way =>
            simp only [List.mem_cons, Prod.mk.injEq, reduceCtorEq, false_and, false_or, List.length_cons,
              Nat.succ_le_succ_iff, mem_branches_iff hitems, at?]
            split <;> simp
      · have hmapM : (itemsOf v).mapM (ofValue source calls) = (itemsOf v).mapM fun w =>
            Attempt.gather (fun a => visit source calls a.1.length a.2) (survey w) :=
          Attempt.mapM_congr_of_mem fun w _ => hwalk w source
        have hown : visit source (calls + 1) ([] : List Nat).length v = own source v := if_pos (Nat.succ_pos calls)
        rw [ofValue_succ, hmapM, Attempt.gather_cons, hown,
          gather_branches (g := fun a => visit source calls a.1.length a.2)
            fun _ way w => visit_succ_succ source calls way.length w]
        cases own source v with
        | error e => rfl
        | ok r => cases (itemsOf v).mapM fun w =>
            Attempt.gather (fun a => visit source calls a.1.length a.2) (survey w) <;> rfl

/-! ### Documents -/

/-- What is reached from documents along a way, with the path of its document. -/
def reached? (documents : List Document) : List Nat → Option (String × Value)
  | [] => none
  | place :: way => documents[place]?.bind fun d => (at? d.content way).map fun v => (d.path, v)

/-- The documents' resources are found by a walk through what can be reached, in the order of the ways. The first place
on a way takes no call of its own. -/
theorem exists_survey_reached (calls : Nat) (documents : List Document) :
    ∃ survey, IsSurvey (fun way => if way.length ≤ calls + 1 then reached? documents way else none) survey ∧
      ofDocuments calls documents =
        Attempt.gather (fun a : List Nat × String × Value => visit a.2.1 (calls + 1) a.1.length a.2.2) survey := by
  have hdocument (d : Document) : ∃ survey,
      IsSurvey (fun way => if way.length ≤ calls then (at? d.content way).map fun v => (d.path, v) else none) survey ∧
        ofValue d.path calls d.content =
          Attempt.gather (fun a : List Nat × String × Value => visit a.2.1 calls a.1.length a.2.2) survey := by
    obtain ⟨survey, hsurvey, hwalk⟩ := exists_survey calls d.content
    refine ⟨survey.map fun a => (a.1, d.path, a.2), ⟨?_, fun way p => ?_⟩, ?_⟩
    · exact List.pairwise_map.2 hsurvey.sorted
    · have hmem (w : Value) := hsurvey.mem_iff way w
      rw [List.mem_map]
      constructor
      · rintro ⟨a, ha, heq⟩
        obtain ⟨rfl, rfl⟩ := Prod.mk.inj heq
        have hreached := (hmem a.2).1 ha
        split at hreached
        · next hle => rw [if_pos hle, hreached, Option.map_some]
        · cases hreached
      · intro hreached
        split at hreached
        · next hle =>
          obtain ⟨w, hw, rfl⟩ := Option.map_eq_some_iff.1 hreached
          exact ⟨(way, w), (hmem w).2 (by rw [if_pos hle, hw]), rfl⟩
        · cases hreached
    · rw [hwalk, Attempt.gather, Attempt.gather, List.mapM_map]
      rfl
  choose survey hsurvey hwalk using hdocument
  refine ⟨branches (documents.map survey), ⟨sorted_branches fun d _ => hsurvey d, fun way p => ?_⟩, ?_⟩
  · cases way with
    | nil => simp [nil_not_mem_branches, reached?]
    | cons place way =>
        rw [mem_branches_iff fun d _ => hsurvey d, reached?, List.length_cons]
        simp only [Nat.succ_le_succ_iff]
        split <;> simp
  · rw [ofDocuments, gather_branches (g := fun a => visit a.2.1 calls a.1.length a.2.2)
      fun _ way p => visit_succ_succ p.1 calls way.length p.2]
    exact congrArg (Except.map List.flatten) (Attempt.mapM_congr_of_mem fun d _ => hwalk d)

/-! ### What is found and what fails -/

/-- Whether a text is that of a value, or empty where the value is not given. -/
def IsTextOf (v : Value) (t : RawText) : Prop :=
  (v.isTruthy = true ∧ v.display = .ok t) ∨ (v.isTruthy = false ∧ t = "")

/-- Whether a resource is the one that the entries of a mapping in a source describe. -/
structure IsDescribedBy (source : String) (entries : Entries) (r : Resource) : Prop where
  kind : IsTextOf (entries.get "kind") r.identity.kind
  apiVersion : IsTextOf (entries.get "apiVersion") r.identity.apiVersion
  space : IsTextOf ((metadataOf entries).get "namespace") r.identity.space
  name : IsTextOf ((metadataOf entries).get "name") r.identity.name
  metadata : r.metadata = .map (metadataOf entries)
  body : r.body = .map entries
  source : r.source = source

theorem isTextOf_of_fieldText {name : String} {t : RawText} (h : fieldText name entries = .ok t) :
    IsTextOf (entries.get name) t := by
  rw [fieldText] at h
  split at h
  · next hgiven => exact Or.inl ⟨hgiven, h⟩
  · next hgiven => exact Or.inr ⟨by simpa using hgiven, (Except.ok.inj h).symm⟩

theorem isDescribedBy_of_ofEntries {r : Resource} (hobject : IsObject entries) (h : ofEntries source entries = .ok r) :
    IsDescribedBy source entries r := by
  obtain ⟨kind, hkind, h⟩ := Attempt.bind_ok_iff.1 h
  obtain ⟨apiVersion, hapiVersion, h⟩ := Attempt.bind_ok_iff.1 h
  obtain ⟨space, hspace, h⟩ := Attempt.bind_ok_iff.1 h
  obtain ⟨name, hname, h⟩ := Attempt.bind_ok_iff.1 h
  obtain rfl := Except.ok.inj h
  exact {
    kind := Or.inl ⟨hobject.1, hkind⟩
    apiVersion := isTextOf_of_fieldText hapiVersion
    space := isTextOf_of_fieldText hspace
    name := isTextOf_of_fieldText hname
    metadata := rfl
    body := rfl
    source := rfl }

theorem own_eq_some {r : Resource} (h : own source v = .ok (some r)) :
    ∃ entries, v.mapping? = some entries ∧ IsObject entries ∧ IsDescribedBy source entries r := by
  cases hentries : v.mapping? with
  | none =>
      rw [own, hentries] at h
      cases h
  | some entries =>
      by_cases hobject : IsObject entries
      · rw [own_of_isObject hentries hobject] at h
        obtain ⟨q, hq, heq⟩ := Attempt.map_ok_iff.1 h
        obtain rfl := Option.some.inj heq
        exact ⟨entries, rfl, hobject, isDescribedBy_of_ofEntries hobject hq⟩
      · rw [own, hentries] at h
        dsimp only at h
        split at h
        · split at h <;> cases h
        · next hlist =>
          rw [if_neg fun hkind => hobject ⟨hkind, by simpa using hlist⟩] at h
          cases h

/-- Whether what is reached from documents along a way makes a walk fail that has so many calls. -/
def FailsAt (calls : Nat) (documents : List Document) (way : List Nat) (e : Value.Fault) : Prop :=
  ∃ source v, reached? documents way = some (source, v) ∧ Breaks (calls + 1) way.length v e

/-- Whether the first way in documents on which a walk fails makes it fail in some way. -/
def FailsFirst (calls : Nat) (documents : List Document) (e : Value.Fault) : Prop :=
  ∃ way, FailsAt calls documents way e ∧ ∀ earlier < way, ∀ e', ¬FailsAt calls documents earlier e'

/-- Whether resources are those that are reached from documents, each described by what is at the end of its way, in
the order of the ways. -/
def AreReached (documents : List Document) (resources : List Resource) : Prop :=
  ∃ ways : List (List Nat), ways.Pairwise (· < ·) ∧
    (∀ way, way ∈ ways ↔ ∃ source v entries, reached? documents way = some (source, v) ∧
      v.mapping? = some entries ∧ IsObject entries) ∧
    List.Forall₂ (fun way r => ∃ source v entries, reached? documents way = some (source, v) ∧
      v.mapping? = some entries ∧ IsObject entries ∧ IsDescribedBy source entries r) ways resources

variable {calls : Nat} {documents : List Document}

/-- A way with more calls than may be nested has a part that is as long as a walk gets. -/
theorem exists_failsAt_of_long {way : List Nat} {p : String × Value} (hway : reached? documents way = some p)
    (hlong : calls + 1 < way.length) : ∃ shorter, FailsAt calls documents shorter .tooDeep := by
  cases way with
  | nil => cases hway
  | cons place way =>
      obtain ⟨d, hd, hp⟩ := Option.bind_eq_some_iff.1 hway
      obtain ⟨w, hw, rfl⟩ := Option.map_eq_some_iff.1 hp
      obtain ⟨u, hu⟩ := exists_at?_take hw calls
      have hlength : (way.take calls).length = calls := by
        rw [List.length_take]
        simp only [List.length_cons] at hlong
        omega
      refine ⟨place :: way.take calls, d.path, u, ?_, .tooDeep (by rw [List.length_cons, hlength])⟩
      exact Option.bind_eq_some_iff.2 ⟨d, hd, Option.map_eq_some_iff.2 ⟨u, hu, rfl⟩⟩

/-- A walk fails exactly if something that is reached makes it fail, and then as the first of it does. -/
theorem ofDocuments_eq_error {e : Value.Fault} (h : ofDocuments calls documents = .error e) :
    FailsFirst calls documents e := by
  obtain ⟨survey, hsurvey, hwalk⟩ := exists_survey_reached calls documents
  rw [hwalk, Attempt.gather, Attempt.map_eq_error_iff, Attempt.mapM_eq_error_iff] at h
  obtain ⟨before, ⟨way, source, v⟩, behind, rfl, hbefore, hv⟩ := h
  have hmem := (hsurvey.mem_iff way (source, v)).1 (by simp)
  split at hmem
  · next hle =>
    refine ⟨way, ⟨source, v, hmem, (visit_eq_error_iff hle).1 hv⟩, ?_⟩
    rintro earlier hearlier e' ⟨source', w, hw, hbreaks⟩
    obtain ⟨_, hcons, hacross⟩ := List.pairwise_append.1 hsurvey.sorted
    have hshort : earlier.length ≤ calls + 1 := by cases hbreaks <;> omega
    -- whatever has an earlier way stands before the failure in the survey, where all is fine
    rcases List.mem_append.1 ((hsurvey.mem_iff earlier (source', w)).2 (by rw [if_pos hshort, hw])) with hearly | hlate
    · obtain ⟨r, hr⟩ := hbefore _ hearly
      cases hr.symm.trans ((visit_eq_error_iff hshort).2 hbreaks)
    · rcases List.mem_cons.1 hlate with heq | hlate
      · obtain ⟨rfl, _⟩ := Prod.mk.inj heq
        exact List.lt_irrefl _ hearlier
      · exact List.lt_asymm hearlier ((List.pairwise_cons.1 hcons).1 _ hlate)
  · cases hmem

example : ofDocuments 2 [⟨"m.yaml", 0, .map [(.text "kind", .text "List"), (.text "items", .int 5)]⟩] =
    .error (.notIterable "int") := rfl

theorem fails_of_failsAt {way : List Nat} {e : Value.Fault} (hfails : FailsAt calls documents way e) :
    ∃ e', ofDocuments calls documents = .error e' := by
  obtain ⟨survey, hsurvey, hwalk⟩ := exists_survey_reached calls documents
  obtain ⟨source, v, hv, hbreaks⟩ := hfails
  have hle : way.length ≤ calls + 1 := by cases hbreaks <;> omega
  rw [hwalk, Attempt.gather, Attempt.fails_map_iff, Attempt.mapM_fails_iff]
  have hmem : (way, source, v) ∈ survey := (hsurvey.mem_iff _ _).2 (by rw [if_pos hle, hv])
  exact ⟨_, hmem, e, (visit_eq_error_iff hle).2 hbreaks⟩

theorem areReached_of_ok {resources : List Resource} (hok : ofDocuments calls documents = .ok resources) :
    AreReached documents resources := by
  have hfine {way : List Nat} {e : Value.Fault} : ¬FailsAt calls documents way e := fun h => by
    obtain ⟨e', herror⟩ := fails_of_failsAt h
    cases hok.symm.trans herror
  have hshort {way : List Nat} {p : String × Value} (hway : reached? documents way = some p) :
      way.length < calls + 1 := by
    rcases Nat.lt_trichotomy way.length (calls + 1) with hlt | heq | hlong
    · exact hlt
    · exact absurd ⟨p.1, p.2, hway, .tooDeep heq⟩ hfine
    · obtain ⟨shorter, h⟩ := exists_failsAt_of_long hway hlong
      exact absurd h hfine
  obtain ⟨survey, hsurvey, hwalk⟩ := exists_survey_reached calls documents
  have hmem {a : List Nat × String × Value} : a ∈ survey ↔ reached? documents a.1 = some a.2 := by
    refine (hsurvey.mem_iff a.1 a.2).trans ⟨fun h => ?_, fun h => by rw [if_pos (Nat.le_of_lt (hshort h)), h]⟩
    split at h
    · exact h
    · cases h
  have hvisit {a : List Nat × String × Value} (ha : a ∈ survey) :
      visit a.2.1 (calls + 1) a.1.length a.2.2 = own a.2.1 a.2.2 := if_pos (hshort (hmem.1 ha))
  rw [hwalk] at hok
  have hfound := Attempt.forall₂_of_gather_ok hok
  refine ⟨(survey.filter fun a => Attempt.finds (visit a.2.1 (calls + 1) a.1.length a.2.2)).map Prod.fst, ?_,
    fun way => ?_, ?_⟩
  · exact List.pairwise_map.2 (hsurvey.sorted.filter _)
  · rw [List.mem_map]
    constructor
    · rintro ⟨⟨_, source, v⟩, ha, rfl⟩
      obtain ⟨ha, hfinds⟩ := List.mem_filter.1 ha
      rw [hvisit ha] at hfinds
      obtain ⟨r, hr⟩ := Attempt.finds_iff.1 hfinds
      obtain ⟨entries, hentries, hobject, _⟩ := own_eq_some hr
      exact ⟨source, v, entries, hmem.1 ha, hentries, hobject⟩
    · rintro ⟨source, v, entries, hway, hentries, hobject⟩
      have ha : (way, source, v) ∈ survey := hmem.2 hway
      -- the walk came to it and went on, so it has a resource
      obtain ⟨founds, hfounds, _⟩ := Attempt.map_ok_iff.1 hok
      obtain ⟨found, _, hfound⟩ := Attempt.exists_of_mapM_ok hfounds ha
      rw [hvisit ha, own_of_isObject hentries hobject] at hfound
      obtain ⟨r, hr, rfl⟩ := Attempt.map_ok_iff.1 hfound
      refine ⟨(way, source, v), List.mem_filter.2 ⟨ha, Attempt.finds_iff.2 ⟨r, ?_⟩⟩, rfl⟩
      rw [hvisit ha, own_of_isObject hentries hobject, hr]
      rfl
  · rw [List.forall₂_map_left_iff]
    have hfrom : ∀ a ∈ survey.filter fun a => Attempt.finds (visit a.2.1 (calls + 1) a.1.length a.2.2), a ∈ survey :=
      fun a ha => (List.mem_filter.1 ha).1
    refine ((List.forall₂_and_left _ _).2 ⟨hfrom, hfound⟩).imp ?_
    rintro ⟨way, source, v⟩ r ⟨ha, hr⟩
    rw [hvisit ha] at hr
    obtain ⟨entries, hentries, hobject, hdescribed⟩ := own_eq_some hr
    exact ⟨source, v, entries, hmem.1 ha, hentries, hobject, hdescribed⟩

/-- What makes a walk fail is a list whose items cannot be walked through, an identity without a text, or depth. -/
theorem FailsAt.fault {way : List Nat} {e : Value.Fault} (h : FailsAt calls documents way e) :
    (∃ kind, e = .notIterable kind) ∨ e = .integer .unwritable ∨ e = .tooDeep := by
  obtain ⟨source, v, _, ⟨_, hfails⟩ | _⟩ := h
  · cases hfails with
    | items => exact Or.inl ⟨_, rfl⟩
    | name _ _ hunnamable =>
        obtain ⟨_, _, _, _, _, _, hdisplay⟩ := hunnamable
        exact Or.inr (Value.display_error hdisplay)
  · exact Or.inr (Or.inr rfl)

/-! ### The law -/

theorem ofDocuments_append (calls : Nat) (before behind : List Document) :
    ofDocuments calls (before ++ behind) =
      ofDocuments calls before >>= fun found => (ofDocuments calls behind).map fun more => found ++ more := by
  rw [ofDocuments, ofDocuments, ofDocuments, List.mapM_append]
  cases before.mapM fun d => ofValue d.path calls d.content with
  | error e => rfl
  | ok lists =>
      cases behind.mapM fun d => ofValue d.path calls d.content with
      | error e => rfl
      | ok more => simp [pure, Except.pure]

/-- A list stands for the documents whose contents are its items, if they leave a call for the list. -/
theorem ofDocuments_wrapped {wrapped : List Document} {path : String} (index : Nat)
    (hlist : entries.get "kind" = .text listKind) (hitems : entries.get "items" = .list (wrapped.map Document.content))
    (h : ∀ d ∈ wrapped, d.path = path ∧ Fits calls d.content) :
    ofDocuments (calls + 1) [⟨path, index, .map entries⟩] = ofDocuments (calls + 1) wrapped := by
  have hkind : (Entries.get "kind" entries).isText listKind := Value.isText_iff.2 hlist
  have hparts : itemsOf (.map entries) = wrapped.map Document.content := by
    rw [itemsOf, Value.mapping?_map]
    dsimp only
    rw [if_pos hkind, hitems]
    rfl
  have hown : own path (.map entries) = .ok none := by
    rw [own, Value.mapping?_map]
    dsimp only
    rw [if_pos hkind, hitems, if_neg (by simp [Value.isCollection, Value.opened])]
  have hdocument : ofValue path (calls + 1) (.map entries) =
      (wrapped.mapM fun d => ofValue d.path (calls + 1) d.content).map List.flatten := by
    rw [ofValue_succ, hown, Attempt.ok_bind, hparts, List.mapM_map]
    refine congrArg (Except.map List.flatten) (Attempt.mapM_congr_of_mem fun d hd => ?_)
    obtain ⟨rfl, hfits⟩ := h d hd
    exact (ofValue_of_fits hfits (Nat.le_succ calls)).symm
  rw [ofDocuments, ofDocuments, List.mapM_cons, List.mapM_nil, hdocument]
  cases wrapped.mapM fun d => ofValue d.path (calls + 1) d.content <;>
    simp [bind, Except.bind, pure, Except.pure, Except.map]

/-- For finite documents there are calls enough that only what is wrong with a value makes a walk fail. -/
theorem exists_enough_calls (h : ∀ d ∈ documents, d.content.IsTree) :
    ∃ enough, (∀ d ∈ documents, Fits enough d.content) ∧ ∀ calls ≥ enough, ∀ way e, FailsAt calls documents way e ↔
      ∃ source v, reached? documents way = some (source, v) ∧ FailsWith v e := by
  have hfits : ∃ enough, ∀ d ∈ documents, Fits enough d.content := by
    choose! enough henough using fun d hd => exists_fits (h d hd)
    refine ⟨(documents.map enough).foldr max 0, fun d hd way w hway => ?_⟩
    exact Nat.lt_of_lt_of_le (henough d hd way w hway)
      (List.le_max_of_le' 0 (List.mem_map_of_mem hd) (Nat.le_refl _))
  obtain ⟨enough, henough⟩ := hfits
  refine ⟨enough, henough, fun calls hcalls way e => ?_⟩
  have hshort {p : String × Value} (hway : reached? documents way = some p) : way.length < calls + 1 := by
    cases way with
    | nil => exact Nat.succ_pos calls
    | cons place way =>
        obtain ⟨d, hd, hp⟩ := Option.bind_eq_some_iff.1 hway
        obtain ⟨w, hw, rfl⟩ := Option.map_eq_some_iff.1 hp
        have hlt := henough d (List.mem_of_getElem? hd) way w hw
        rw [List.length_cons]
        omega
  constructor
  · rintro ⟨source, v, hway, ⟨_, hfails⟩ | hdepth⟩
    · exact ⟨source, v, hway, hfails⟩
    · exact absurd hdepth (Nat.ne_of_lt (hshort hway))
  · rintro ⟨source, v, hway, hfails⟩
    exact ⟨source, v, hway, .own (hshort hway) hfails⟩

/-- Documents stand for what is left when their lists are flattened. If nothing that is reached makes a walk fail, these
are the resources that are reached, in the order of their ways; else the first failure on a way is theirs. Documents
stand for resources one after the other, and a list among them for the documents that it holds, as long as these leave a
call for it. A walk fails by its length only where more calls are on a way than may be nested; for finite documents
there is a number of calls that is enough. -/
theorem ofDocuments_flattens (documents : List Document) :
    (∀ calls,
      ((∀ way e, ¬FailsAt calls documents way e) →
        ∃ resources, ofDocuments calls documents = .ok resources ∧ AreReached documents resources) ∧
      ((∃ way e, FailsAt calls documents way e) →
        ∃ e, ofDocuments calls documents = .error e ∧ FailsFirst calls documents e) ∧
      (∀ way e, FailsAt calls documents way e →
        (∃ kind, e = .notIterable kind) ∨ e = .integer .unwritable ∨ e = .tooDeep) ∧
      (∀ before behind, ofDocuments calls (before ++ behind) =
        ofDocuments calls before >>= fun found => (ofDocuments calls behind).map fun more => found ++ more) ∧
      ∀ (before wrapped behind : List Document) (path : String) (index : Nat) (entries : Entries),
        entries.get "kind" = .text listKind → entries.get "items" = .list (wrapped.map Document.content) →
          (∀ d ∈ wrapped, d.path = path ∧ Fits calls d.content) →
            ofDocuments (calls + 1) (before ++ ⟨path, index, .map entries⟩ :: behind) =
              ofDocuments (calls + 1) (before ++ wrapped ++ behind)) ∧
    ((∀ d ∈ documents, d.content.IsTree) →
      ∃ enough, (∀ d ∈ documents, Fits enough d.content) ∧ ∀ calls ≥ enough, ∀ way e,
        FailsAt calls documents way e ↔ ∃ source v, reached? documents way = some (source, v) ∧ FailsWith v e) := by
  refine ⟨fun calls => ⟨fun hfine => ?_, ?_, fun way e => FailsAt.fault, ofDocuments_append calls, ?_⟩,
    exists_enough_calls⟩
  · cases hdocuments : ofDocuments calls documents with
    | error e =>
        obtain ⟨way, hfails, _⟩ := ofDocuments_eq_error hdocuments
        exact absurd hfails (hfine way e)
    | ok resources => exact ⟨resources, rfl, areReached_of_ok hdocuments⟩
  · rintro ⟨way, e, hfails⟩
    obtain ⟨e', herror⟩ := fails_of_failsAt hfails
    exact ⟨e', herror, ofDocuments_eq_error herror⟩
  · intro before wrapped behind path index entries hlist hitems hwrapped
    rw [List.append_cons, ofDocuments_append, ofDocuments_append _ (before ++ wrapped), ofDocuments_append _ before,
      ofDocuments_append _ before, ofDocuments_wrapped index hlist hitems hwrapped]

/-- The content of a document with a kind and a name. -/
def named (kind name : String) : Value :=
  .map [(.text "kind", .text kind), (.text "metadata", .map [(.text "name", .text name)])]

/-- The content of a list. -/
def listOf (items : List Value) : Value := .map [(.text "kind", .text listKind), (.text "items", .list items)]

theorem isTree_named (kind name : String) : (named kind name).IsTree := by
  refine .map (by simp [Value.isHashable]) ?_
  simp only [List.forall_mem_cons]
  refine ⟨.single rfl, .map (by simp [Value.isHashable]) ?_, nofun⟩
  simp only [List.forall_mem_cons]
  exact ⟨.single rfl, nofun⟩

theorem isTree_listOf {items : List Value} (h : ∀ v ∈ items, v.IsTree) : (listOf items).IsTree := by
  refine .map (by simp [Value.isHashable]) ?_
  simp only [List.forall_mem_cons]
  exact ⟨.single rfl, .list h, nofun⟩

/-- A list with a list and a text among its items, and a document of its own. -/
def nestedLists : List Document :=
  [⟨"all.yaml", 0, listOf [named "Pod" "web", listOf [named "Pod" "db", .text "Pod"], named "Job" "backup"]⟩,
    ⟨"service.yaml", 0, named "Service" "front"⟩]

theorem ofDocuments_flattens_nestedLists :
    (∀ d ∈ nestedLists, d.content.IsTree) ∧
      ∃ resources, ofDocuments Value.callLimit nestedLists = .ok resources ∧ AreReached nestedLists resources ∧
        resources.map (fun r => r.identity.name.shown) = ["web", "db", "backup", "front"] := by
  have htree : ∀ d ∈ nestedLists, d.content.IsTree := by
    simp only [nestedLists, List.forall_mem_cons]
    refine ⟨isTree_listOf ?_, isTree_named _ _, nofun⟩
    simp only [List.forall_mem_cons]
    refine ⟨isTree_named _ _, isTree_listOf ?_, isTree_named _ _, nofun⟩
    simp only [List.forall_mem_cons]
    exact ⟨isTree_named _ _, .single rfl, nofun⟩
  obtain ⟨hfine, hfails, _⟩ := (ofDocuments_flattens nestedLists).1 Value.callLimit
  obtain ⟨resources, hok, hnames⟩ : ∃ resources, ofDocuments Value.callLimit nestedLists = .ok resources ∧
      resources.map (fun r => r.identity.name.shown) = ["web", "db", "backup", "front"] := ⟨_, rfl, by decide⟩
  obtain ⟨found, hfound, hreached⟩ := hfine fun way e hway => by
    obtain ⟨e', herror, _⟩ := hfails ⟨way, e, hway⟩
    exact absurd (herror.symm.trans hok) nofun
  obtain rfl := Except.ok.inj (hok.symm.trans hfound)
  exact ⟨htree, resources, hok, hreached, hnames⟩

/-- A document with a number as its kind. -/
def numbered (kind : Int) : Document := ⟨"m.yaml", 0, .map [(.text "kind", .int kind)]⟩

theorem reached?_numbered {kind : Int} {way : List Nat} {p : String × Value}
    (h : reached? [numbered kind] way = some p) : p = ("m.yaml", (numbered kind).content) := by
  cases way with
  | nil => cases h
  | cons place way =>
      obtain ⟨d, hd, hp⟩ := Option.bind_eq_some_iff.1 h
      obtain rfl := List.mem_singleton.1 (List.mem_of_getElem? hd)
      obtain ⟨v, hv, rfl⟩ := Option.map_eq_some_iff.1 hp
      cases way with
      | nil => exact congrArg (Prod.mk "m.yaml") (Option.some.inj hv).symm
      | cons => cases hv

theorem isTree_numbered (kind : Int) : (numbered kind).content.IsTree :=
  .map (by simp [Value.isHashable]) (by simpa using .single rfl)

theorem ofDocuments_numbered {kind : Int} (h : Nat.pow 10 Number.digitLimit ≤ kind.natAbs) (calls : Nat) :
    ∃ e, ofDocuments calls [numbered kind] = .error e := by
  refine (ofDocuments_fails_iff calls _).2 ⟨numbered kind, List.mem_singleton_self _, ?_⟩
  cases calls with
  | zero => exact isFaulty_zero _
  | succ calls =>
      have hobject : IsObject [(.text "kind", .int kind)] := ⟨Value.isTruthy_int h, rfl⟩
      have hunnamable : IsUnnamable [(.text "kind", .int kind)] (.integer .unwritable) :=
        First.cons_iff.2 (Or.inl ⟨Value.isTruthy_int h, Value.display_int h⟩)
      exact isFaulty_succ_iff.2 (Or.inl ⟨_, .name rfl hobject hunnamable⟩)

/-- Lists in one another, so many of them, with nothing in the innermost place. -/
def nested : Nat → Value
  | 0 => .null
  | depth + 1 => listOf [nested depth]

theorem isTree_nested (depth : Nat) : (nested depth).IsTree := by
  induction depth with
  | zero => exact .single rfl
  | succ depth ih => exact isTree_listOf fun v hv => List.mem_singleton.1 hv ▸ ih

theorem ofValue_nested (source : String) (depth : Nat) : ofValue source depth (nested depth) = .error .tooDeep := by
  induction depth with
  | zero => rfl
  | succ depth ih =>
      have hitems : itemsOf (nested (depth + 1)) = [nested depth] := rfl
      have hown : own source (nested (depth + 1)) = .ok none := rfl
      rw [ofValue_succ, hown, hitems, List.mapM_cons, ih]
      rfl

/-- No list is reached, and still the document stands for no resources; and with nothing wrong in lists that are nested
as deep as calls may be, they stand for none. -/
theorem ofDocuments_numbered_limit :
    ((numbered (Nat.pow 10 Number.digitLimit : Nat)).content.IsTree ∧
      (∀ way source entries,
        reached? [numbered (Nat.pow 10 Number.digitLimit : Nat)] way = some (source, .map entries) →
          (Entries.get "kind" entries).isText listKind = false) ∧
      ¬∃ resources, ofDocuments Value.callLimit [numbered (Nat.pow 10 Number.digitLimit : Nat)] = .ok resources) ∧
    (nested Value.callLimit).IsTree ∧
      ofDocuments Value.callLimit [⟨"m.yaml", 0, nested Value.callLimit⟩] = .error .tooDeep := by
  refine ⟨⟨isTree_numbered _, fun way source entries hway => ?_, ?_⟩, isTree_nested _, ?_⟩
  · obtain ⟨_, hcontent⟩ := Prod.mk.inj (reached?_numbered hway)
    obtain rfl := Value.map.inj hcontent
    rfl
  · rintro ⟨resources, hok⟩
    obtain ⟨e, herror⟩ := ofDocuments_numbered (Int.natAbs_natCast _).ge Value.callLimit
    exact absurd (herror.symm.trans hok) nofun
  · have hwalk := ofValue_nested "m.yaml" Value.callLimit
    rw [ofDocuments, List.mapM_cons, hwalk]
    rfl

end Resource

end ManifestGrading
