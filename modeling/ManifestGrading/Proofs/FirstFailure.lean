import Mathlib.Data.List.Forall2

/-! How attempts fail. One that goes on with the result of another fails as the first does, or with a result of
the first as the second does. What is done to the members of a list one after the other fails where the first
member does, and as that one does; the members behind it do not matter. -/

namespace ManifestGrading

/-- Whether, of the members of a list, the first one that is not fine is bad. -/
def First {α : Type} (fine bad : α → Prop) (l : List α) : Prop :=
  ∃ before a behind, l = before ++ a :: behind ∧ (∀ b ∈ before, fine b) ∧ bad a

namespace First

variable {α : Type} {fine fine' bad bad' : α → Prop} {l : List α} {a : α}

theorem not_nil : ¬First fine bad [] := by
  rintro ⟨before, a, behind, h, _⟩
  cases before <;> cases h

theorem cons_iff : First fine bad (a :: l) ↔ bad a ∨ fine a ∧ First fine bad l := by
  constructor
  · rintro ⟨before, b, behind, h, hbefore, hb⟩
    cases before with
    | nil =>
        obtain ⟨rfl, rfl⟩ := List.cons.inj h
        exact Or.inl hb
    | cons c before =>
        obtain ⟨rfl, rfl⟩ := List.cons.inj h
        exact Or.inr ⟨hbefore a List.mem_cons_self, before, b, behind, rfl,
          fun d hd => hbefore d (List.mem_cons_of_mem a hd), hb⟩
  · rintro (ha | ⟨ha, before, b, behind, rfl, hbefore, hb⟩)
    · exact ⟨[], a, l, rfl, nofun, ha⟩
    · refine ⟨a :: before, b, behind, rfl, fun d hd => ?_, hb⟩
      rcases List.mem_cons.1 hd with rfl | hd
      · exact ha
      · exact hbefore d hd

theorem congr (hfine : ∀ a ∈ l, fine a ↔ fine' a) (hbad : ∀ a ∈ l, bad a ↔ bad' a) :
    First fine bad l ↔ First fine' bad' l := by
  induction l with
  | nil => exact iff_of_false not_nil not_nil
  | cons b rest ih =>
      have hrest := ih (fun a ha => hfine a (List.mem_cons_of_mem b ha))
        fun a ha => hbad a (List.mem_cons_of_mem b ha)
      rw [cons_iff, cons_iff, hfine b List.mem_cons_self, hbad b List.mem_cons_self, hrest]

/-- Where each member is fine or bad, the first one that is not fine is bad as soon as any is. -/
theorem iff_exists_mem (h : ∀ a ∈ l, fine a ∨ bad a) : First fine bad l ↔ ∃ a ∈ l, bad a := by
  induction l with
  | nil => exact iff_of_false not_nil (by simp)
  | cons b rest ih =>
      rw [cons_iff, List.exists_mem_cons_iff, ih fun a ha => h a (List.mem_cons_of_mem b ha)]
      rcases h b List.mem_cons_self with hb | hb
      · simp [hb]
      · simp [hb]

end First

namespace Attempt

variable {ε ε' α β : Type} {fails : ε → Prop} {x : Except ε α}

theorem bind_error_iff {g : α → Except ε β} :
    (∃ e, x >>= g = .error e ∧ fails e) ↔
      (∃ e, x = .error e ∧ fails e) ∨ ∃ a, x = .ok a ∧ ∃ e, g a = .error e ∧ fails e := by
  cases x <;> simp [bind, Except.bind]

@[simp] theorem ok_bind (a : α) (g : α → Except ε β) : (Except.ok a >>= g) = g a := rfl

@[simp] theorem ok_map (a : α) (g : α → β) : (Except.ok a : Except ε α).map g = .ok (g a) := rfl

@[simp] theorem ok_mapError (a : α) (g : ε → ε') : (Except.ok a : Except ε α).mapError g = .ok a := rfl

theorem bind_ok_iff {g : α → Except ε β} {b : β} : x >>= g = .ok b ↔ ∃ a, x = .ok a ∧ g a = .ok b := by
  cases x <;> simp [bind, Except.bind]

theorem bind_eq_error_iff {g : α → Except ε β} {e : ε} :
    x >>= g = .error e ↔ x = .error e ∨ ∃ a, x = .ok a ∧ g a = .error e := by
  cases x <;> simp [bind, Except.bind]

theorem map_eq_error_iff {g : α → β} {e : ε} : x.map g = .error e ↔ x = .error e := by
  cases x <;> simp [Except.map]

theorem fails_map_iff {g : α → β} : (∃ e, x.map g = .error e) ↔ ∃ e, x = .error e := by
  cases x <;> simp [Except.map]

theorem map_ok_iff {g : α → β} {b : β} : x.map g = .ok b ↔ ∃ a, x = .ok a ∧ g a = b := by
  cases x <;> simp [Except.map]

theorem mapError_ok_iff {g : ε → ε'} {a : α} : x.mapError g = .ok a ↔ x = .ok a := by
  cases x <;> simp [Except.mapError]

variable {f : α → Except ε β} {l : List α}

/-- A sequence of attempts fails in some way if the first attempt that does not succeed fails in that way. -/
theorem mapM_error_iff :
    (∃ e, l.mapM f = .error e ∧ fails e) ↔
      First (fun a => ∃ b, f a = .ok b) (fun a => ∃ e, f a = .error e ∧ fails e) l := by
  induction l with
  | nil => exact iff_of_false (by simp [pure, Except.pure]) First.not_nil
  | cons a rest ih =>
      have hrest (b : β) : (∃ e, (rest.mapM f >>= fun bs => pure (b :: bs)) = .error e ∧ fails e) ↔
          ∃ e, rest.mapM f = .error e ∧ fails e := by
        rw [bind_error_iff]
        exact or_iff_left fun ⟨_, _, _, h, _⟩ => nomatch h
      rw [First.cons_iff, ← ih, List.mapM_cons, bind_error_iff]
      simp only [hrest, exists_and_right]

theorem mapM_ok_of_forall₂ {bs : List β} (h : List.Forall₂ (fun a b => f a = .ok b) l bs) : l.mapM f = .ok bs := by
  induction h with
  | nil => rfl
  | cons hhead _ ih =>
      rw [List.mapM_cons, hhead, ih]
      rfl

theorem forall₂_of_mapM_ok {bs : List β} (h : l.mapM f = .ok bs) : List.Forall₂ (fun a b => f a = .ok b) l bs := by
  induction l generalizing bs with
  | nil =>
      cases h
      exact .nil
  | cons a rest ih =>
      rw [List.mapM_cons] at h
      obtain ⟨b, hb, h⟩ := bind_ok_iff.1 h
      obtain ⟨later, hlater, h⟩ := bind_ok_iff.1 h
      obtain rfl := Except.ok.inj h
      exact .cons hb (ih hlater)

theorem mapM_eq_error_iff {e : ε} :
    l.mapM f = .error e ↔ First (fun a => ∃ b, f a = .ok b) (fun a => f a = .error e) l := by
  have hfirst : (∃ e', l.mapM f = .error e' ∧ e' = e) ↔ _ := mapM_error_iff
  simpa using hfirst

theorem mapM_eq_ok {g : α → β} (h : ∀ a ∈ l, f a = .ok (g a)) : l.mapM f = .ok (l.map g) :=
  mapM_ok_of_forall₂ (List.forall₂_map_right_iff.2 (List.forall₂_same.2 h))

/-- What is done to each result of a sequence of attempts can be done within the attempts. -/
theorem mapM_eq_map {γ : Type} {f' : α → Except ε γ} {g : β → γ} (h : ∀ a ∈ l, f' a = (f a).map g) :
    l.mapM f' = (l.mapM f).map (List.map g) := by
  induction l with
  | nil => rfl
  | cons a rest ih =>
      rw [List.mapM_cons, List.mapM_cons, h a List.mem_cons_self, ih fun b hb => h b (List.mem_cons_of_mem a hb)]
      cases f a with
      | error e => rfl
      | ok b => cases rest.mapM f <;> rfl

theorem exists_of_mapM_error {e : ε} (h : l.mapM f = .error e) : ∃ a ∈ l, f a = .error e := by
  have hfirst : (∃ e', l.mapM f = .error e' ∧ e' = e) ↔ _ := mapM_error_iff
  obtain ⟨before, a, behind, rfl, _, _, ha, rfl⟩ := hfirst.1 ⟨e, h, rfl⟩
  exact ⟨a, by simp, ha⟩

theorem exists_of_mem_mapM {bs : List β} (h : l.mapM f = .ok bs) {b : β} (hb : b ∈ bs) : ∃ a ∈ l, f a = .ok b := by
  induction l generalizing bs with
  | nil =>
      cases h
      cases hb
  | cons a rest ih =>
      rw [List.mapM_cons] at h
      obtain ⟨c, hc, h⟩ := bind_ok_iff.1 h
      obtain ⟨later, hlater, h⟩ := bind_ok_iff.1 h
      obtain rfl := Except.ok.inj h
      rcases List.mem_cons.1 hb with rfl | hb
      · exact ⟨a, List.mem_cons_self, hc⟩
      · obtain ⟨d, hd, hfd⟩ := ih hlater hb
        exact ⟨d, List.mem_cons_of_mem a hd, hfd⟩

/-- What holds of all that single attempts find holds of all that a sequence of them finds. -/
theorem forall_mem_flatten {f : α → Except ε (List β)} {lists : List (List β)} {p : β → Prop}
    (hlists : l.mapM f = .ok lists) (h : ∀ a ∈ l, ∀ list, f a = .ok list → ∀ b ∈ list, p b) :
    ∀ b ∈ lists.flatten, p b := by
  intro b hb
  obtain ⟨list, hlist, hb⟩ := List.mem_flatten.1 hb
  obtain ⟨a, ha, hok⟩ := exists_of_mem_mapM hlists hlist
  exact h a ha list hok b hb

theorem exists_of_mapM_ok {bs : List β} (h : l.mapM f = .ok bs) {a : α} (ha : a ∈ l) : ∃ b ∈ bs, f a = .ok b := by
  induction l generalizing bs with
  | nil => cases ha
  | cons c rest ih =>
      rw [List.mapM_cons] at h
      obtain ⟨b, hb, h⟩ := bind_ok_iff.1 h
      obtain ⟨later, hlater, h⟩ := bind_ok_iff.1 h
      obtain rfl := Except.ok.inj h
      rcases List.mem_cons.1 ha with rfl | ha
      · exact ⟨b, List.mem_cons_self, hb⟩
      · obtain ⟨d, hd, hfd⟩ := ih hlater ha
        exact ⟨d, List.mem_cons_of_mem b hd, hfd⟩

theorem length_of_mapM_ok {bs : List β} (h : l.mapM f = .ok bs) : bs.length = l.length := by
  induction l generalizing bs with
  | nil =>
      cases h
      rfl
  | cons a rest ih =>
      rw [List.mapM_cons] at h
      obtain ⟨b, _, h⟩ := bind_ok_iff.1 h
      obtain ⟨more, hmore, h⟩ := bind_ok_iff.1 h
      obtain rfl := Except.ok.inj h
      rw [List.length_cons, List.length_cons, ih hmore]

theorem mapM_congr_of_mem {f' : α → Except ε β} (h : ∀ a ∈ l, f a = f' a) : l.mapM f = l.mapM f' := by
  induction l with
  | nil => rfl
  | cons a rest ih =>
      obtain ⟨ha, hrest⟩ := List.forall_mem_cons.1 h
      rw [List.mapM_cons, List.mapM_cons, ha, ih hrest]

/-- Two sequences of attempts that find the same do so member by member. -/
theorem eq_of_mapM_eq_ok {f' : α → Except ε β} {bs : List β} (h : l.mapM f = .ok bs) (h' : l.mapM f' = .ok bs) :
    ∀ a ∈ l, f a = f' a := by
  induction l generalizing bs with
  | nil => exact nofun
  | cons a rest ih =>
      rw [List.mapM_cons] at h h'
      obtain ⟨b, hb, h⟩ := bind_ok_iff.1 h
      obtain ⟨more, hmore, h⟩ := bind_ok_iff.1 h
      obtain ⟨b', hb', h'⟩ := bind_ok_iff.1 h'
      obtain ⟨more', hmore', h'⟩ := bind_ok_iff.1 h'
      obtain rfl := Except.ok.inj h
      obtain ⟨rfl, rfl⟩ := List.cons.inj (Except.ok.inj h')
      exact List.forall_mem_cons.2 ⟨hb.trans hb'.symm, ih hmore hmore'⟩

/-- A sequence of attempts each of which succeeds with a result of some sort succeeds with results of that sort. -/
theorem exists_mapM_eq_ok {p : β → Prop} (h : ∀ a ∈ l, ∃ b, f a = .ok b ∧ p b) :
    ∃ bs, l.mapM f = .ok bs ∧ ∀ b ∈ bs, p b := by
  induction l with
  | nil => exact ⟨[], rfl, nofun⟩
  | cons a rest ih =>
      obtain ⟨⟨b, hb, hp⟩, hrest⟩ := List.forall_mem_cons.1 h
      obtain ⟨bs, hbs, hall⟩ := ih hrest
      exact ⟨b :: bs, by rw [List.mapM_cons, hb, hbs]; rfl, List.forall_mem_cons.2 ⟨hp, hall⟩⟩

/-- A sequence of attempts fails if one of them does. -/
theorem mapM_fails_iff : (∃ e, l.mapM f = .error e) ↔ ∃ a ∈ l, ∃ e, f a = .error e := by
  have hfirst : (∃ e, l.mapM f = .error e ∧ True) ↔ _ := mapM_error_iff
  simp only [and_true] at hfirst
  rw [hfirst]
  refine First.iff_exists_mem fun a _ => ?_
  cases f a with
  | error e => exact Or.inr ⟨e, rfl⟩
  | ok b => exact Or.inl ⟨b, rfl⟩

/-! ### Attempts that may find nothing -/

/-- What attempts that may find nothing find, one after the other. -/
def gather (f : α → Except ε (Option β)) (l : List α) : Except ε (List β) :=
  (l.mapM f).map fun found => found.filterMap id

theorem gather_cons (f : α → Except ε (Option β)) (a : α) (l : List α) :
    gather f (a :: l) = f a >>= fun b => (gather f l).map fun found => b.toList ++ found := by
  rw [gather, gather, List.mapM_cons]
  cases f a with
  | error e => rfl
  | ok b => cases l.mapM f <;> cases b <;> rfl

theorem gather_append (f : α → Except ε (Option β)) (l l' : List α) :
    gather f (l ++ l') = gather f l >>= fun found => (gather f l').map fun more => found ++ more := by
  rw [gather, gather, gather, List.mapM_append]
  cases l.mapM f with
  | error e => rfl
  | ok found => cases l'.mapM f <;> simp [bind, Except.bind, Except.map, pure, Except.pure]

theorem gather_flatten (f : α → Except ε (Option β)) (lists : List (List α)) :
    gather f lists.flatten = (lists.mapM (gather f)).map List.flatten := by
  induction lists with
  | nil => rfl
  | cons l rest ih =>
      rw [List.flatten_cons, gather_append, ih, List.mapM_cons]
      cases gather f l with
      | error e => rfl
      | ok found => cases rest.mapM (gather f) <;> rfl

theorem exists_of_mem_gather {f : α → Except ε (Option β)} {found : List β} (h : gather f l = .ok found) {b : β}
    (hb : b ∈ found) : ∃ a ∈ l, f a = .ok (some b) := by
  obtain ⟨given, hgiven, rfl⟩ := map_ok_iff.1 h
  exact exists_of_mem_mapM hgiven (by simpa using hb)

/-- Whether an attempt finds something. -/
def finds : Except ε (Option β) → Bool
  | .ok (some _) => true
  | _ => false

theorem finds_iff {x : Except ε (Option β)} : finds x = true ↔ ∃ b, x = .ok (some b) := by
  rcases x with _ | _ | _ <;> simp [finds]

theorem forall₂_of_gather_ok {f : α → Except ε (Option β)} {found : List β} (h : gather f l = .ok found) :
    List.Forall₂ (fun a b => f a = .ok (some b)) (l.filter fun a => finds (f a)) found := by
  induction l generalizing found with
  | nil =>
      cases h
      exact .nil
  | cons a rest ih =>
      rw [gather_cons] at h
      obtain ⟨b, hb, h⟩ := bind_ok_iff.1 h
      obtain ⟨more, hmore, rfl⟩ := map_ok_iff.1 h
      cases b with
      | none => simpa [finds, hb] using ih hmore
      | some b => simpa [finds, hb] using ih hmore

end Attempt

end ManifestGrading
