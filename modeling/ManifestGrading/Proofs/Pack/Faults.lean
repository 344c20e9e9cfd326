import ManifestGrading.Pack.Manifest
import ManifestGrading.Pack.Module
import ManifestGrading.Proofs.FirstFailure
import ManifestGrading.Proofs.Runner.Reference

/-! How the loading of packs and of their checks fails. The first manifest that fails decides about the fault, and so
does the first enabled pack without its checks. Some of these faults are not told as ones of packs: a manifest with
a path that is too long or a scalar that cannot be built, an entry with a name that is no key or with a part
that no text shows, a module that is named relative to nothing, and a missing module of a pack whose name no
text shows. -/

namespace ManifestGrading

namespace PackEntry

variable {v : Value} {entries : Entries}

/-- Whether an item of a list has no text. -/
def ListsNoText (v : Value) : Prop :=
  ∃ items, (v.opened = .list items ∨ v.opened = .tuple items) ∧ ∃ item ∈ items, item.HasNoText

/-- Whether an entry is a mapping that names a pack and says something about it that cannot be used. -/
def IsRefused (v : Value) : Prop :=
  ∃ entries, v.mapping? = some entries ∧ (entries.get "name").isTruthy ∧
    ((entries.get "name").isHashable = false ∨ (entries.get "module").isTruthy ∧ (entries.get "module").HasNoText ∨
      ListsNoText (entries.get "ignore") ∨ ListsNoText (entries.get "enable_optional"))

theorem givenText_fails_iff : (∃ e, givenText v = .error e) ↔ v.isTruthy ∧ v.HasNoText := by
  unfold givenText Value.HasNoText
  by_cases htruthy : v.isTruthy
  · rw [if_pos htruthy, Attempt.fails_map_iff]
    simp [htruthy]
  · simp [htruthy]

theorem idsOf_fails_iff : (∃ e, idsOf v = .error e) ↔ ListsNoText v := by
  have hitems (items : List Value) :
      (∃ e, (items.mapM Value.display).map Suppression.trimmed = .error e) ↔ ∃ item ∈ items, item.HasNoText := by
    rw [Attempt.fails_map_iff, Attempt.mapM_fails_iff]
    rfl
  unfold idsOf ListsNoText
  split
  · next s hs => simp [hs]
  · next items hs =>
    rw [hitems]
    simp [hs]
  · next items hs =>
    rw [hitems]
    simp [hs]
  · next htext hlist htuple =>
    refine iff_of_false (by simp) ?_
    rintro ⟨items, hs | hs, _⟩
    · exact hlist items hs
    · exact htuple items hs

theorem ofEntries_fails_iff :
    (∃ e, ofEntries entries = .error e) ↔ (entries.get "name").isTruthy ∧
      ((entries.get "name").isHashable = false ∨ (∃ e, givenText (entries.get "module") = .error e) ∨
        (∃ e, idsOf (entries.get "ignore") = .error e) ∨ ∃ e, idsOf (entries.get "enable_optional") = .error e) := by
  unfold ofEntries
  by_cases hname : (entries.get "name").isTruthy
  · by_cases hkey : (entries.get "name").isHashable
    · cases givenText (entries.get "module") with
      | error _ => simp [hname, hkey, bind, Except.bind]
      | ok _ =>
          cases idsOf (entries.get "ignore") with
          | error _ => simp [hname, hkey, bind, Except.bind]
          | ok _ =>
              cases idsOf (entries.get "enable_optional") <;>
                simp [hname, hkey, bind, Except.bind, pure, Except.pure]
    · simp [hname, hkey, bind, Except.bind, throw, throwThe, MonadExceptOf.throw]
  · simp [hname, pure, Except.pure]

theorem ofValue_fails_iff : (∃ e, ofValue v = .error e) ↔ IsRefused v := by
  unfold ofValue IsRefused
  cases v.mapping? with
  | none => simp
  | some entries =>
      simp only [Option.some.injEq, exists_eq_left']
      rw [ofEntries_fails_iff, givenText_fails_iff, idsOf_fails_iff, idsOf_fails_iff]

end PackEntry

namespace Pack

variable {files : Files} {p : Path}

/-! ### Manifests -/

/-- The entries of all manifests, in order, each with the number of its manifest. -/
def entriesOfAll (lists : List (List PackEntry)) : List PackEntry :=
  lists.zipIdx.flatMap fun l => l.1.map (PackEntry.ofManifest l.2)

/-- The manifests are read one after the other, and then all their entries are merged. -/
theorem loadFrom_eq (read : Path → Except PackFault (List PackEntry)) (paths : List String) :
    loadFrom read paths = ((paths.map Path.ofText).mapM read).map fun lists => mergeAll [] (entriesOfAll lists) := by
  have hfrom (ps : List Path) (n : Nat) (packs : List Pack) :
      (ps.zipIdx n).foldlM
          (fun packs p => do return mergeAll packs ((← read p.1).map (PackEntry.ofManifest p.2))) packs =
        (ps.mapM read).map fun lists =>
          mergeAll packs ((lists.zipIdx n).flatMap fun l => l.1.map (PackEntry.ofManifest l.2)) := by
    induction ps generalizing n packs with
    | nil => rfl
    | cons p rest ih =>
        rw [List.zipIdx_cons, List.foldlM_cons, List.mapM_cons]
        cases read p with
        | error e => rfl
        | ok entries =>
            show (rest.zipIdx (n + 1)).foldlM _ (mergeAll packs (entries.map (PackEntry.ofManifest n))) = _
            rw [ih]
            cases rest.mapM read with
            | error e => rfl
            | ok lists =>
                simp [bind, Except.bind, pure, Except.pure, Except.map, List.zipIdx_cons, mergeAll_append]
  exact hfrom (paths.map Path.ofText) 0 []

end Pack

/-! ### Modules -/

namespace Module

/-- A module that exports proper rules and nothing else, or is not there. -/
def IsProper : Module → Prop
  | .exports items => ∀ item ∈ items, ∃ rule, item = .rule rule ∧ rule.IsProper
  | .value _ => False
  | .broken fault => fault = .unavailable

end Module

namespace Pack

variable {table : ModuleTable} {p : Pack} {packs : List Pack}

end Pack

end ManifestGrading
