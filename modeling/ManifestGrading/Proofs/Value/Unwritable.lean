import ManifestGrading.Proofs.FirstFailure
import ManifestGrading.Value.Text

/-! Why a value may have no text. An integer of too many digits has none, and nothing has one that more calls lead to
than may be nested; so a value has none only if it shows such an integer or goes too deep, in a knot or out of it. -/

namespace ManifestGrading

theorem Number.writeInteger_error {n : Int} {e : IntegerFault} (h : writeInteger n = .error e) : e = .unwritable := by
  rw [writeInteger] at h
  revert h
  -- the bound has too many digits to be evaluated
  generalize Nat.pow 10 digitLimit = bound
  intro h
  split at h
  · cases h
  · exact (Except.error.inj h).symm

namespace Value

theorem integerText_error {n : Int} {e : Fault} (h : integerText n = .error e) : e = .integer .unwritable := by
  unfold integerText at h
  cases hn : Number.writeInteger n with
  | ok s => simp [hn, Except.mapError] at h
  | error fault =>
      obtain rfl := Number.writeInteger_error hn
      simpa [hn, Except.mapError, eq_comm] using h

/-- Whether a fault is one for which a value has no text. -/
def Fault.IsUnwritable (e : Fault) : Prop := e = .integer .unwritable ∨ e = .tooDeep

/-- A value has no text since it is an integer of too many digits, or since a part of it has none. -/
theorem textOf_error {part : Value → Except Fault String} {v : Value} {e : Fault} (h : textOf part v = .error e) :
    e = .integer .unwritable ∨ ∃ w, part w = .error e := by
  have hparts {items : List Value} {write : List String → String}
      (h : (items.mapM part).map write = .error e) : ∃ w, part w = .error e := by
    obtain ⟨w, _, hw⟩ := Attempt.exists_of_mapM_error (Attempt.map_eq_error_iff.1 h)
    exact ⟨w, hw⟩
  cases v with
  | int n => exact Or.inl (integerText_error h)
  | list items => exact Or.inr (hparts h)
  | tuple items => exact Or.inr (hparts h)
  | set members => exact Or.inr (hparts h)
  | map entries =>
      obtain ⟨entry, _, hentry⟩ := Attempt.exists_of_mapM_error (Attempt.map_eq_error_iff.1 h)
      rcases Attempt.bind_eq_error_iff.1 hentry with hkey | ⟨key, _, hentry⟩
      · exact Or.inr ⟨entry.1, hkey⟩
      · rcases Attempt.bind_eq_error_iff.1 hentry with hheld | ⟨held, _, hwritten⟩
        · exact Or.inr ⟨entry.2, hheld⟩
        · cases hwritten
  | _ => cases h

theorem textWithin_error {cells : List Value} {calls : Nat} {within : List Nat} {v : Value} {e : Fault}
    (h : textWithin cells calls within v = .error e) : e.IsUnwritable := by
  induction calls generalizing within v with
  | zero => exact Or.inr (Except.error.inj h).symm
  | succ calls ih =>
      have hpart {within : List Nat} {v : Value} (h : textOf (textWithin cells calls within) v = .error e) :
          e.IsUnwritable := by
        rcases textOf_error h with hinteger | ⟨w, hw⟩
        · exact Or.inl hinteger
        · exact ih hw
      unfold textWithin at h
      split at h
      · dsimp only at h
        split at h
        · cases h
        · exact hpart h
      · exact hpart h

/-- A value without a text as a part of another one shows an integer of too many digits, or goes too deep. -/
theorem expression_error {v : Value} {e : Fault} (h : v.expression = .error e) : e.IsUnwritable := by
  unfold expression at h
  split at h <;> exact textWithin_error h

/-- An integer of too many digits has no text. -/
theorem display_int {n : Int} (h : Nat.pow 10 Number.digitLimit ≤ n.natAbs) :
    (int n).display = .error (.integer .unwritable) := by
  have hwrite : Number.writeInteger n = .error .unwritable := by
    unfold Number.writeInteger
    exact if_neg (Nat.not_lt.2 h)
  simp [display, expression, callLimit, textWithin, textOf, integerText, hwrite, Except.mapError, Except.map]

theorem isTruthy_int {n : Int} (h : Nat.pow 10 Number.digitLimit ≤ n.natAbs) : (int n).isTruthy := by
  have hpos (digits : Nat) : 0 < Nat.pow 10 digits := Nat.pow_pos (Nat.succ_pos 9)
  have hne : n ≠ 0 := Int.natAbs_pos.1 (Nat.lt_of_lt_of_le (hpos Number.digitLimit) h)
  simpa [isTruthy] using hne

theorem display_error {v : Value} {e : Fault} (h : v.display = .error e) : e.IsUnwritable := by
  unfold display at h
  split at h
  · cases h
  · cases h
  · cases h
  · exact expression_error (Attempt.map_eq_error_iff.1 h)

end Value

end ManifestGrading
