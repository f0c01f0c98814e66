import ReleaseRules.Document.Basic

/-!
Contract: documents by the trees that their texts are read as.

Owns:
- parsing in a format, by way of the tree;
- steps that succeed, and steps that fail.

Does not own: the choice of a format.
-/

namespace ReleaseRules

/-- A step that has a result succeeds with it. -/
theorem ok_of_toOption {ε α : Type} {step : Except ε α} {result : α}
    (found : step.toOption = some result) : step = .ok result := by
  cases step with
  | error reason => cases found
  | ok value => exact congrArg Except.ok (Option.some.inj found)

/-- A step that has no result fails. -/
theorem exists_error_of_toOption {ε α : Type} {step : Except ε α}
    (none : step.toOption.isSome = false) : ∃ reason, step = .error reason := by
  cases step with
  | error reason => exact ⟨reason, rfl⟩
  | ok value => cases none

/-- A step that is followed by another one has given its result. -/
theorem ok_of_bind {ε α β : Type} {first : Except ε α} {next : α → Except ε β} {result : β}
    (done : first >>= next = .ok result) :
    ∃ value, first = .ok value ∧ next value = .ok result := by
  cases first with
  | error reason => cases done
  | ok value => exact ⟨value, rfl, done⟩

/-- A step whose errors are renamed has the same results. -/
theorem mapError_eq_ok_iff {ε δ α : Type} {step : Except ε α} {rename : ε → δ} {result : α} :
    step.mapError rename = .ok result ↔ step = .ok result := by
  cases step with
  | error reason =>
      constructor
      · intro done
        cases done
      · intro done
        cases done
  | ok value =>
      show Except.ok value = .ok result ↔ Except.ok value = .ok result
      rw [Except.ok.injEq, Except.ok.injEq]

namespace Document

theorem readTree_json_iff {text : List Char} {root : Tree} :
    readTree text .json = .ok root ↔ Json.readTree text = .ok root := by
  rw [readTree]
  exact mapError_eq_ok_iff

theorem parseAs_of_readTree {text : List Char} {format : Format} {root : Tree}
    (read : readTree text format = .ok root) :
    parseAs text format = .ok ⟨root, format, Layout.detect text format⟩ := by
  rw [parseAs, read]
  rfl

end Document

end ReleaseRules
