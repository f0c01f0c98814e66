import Mathlib.Data.Prod.Lex
import ReleaseRules.Version

/-!
Contract: the order of versions.

Owns:
- versions as a linear order, component by component;
- agreement of the comparison with this order;
- what a strategy asks of two texts.

Does not own: where the two texts come from.
-/

namespace ReleaseRules

namespace Version

/-- The components of a version, the major one first. -/
def components (version : Version) : ℕ ×ₗ ℕ ×ₗ ℕ :=
  toLex (version.major, toLex (version.minor, version.patch))

theorem components_injective : Function.Injective components := by
  rintro ⟨major, minor, patch⟩ ⟨major', minor', patch'⟩ same
  simp only [components, toLex_inj, Prod.mk.injEq] at same
  obtain ⟨rfl, rfl, rfl⟩ := same
  rfl

instance : LinearOrder Version := LinearOrder.lift' components components_injective

theorem lt_iff (left right : Version) :
    left < right ↔ left.major < right.major ∨ left.major = right.major ∧
      (left.minor < right.minor ∨ left.minor = right.minor ∧ left.patch < right.patch) := by
  change left.components < right.components ↔ _
  simp [components, Prod.Lex.toLex_lt_toLex]

theorem compare_eq_lt_iff (left right : Version) :
    left.compare right = .lt ↔ left < right := by
  rw [lt_iff, compare]
  simp only [Ordering.then_eq_lt, Nat.compare_eq_lt, Nat.compare_eq_eq]

theorem compare_eq_eq_iff (left right : Version) : left.compare right = .eq ↔ left = right := by
  rw [compare]
  simp only [Ordering.then_eq_eq, Nat.compare_eq_eq]
  refine ⟨fun ⟨major, minor, patch⟩ => ?_, fun same => same ▸ ⟨rfl, rfl, rfl⟩⟩
  exact congr (congr (congrArg Version.mk major) minor) patch

theorem compare_eq_gt_iff (left right : Version) :
    left.compare right = .gt ↔ right < left := by
  rw [lt_iff, compare]
  simp only [Ordering.then_eq_gt, Nat.compare_eq_gt, Nat.compare_eq_eq]
  omega

/-- Missing components count as zero, so further ones make no version smaller. -/
theorem le_of_ofComponents?_append {values more : List Nat} {left right : Version}
    (isLeft : ofComponents? values = some left)
    (isRight : ofComponents? (values ++ more) = some right) : left ≤ right := by
  rw [← not_lt, lt_iff]
  match values, more with
  | [_], [] => cases isLeft; cases isRight; simp
  | [_], [_] => cases isLeft; cases isRight; simp
  | [_], [_, _] => cases isLeft; cases isRight; simp
  | [_, _], [] => cases isLeft; cases isRight; simp
  | [_, _], [_] => cases isLeft; cases isRight; simp
  | [_, _, _], [] => cases isLeft; cases isRight; simp
  | [], _ => cases isLeft
  | _ :: _ :: _ :: _ :: _, _ => cases isLeft
  | [_], _ :: _ :: _ :: _ => cases isRight
  | [_, _], _ :: _ :: _ => cases isRight
  | [_, _, _], _ :: _ => cases isRight

end Version

namespace Strategy

/-- What a strategy asks of the current text and of the one that may take its place. -/
def Passes (strategy : Strategy) (current candidate : List Char) : Prop :=
  match strategy with
  | .always => True
  | .never => False
  | .ifNewer => ∃ old new, Version.parse? current = some old ∧
      Version.parse? candidate = some new ∧ old < new
  | .ifNewerOrEqual => ∃ old new, Version.parse? current = some old ∧
      Version.parse? candidate = some new ∧ old ≤ new

theorem allows_iff (strategy : Strategy) (current candidate : List Char) :
    strategy.allows current candidate = true ↔ strategy.Passes current candidate := by
  cases strategy with
  | always => exact iff_of_true rfl trivial
  | never => exact iff_of_false Bool.false_ne_true id
  | ifNewer =>
      unfold allows Passes Version.compareTexts?
      cases Version.parse? candidate with
      | none => simp
      | some new =>
          cases Version.parse? current with
          | none => simp
          | some old => simpa using Version.compare_eq_gt_iff new old
  | ifNewerOrEqual =>
      unfold allows Passes Version.compareTexts?
      cases Version.parse? candidate with
      | none => simp
      | some new =>
          cases Version.parse? current with
          | none => simp
          | some old =>
              have order : (∃ old' new', some old = some old' ∧ some new = some new' ∧
                  old' ≤ new') ↔ ¬ new < old := by simp
              rw [order, ← Version.compare_eq_lt_iff]
              cases compared : new.compare old <;> simp [compared]

end Strategy

end ReleaseRules
