import ReleaseRules.Unicode.IntervalSet

/-!
Contract: sets of one character.

Owns:
- the set of one character and the set of all others.

Does not own: sets that come from tables.
-/

namespace ReleaseRules.Unicode.IntervalSet

variable {character : Char}

/-- The set of one character. -/
theorem hasChar_singleton (only : Char) :
    (singleton only.toNat).hasChar character = true ↔ character = only := by
  rw [← Char.toNat_inj]
  simp only [hasChar, contains, singleton, containsSorted]
  grind

/-- The set of all characters but one. -/
theorem hasChar_complement_singleton (other : Char) :
    (singleton other.toNat).complement.hasChar character = true ↔ character ≠ other := by
  have known : ∀ character : Char, character.toNat ≤ lastCodePoint := fun character => by
    rcases character.valid with small | ⟨-, large⟩
    · exact Nat.le_trans (Nat.le_of_lt small) (by decide)
    · exact Nat.le_of_lt_succ large
  have isKnown := known character
  rw [ne_eq, ← Char.toNat_inj]
  simp only [hasChar, contains, singleton, complement, gaps]
  grind [containsSorted]

end ReleaseRules.Unicode.IntervalSet
