import ReleaseRules.Unicode.LetterCase

/-!
Contract: lower-casing and the capital letters of ASCII.

Owns:
- the lower-case forms of ASCII characters;
- no lower-case form, of whatever character, has a capital letter of ASCII in it.

Does not own: the table of lower-case forms.
-/

namespace ReleaseRules.Unicode

/-- Whether a character is a capital letter of ASCII. -/
def isAsciiCapital (character : Char) : Bool := 'A' ≤ character && character ≤ 'Z'

theorem isAsciiCapital_iff (character : Char) :
    isAsciiCapital character = true ↔ 65 ≤ character.toNat ∧ character.toNat ≤ 90 := by
  rw [isAsciiCapital, Bool.and_eq_true, decide_eq_true_eq, decide_eq_true_eq, Char.le_def,
    Char.le_def, UInt32.le_iff_toNat_le, UInt32.le_iff_toNat_le]
  rfl

/-- A code point is mapped to itself, or by a run that starts at it or before it. -/
theorem mapByRuns_cases (runs : List MappingRun) (codePoint : Nat) :
    mapByRuns runs codePoint = codePoint ∨
      ∃ run ∈ runs, run.start ≤ codePoint ∧
        mapByRuns runs codePoint = ((codePoint : Int) + run.offset).toNat := by
  induction runs with
  | nil => exact .inl rfl
  | cons run rest inductionHypothesis =>
      rw [mapByRuns]
      split
      · exact .inl rfl
      · rename_i notBelow
        split
        · exact .inr ⟨run, List.mem_cons_self, Nat.le_of_not_lt notBelow, rfl⟩
        · rcases inductionHypothesis with same | ⟨other, member, start, mapped⟩
          · exact .inl same
          · exact .inr ⟨other, List.mem_cons_of_mem run member, start, mapped⟩

/-- Of ASCII, only the capital letters have lower-case forms other than themselves. -/
theorem mapByRuns_lowerRuns_of_ascii :
    ∀ codePoint < 128, mapByRuns lowerRuns codePoint =
      if 65 ≤ codePoint ∧ codePoint ≤ 90 then codePoint + 32 else codePoint := by
  decide +kernel

/-- Every run maps to code points behind the capital letters of ASCII. -/
theorem lt_start_add_offset : ∀ run ∈ lowerRuns, 90 < (run.start : Int) + run.offset := by
  decide +kernel

theorem mapByRuns_lowerRuns_not_capital (codePoint : Nat) :
    ¬ (65 ≤ mapByRuns lowerRuns codePoint ∧ mapByRuns lowerRuns codePoint ≤ 90) := by
  rintro ⟨above, below⟩
  rcases mapByRuns_cases lowerRuns codePoint with same | ⟨run, member, start, mapped⟩
  · have capital := mapByRuns_lowerRuns_of_ascii codePoint (by omega)
    rw [if_pos (by omega)] at capital
    omega
  · have behind := lt_start_add_offset run member
    omega

/-- The character with a code point; code points of no character give the zero character. -/
theorem toNat_ofNat_or (codePoint : Nat) :
    (Char.ofNat codePoint).toNat = codePoint ∨ Char.ofNat codePoint = '\x00' := by
  by_cases isCharacter : codePoint.isValidChar
  · left
    rw [Char.ofNat, dif_pos isCharacter]
    rfl
  · right
    rw [Char.ofNat, dif_neg isCharacter]
    rfl

/-- No lower-case form has a capital letter of ASCII in it. -/
theorem not_isAsciiCapital_of_mem_lowerChar {character lowered : Char}
    (member : lowered ∈ lowerChar character) : isAsciiCapital lowered = false := by
  rw [lowerChar] at member
  split at member
  · rcases List.mem_cons.mp member with rfl | second
    · decide
    · obtain rfl := List.mem_singleton.mp second
      decide
  · have notCapital := mapByRuns_lowerRuns_not_capital character.toNat
    generalize mapByRuns lowerRuns character.toNat = codePoint at member notCapital
    obtain rfl := List.mem_singleton.mp member
    rcases toNat_ofNat_or codePoint with same | zero
    · rw [Bool.eq_false_iff, ne_eq, isAsciiCapital_iff, same]
      exact notCapital
    · rw [zero]
      decide

theorem lowerChar_capitalSigma : lowerChar '\u03A3' = ['\u03C3'] := by decide +kernel

theorem not_isAsciiCapital_of_mem_lowerAfter {before text : List Char} {lowered : Char}
    (member : lowered ∈ lowerAfter before text) : isAsciiCapital lowered = false := by
  induction text generalizing before with
  | nil => cases member
  | cons character rest inductionHypothesis =>
      rw [lowerAfter] at member
      rcases List.mem_append.mp member with first | later
      · split at first
        · split at first
          · obtain rfl := List.mem_singleton.mp first
            decide
          · obtain rfl := List.mem_singleton.mp first
            decide
        · exact not_isAsciiCapital_of_mem_lowerChar first
      · exact inductionHypothesis later

/-- An ASCII character that is no capital letter is its own lower-case form. -/
theorem lowerChar_of_ascii {character : Char} (ascii : character.toNat < 128)
    (small : isAsciiCapital character = false) : lowerChar character = [character] := by
  have notCapital : ¬ (65 ≤ character.toNat ∧ character.toNat ≤ 90) := by
    rw [← isAsciiCapital_iff, small]
    exact Bool.false_ne_true
  have other : character ≠ '\u0130' := by
    rintro rfl
    exact absurd ascii (by decide)
  rw [lowerChar, if_neg other, mapByRuns_lowerRuns_of_ascii _ ascii, if_neg notCapital,
    Char.ofNat_toNat]

end ReleaseRules.Unicode
