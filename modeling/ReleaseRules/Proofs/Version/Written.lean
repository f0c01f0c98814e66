import ReleaseRules.Proofs.Document.Reading
import ReleaseRules.Proofs.Text.Pieces
import ReleaseRules.Proofs.Text.WhiteSpace
import ReleaseRules.Version

/-!
Contract: texts that are versions in digits and dots alone.

Owns:
- written versions, and the tags of releases, which may have a mark in front;
- the characters of written versions;
- components are read exactly if they are written.

Does not own: what stands around a version, and how versions compare.
-/

namespace ReleaseRules.Version

open ReleaseRules.Number (readDigits?_of_isDecimalDigit toNat_of_isDecimalDigit)
open ReleaseRules.Unicode (isBlank isBlank_of_ascii IsTight)

/-- Whether a text is one component: ASCII digits, at least one, below the bound. -/
def isWrittenComponent (piece : List Char) : Bool :=
  !piece.isEmpty && piece.all Number.isDecimalDigit &&
    decide (Nat.ofDigitChars 10 piece 0 < componentBound)

/-- Whether a text is a version as it is written: one to three components with dots between
them. -/
def isWritten (text : List Char) : Bool :=
  decide ((Text.splitAt '.' text).length ≤ 3) && (Text.splitAt '.' text).all isWrittenComponent

/-- Whether a text is one to three runs of ASCII digits with dots between them. Numbers that are too
large for a version are allowed. -/
def isNumeric (text : List Char) : Bool :=
  decide ((Text.splitAt '.' text).length ≤ 3) &&
    (Text.splitAt '.' text).all fun piece => !piece.isEmpty && piece.all Number.isDecimalDigit

theorem isNumeric_of_isWritten {text : List Char} (written : isWritten text = true) :
    isNumeric text = true := by
  simp only [isWritten, isWrittenComponent, Bool.and_eq_true, List.all_eq_true] at written
  simp only [isNumeric, Bool.and_eq_true, List.all_eq_true]
  refine ⟨written.1, ?_⟩
  intro piece member
  exact (written.2 piece member).1

/-- Whether a text is a tag of a release: a written version, with or without a leading `v` of
either case. -/
def isReleaseTag (text : List Char) : Bool := isWritten (withoutMark text)

/-- Whether a character may stand in a written version. -/
def isVersionCharacter (character : Char) : Bool :=
  Number.isDecimalDigit character || character == '.'

theorem isVersionCharacter_of_mem {text : List Char} (written : isWritten text = true)
    {character : Char} (member : character ∈ text) : isVersionCharacter character = true := by
  unfold isVersionCharacter
  rcases Text.eq_or_mem_piece '.' member with rfl | ⟨piece, inPieces, inside⟩
  · rfl
  · simp only [isWritten, isWrittenComponent, Bool.and_eq_true, List.all_eq_true] at written
    simp [(written.2 piece inPieces).1.2 character inside]

/-- A character of a written version is neither white space nor a mark. -/
theorem isBlank_of_isVersionCharacter {character : Char}
    (isOne : isVersionCharacter character = true) :
    isBlank character = false ∧ character ≠ 'v' ∧ character ≠ 'V' := by
  have codePoint : 46 ≤ character.toNat ∧ character.toNat ≤ 57 := by
    simp only [isVersionCharacter, Bool.or_eq_true, beq_iff_eq] at isOne
    rcases isOne with decimal | rfl
    · have := toNat_of_isDecimalDigit decimal
      omega
    · decide
  refine ⟨isBlank_of_ascii (by omega) (by omega), ?_, ?_⟩
  · rintro rfl
    exact absurd codePoint.2 (by decide)
  · rintro rfl
    exact absurd codePoint.2 (by decide)

/-! ## Components -/

/-- A component is read exactly if it is written, and its digits denote it. -/
theorem component?_eq_some_iff {piece : List Char} {value : Nat} :
    component? piece = some value ↔
      isWrittenComponent piece = true ∧ Nat.ofDigitChars 10 piece 0 = value := by
  simp only [isWrittenComponent, Bool.and_eq_true, Bool.not_eq_true', List.all_eq_true,
    decide_eq_true_eq, component?, Number.natural?]
  constructor
  · intro read
    split at read
    · rename_i number natural
      split at natural
      · cases natural
      · rename_i nonempty
        have decimal := Number.isDecimalDigit_of_readDigits? natural
        rw [readDigits?_of_isDecimalDigit 0 decimal] at natural
        obtain rfl := Option.some.inj natural
        split at read
        · rename_i bounded
          exact ⟨⟨⟨Bool.eq_false_iff.mpr nonempty, decimal⟩, bounded⟩, Option.some.inj read⟩
        · cases read
    · cases read
  · rintro ⟨⟨⟨nonempty, decimal⟩, bounded⟩, rfl⟩
    simp [nonempty, readDigits?_of_isDecimalDigit 0 decimal, bounded]

/-- Components are read exactly if all of them are written, each as the number of its digits. -/
theorem components?_eq_some_iff {pieces : List (List Char)} {values : List Nat} :
    components? pieces = some values ↔
      pieces.all isWrittenComponent = true ∧
        pieces.map (Nat.ofDigitChars 10 · 0) = values := by
  induction pieces generalizing values with
  | nil => simp [components?]
  | cons piece rest inductionHypothesis =>
      simp only [components?, bind, pure, Option.bind_eq_some_iff, component?_eq_some_iff,
        inductionHypothesis, List.all_cons, Bool.and_eq_true, List.map_cons]
      constructor
      · rintro ⟨first, ⟨here, rfl⟩, others, ⟨later, rfl⟩, same⟩
        exact ⟨⟨here, later⟩, Option.some.inj same⟩
      · rintro ⟨⟨here, later⟩, same⟩
        exact ⟨_, ⟨here, rfl⟩, _, ⟨later, rfl⟩, congrArg some same⟩

theorem exists_of_components?_append {front back : List (List Char)} {values : List Nat}
    (read : components? (front ++ back) = some values) :
    ∃ first others, components? front = some first ∧ values = first ++ others := by
  obtain ⟨written, rfl⟩ := components?_eq_some_iff.mp read
  rw [List.all_append, Bool.and_eq_true] at written
  exact ⟨_, _, components?_eq_some_iff.mpr ⟨written.1, rfl⟩, List.map_append⟩

theorem length_of_ofComponents? {values : List Nat} {version : Version}
    (made : ofComponents? values = some version) : values.length ≤ 3 := by
  match values with
  | [] => cases made
  | [major] => simp
  | [major, minor] => simp
  | [major, minor, patch] => simp
  | _ :: _ :: _ :: _ :: _ => cases made

/-- What is left without a mark stands behind it. -/
theorem exists_withoutMark (text : List Char) :
    ∃ mark, text = mark ++ withoutMark text ∧ (mark = [] ∨ mark = ['v'] ∨ mark = ['V']) := by
  unfold withoutMark
  split
  · exact ⟨['v'], rfl, by simp⟩
  · exact ⟨['V'], rfl, by simp⟩
  · exact ⟨[], rfl, by simp⟩

end ReleaseRules.Version
