import ReleaseRules.Proofs.Yaml.BlockScalars
import ReleaseRules.Proofs.Yaml.QuotedScalars

/-!
Contract: a key that stands on one line is short enough to be one.

Owns:
- the length of written texts in terms of their bytes.

Does not own: the limit on the length of keys.
-/

namespace ReleaseRules.Yaml

theorem utf8ByteSize_ofList_cons (character : Char) (rest : List Char) :
    (String.ofList (character :: rest)).utf8ByteSize =
      character.utf8Size + (String.ofList rest).utf8ByteSize := by
  rw [String.ofList_cons, String.utf8ByteSize_append, String.utf8ByteSize_singleton]

theorem length_le_utf8ByteSize (text : List Char) :
    text.length ≤ (String.ofList text).utf8ByteSize := by
  induction text with
  | nil => exact Nat.zero_le _
  | cons character rest inductionHypothesis =>
      have positive := Char.utf8Size_pos character
      rw [utf8ByteSize_ofList_cons, List.length_cons]
      omega

/-- Characters that need four bytes are never escaped. -/
theorem small_of_escaped {character : Char}
    (escaped : (!isPrintable character || isBreak character || character = '"' ||
      character = '\\') = true) : character.toNat ≤ 0xFFFF := by
  by_cases large : 0x10000 ≤ character.toNat
  · have printable : isPrintable character = true := by simp [isPrintable, large]
    have others : isBreak character = true ∨ character = '"' ∨ character = '\\' := by
      simpa [printable, or_assoc] using escaped
    rcases others with breaks | rfl | rfl
    · rcases isBreak_of_isPrintable printable breaks with rfl | rfl | rfl <;> decide
    · decide
    · decide
  · omega

private theorem length_escapeOf {character : Char} (small : character.toNat ≤ 0xFFFF) :
    (escapeOf character).length + 1 ≤ 4 * character.utf8Size := by
  have positive := Char.utf8Size_pos character
  unfold escapeOf
  split
  case h_16 =>
    dsimp only
    split
    · rw [List.length_cons, length_hexDigits]
      omega
    · rename_i noByte
      have several : character.utf8Size ≠ 1 := by
        intro one
        have ascii := UInt32.le_iff_toNat_le.mp (Char.utf8Size_eq_one_iff.mp one)
        have bound : character.toNat ≤ 127 := ascii
        omega
      rw [List.length_cons, length_hexDigits]
      omega
  all_goals
    simp only [List.length_cons, List.length_nil]
    omega

theorem length_doubleQuotedCharacter (character : Char) :
    (doubleQuotedCharacter character).length ≤ 4 * character.utf8Size := by
  have positive := Char.utf8Size_pos character
  unfold doubleQuotedCharacter
  split
  · rename_i escaped
    exact length_escapeOf (small_of_escaped escaped)
  · rw [List.length_singleton]
    omega

private theorem length_doubleQuoted (text : List Char) :
    (text.flatMap doubleQuotedCharacter).length ≤ 4 * (String.ofList text).utf8ByteSize := by
  induction text with
  | nil => exact Nat.zero_le _
  | cons character rest inductionHypothesis =>
      have here := length_doubleQuotedCharacter character
      rw [utf8ByteSize_ofList_cons, List.flatMap_cons, List.length_append]
      omega

private theorem length_singleQuoted (indent : Nat) {text : List Char}
    (onLine : ∀ character ∈ text, isBreak character = false) :
    (singleQuotedText indent false text).length ≤ 2 * text.length := by
  induction text with
  | nil => exact Nat.zero_le _
  | cons character rest inductionHypothesis =>
      have later := inductionHypothesis fun other member =>
        onLine other (List.mem_cons_of_mem _ member)
      have short : (if character = '\'' then ['\'', '\''] else [character]).length ≤ 2 := by
        split <;> simp
      have here := onLine character List.mem_cons_self
      simp only [singleQuotedText, here, Bool.false_eq_true, if_false, List.nil_append,
        List.length_append, List.length_cons]
      omega

/-- A text without line breaks takes at most four characters for every byte, besides its
quotes. -/
theorem length_writeText (indent : Nat) {text : List Char}
    (onLine : ∀ character ∈ text, isBreak character = false) :
    (writeText indent text).length ≤ 4 * (String.ofList text).utf8ByteSize + 2 := by
  have bytes := length_le_utf8ByteSize text
  unfold writeText
  split
  · have single := length_singleQuoted indent onLine
    simp only [List.length_cons, List.length_append, List.length_nil]
    omega
  · have double := length_doubleQuoted text
    simp only [List.length_cons, List.length_append, List.length_nil]
    omega
  · rename_i style
    exact absurd (onLine '\n' (feed_of_literal style)) (by decide)
  · omega

end ReleaseRules.Yaml
