import ReleaseRules.Json.Reader
import ReleaseRules.Json.Writer
import ReleaseRules.Proofs.Number.Notation
import ReleaseRules.Proofs.Text.Runs

/-!
Contract: written strings and integers are read back.

Owns:
- numbers in decimal, read as a whole;
- the digits of integers of 64 bits, with or without a sign;
- strings with all their escapes.

Does not own: lists and maps.
-/

namespace ReleaseRules.Json

open ReleaseRules.Number (digitsOf integerText)
open ReleaseRules.Text (dropWhile_append_of_stop takeWhile_append_of_stop)

/-! ## Integers -/

/-- Whether a text does not go on with what could belong to a number. -/
def endsNumber : List Char → Bool
  | [] => true
  | character :: _ =>
      !isDigit character && character != '.' && character != 'e' && character != 'E'

theorem isDigit_eq (character : Char) : isDigit character = character.isDigit := by
  simp [isDigit, Char.isDigit, Char.le_def]

theorem isDigit_of_mem_digitsOf {value : Nat} {character : Char}
    (member : character ∈ digitsOf value) : isDigit character = true :=
  (isDigit_eq character).trans (Number.isDigit_of_mem_digitsOf member)

private theorem le_ofDigitChars (characters : List Char) (value : Nat) :
    value ≤ Nat.ofDigitChars 10 characters value := by
  induction characters generalizing value with
  | nil => simp
  | cons character rest inductionHypothesis =>
      rw [Nat.ofDigitChars_cons]
      have later := inductionHypothesis (10 * value + (character.toNat - '0'.toNat))
      omega

/-- All digits of a number that fits are kept. -/
theorem takeAll_of_lt (characters : List Char) (digits : LeadingDigits)
    (running : digits.full = false)
    (fits : Nat.ofDigitChars 10 characters digits.significand < significandBound) :
    digits.takeAll characters =
      { digits with
        significand := Nat.ofDigitChars 10 characters digits.significand
        kept := digits.kept + characters.length } := by
  induction characters generalizing digits with
  | nil => simp [LeadingDigits.takeAll]
  | cons character rest inductionHypothesis =>
      rw [Nat.ofDigitChars_cons] at fits
      have here := Nat.lt_of_le_of_lt (le_ofDigitChars rest _) fits
      have taken : digits.take character =
          { digits with
            significand := 10 * digits.significand + (character.toNat - '0'.toNat)
            kept := digits.kept + 1 } := by
        have below : ¬ significandBound ≤ 10 * digits.significand + (character.toNat - 48) :=
          Nat.not_le_of_lt here
        simp [LeadingDigits.take, running, below, digitValue]
      have later := inductionHypothesis (digits.take character) (by simp [taken, running])
        (by simpa [taken] using fits)
      rw [LeadingDigits.takeAll, List.foldl_cons, ← LeadingDigits.takeAll, later, taken,
        Nat.ofDigitChars_cons]
      simp only [List.length_cons]
      congr 1
      omega

/-- What ends a number ends a run of digits. -/
theorem stops_of_endsNumber {rest : List Char} (ends : endsNumber rest = true) :
    rest.head?.any isDigit = false := by
  cases rest with
  | nil => rfl
  | cons character others =>
      simp only [endsNumber, Bool.and_eq_true, Bool.not_eq_true'] at ends
      exact ends.1.1.1

/-- A literal that ends behind its digits is an integer if it fits, with a sign for none but the
integers other than zero. -/
theorem afterInteger_of_ends (negative : Bool) (digits : LeadingDigits)
    {rest : List Char} (ends : endsNumber rest = true) :
    afterInteger negative digits rest =
      if digits.full then do
        let value ← floatingOf negative digits.significand digits.dropped
        return (.floating (.finite value), rest)
      else if !negative then .ok (.integer digits.significand, rest)
      else if digits.significand ≠ 0 ∧ digits.significand ≤ 9223372036854775808 then
        .ok (.integer (-(digits.significand : Int)), rest)
      else do
        let value ← floatingOf true digits.significand 0
        return (.floating (.finite value), rest) := by
  cases rest with
  | nil => rfl
  | cons character others =>
      simp only [endsNumber, Bool.and_eq_true, bne_iff_ne, ne_eq] at ends
      obtain ⟨⟨⟨-, notPoint⟩, notSmall⟩, notLarge⟩ := ends
      unfold afterInteger
      split
      · rename_i same
        exact absurd (List.cons.inj same).1 notPoint
      · rename_i same
        exact absurd (List.cons.inj same).1 notSmall
      · rename_i same
        exact absurd (List.cons.inj same).1 notLarge
      · rfl

namespace Literal

/-- Whether a text is a number in decimal without superfluous zeros. -/
def IsDecimal (digits : List Char) : Prop :=
  digits = ['0'] ∨ ∃ first rest, digits = first :: rest ∧ first ≠ '0' ∧
    ∀ character ∈ digits, isDigit character = true

theorem IsDecimal.digits {digits : List Char} (decimal : IsDecimal digits) :
    ∀ character ∈ digits, isDigit character = true := by
  rcases decimal with rfl | ⟨_, _, _, _, areDigits⟩
  · exact List.forall_mem_singleton.mpr rfl
  · exact areDigits

theorem IsDecimal.ne_nil {digits : List Char} (decimal : IsDecimal digits) : digits ≠ [] := by
  rcases decimal with rfl | ⟨_, _, rfl, _, _⟩
  · exact List.cons_ne_nil _ _
  · exact List.cons_ne_nil _ _

theorem isDecimal_digitsOf (value : Nat) : IsDecimal (digitsOf value) := by
  obtain ⟨first, others, shown, nonzero⟩ := Number.exists_digitsOf value
  by_cases zero : value = 0
  · exact .inl (by rw [zero]; rfl)
  · exact .inr ⟨first, others, shown, nonzero zero, fun _ => isDigit_of_mem_digitsOf⟩

/-- The digits in front of the point are taken, whatever their count. -/
theorem readNumber_eq (negative : Bool) {whole behind : List Char} (decimal : IsDecimal whole)
    (stops : behind.head?.any isDigit = false) :
    readNumber negative (whole ++ behind) =
      afterInteger negative (LeadingDigits.takeAll ⟨0, false, 0, 0⟩ whole) behind := by
  rcases decimal with rfl | ⟨first, others, rfl, nonzero, areDigits⟩
  · cases behind with
    | nil => rfl
    | cons next others =>
        have other : isDigit next = false := stops
        rw [List.cons_append, List.nil_append, readNumber]
        simp only [other, Bool.false_eq_true, if_false]
        rfl
  · have digit := areDigits first List.mem_cons_self
    have run := takeWhile_append_of_stop areDigits stops
    have rest := dropWhile_append_of_stop areDigits stops
    rw [List.cons_append] at run rest ⊢
    rw [readNumber]
    · simp only [digit, if_true, run, rest]
    · exact nonzero

end Literal

/-- The digits of a number that fits into 64 bits, behind an optional minus sign. -/
private theorem readNumber_digits (negative : Bool) {value : Nat} {rest : List Char}
    (fits : value < significandBound) (ends : endsNumber rest = true) :
    ∃ kept, readNumber negative (digitsOf value ++ rest) =
      afterInteger negative ⟨value, false, 0, kept⟩ rest := by
  have digits : Nat.ofDigitChars 10 (digitsOf value) 0 = value :=
    Nat.ofDigitChars_toDigits (by decide) (by decide)
  have taken := takeAll_of_lt (digitsOf value) ⟨0, false, 0, 0⟩ rfl (by rwa [digits])
  dsimp only at taken
  rw [digits] at taken
  exact ⟨0 + (digitsOf value).length, by
    rw [Literal.readNumber_eq negative (Literal.isDecimal_digitsOf value)
      (stops_of_endsNumber ends), taken]⟩

/-- A written integer of 64 bits is read back. -/
theorem readFigure_integerText {value : Int} {rest : List Char}
    (exact : exactInteger value = true) (ends : endsNumber rest = true) :
    (if value < 0 then readFigure true (digitsOf value.natAbs ++ rest)
      else readFigure false (digitsOf value.natAbs ++ rest)) = .ok (.integer value, rest) := by
  simp only [exactInteger, Bool.and_eq_true, decide_eq_true_eq] at exact
  have fits : value.natAbs < significandBound := by
    rw [significandBound]
    omega
  by_cases negative : value < 0
  · obtain ⟨kept, found⟩ := readNumber_digits true fits ends
    have inRange : value.natAbs ≠ 0 ∧ value.natAbs ≤ 9223372036854775808 := by omega
    have negated : -((value.natAbs : Nat) : Int) = value := by omega
    rw [if_pos negative, readFigure, found, afterInteger_of_ends true _ ends]
    simp only [Bool.not_true, Bool.false_eq_true, if_false, if_pos inRange, negated]
  · obtain ⟨kept, found⟩ := readNumber_digits false fits ends
    have shown : ((value.natAbs : Nat) : Int) = value := by omega
    rw [if_neg negative, readFigure, found, afterInteger_of_ends false _ ends]
    simp only [Bool.false_eq_true, if_false, Bool.not_false, if_true, shown]

/-! ## Strings -/

private theorem codeUnit?_of_control {value : Nat} (control : value < 32) :
    codeUnit? '0' '0' (hexDigitChar (value / 16)) (hexDigitChar (value % 16)) = some value := by
  have every : ∀ small < 32,
      codeUnit? '0' '0' (hexDigitChar (small / 16)) (hexDigitChar (small % 16)) = some small := by
    decide
  exact every value control

/-- A character before those of a string that has been read. -/
private def prepend (character : Char) (result : Except ReadError (List Char × List Char)) :
    Except ReadError (List Char × List Char) :=
  result.map fun found => (character :: found.1, found.2)

private theorem readString_short {mark character : Char} (text : List Char) (plain : mark ≠ 'u')
    (known : shortEscape? mark = some character) :
    readString none ('\\' :: mark :: text) = prepend character (readString none text) := by
  rw [readString]
  · simp only [Option.isSome_none, Bool.false_eq_true, if_false, known]
    cases readString none text <;> rfl
  · intro first second third fourth rest same
    exact absurd same plain

private theorem readString_code {character : Char} (text : List Char)
    (control : character.toNat < 32) :
    readString none ('\\' :: 'u' :: '0' :: '0' :: hexDigitChar (character.toNat / 16) ::
        hexDigitChar (character.toNat % 16) :: text) =
      prepend character (readString none text) := by
  rw [readString]
  simp only [codeUnit?_of_control control]
  rw [if_neg (by omega), if_neg (by omega), Char.ofNat_toNat]
  cases readString none text <;> rfl

private theorem readString_plain {character : Char} (text : List Char)
    (notQuote : character ≠ '"') (notMark : character ≠ '\\')
    (notControl : ¬ character.toNat < 32) :
    readString none (character :: text) = prepend character (readString none text) := by
  rw [readString]
  · simp only [Option.isSome_none, Bool.false_eq_true, if_false, notQuote, notControl, notMark]
    cases readString none text <;> rfl
  · intro first second third fourth rest same
    exact absurd same notMark
  · intro mark rest same
    exact absurd same notMark

private theorem readString_escape (character : Char) (text : List Char) :
    readString none (escape character ++ text) = prepend character (readString none text) := by
  -- One case for each short escape, then the escapes by code, then the plain characters.
  unfold escape
  iterate 7
    split
    · subst_vars
      exact readString_short text (by decide) rfl
  split
  · rename_i control
    exact readString_code text control
  · rename_i notQuote notMark _ _ _ _ _ notControl
    exact readString_plain text notQuote notMark notControl

/-- A written string is read back. -/
theorem readString_writeString (characters rest : List Char) :
    readString none (characters.flatMap escape ++ '"' :: rest) = .ok (characters, rest) := by
  induction characters with
  | nil => simp [readString]
  | cons character others inductionHypothesis =>
      rw [List.flatMap_cons, List.append_assoc, readString_escape, inductionHypothesis]
      rfl

theorem readText_writeString (value : String) (rest : List Char) :
    readText (value.toList.flatMap escape ++ '"' :: rest) = .ok (.text value, rest) := by
  rw [readText, readString_writeString]
  simp

end ReleaseRules.Json
