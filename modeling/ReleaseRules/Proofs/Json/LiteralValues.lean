import Mathlib.Tactic.NormNum
import ReleaseRules.Proofs.Json.Reading

/-!
Contract: what number literals denote.

Owns:
- the rational number of a literal, and of the text that a number is written as;
- integers of 64 bits are read as numbers that are written with the same value.

Does not own: where literals stand.
-/

namespace ReleaseRules.Json

open ReleaseRules.Number (Binary64 digitsOf integerText)

namespace Literal

/-- The number that digits behind an optional sign denote. -/
def signedValue : List Char → ℤ
  | '+' :: digits => Nat.ofDigitChars 10 digits 0
  | '-' :: digits => -Nat.ofDigitChars 10 digits 0
  | digits => Nat.ofDigitChars 10 digits 0

/-- The rational number that a literal denotes. -/
def value (literal : Literal) : ℚ :=
  (if literal.negative then -1 else 1) *
    Nat.ofDigitChars 10 (literal.whole ++ literal.fraction) 0 *
    10 ^ (signedValue literal.exponent - literal.fraction.length)

/-- Whether a literal is an integer of 64 bits, without a point and an exponent. -/
def IsExactInteger (literal : Literal) : Prop :=
  literal.fraction = [] ∧ literal.exponent = [] ∧
    -9223372036854775808 ≤ literal.value ∧ literal.value ≤ 18446744073709551615

theorem value_of_plain {literal : Literal} (plain : literal.fraction = [])
    (direct : literal.exponent = []) :
    literal.value =
      if literal.negative then -(Nat.ofDigitChars 10 literal.whole 0 : ℚ)
      else Nat.ofDigitChars 10 literal.whole 0 := by
  unfold value
  rw [plain, direct, List.append_nil]
  cases literal.negative <;> simp [signedValue]

/-- The literal of an integer. -/
def ofInteger (value : Int) : Literal := ⟨decide (value < 0), digitsOf value.natAbs, [], []⟩

theorem isWellFormed_ofInteger (value : Int) : (ofInteger value).IsWellFormed :=
  ⟨isDecimal_digitsOf _, by simp [ofInteger], .inl rfl⟩

theorem text_ofInteger (value : Int) : (ofInteger value).text = integerText value := by
  unfold integerText
  by_cases negative : value < 0 <;>
    simp [text, ofInteger, tailText, exponentText, negative]

theorem value_ofInteger (value : Int) : (ofInteger value).value = value := by
  have digits : Nat.ofDigitChars 10 (digitsOf value.natAbs) 0 = value.natAbs :=
    Nat.ofDigitChars_toDigits (by decide) (by decide)
  rw [value_of_plain rfl rfl]
  simp only [ofInteger, digits, decide_eq_true_eq]
  split
  · rename_i negative
    rw [← Int.cast_natCast, Int.ofNat_natAbs_of_nonpos negative.le]
    simp
  · rename_i notNegative
    rw [← Int.cast_natCast, Int.natAbs_of_nonneg (Int.not_lt.mp notNegative)]

end Literal

/-- The rational number that the text of a number denotes. -/
def writtenValue (number : TreeNumber) : Option ℚ :=
  (Literal.ofText? (writeNumber number)).map Literal.value

theorem writtenValue_integer (value : Int) : writtenValue (.integer value) = some (value : ℚ) := by
  have found := Literal.ofText?_append (Literal.isWellFormed_ofInteger value)
    (rfl : endsNumber [] = true)
  rw [List.append_nil, Literal.text_ofInteger] at found
  rw [writtenValue, writeNumber, found, Option.map_some, Literal.value_ofInteger]

/-! ## Literals of integers -/

/-- The literal at the start of a text is read as a figure. -/
theorem readFigure_of_ofText? {budget depth : Nat} {text rest : List Char} {datum : Datum}
    {literal : Literal} (found : Literal.ofText? text = some literal)
    (read : readValue budget depth text = .ok (datum, rest)) :
    ∃ negative unsigned, literal = .ofUnsigned negative unsigned ∧
      readFigure negative unsigned = .ok (datum, rest) := by
  cases text with
  | nil => cases found
  | cons first others =>
      rw [Literal.ofText?] at found
      split at found
      · rename_i sign
        subst sign
        refine ⟨true, others, (Option.some.inj found).symm, ?_⟩
        rw [← read]
        cases depth <;> rfl
      · split at found
        · rename_i digit
          refine ⟨false, first :: others, (Option.some.inj found).symm, ?_⟩
          rw [← readValue_digit budget depth digit, read]
        · cases found

/-- What is read as a number starts with a number in decimal. -/
theorem isDecimal_of_readNumber {negative : Bool} {text rest : List Char} {datum : Datum}
    (read : readNumber negative text = .ok (datum, rest)) :
    Literal.IsDecimal (text.takeWhile isDigit) := by
  cases text with
  | nil => cases read
  | cons first others =>
      by_cases zero : first = '0'
      · subst zero
        left
        cases others with
        | nil => rfl
        | cons next more =>
            rw [readNumber] at read
            by_cases digit : isDigit next = true
            · simp only [digit, if_true] at read
              cases read
            · have other : isDigit next = false := Bool.eq_false_iff.mpr digit
              rw [List.takeWhile_cons_of_pos (by decide), List.takeWhile_cons_of_neg (by simpa)]
      · rw [readNumber] at read
        · split at read
          · rename_i digit
            exact .inr ⟨first, others.takeWhile isDigit, List.takeWhile_cons_of_pos digit, zero,
              List.all_eq_true.mp List.all_takeWhile⟩
          · cases read
        · exact zero

/-- An exponent has digits. -/
private theorem withExponent_of_signedDigits {negative : Bool} {significand : Nat} {exponent : Int}
    {text : List Char} (none : Literal.signedDigits text = []) :
    withExponent negative significand exponent text = .error .invalidNumber := by
  unfold Literal.signedDigits at none
  split at none
  · cases none
  · cases none
  · rename_i noPlus noMinus
    unfold withExponent
    split
    · exact absurd rfl (noPlus _)
    · exact absurd rfl (noMinus _)
    · simp only [none, List.isEmpty_nil, if_true]

/-- A literal without a point and an exponent ends behind its digits. -/
theorem endsNumber_of_plain {negative : Bool} {digits : LeadingDigits} {text rest : List Char}
    {datum : Datum}
    (read : afterInteger negative digits (text.dropWhile isDigit) = .ok (datum, rest))
    (plain : (Literal.ofUnsigned negative text).fraction = [])
    (direct : (Literal.ofUnsigned negative text).exponent = []) :
    endsNumber (text.dropWhile isDigit) = true := by
  have stops := Text.stops_dropWhile isDigit text
  unfold Literal.ofUnsigned at plain direct
  generalize text.dropWhile isDigit = behind at read plain direct stops
  cases behind with
  | nil => rfl
  | cons first others =>
      have digit : isDigit first = false := stops
      by_cases point : first = '.'
      · subst point
        have none : others.takeWhile isDigit = [] := plain
        unfold afterInteger at read
        simp only [none, List.isEmpty_nil, if_true] at read
        cases read
      · by_cases small : first = 'e'
        · subst small
          have none : Literal.signedDigits others = [] := direct
          unfold afterInteger at read
          simp only [withExponent_of_signedDigits none] at read
          cases read
        · by_cases large : first = 'E'
          · subst large
            have none : Literal.signedDigits others = [] := direct
            unfold afterInteger at read
            simp only [withExponent_of_signedDigits none] at read
            cases read
          · simp [endsNumber, digit, point, small, large]

private theorem writtenValue_of_toTree? {value : Int} {number : TreeNumber}
    (denoted : (Datum.integer value).toTree? = some (.number number)) :
    writtenValue number = some (value : ℚ) := by
  rw [Datum.toTree?] at denoted
  split at denoted
  · obtain rfl := Tree.number.inj (Option.some.inj denoted)
    exact writtenValue_integer value
  · cases denoted

private theorem writtenValue_negativeZero :
    writtenValue (.floating (Binary64.zero true)) = some 0 := by
  have shown : Literal.ofText? (writeNumber (.floating (Binary64.zero true))) =
      some ⟨true, ['0'], ['0'], []⟩ := by
    decide
  have zero : Nat.ofDigitChars 10 ['0', '0'] 0 = 0 := by decide
  rw [writtenValue, shown, Option.map_some, Literal.value]
  simp [zero]

/-- An integer of 64 bits is read as a number that is written with the same value. -/
theorem writtenValue_of_exactInteger {budget depth : Nat} {text rest : List Char} {datum : Datum}
    {number : TreeNumber} {literal : Literal} (found : Literal.ofText? text = some literal)
    (read : readValue budget depth text = .ok (datum, rest))
    (denoted : datum.toTree? = some (.number number)) (exact : literal.IsExactInteger) :
    writtenValue number = some literal.value := by
  obtain ⟨negative, unsigned, rfl, figure⟩ := readFigure_of_ofText? found read
  obtain ⟨plain, direct, least, greatest⟩ := exact
  have isNumber : readNumber negative unsigned = .ok (datum, rest) := by
    unfold readFigure at figure
    split at figure
    · obtain ⟨rfl, -⟩ := Prod.mk.inj (Except.ok.inj figure)
      cases denoted
    · exact figure
  have decimal := isDecimal_of_readNumber isNumber
  rw [← List.takeWhile_append_dropWhile (p := isDigit) (l := unsigned),
    Literal.readNumber_eq negative decimal (Text.stops_dropWhile isDigit unsigned)] at isNumber
  have ends := endsNumber_of_plain isNumber plain direct
  have value := Literal.value_of_plain plain direct
  have parts : (Literal.ofUnsigned negative unsigned).negative = negative ∧
      (Literal.ofUnsigned negative unsigned).whole = unsigned.takeWhile isDigit := by
    unfold Literal.ofUnsigned
    split <;> exact ⟨rfl, rfl⟩
  rw [parts.1, parts.2] at value
  have taken := takeAll_of_lt (unsigned.takeWhile isDigit) ⟨0, false, 0, 0⟩ rfl
  dsimp only at taken
  generalize Nat.ofDigitChars 10 (unsigned.takeWhile isDigit) 0 = magnitude at value taken
  rw [value] at least greatest ⊢
  cases negative with
  | false =>
      have bounded : magnitude ≤ 18446744073709551615 := by
        rw [if_neg (by decide)] at greatest
        exact_mod_cast greatest
      rw [taken (Nat.lt_succ_of_le bounded), afterInteger_of_ends false _ ends] at isNumber
      obtain ⟨rfl, -⟩ := Prod.mk.inj (Except.ok.inj isNumber)
      rw [writtenValue_of_toTree? denoted, if_neg (by decide), Int.cast_natCast]
  | true =>
      have bounded : magnitude ≤ 9223372036854775808 := by
        rw [if_pos rfl] at least
        exact_mod_cast neg_le_neg_iff.mp least
      rw [taken (Nat.lt_of_le_of_lt bounded (by decide)), afterInteger_of_ends true _ ends]
        at isNumber
      simp only [Bool.false_eq_true, if_false, Bool.not_true] at isNumber
      rw [if_pos rfl]
      by_cases zero : magnitude = 0
      · -- A zero with a sign is the floating-point zero with a sign.
        subst zero
        have signed : floatingOf true 0 0 = .ok (Binary64.zero true) :=
          ok_of_toOption (by decide)
        rw [if_neg (by simp), signed] at isNumber
        obtain ⟨rfl, -⟩ := Prod.mk.inj (Except.ok.inj isNumber)
        obtain rfl := Tree.number.inj (Option.some.inj denoted)
        rw [writtenValue_negativeZero, Nat.cast_zero, neg_zero]
      · rw [if_pos ⟨zero, bounded⟩] at isNumber
        obtain ⟨rfl, -⟩ := Prod.mk.inj (Except.ok.inj isNumber)
        rw [writtenValue_of_toTree? denoted, Int.cast_neg, Int.cast_natCast]

end ReleaseRules.Json
