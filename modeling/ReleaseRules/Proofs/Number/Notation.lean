import ReleaseRules.Number.Literal
import ReleaseRules.Number.Shortest

/-!
Contract: numbers as they are written.

Owns:
- the digits of natural numbers, and reading them back;
- digits with a point, and digits with an exponent, in every notation.

Does not own: which digits a floating-point number has, and how literals are read.
-/

namespace ReleaseRules.Number

theorem isDigit_of_mem_digitsOf {value : Nat} {character : Char}
    (member : character ∈ digitsOf value) : character.isDigit = true :=
  Nat.isDigit_of_mem_toDigits (by decide) (by decide) member

/-- The digits of a number start with a zero for zero only. -/
theorem exists_digitsOf (value : Nat) :
    ∃ first others, digitsOf value = first :: others ∧ (value ≠ 0 → first ≠ '0') := by
  induction value using Nat.strongRecOn with
  | ind value inductionHypothesis =>
      by_cases small : value < 10
      · exact ⟨value.digitChar, [], Nat.toDigits_of_lt_base small, fun nonzero => by simpa⟩
      · have parts : digitsOf value = digitsOf (value / 10) ++ [(value % 10).digitChar] :=
          Nat.toDigits_of_base_le (by decide) (by omega)
        obtain ⟨first, others, shown, nonzero⟩ :=
          inductionHypothesis (value / 10) (Nat.div_lt_self (by omega) (by decide))
        exact ⟨first, others ++ [(value % 10).digitChar], by rw [parts, shown, List.cons_append],
          fun _ => nonzero (by omega)⟩

/-! ## Reading digits -/

theorem toNat_of_isDecimalDigit {character : Char}
    (decimal : isDecimalDigit character = true) :
    48 ≤ character.toNat ∧ character.toNat ≤ 57 := by
  simpa [isDecimalDigit, Char.le_def, UInt32.le_iff_toNat_le] using decimal

theorem radixDigit?_of_isDecimalDigit {digit : Char}
    (decimal : isDecimalDigit digit = true) :
    radixDigit? 10 digit = some (digit.toNat - '0'.toNat) := by
  have range := toNat_of_isDecimalDigit decimal
  simp only [isDecimalDigit, Bool.and_eq_true, decide_eq_true_eq] at decimal
  rw [radixDigit?, if_pos decimal]
  exact if_pos (by omega)

theorem readDigits?_of_isDecimalDigit {digits : List Char} (value : Nat)
    (decimal : ∀ digit ∈ digits, isDecimalDigit digit = true) :
    readDigits? 10 value digits = some (Nat.ofDigitChars 10 digits value) := by
  induction digits generalizing value with
  | nil => rfl
  | cons digit rest inductionHypothesis =>
      rw [readDigits?, radixDigit?_of_isDecimalDigit (decimal digit List.mem_cons_self),
        Nat.ofDigitChars_cons]
      exact inductionHypothesis _ fun other member => decimal other (List.mem_cons_of_mem _ member)

theorem isDecimalDigit_of_radixDigit? {character : Char} {value : Nat}
    (read : radixDigit? 10 character = some value) : isDecimalDigit character = true := by
  unfold radixDigit? at read
  split at read
  · rename_i decimal
    simpa [isDecimalDigit] using decimal
  · split at read
    · rename_i letter
      have above : 97 ≤ character.toNat := by
        simpa [Char.le_def, UInt32.le_iff_toNat_le] using letter.1
      rw [if_neg (by omega)] at read
      cases read
    · split at read
      · rename_i letter
        have above : 65 ≤ character.toNat := by
          simpa [Char.le_def, UInt32.le_iff_toNat_le] using letter.1
        rw [if_neg (by omega)] at read
        cases read
      · rw [if_neg (by omega)] at read
        cases read

/-- What is read as digits consists of digits. -/
theorem isDecimalDigit_of_readDigits? {digits : List Char} {start value : Nat}
    (read : readDigits? 10 start digits = some value) :
    ∀ digit ∈ digits, isDecimalDigit digit = true := by
  induction digits generalizing start with
  | nil =>
      intro digit member
      cases member
  | cons digit rest inductionHypothesis =>
      rw [readDigits?] at read
      split at read
      · rename_i shown
        intro other member
        rcases List.mem_cons.mp member with rfl | later
        · exact isDecimalDigit_of_radixDigit? shown
        · exact inductionHypothesis read other later
      · cases read

theorem isDecimalDigit_of_mem_digitsOf {value : Nat} {character : Char}
    (member : character ∈ digitsOf value) : isDecimalDigit character = true := by
  simpa [isDecimalDigit, Char.isDigit, Char.le_def] using isDigit_of_mem_digitsOf member

/-- The digits of a number are read as the number. -/
theorem natural?_digitsOf (value : Nat) : natural? 10 (digitsOf value) = some value := by
  have decimal : ∀ digit ∈ digitsOf value, isDecimalDigit digit = true :=
    fun digit member => isDecimalDigit_of_mem_digitsOf member
  obtain ⟨first, others, shown, -⟩ := exists_digitsOf value
  rw [natural?, if_neg (by simp [shown]), readDigits?_of_isDecimalDigit 0 decimal]
  exact congrArg some (Nat.ofDigitChars_toDigits (by decide) (by decide))

namespace DecimalDigits

/-- Digits on both sides of a point. The first one is a zero that stands alone, or the first of the
significand. -/
def IsPointed (significand : Nat) (text : List Char) : Prop :=
  ∃ whole fraction, text = whole ++ '.' :: fraction ∧ fraction ≠ [] ∧
    (∀ character ∈ whole ++ fraction, character.isDigit = true) ∧
    (whole = ['0'] ∨ ∃ first others, whole = first :: others ∧ (significand ≠ 0 → first ≠ '0'))

/-- One digit, the others behind a point if there are any, and an exponent. -/
def IsScaled (floatNotation : FloatNotation) (significand : Nat) (text : List Char) : Prop :=
  ∃ first others exponent, text = first :: ((if others = [] then [] else '.' :: others) ++
      'e' :: ((if 0 ≤ exponent then floatNotation.positiveExponent.toList else []) ++
        integerText exponent)) ∧
    (∀ character ∈ first :: others, character.isDigit = true) ∧
    (significand ≠ 0 → first ≠ '0')

/-- The two forms of written digits. -/
theorem text_cases (floatNotation : FloatNotation) (digits : DecimalDigits) :
    IsPointed digits.significand (digits.text floatNotation) ∨
      IsScaled floatNotation digits.significand (digits.text floatNotation) := by
  obtain ⟨first, others, shown, nonzero⟩ := exists_digitsOf digits.significand
  have areDigits : ∀ character ∈ first :: others, character.isDigit = true := fun _ member =>
    isDigit_of_mem_digitsOf (shown ▸ member)
  have zeros : ∀ count, ∀ character ∈ List.replicate count '0', character.isDigit = true := by
    intro count character member
    rw [(List.mem_replicate.mp member).2]
    rfl
  unfold DecimalDigits.text
  rw [shown]
  dsimp only
  split
  · refine .inl ⟨first :: others ++ List.replicate digits.exponent.toNat '0', ['0'], ?_, by simp,
      fun character member => ?_, .inr ⟨first, _, List.cons_append, nonzero⟩⟩
    · rfl
    · rcases List.mem_append.mp member with front | zero
      · rcases List.mem_append.mp front with digit | zero
        · exact areDigits character digit
        · exact zeros _ character zero
      · exact zeros 1 character zero
  split
  · -- The point stands between two digits.
    obtain ⟨before, position⟩ : ∃ before,
        (((first :: others).length : Int) + digits.exponent).toNat = before + 1 :=
      ⟨(((first :: others).length : Int) + digits.exponent).toNat - 1, by omega⟩
    rw [position]
    refine .inl ⟨_, _, rfl, ?_, fun character member => ?_,
      .inr ⟨first, others.take before, List.take_succ_cons, nonzero⟩⟩
    · rw [ne_eq, List.drop_eq_nil_iff]
      omega
    · rw [List.take_append_drop] at member
      exact areDigits character member
  split
  · refine .inl ⟨['0'], _, rfl, by simp, fun character member => ?_, .inl rfl⟩
    rcases List.mem_append.mp member with zero | behind
    · exact zeros 1 character zero
    · rcases List.mem_append.mp behind with zero | digit
      · exact zeros _ character zero
      · exact areDigits character digit
  · refine .inr ⟨first, others, ((first :: others).length : Int) + digits.exponent - 1, ?_,
      areDigits, nonzero⟩
    cases others with
    | nil => rfl
    | cons second more => rfl

end DecimalDigits

end ReleaseRules.Number
