import ReleaseRules.Proofs.Document.Reading
import ReleaseRules.Proofs.Json.Literals
import ReleaseRules.Proofs.Number.Shortest

/-!
Contract: number literals as texts of their own.

Owns:
- the parts of a literal, and its text;
- literals are read, in or out of range, whatever ends them;
- every number of a tree is written as a literal.

Does not own: what literals denote.
-/

namespace ReleaseRules.Json

open ReleaseRules.Number (Binary64 DecimalDigits digitsOf integerText)
open ReleaseRules.Text (dropWhile_append_of_stop takeWhile_append_of_stop)

/-! ## The parts of a literal -/

/-- The parts of a number literal; the exponent has its sign, but not its letter. -/
structure Literal where
  negative : Bool
  whole : List Char
  fraction : List Char
  exponent : List Char
deriving DecidableEq, Repr

namespace Literal

/-- The sign and the digits that a text starts with. -/
def signedDigits : List Char → List Char
  | '+' :: rest => '+' :: rest.takeWhile isDigit
  | '-' :: rest => '-' :: rest.takeWhile isDigit
  | text => text.takeWhile isDigit

/-- The exponent that a text starts with. -/
def exponentOf : List Char → List Char
  | 'e' :: rest => signedDigits rest
  | 'E' :: rest => signedDigits rest
  | _ => []

/-- The literal that a text starts with, its sign aside. -/
def ofUnsigned (negative : Bool) (text : List Char) : Literal :=
  match text.dropWhile isDigit with
  | '.' :: rest =>
      ⟨negative, text.takeWhile isDigit, rest.takeWhile isDigit,
        exponentOf (rest.dropWhile isDigit)⟩
  | rest => ⟨negative, text.takeWhile isDigit, [], exponentOf rest⟩

/-- The literal that a text starts with, if it starts with one. -/
def ofText? : List Char → Option Literal
  | [] => none
  | first :: rest =>
      if first = '-' then some (ofUnsigned true rest)
      else if isDigit first then some (ofUnsigned false (first :: rest))
      else none

/-- The exponent of a literal with its letter. -/
def exponentText (literal : Literal) : List Char :=
  if literal.exponent = [] then [] else 'e' :: literal.exponent

/-- The text of a literal behind the digits in front of its point. -/
def tailText (literal : Literal) : List Char :=
  if literal.fraction = [] then literal.exponentText
  else '.' :: (literal.fraction ++ literal.exponentText)

/-- The text of a literal. -/
def text (literal : Literal) : List Char :=
  (if literal.negative then ['-'] else []) ++ (literal.whole ++ literal.tailText)

/-- Whether a text has some digits behind an optional sign. -/
def IsSigned (text : List Char) : Prop :=
  ∃ sign digits, text = sign ++ digits ∧ (sign = [] ∨ sign = ['+'] ∨ sign = ['-']) ∧
    digits ≠ [] ∧ ∀ character ∈ digits, isDigit character = true

/-- A literal whose parts are as the grammar wants them. -/
structure IsWellFormed (literal : Literal) : Prop where
  whole : IsDecimal literal.whole
  fraction : ∀ character ∈ literal.fraction, isDigit character = true
  exponent : literal.exponent = [] ∨ IsSigned literal.exponent

theorem IsSigned.ne_nil {text : List Char} (signed : IsSigned text) : text ≠ [] := by
  obtain ⟨sign, digits, rfl, -, nonempty, -⟩ := signed
  simp [nonempty]

variable {literal : Literal} {rest : List Char}

/-! ## The extent of a literal -/

private theorem stops_exponentText (literal : Literal) (ends : endsNumber rest = true) :
    (literal.exponentText ++ rest).head?.any isDigit = false := by
  unfold exponentText
  split
  · exact stops_of_endsNumber ends
  · rfl

private theorem stops_tailText (literal : Literal) (ends : endsNumber rest = true) :
    (literal.tailText ++ rest).head?.any isDigit = false := by
  unfold tailText
  split
  · exact stops_exponentText literal ends
  · rfl

private theorem signedDigits_append {signed : List Char} (isSigned : IsSigned signed)
    (ends : endsNumber rest = true) : signedDigits (signed ++ rest) = signed := by
  obtain ⟨sign, digits, rfl, isSign, nonempty, areDigits⟩ := isSigned
  have run := takeWhile_append_of_stop areDigits (stops_of_endsNumber ends)
  rw [List.append_assoc]
  rcases isSign with rfl | rfl | rfl
  · obtain ⟨first, others, rfl⟩ := List.exists_cons_of_ne_nil nonempty
    have digit := areDigits first List.mem_cons_self
    rw [List.nil_append, List.nil_append, signedDigits, run]
    · rintro more same
      obtain ⟨rfl, -⟩ := List.cons.inj same
      exact absurd digit (by decide)
    · rintro more same
      obtain ⟨rfl, -⟩ := List.cons.inj same
      exact absurd digit (by decide)
  · exact congrArg ('+' :: ·) run
  · exact congrArg ('-' :: ·) run

private theorem exponentOf_append (wellFormed : literal.IsWellFormed)
    (ends : endsNumber rest = true) :
    exponentOf (literal.exponentText ++ rest) = literal.exponent := by
  unfold exponentText
  split
  · rename_i none
    rw [none, List.nil_append]
    cases rest with
    | nil => rfl
    | cons character others =>
        simp only [endsNumber, Bool.and_eq_true, bne_iff_ne, ne_eq] at ends
        rw [exponentOf]
        · rintro more same
          exact ends.1.2 (List.cons.inj same).1
        · rintro more same
          exact ends.2 (List.cons.inj same).1
  · rename_i some
    exact signedDigits_append (wellFormed.exponent.resolve_left some) ends

private theorem exponentText_ne_point (ends : endsNumber rest = true) (more : List Char) :
    literal.exponentText ++ rest ≠ '.' :: more := by
  unfold exponentText
  split
  · rintro rfl
    cases ends
  · exact fun same => absurd (List.cons.inj same).1 (by decide)

/-- A literal is found at the start of every text that it is the first part of. -/
theorem ofUnsigned_append (wellFormed : literal.IsWellFormed) (ends : endsNumber rest = true) :
    ofUnsigned literal.negative (literal.whole ++ (literal.tailText ++ rest)) = literal := by
  have front := takeWhile_append_of_stop wellFormed.whole.digits
    (stops_tailText literal ends)
  have behind := dropWhile_append_of_stop wellFormed.whole.digits
    (stops_tailText literal ends)
  have exponent := exponentOf_append wellFormed ends
  unfold ofUnsigned
  rw [front, behind]
  unfold tailText
  by_cases plain : literal.fraction = []
  · rw [if_pos plain]
    split
    · rename_i more same
      exact absurd same (exponentText_ne_point ends more)
    · rw [exponent, ← plain]
  · rw [if_neg plain, List.cons_append, List.append_assoc]
    simp only
    rw [takeWhile_append_of_stop wellFormed.fraction (stops_exponentText literal ends),
      dropWhile_append_of_stop wellFormed.fraction (stops_exponentText literal ends), exponent]

/-- A literal is found at the start of every text that it is the first part of. -/
theorem ofText?_append (wellFormed : literal.IsWellFormed) (ends : endsNumber rest = true) :
    ofText? (literal.text ++ rest) = some literal := by
  have found := ofUnsigned_append wellFormed ends
  unfold text
  rw [List.append_assoc, List.append_assoc]
  cases negative : literal.negative with
  | true =>
      rw [negative] at found
      exact congrArg some found
  | false =>
      obtain ⟨first, others, shown⟩ := List.exists_cons_of_ne_nil wellFormed.whole.ne_nil
      have digit := wellFormed.whole.digits first (by rw [shown]; exact List.mem_cons_self)
      have noSign : first ≠ '-' := by
        rintro rfl
        exact absurd digit (by decide)
      rw [negative, shown, List.cons_append] at found
      rw [if_neg (by decide), List.nil_append, shown, List.cons_append, ofText?, if_neg noSign,
        if_pos digit, found]

/-! ## Reading literals -/

/-- A reader takes a number, in or out of range, and leaves the rest. -/
private def Takes {α : Type} (result : Except ReadError (α × List Char)) (rest : List Char) :
    Prop :=
  result = .error .numberOutOfRange ∨ ∃ value, result = .ok (value, rest)

private theorem Takes.bind {α β : Type} {result : Except ReadError (α × List Char)}
    {next : α × List Char → Except ReadError (β × List Char)} (takes : Takes result rest)
    (goesOn : ∀ value, Takes (next (value, rest)) rest) : Takes (result >>= next) rest := by
  rcases takes with outside | ⟨value, inside⟩
  · rw [outside]
    exact .inl rfl
  · rw [inside]
    exact goesOn value

end Literal

theorem scaleBy_cases {step : Binary64 → Option Binary64}
    (keeps : ∀ {number smaller}, step number = some smaller → smaller.fits = true)
    {number : Binary64} (held : number.fits = true) (steps : Nat) (exponent : Int) :
    scaleBy step number steps exponent = .error .numberOutOfRange ∨
      ∃ scaled, scaleBy step number steps exponent = .ok scaled ∧ scaled.fits = true := by
  induction steps generalizing number exponent with
  | zero => exact .inr ⟨_, rfl, Binary64.fits_zero false⟩
  | succ less inductionHypothesis =>
      rw [scaleBy]
      split
      · split
        · exact .inl rfl
        · rename_i power _
          by_cases upwards : 0 ≤ exponent
          · rw [if_pos upwards]
            cases product : number.multiply power with
            | none => exact .inl rfl
            | some scaled => exact .inr ⟨scaled, rfl, Binary64.fits_of_multiply product⟩
          · rw [if_neg upwards]
            cases quotient : number.divide power with
            | none => exact .inl rfl
            | some scaled => exact .inr ⟨scaled, rfl, Binary64.fits_of_divide quotient⟩
      · split
        · exact .inr ⟨number, rfl, held⟩
        · split
          · exact .inl rfl
          · cases smaller : step number with
            | none => exact .inl rfl
            | some next => exact inductionHypothesis (keeps smaller) _

theorem scale_cases {number : Binary64} (held : number.fits = true) (steps : Nat)
    (exponent : Int) :
    scale number steps exponent = .error .numberOutOfRange ∨
      ∃ scaled, scale number steps exponent = .ok scaled ∧ scaled.fits = true := by
  refine scaleBy_cases (fun {number smaller} divided => ?_) held steps exponent
  obtain ⟨power, -, quotient⟩ := Option.bind_eq_some_iff.mp divided
  exact Binary64.fits_of_divide quotient

/-- A floating-point number is held by 64 bits or out of range. -/
theorem floatingOf_cases (negative : Bool) (significand : Nat) (exponent : Int) :
    floatingOf negative significand exponent = .error .numberOutOfRange ∨
      ∃ number, floatingOf negative significand exponent = .ok number ∧ number.fits = true := by
  unfold floatingOf
  cases rounded : Binary64.ofNat significand with
  | none => exact .inl rfl
  | some number =>
      rcases scale_cases (Binary64.fits_of_ofNat rounded) 4 exponent with
        outside | ⟨scaled, found, held⟩
      · simp only [outside]
        exact .inl rfl
      · simp only [found]
        cases negative with
        | true => exact .inr ⟨_, rfl, Binary64.fits_negate held⟩
        | false => exact .inr ⟨_, rfl, held⟩

/-- What a number literal is read as: an integer, a floating-point number that 64 bits hold, or
nothing that can be used. -/
def IsFigure (datum : Datum) : Prop :=
  datum = .unusable ∨ (∃ value, datum = .integer value) ∨
    ∃ number, number.fits = true ∧ datum = .floating (.finite number)

theorem fits_of_floatingOf {negative : Bool} {significand : Nat} {exponent : Int}
    {number : Binary64} (found : floatingOf negative significand exponent = .ok number) :
    number.fits = true := by
  rcases floatingOf_cases negative significand exponent with outside | ⟨other, inside, held⟩
  · cases outside.symm.trans found
  · exact Except.ok.inj (inside.symm.trans found) ▸ held

theorem fits_of_withExponent {negative : Bool} {significand : Nat} {exponent : Int}
    {text rest : List Char} {number : Binary64}
    (found : withExponent negative significand exponent text = .ok (number, rest)) :
    number.fits = true := by
  unfold withExponent at found
  extract_lets signed digits behind magnitude shifted at found
  split at found
  · cases found
  · split at found
    · split at found
      · cases found
      · obtain ⟨rfl, -⟩ := Prod.mk.inj (Except.ok.inj found)
        exact Binary64.fits_zero negative
    · obtain ⟨value, isValue, result⟩ := ok_of_bind found
      obtain ⟨rfl, -⟩ := Prod.mk.inj (Except.ok.inj result)
      exact fits_of_floatingOf isValue

private theorem isFigure_of_step {first : Except ReadError (Binary64 × List Char)}
    {datum : Datum} {rest : List Char}
    (step : (do
      let (value, behind) ← first
      return (Datum.floating (.finite value), behind) : Except ReadError (Datum × List Char)) =
        .ok (datum, rest))
    (held : ∀ value behind, first = .ok (value, behind) → value.fits = true) : IsFigure datum := by
  obtain ⟨⟨value, behind⟩, isValue, result⟩ := ok_of_bind step
  obtain ⟨rfl, -⟩ := Prod.mk.inj (Except.ok.inj result)
  exact .inr (.inr ⟨value, held value behind isValue, rfl⟩)

private theorem isFigure_of_floating {negative : Bool} {significand : Nat} {exponent : Int}
    {datum : Datum} {behind rest : List Char}
    (step : (do
      let value ← floatingOf negative significand exponent
      return (Datum.floating (.finite value), behind) : Except ReadError (Datum × List Char)) =
        .ok (datum, rest)) : IsFigure datum := by
  obtain ⟨value, isValue, result⟩ := ok_of_bind step
  obtain ⟨rfl, -⟩ := Prod.mk.inj (Except.ok.inj result)
  exact .inr (.inr ⟨value, fits_of_floatingOf isValue, rfl⟩)

theorem isFigure_of_afterInteger {negative : Bool} {digits : LeadingDigits} {text rest : List Char}
    {datum : Datum} (read : afterInteger negative digits text = .ok (datum, rest)) :
    IsFigure datum := by
  unfold afterInteger at read
  split at read
  · dsimp only at read
    split at read
    · cases read
    · split at read
      · exact isFigure_of_step read fun _ _ => fits_of_withExponent
      · exact isFigure_of_step read fun _ _ => fits_of_withExponent
      · exact isFigure_of_floating read
  · exact isFigure_of_step read fun _ _ => fits_of_withExponent
  · exact isFigure_of_step read fun _ _ => fits_of_withExponent
  · split at read
    · exact isFigure_of_floating read
    · split at read
      · obtain ⟨rfl, -⟩ := Prod.mk.inj (Except.ok.inj read)
        exact .inr (.inl ⟨_, rfl⟩)
      · split at read
        · obtain ⟨rfl, -⟩ := Prod.mk.inj (Except.ok.inj read)
          exact .inr (.inl ⟨_, rfl⟩)
        · exact isFigure_of_floating read

/-- A number literal is read as nothing else. -/
theorem isFigure_of_readFigure {negative : Bool} {text rest : List Char} {datum : Datum}
    (read : readFigure negative text = .ok (datum, rest)) : IsFigure datum := by
  have number : ∀ {datum rest}, readNumber negative text = .ok (datum, rest) → IsFigure datum := by
    intro datum rest read
    unfold readNumber at read
    split at read
    · cases read
    · split at read
      · split at read
        · cases read
        · exact isFigure_of_afterInteger read
      · exact isFigure_of_afterInteger read
    · split at read
      · exact isFigure_of_afterInteger read
      · cases read
  unfold readFigure at read
  split at read
  · obtain ⟨rfl, -⟩ := Prod.mk.inj (Except.ok.inj read)
    exact .inl rfl
  · exact number read

namespace Literal

variable {literal : Literal} {rest : List Char}

private theorem takes_floatingOf {β : Type} (negative : Bool) (significand : Nat)
    (exponent : Int) (next : Binary64 → β) :
    Takes (floatingOf negative significand exponent >>= fun value =>
      (pure (next value, rest) : Except ReadError (β × List Char))) rest := by
  rcases floatingOf_cases negative significand exponent with outside | ⟨number, found, -⟩
  · rw [outside]
    exact .inl rfl
  · rw [found]
    exact .inr ⟨_, rfl⟩

private theorem takes_withExponent (negative : Bool) (significand : Nat) (exponent : Int)
    {signed : List Char} (isSigned : IsSigned signed) (ends : endsNumber rest = true) :
    Takes (withExponent negative significand exponent (signed ++ rest)) rest := by
  obtain ⟨sign, digits, rfl, isSign, nonempty, areDigits⟩ := isSigned
  have run := takeWhile_append_of_stop areDigits (stops_of_endsNumber ends)
  have behind := dropWhile_append_of_stop areDigits (stops_of_endsNumber ends)
  have some : digits.isEmpty = false := by simpa using nonempty
  have settles : ∀ below : Bool, ∀ magnitude : Nat, ∀ shifted : Int,
      Takes (if 2147483647 < magnitude then
          if significand ≠ 0 ∧ (!below) = true then .error .numberOutOfRange
          else .ok (Binary64.zero negative, rest)
        else do
          let value ← floatingOf negative significand shifted
          return (value, rest)) rest := by
    intro below magnitude shifted
    split
    · split
      · exact .inl rfl
      · exact .inr ⟨_, rfl⟩
    · exact takes_floatingOf negative significand _ id
  unfold withExponent
  rcases isSign with rfl | rfl | rfl
  · obtain ⟨first, others, rfl⟩ := List.exists_cons_of_ne_nil nonempty
    have digit := areDigits first List.mem_cons_self
    dsimp only
    split
    · rename_i same
      obtain ⟨rfl, -⟩ := List.cons.inj same
      exact absurd digit (by decide)
    · rename_i same
      obtain ⟨rfl, -⟩ := List.cons.inj same
      exact absurd digit (by decide)
    · rw [List.nil_append, run, behind, some]
      exact settles false _ _
  · simp only [List.cons_append, List.nil_append, run, behind, some]
    exact settles false _ _
  · simp only [List.cons_append, List.nil_append, run, behind, some]
    exact settles true _ _

/-- What stands behind the digits in front of the point is taken as a whole. -/
private theorem takes_afterInteger (wellFormed : literal.IsWellFormed) (negative : Bool)
    (digits : LeadingDigits) (ends : endsNumber rest = true) :
    Takes (afterInteger negative digits (literal.tailText ++ rest)) rest := by
  have signed : literal.exponent ≠ [] → IsSigned literal.exponent :=
    wellFormed.exponent.resolve_left
  unfold tailText
  by_cases plain : literal.fraction = []
  · rw [if_pos plain]
    unfold exponentText
    by_cases direct : literal.exponent = []
    · rw [if_pos direct, List.nil_append, afterInteger_of_ends negative digits ends]
      split
      · exact takes_floatingOf negative _ _ _
      · split
        · exact .inr ⟨_, rfl⟩
        · split
          · exact .inr ⟨_, rfl⟩
          · exact takes_floatingOf true _ _ _
    · rw [if_neg direct]
      exact (takes_withExponent negative _ _ (signed direct) ends).bind fun value => .inr ⟨_, rfl⟩
  · have some : literal.fraction.isEmpty = false := by simpa using plain
    have run := takeWhile_append_of_stop wellFormed.fraction
      (stops_exponentText literal ends)
    have behind := dropWhile_append_of_stop wellFormed.fraction
      (stops_exponentText literal ends)
    rw [if_neg plain, List.cons_append, List.append_assoc]
    unfold afterInteger
    simp only [run, behind, some, Bool.false_eq_true, if_false]
    unfold exponentText
    by_cases direct : literal.exponent = []
    · rw [if_pos direct, List.nil_append]
      split
      · cases ends
      · cases ends
      · exact takes_floatingOf negative _ _ _
    · rw [if_neg direct]
      exact (takes_withExponent negative _ _ (signed direct) ends).bind fun value => .inr ⟨_, rfl⟩

private theorem skipExponent_text (wellFormed : literal.IsWellFormed)
    (ends : endsNumber rest = true) : skipExponent (literal.exponentText ++ rest) = rest := by
  unfold exponentText
  split
  · rw [List.nil_append]
    unfold skipExponent
    split
    · cases ends
    · cases ends
    · rfl
  · rename_i some
    obtain ⟨sign, digits, shown, isSign, nonempty, areDigits⟩ :=
      wellFormed.exponent.resolve_left some
    have behind := dropWhile_append_of_stop areDigits (stops_of_endsNumber ends)
    rw [shown]
    rcases isSign with rfl | rfl | rfl
    · obtain ⟨first, others, rfl⟩ := List.exists_cons_of_ne_nil nonempty
      have digit := areDigits first List.mem_cons_self
      have noSign : ¬ (first = '+' ∨ first = '-') := by
        rintro (rfl | rfl) <;> exact absurd digit (by decide)
      rw [List.nil_append, List.cons_append, List.cons_append, skipExponent, if_neg noSign]
      exact behind
    · exact behind
    · exact behind

private theorem skipNumber_text (wellFormed : literal.IsWellFormed)
    (ends : endsNumber rest = true) :
    skipNumber (literal.whole ++ (literal.tailText ++ rest)) = rest := by
  have behind := dropWhile_append_of_stop wellFormed.whole.digits
    (stops_tailText literal ends)
  rw [skipNumber, behind]
  unfold tailText
  split
  · have noFraction : skipFraction (literal.exponentText ++ rest) =
        literal.exponentText ++ rest := by
      unfold skipFraction
      split
      · rename_i more same
        exact absurd same (exponentText_ne_point ends more)
      · rfl
    rw [noFraction, skipExponent_text wellFormed ends]
  · rw [List.cons_append, List.append_assoc, skipFraction,
      dropWhile_append_of_stop wellFormed.fraction (stops_exponentText literal ends),
      skipExponent_text wellFormed ends]

/-- A literal is read, in range or not, and what follows it is left. -/
theorem readFigure_text (wellFormed : literal.IsWellFormed) (ends : endsNumber rest = true) :
    ∃ datum, readFigure literal.negative (literal.whole ++ (literal.tailText ++ rest)) =
      .ok (datum, rest) := by
  have number := readNumber_eq literal.negative wellFormed.whole
    (stops_tailText literal ends)
  rcases takes_afterInteger wellFormed literal.negative
    (LeadingDigits.takeAll ⟨0, false, 0, 0⟩ literal.whole) ends with outside | ⟨datum, inside⟩
  · rw [readFigure, number, outside]
    simp only [skipNumber_text wellFormed ends]
    exact ⟨_, rfl⟩
  · rw [readFigure, number, inside]
    exact ⟨datum, rfl⟩

/-! ## Written numbers -/

private theorem isSigned_exponent (exponent : Int) :
    IsSigned ((if 0 ≤ exponent then numberNotation.positiveExponent.toList else []) ++
      integerText exponent) := by
  have digits : ∀ character ∈ digitsOf exponent.natAbs, isDigit character = true := fun _ =>
    isDigit_of_mem_digitsOf
  have nonempty : digitsOf exponent.natAbs ≠ [] := (isDecimal_digitsOf _).ne_nil
  unfold integerText
  by_cases upwards : 0 ≤ exponent
  · rw [if_pos upwards, if_neg (by omega)]
    exact ⟨_, _, rfl, .inr (.inl (by decide)), nonempty, digits⟩
  · rw [if_neg upwards, if_pos (by omega)]
    exact ⟨['-'], _, rfl, .inr (.inr rfl), nonempty, digits⟩

/-- A text is that of a literal, its sign aside. -/
private def IsUnsigned (text : List Char) : Prop :=
  ∃ literal : Literal, literal.IsWellFormed ∧ literal.whole ++ literal.tailText = text

private theorem isUnsigned_point {whole fraction : List Char} (decimal : IsDecimal whole)
    (nonempty : fraction ≠ []) (digits : ∀ character ∈ fraction, isDigit character = true) :
    IsUnsigned (whole ++ '.' :: fraction) :=
  ⟨⟨false, whole, fraction, []⟩, ⟨decimal, digits, .inl rfl⟩, by
    simp [tailText, exponentText, nonempty]⟩

/-- Digits that are not zero are written as a literal in each of the notations. -/
private theorem isUnsigned_text {digits : DecimalDigits} (nonzero : digits.significand ≠ 0) :
    IsUnsigned (digits.text numberNotation) := by
  rcases digits.text_cases numberNotation with ⟨whole, fraction, shown, some, areDigits, starts⟩ |
    ⟨first, others, exponent, shown, areDigits, notZero⟩
  · rw [shown]
    simp only [← isDigit_eq] at areDigits
    refine isUnsigned_point (starts.imp_right fun ⟨first, others, same, notZero⟩ => ?_) some
      fun character member => areDigits character (List.mem_append_right _ member)
    exact ⟨first, others, same, notZero nonzero,
      fun character member => areDigits character (List.mem_append_left _ member)⟩
  · simp only [← isDigit_eq] at areDigits
    have decimal : IsDecimal [first] := .inr ⟨first, [], rfl, notZero nonzero,
      List.forall_mem_singleton.mpr (areDigits first List.mem_cons_self)⟩
    have signed := isSigned_exponent exponent
    have some := signed.ne_nil
    rw [shown]
    generalize (if 0 ≤ exponent then numberNotation.positiveExponent.toList else []) ++
      integerText exponent = written at signed some
    refine ⟨⟨false, [first], others, written⟩, ⟨decimal, ?_, .inr signed⟩, ?_⟩
    · exact fun character member => areDigits character (List.mem_cons_of_mem _ member)
    · by_cases plain : others = [] <;> simp [tailText, exponentText, some, plain]

/-- A number that 64 bits hold is written as a literal. -/
theorem exists_literal {number : TreeNumber}
    (held : ∀ value, number = .floating value → value.fits = true) :
    ∃ literal : Literal, literal.IsWellFormed ∧ writeNumber number = literal.text := by
  have signed : ∀ (negative : Bool) {text : List Char}, IsUnsigned text →
      ∃ literal : Literal, literal.IsWellFormed ∧
        (if negative then '-' :: text else text) = literal.text := by
    rintro negative text ⟨⟨_, whole, fraction, exponent⟩, wellFormed, rfl⟩
    refine ⟨⟨negative, whole, fraction, exponent⟩,
      ⟨wellFormed.whole, wellFormed.fraction, wellFormed.exponent⟩, ?_⟩
    cases negative <;> rfl
  cases number with
  | integer value =>
      have unsigned : IsUnsigned (digitsOf value.natAbs) :=
        ⟨⟨false, digitsOf value.natAbs, [], []⟩, ⟨isDecimal_digitsOf _, by simp, .inl rfl⟩, by
          simp [tailText, exponentText]⟩
      obtain ⟨literal, wellFormed, shown⟩ := signed (decide (value < 0)) unsigned
      refine ⟨literal, wellFormed, ?_⟩
      rw [← shown, writeNumber, integerText]
      simp
  | floating value =>
      have unsigned : IsUnsigned (if value.mantissa = 0 then ['0', '.', '0']
          else value.shortestDigits.text numberNotation) := by
        split
        · exact isUnsigned_point (.inl rfl) (by decide) (List.forall_mem_singleton.mpr rfl)
        · rename_i nonzero
          exact isUnsigned_text
            (Binary64.significand_shortestDigits_ne_zero (held value rfl) nonzero)
      obtain ⟨literal, wellFormed, shown⟩ := signed value.negative unsigned
      refine ⟨literal, wellFormed, ?_⟩
      rw [← shown]
      rfl

end Literal

end ReleaseRules.Json
