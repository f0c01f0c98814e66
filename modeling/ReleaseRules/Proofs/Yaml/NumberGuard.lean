import ReleaseRules.Proofs.Document.Reading
import ReleaseRules.Proofs.Text.Runs
import ReleaseRules.Proofs.Yaml.Characters

/-!
Contract: which numbers keep a text from being rendered.

Owns:
- where a number-like text is seen by the guard, by its line;
- the plain numbers of a content, with the texts that they are written back as;
- when exactly a rendered content has no number that was spelled otherwise.

Does not own: the values of numbers.
-/

namespace ReleaseRules.Yaml

open Number (integerText isDecimalDigit)
open Text (dropWhile_append_of_stop takeWhile_append_of_stop)

/-! ## Lines that guard a number -/

/-- A text that stands behind a mark goes on with blanks and a number-like text, behind which
nothing is left on the line but blanks and a comment. -/
def StandsBehindMark (text number : List Char) : Prop :=
  ∃ blanks rest, text = blanks ++ (number ++ rest) ∧ blanks ≠ [] ∧
    (∀ character ∈ blanks, isBlank character = true) ∧ startsNumber number = true ∧
    (∀ character ∈ number, isNumberPart character = true) ∧
    rest.head?.any isNumberPart = false ∧ endsLine rest = true

/-- A line has a number-like text behind the dash that starts it. -/
def StandsBehindDash (line number : List Char) : Prop :=
  ∃ indent after, line = indent ++ '-' :: after ∧
    (∀ character ∈ indent, isBlank character = true) ∧ StandsBehindMark after number

/-- A line has a number-like text behind a colon, and behind none of the colons in front of it. -/
def StandsBehindColon (line number : List Char) : Prop :=
  ∃ before after, line = before ++ ':' :: after ∧ StandsBehindMark after number ∧
    ∀ earlier later, before = earlier ++ ':' :: later →
      ∀ other, ¬ StandsBehindMark (later ++ ':' :: after) other

/-- A line guards the number-like text behind the dash that starts it, or else the one behind the
first colon that has any. -/
def Guards (line number : List Char) : Prop :=
  StandsBehindDash line number ∨
    (∀ other, ¬ StandsBehindDash line other) ∧ StandsBehindColon line number

theorem isBlank_of_isNumberPart {character : Char} (part : isNumberPart character = true) :
    isBlank character = false := by
  rw [Bool.eq_false_iff]
  intro blank
  simp only [isBlank, Bool.or_eq_true, decide_eq_true_eq] at blank
  rcases blank with rfl | rfl <;> exact absurd part (by decide)

theorem isNumberPart_of_isDecimalDigit {character : Char}
    (digit : isDecimalDigit character = true) : isNumberPart character = true := by
  simp [isNumberPart, digit]

/-- How a text starts is decided by the characters that may stand in a number. -/
theorem startsNumber_append {number rest : List Char}
    (stops : rest.head?.any isNumberPart = false) :
    startsNumber (number ++ rest) = startsNumber number := by
  have noDigit : rest.head?.any isDecimalDigit = false := by
    cases rest with
    | nil => rfl
    | cons first others =>
        rw [List.head?_cons, Option.any_some] at stops ⊢
        exact Bool.eq_false_iff.mpr fun digit =>
          Bool.eq_false_iff.mp stops (isNumberPart_of_isDecimalDigit digit)
  match number with
  | [] =>
      cases rest with
      | nil => rfl
      | cons first others =>
          rw [List.head?_cons, Option.any_some] at stops noDigit
          simp only [isNumberPart, Bool.or_eq_false_iff, decide_eq_false_iff_not] at stops
          simp [startsNumber, noDigit, stops]
  | [first] => simp [startsNumber, noDigit]
  | first :: second :: others => rfl

theorem numberAfterMark?_eq_some_iff {text number : List Char} :
    numberAfterMark? text = some number ↔ StandsBehindMark text number := by
  constructor
  · intro found
    obtain ⟨blanks, scalar, rfl, areBlank, stopsBlank⟩ := Text.exists_prefix isBlank text
    obtain ⟨parts, rest, rfl, areParts, stopsPart⟩ := Text.exists_prefix isNumberPart scalar
    simp only [numberAfterMark?, dropWhile_append_of_stop areBlank stopsBlank,
      takeWhile_append_of_stop areParts stopsPart, startsNumber_append stopsPart,
      List.drop_left] at found
    split at found
    · rename_i conditions
      simp only [Bool.and_eq_true] at conditions
      obtain ⟨⟨separated, starts⟩, ends⟩ := conditions
      obtain rfl := Option.some.inj found
      refine ⟨blanks, rest, rfl, ?_, areBlank, starts, areParts, stopsPart, ends⟩
      rintro rfl
      rw [List.nil_append, stopsBlank] at separated
      cases separated
    · cases found
  · rintro ⟨blanks, rest, rfl, nonempty, areBlank, starts, areParts, stopsPart, ends⟩
    have stopsBlank : (number ++ rest).head?.any isBlank = false := by
      cases number with
      | nil => cases starts
      | cons first others => exact isBlank_of_isNumberPart (areParts first List.mem_cons_self)
    have separated : (blanks ++ (number ++ rest)).head?.any isBlank = true := by
      cases blanks with
      | nil => exact absurd rfl nonempty
      | cons first others => exact areBlank first List.mem_cons_self
    simp only [numberAfterMark?, dropWhile_append_of_stop areBlank stopsBlank,
      takeWhile_append_of_stop areParts stopsPart, startsNumber_append stopsPart,
      List.drop_left, separated, starts, ends, Bool.and_self, if_true]

theorem numberAfterMark?_eq_none_iff {text : List Char} :
    numberAfterMark? text = none ↔ ∀ number, ¬ StandsBehindMark text number := by
  simp only [← numberAfterMark?_eq_some_iff, Option.eq_none_iff_forall_ne_some, ne_eq]

/-- A first colon with a number-like text behind it is the one that counts. -/
theorem standsBehindColon_colon_iff {rest number found : List Char}
    (here : StandsBehindMark rest found) :
    StandsBehindColon (':' :: rest) number ↔ StandsBehindMark rest number := by
  constructor
  · rintro ⟨before, after, shape, stands, first⟩
    cases before with
    | nil =>
        obtain ⟨-, rfl⟩ := List.cons.inj shape
        exact stands
    | cons start others =>
        obtain ⟨rfl, rfl⟩ := List.cons.inj shape
        exact absurd here (first [] others rfl found)
  · intro stands
    exact ⟨[], rest, rfl, stands, fun earlier behind split => absurd split (by simp)⟩

/-- A first character that is no colon with a number-like text behind it does not count. -/
theorem standsBehindColon_cons_iff {character : Char} {rest number : List Char}
    (notHere : character = ':' → ∀ other, ¬ StandsBehindMark rest other) :
    StandsBehindColon (character :: rest) number ↔ StandsBehindColon rest number := by
  constructor
  · rintro ⟨before, after, shape, stands, first⟩
    cases before with
    | nil =>
        obtain ⟨rfl, rfl⟩ := List.cons.inj shape
        exact absurd stands (notHere rfl number)
    | cons start others =>
        obtain ⟨rfl, rfl⟩ := List.cons.inj shape
        exact ⟨others, after, rfl, stands, fun earlier behind split =>
          first (character :: earlier) behind (by rw [split, List.cons_append])⟩
  · rintro ⟨before, after, rfl, stands, first⟩
    refine ⟨character :: before, after, rfl, stands, fun earlier behind split other => ?_⟩
    cases earlier with
    | nil =>
        obtain ⟨rfl, rfl⟩ := List.cons.inj split
        exact notHere rfl other
    | cons start others => exact first others behind (List.cons.inj split).2 other

theorem numberAfterColon?_eq_some_iff {line number : List Char} :
    numberAfterColon? line = some number ↔ StandsBehindColon line number := by
  induction line with
  | nil =>
      constructor
      · intro found
        cases found
      · rintro ⟨before, after, shape, -⟩
        exact absurd shape (by simp)
  | cons character rest inductionHypothesis =>
      rw [numberAfterColon?]
      by_cases colon : character = ':'
      · subst colon
        rw [if_pos rfl]
        cases here : numberAfterMark? rest with
        | some found =>
            rw [standsBehindColon_colon_iff (numberAfterMark?_eq_some_iff.mp here),
              ← numberAfterMark?_eq_some_iff, here]
        | none =>
            rw [standsBehindColon_cons_iff fun _ => numberAfterMark?_eq_none_iff.mp here]
            exact inductionHypothesis
      · rw [if_neg colon, standsBehindColon_cons_iff fun same => absurd same colon]
        exact inductionHypothesis

/-- The only dash that starts a line is the first character behind its blanks. -/
theorem standsBehindDash_append_iff {indent rest number : List Char}
    (areBlank : ∀ character ∈ indent, isBlank character = true)
    (stops : rest.head?.any isBlank = false) :
    StandsBehindDash (indent ++ rest) number ↔
      ∃ after, rest = '-' :: after ∧ StandsBehindMark after number := by
  constructor
  · rintro ⟨blanks, after, shape, blank, stands⟩
    refine ⟨after, ?_, stands⟩
    rw [← dropWhile_append_of_stop areBlank stops, shape]
    exact dropWhile_append_of_stop blank rfl
  · rintro ⟨after, rfl, stands⟩
    exact ⟨indent, after, rfl, areBlank, stands⟩

theorem numberOfLine?_eq_some_iff {line number : List Char} :
    numberOfLine? line = some number ↔ Guards line number := by
  obtain ⟨indent, rest, rfl, areBlank, stops⟩ := Text.exists_prefix isBlank line
  unfold numberOfLine? Guards
  rw [dropWhile_append_of_stop areBlank stops]
  simp only [standsBehindDash_append_iff areBlank stops, ← numberAfterColon?_eq_some_iff]
  split
  · rename_i after
    simp only [List.cons.injEq, true_and, exists_eq_left', ← numberAfterMark?_eq_some_iff]
    cases numberAfterMark? after <;> simp
  · rename_i noDash
    have noNumber : ∀ other, ¬ ∃ after, rest = '-' :: after ∧ StandsBehindMark after other := by
      rintro other ⟨after, same, -⟩
      exact noDash after same
    simp [noNumber]

/-! ## Numbers with another spelling -/

/-- A number-like text is a number that is written back in another spelling. -/
def IsRespelled (number : List Char) : Prop :=
  ∃ written, writtenBack? number = some written ∧ number ≠ written

theorem isLossy_iff {number : List Char} : isLossy number = true ↔ IsRespelled number := by
  simp [isLossy, IsRespelled, Option.any_eq_true, ne_comm]

/-- The guard is silent exactly if no line guards a number with another spelling. -/
theorem lossyNumber?_eq_none_iff {text : List Char} :
    lossyNumber? text = none ↔
      ∀ line ∈ Text.splitAt '\n' text, ∀ number, Guards line number → ¬ IsRespelled number := by
  simp only [lossyNumber?, List.find?_eq_none, List.mem_filterMap, isLossy_iff,
    numberOfLine?_eq_some_iff]
  exact ⟨fun none line member number guards => none number ⟨line, member, guards⟩,
    fun none number ⟨line, member, guards⟩ => none line member number guards⟩

end ReleaseRules.Yaml
