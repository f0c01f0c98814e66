import Mathlib.Data.List.TakeWhile
import ReleaseRules.Proofs.Text.Runs
import ReleaseRules.Proofs.Version.Extraction
import ReleaseRules.Proofs.Version.Order

/-!
Contract: the first version in a text.

Owns:
- where the first version of a text begins and ends;
- the first version of texts in which a numeric version stands behind what is no digit;
- further components make no version smaller.

Does not own: the pattern that finds it.

The first version begins at the first digit, a digit of any script, and goes on over further
components, each a dot with digits behind it, up to the third.
-/

namespace ReleaseRules.VersionPattern

open Unicode (IntervalSet decimalDigits)
open Text (takeWhile_append_of_stop dropWhile_append_of_stop stops_dropWhile)

/-! ## The first version of a text -/

/-- Whether a character is a decimal digit of any script. -/
def isAnyDigit (character : Char) : Bool := decimalDigits.hasChar character

/-- A further component at the start of a text, a dot with digits behind it, and what follows. -/
def furtherComponent? : List Char → Option (List Char × List Char)
  | '.' :: rest =>
      if (rest.takeWhile isAnyDigit).isEmpty then none
      else some ('.' :: rest.takeWhile isAnyDigit, rest.dropWhile isAnyDigit)
  | _ => none

/-- Further components at the start of a text, as many as there are up to a number, and what
follows. -/
def furtherComponents : Nat → List Char → List Char × List Char
  | 0, text => ([], text)
  | count + 1, text =>
      match furtherComponent? text with
      | none => ([], text)
      | some (component, rest) =>
          (component ++ (furtherComponents count rest).1, (furtherComponents count rest).2)

/-- A text that is cut at both ends of a version in it. -/
structure Cut where
  before : List Char
  version : List Char
  behind : List Char
deriving DecidableEq, Repr

/-- The cut of a text at its first version. -/
def firstVersion? (text : List Char) : Option Cut :=
  match text.dropWhile fun character => !isAnyDigit character with
  | [] => none
  | first :: rest =>
      let others := furtherComponents 2 (rest.dropWhile isAnyDigit)
      some ⟨text.takeWhile fun character => !isAnyDigit character,
        first :: (rest.takeWhile isAnyDigit ++ others.1), others.2⟩

/-- Text that begins with digits, all of which are known. -/
structure IsRun (digits rest : List Char) : Prop where
  nonempty : digits ≠ []
  digital : ∀ character ∈ digits, isAnyDigit character = true
  stops : rest.head?.any isAnyDigit = false

section Cuts

variable {text rest behind digits component before : List Char} {cut : Cut}

theorem furtherComponent?_of_isRun (run : IsRun digits rest) :
    furtherComponent? ('.' :: (digits ++ rest)) = some ('.' :: digits, rest) := by
  rw [furtherComponent?, takeWhile_append_of_stop run.digital run.stops,
    dropWhile_append_of_stop run.digital run.stops, if_neg (by simpa using run.nonempty)]

theorem exists_of_furtherComponent? (found : furtherComponent? text = some (component, rest)) :
    ∃ digits, component = '.' :: digits ∧ IsRun digits rest ∧ text = component ++ rest := by
  unfold furtherComponent? at found
  split at found
  · rename_i after
    split at found
    · cases found
    · rename_i nonempty
      cases found
      refine ⟨after.takeWhile isAnyDigit, rfl, ⟨by simpa using nonempty, ?_, ?_⟩, ?_⟩
      · exact List.all_eq_true.mp List.all_takeWhile
      · exact stops_dropWhile isAnyDigit after
      · rw [List.cons_append, List.takeWhile_append_dropWhile]
  · cases found

theorem furtherComponents_append (count : Nat) (text : List Char) :
    (furtherComponents count text).1 ++ (furtherComponents count text).2 = text := by
  induction count generalizing text with
  | zero => rfl
  | succ count inductionHypothesis =>
      rw [furtherComponents]
      split
      · rfl
      · rename_i component rest found
        obtain ⟨digits, -, -, shape⟩ := exists_of_furtherComponent? found
        rw [shape, List.append_assoc, inductionHypothesis]

/-- What follows the components begins with no digit. -/
theorem stops_furtherComponents (count : Nat) (stops : text.head?.any isAnyDigit = false) :
    (furtherComponents count text).2.head?.any isAnyDigit = false := by
  induction count generalizing text with
  | zero => exact stops
  | succ count inductionHypothesis =>
      rw [furtherComponents]
      split
      · exact stops
      · rename_i component rest found
        obtain ⟨digits, -, run, -⟩ := exists_of_furtherComponent? found
        exact inductionHypothesis run.stops

/-- The first version begins at the first digit. -/
theorem firstVersion?_of_isRun (plain : ∀ character ∈ before, isAnyDigit character = false)
    (run : IsRun digits rest) :
    firstVersion? (before ++ (digits ++ rest)) =
      some ⟨before, digits ++ (furtherComponents 2 rest).1, (furtherComponents 2 rest).2⟩ := by
  obtain ⟨first, others, rfl⟩ := List.exists_cons_of_ne_nil run.nonempty
  have passed : ∀ character ∈ before, (!isAnyDigit character) = true := by
    intro character member
    rw [plain character member]
    rfl
  have stopsHere : (first :: (others ++ rest)).head?.any (fun character => !isAnyDigit character) =
      false := by
    rw [List.head?_cons, Option.any_some, run.digital first List.mem_cons_self]
    rfl
  have digital : ∀ character ∈ others, isAnyDigit character = true := by
    intro character member
    exact run.digital character (List.mem_cons_of_mem first member)
  rw [firstVersion?, List.cons_append, dropWhile_append_of_stop passed stopsHere,
    takeWhile_append_of_stop passed stopsHere]
  dsimp only
  rw [dropWhile_append_of_stop digital run.stops, takeWhile_append_of_stop digital run.stops]
  rfl

/-- The shape of a text with a version in it. -/
theorem exists_of_firstVersion? (found : firstVersion? text = some cut) :
    ∃ digits rest, text = cut.before ++ (digits ++ rest) ∧
      (∀ character ∈ cut.before, isAnyDigit character = false) ∧ IsRun digits rest ∧
      cut.version = digits ++ (furtherComponents 2 rest).1 ∧
      cut.behind = (furtherComponents 2 rest).2 := by
  unfold firstVersion? at found
  split at found
  · cases found
  · rename_i first rest shape
    cases found
    have starts := stops_dropWhile (fun character => !isAnyDigit character) text
    rw [shape, List.head?_cons, Option.any_some, Bool.not_eq_false'] at starts
    refine ⟨first :: rest.takeWhile isAnyDigit, rest.dropWhile isAnyDigit, ?_, ?_,
      ⟨?_, ?_, ?_⟩, rfl, rfl⟩
    · rw [List.cons_append, List.takeWhile_append_dropWhile, ← shape,
        List.takeWhile_append_dropWhile]
    · intro character member
      simpa using List.mem_takeWhile_imp member
    · exact List.cons_ne_nil _ _
    · intro character member
      rcases List.mem_cons.mp member with rfl | later
      · exact starts
      · exact List.mem_takeWhile_imp later
    · exact stops_dropWhile isAnyDigit rest

theorem firstVersion?_eq_none_iff :
    firstVersion? text = none ↔ ∀ character ∈ text, isAnyDigit character = false := by
  unfold firstVersion?
  split
  · rename_i none
    simpa using List.dropWhile_eq_nil_iff.mp none
  · rename_i first rest shape
    have member : first ∈ text := by
      apply (List.dropWhile_sublist fun character => !isAnyDigit character).subset
      rw [shape]
      exact List.mem_cons_self
    have starts := stops_dropWhile (fun character => !isAnyDigit character) text
    rw [shape, List.head?_cons, Option.any_some, Bool.not_eq_false'] at starts
    refine iff_of_false (Option.some_ne_none _) ?_
    intro plain
    rw [plain first member] at starts
    cases starts

/-- The parts of a cut make up the text. -/
theorem text_of_firstVersion? (found : firstVersion? text = some cut) :
    text = cut.before ++ (cut.version ++ cut.behind) := by
  obtain ⟨digits, rest, shape, -, -, version, behind⟩ := exists_of_firstVersion? found
  rw [shape, version, behind, List.append_assoc, furtherComponents_append]

end Cuts

/-! ## Numeric texts -/

section Numeric

variable {text before behind version : List Char}

theorem isAnyDigit_of_isDecimalDigit {digit : Char} (decimal : Number.isDecimalDigit digit = true) :
    isAnyDigit digit = true :=
  hasChar_decimalDigits decimal

theorem exists_interval_of_containsSorted {intervals : List Unicode.Interval} {codePoint : Nat}
    (contained : IntervalSet.containsSorted intervals codePoint = true) :
    ∃ interval ∈ intervals, interval.first ≤ codePoint ∧ codePoint ≤ interval.last := by
  induction intervals with
  | nil => cases contained
  | cons interval rest inductionHypothesis =>
      rw [IntervalSet.containsSorted] at contained
      split at contained
      · cases contained
      · split at contained
        · exact ⟨interval, List.mem_cons_self, by omega, by omega⟩
        · obtain ⟨other, member, bounds⟩ := inductionHypothesis contained
          exact ⟨other, List.mem_cons_of_mem interval member, bounds⟩

/-- White space is no digit. -/
theorem isAnyDigit_of_isBlank {character : Char} (blank : Unicode.isBlank character = true) :
    isAnyDigit character = false := by
  have apart : ∀ space ∈ Unicode.whiteSpace.intervals, ∀ digits ∈ decimalDigits.intervals,
      space.last < digits.first ∨ digits.last < space.first := by
    decide
  by_contra digit
  obtain ⟨space, inSpaces, above, below⟩ := exists_interval_of_containsSorted blank
  obtain ⟨digits, inDigits, aboveDigits, belowDigits⟩ :=
    exists_interval_of_containsSorted (Bool.eq_true_of_not_eq_false digit)
  have differ := apart space inSpaces digits inDigits
  omega

theorem stops_flatMap (pieces : List (List Char)) (stops : behind.head?.any isAnyDigit = false) :
    (pieces.flatMap ('.' :: ·) ++ behind).head?.any isAnyDigit = false := by
  cases pieces with
  | nil => exact stops
  | cons piece rest =>
      show isAnyDigit '.' = false
      decide

/-- Components that stand in a row are read one after the other. -/
theorem furtherComponents_flatMap {pieces : List (List Char)} {count : Nat}
    (enough : pieces.length ≤ count)
    (digital : ∀ piece ∈ pieces, piece ≠ [] ∧ ∀ digit ∈ piece, isAnyDigit digit = true)
    (stops : behind.head?.any isAnyDigit = false) :
    furtherComponents count (pieces.flatMap ('.' :: ·) ++ behind) =
      (pieces.flatMap ('.' :: ·) ++ (furtherComponents (count - pieces.length) behind).1,
        (furtherComponents (count - pieces.length) behind).2) := by
  induction pieces generalizing count with
  | nil => rfl
  | cons piece rest inductionHypothesis =>
      obtain ⟨nonempty, digits⟩ := digital piece List.mem_cons_self
      have run : IsRun piece (rest.flatMap ('.' :: ·) ++ behind) :=
        ⟨nonempty, digits, stops_flatMap rest stops⟩
      obtain ⟨others, rfl⟩ : ∃ others, count = others + 1 :=
        ⟨count - 1, (Nat.sub_add_cancel (Nat.le_trans (Nat.succ_pos _) enough)).symm⟩
      have later := inductionHypothesis (Nat.le_of_succ_le_succ enough)
        fun other member => digital other (List.mem_cons_of_mem piece member)
      have found := furtherComponent?_of_isRun run
      have shape : (piece :: rest).flatMap ('.' :: ·) ++ behind =
          '.' :: (piece ++ (rest.flatMap ('.' :: ·) ++ behind)) := by
        simp
      have fewer : others + 1 - (piece :: rest).length = others - rest.length :=
        Nat.add_sub_add_right others 1 rest.length
      rw [shape, furtherComponents, found, fewer]
      dsimp only
      rw [later]
      simp

/-- A numeric text behind no digit is where the first version begins. Components that follow belong
to the version as well, as long as there are no more than three. -/
theorem firstVersion?_of_isNumeric (plain : ∀ character ∈ before, isAnyDigit character = false)
    (numeric : Version.isNumeric version = true) (stops : behind.head?.any isAnyDigit = false) :
    firstVersion? (before ++ (version ++ behind)) =
      some ⟨before,
        version ++ (furtherComponents (3 - (Text.splitAt '.' version).length) behind).1,
        (furtherComponents (3 - (Text.splitAt '.' version).length) behind).2⟩ := by
  obtain ⟨first, others, split⟩ := Text.splitAt_cons '.' version
  have shape := Text.eq_append_of_splitAt split
  simp only [Version.isNumeric, split, Bool.and_eq_true, decide_eq_true_eq, List.all_eq_true,
    Bool.not_eq_true', List.isEmpty_eq_false_iff] at numeric
  obtain ⟨few, digital⟩ := numeric
  have areDigits : ∀ piece ∈ first :: others,
      piece ≠ [] ∧ ∀ digit ∈ piece, isAnyDigit digit = true := by
    intro piece member
    obtain ⟨nonempty, decimal⟩ := digital piece member
    exact ⟨nonempty, fun digit inside => isAnyDigit_of_isDecimalDigit (decimal digit inside)⟩
  have run : IsRun first (others.flatMap ('.' :: ·) ++ behind) := by
    obtain ⟨nonempty, digits⟩ := areDigits first List.mem_cons_self
    exact ⟨nonempty, digits, stops_flatMap others stops⟩
  have enough : others.length ≤ 2 := Nat.le_of_succ_le_succ few
  have fewer : 3 - (first :: others).length = 2 - others.length :=
    Nat.add_sub_add_right 2 1 others.length
  have whole : before ++ (version ++ behind) =
      before ++ (first ++ (others.flatMap ('.' :: ·) ++ behind)) := by
    rw [shape, List.append_assoc]
  rw [whole, firstVersion?_of_isRun plain run, furtherComponents_flatMap enough
    (fun piece member => areDigits piece (List.mem_cons_of_mem first member)) stops, split, fewer]
  rw [shape, List.append_assoc]

theorem furtherComponents_of_none {count : Nat} (none : furtherComponent? text = none) :
    furtherComponents count text = ([], text) := by
  cases count with
  | zero => rfl
  | succ count => rw [furtherComponents, none]

/-- The first version of a text that is read as a version is this version. -/
theorem exists_firstVersion_of_parse? {release : Version}
    (parsed : Version.parse? text = some release) :
    ∃ cut, firstVersion? text = some cut ∧ Version.parse? cut.version = some release := by
  obtain ⟨before, body, behind, rfl, written, parsedBody, surroundings, blank⟩ :=
    Version.exists_written_of_parse? parsed
  have plain : ∀ character ∈ before, isAnyDigit character = false := by
    intro character member
    rcases surroundings character member with space | rfl | rfl
    · exact isAnyDigit_of_isBlank space
    · decide
    · decide
  have stops : behind.head?.any isAnyDigit = false := by
    cases behind with
    | nil => rfl
    | cons character rest => exact isAnyDigit_of_isBlank (blank character List.mem_cons_self)
  have none : furtherComponent? behind = none := by
    unfold furtherComponent?
    split
    · exact absurd (blank '.' List.mem_cons_self) (by decide)
    · rfl
  refine ⟨_, firstVersion?_of_isNumeric plain (Version.isNumeric_of_isWritten written) stops, ?_⟩
  rw [furtherComponents_of_none none, List.append_nil]
  exact parsedBody

/-! ## Further components and the order of versions -/

/-- Further components are runs of digits, each behind a dot. -/
theorem exists_pieces_of_furtherComponents (count : Nat) (text : List Char) :
    ∃ pieces : List (List Char), (furtherComponents count text).1 = pieces.flatMap ('.' :: ·) ∧
      ∀ piece ∈ pieces, ∀ character ∈ piece, isAnyDigit character = true := by
  induction count generalizing text with
  | zero =>
      refine ⟨[], rfl, ?_⟩
      intro piece member
      cases member
  | succ count inductionHypothesis =>
      rw [furtherComponents]
      split
      · refine ⟨[], rfl, ?_⟩
        intro piece member
        cases member
      · rename_i component rest found
        obtain ⟨digits, rfl, run, -⟩ := exists_of_furtherComponent? found
        obtain ⟨pieces, shape, digital⟩ := inductionHypothesis rest
        refine ⟨digits :: pieces, ?_, ?_⟩
        · rw [List.flatMap_cons, ← shape]
        · intro piece member
          rcases List.mem_cons.mp member with rfl | later
          · exact run.digital
          · exact digital piece later

/-- In texts of digits and dots there is neither white space nor a mark to pass over. -/
theorem parse?_of_digits_and_dots
    (plain : ∀ character ∈ text, isAnyDigit character = true ∨ character = '.') :
    Version.parse? text =
      (Version.components? (Text.splitAt '.' text)).bind Version.ofComponents? := by
  have noBlank : ∀ character ∈ text, Unicode.isBlank character = false := by
    intro character member
    rcases plain character member with digit | rfl
    · cases blank : Unicode.isBlank character with
      | false => rfl
      | true =>
          rw [isAnyDigit_of_isBlank blank] at digit
          cases digit
    · decide
  have noMark : Version.withoutMark text = text := by
    unfold Version.withoutMark
    split
    · exact absurd (plain 'v' List.mem_cons_self) (by decide)
    · exact absurd (plain 'V' List.mem_cons_self) (by decide)
    · rfl
  rw [Version.parse?, (Unicode.IsTight.of_noBlank noBlank).trim_eq, noMark]

/-- A version with further components is no smaller. -/
theorem le_of_parse?_further {count : Nat} {release later : Version}
    (numeric : Version.isNumeric version = true) (parsed : Version.parse? version = some release)
    (parsedLater : Version.parse? (version ++ (furtherComponents count behind).1) = some later) :
    release ≤ later := by
  obtain ⟨first, others, split⟩ := Text.splitAt_cons '.' version
  obtain ⟨pieces, further, digital⟩ := exists_pieces_of_furtherComponents count behind
  have shape := Text.eq_append_of_splitAt split
  simp only [Version.isNumeric, split, Bool.and_eq_true, List.all_eq_true] at numeric
  have digits : ∀ piece ∈ first :: (others ++ pieces),
      ∀ character ∈ piece, isAnyDigit character = true := by
    intro piece member character inside
    rw [← List.cons_append] at member
    rcases List.mem_append.mp member with own | more
    · exact isAnyDigit_of_isDecimalDigit ((numeric.2 piece own).2 character inside)
    · exact digital piece more character inside
  have whole : version ++ (furtherComponents count behind).1 =
      first ++ (others ++ pieces).flatMap ('.' :: ·) := by
    rw [further, shape, List.flatMap_append, List.append_assoc]
  have splitWhole : Text.splitAt '.' (version ++ (furtherComponents count behind).1) =
      (first :: others) ++ pieces := by
    rw [whole, List.cons_append]
    apply Text.splitAt_flatMap
    intro piece member dot
    have digit := digits piece member '.' dot
    revert digit
    decide
  have plain : ∀ character ∈ version ++ (furtherComponents count behind).1,
      isAnyDigit character = true ∨ character = '.' := by
    intro character member
    rcases Text.eq_or_mem_piece '.' member with dot | ⟨piece, inPieces, inside⟩
    · exact .inr dot
    · rw [splitWhole, List.cons_append] at inPieces
      exact .inl (digits piece inPieces character inside)
  have plainOwn : ∀ character ∈ version, isAnyDigit character = true ∨ character = '.' := by
    intro character member
    exact plain character (List.mem_append_left _ member)
  rw [parse?_of_digits_and_dots plainOwn, split] at parsed
  rw [parse?_of_digits_and_dots plain, splitWhole] at parsedLater
  obtain ⟨values, areValues, made⟩ := Option.bind_eq_some_iff.mp parsed
  obtain ⟨valuesLater, areLater, madeLater⟩ := Option.bind_eq_some_iff.mp parsedLater
  obtain ⟨front, back, areFront, rfl⟩ := Version.exists_of_components?_append areLater
  obtain rfl : values = front := Option.some.inj (areValues.symm.trans areFront)
  exact Version.le_of_ofComponents?_append made madeLater

end Numeric

end ReleaseRules.VersionPattern
