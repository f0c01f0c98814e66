import ReleaseRules.Proofs.Text.Runs
import ReleaseRules.Yaml.ScalarText
import ReleaseRules.Yaml.Writer

/-!
Contract: characters and positions in written YAML.

Owns:
- what characters that may be written as they are cannot be;
- steps over a known beginning of the text;
- texts that start with a token, and the gap between one line and the next.

Does not own: scalars and tokens.
-/

namespace ReleaseRules.Yaml

/-! ## Characters -/

theorem isBreak_of_isPrintable {character : Char} (printable : isPrintable character = true)
    (breaks : isBreak character = true) :
    character = '\n' ∨ character = '\u2028' ∨ character = '\u2029' := by
  have cases : character = '\n' ∨ character = '\r' ∨ character = '\u0085' ∨
      character = '\u2028' ∨ character = '\u2029' := by
    simpa [isBreak, or_assoc] using breaks
  rcases cases with same | rfl | rfl | same | same
  · exact Or.inl same
  · exact absurd printable (by decide)
  · exact absurd printable (by decide)
  · exact Or.inr (Or.inl same)
  · exact Or.inr (Or.inr same)

theorem ne_tab_of_isPrintable {character : Char} (printable : isPrintable character = true) :
    character ≠ '\t' := by
  rintro rfl
  exact absurd printable (by decide)

theorem isBlank_of_isPrintable {character : Char} (printable : isPrintable character = true) :
    isBlank character = isSpace character := by
  simp [isBlank, isSpace, ne_tab_of_isPrintable printable]

/-- Between words of one line, only spaces separate. -/
theorem isSeparator_of_isPrintable {character : Char} (printable : isPrintable character = true)
    (inLine : isBreak character = false) : isSeparator character = isSpace character := by
  rw [isSeparator, inLine, Bool.or_false, isBlank_of_isPrintable printable]

theorem isPrintable_of_needsEscapes {text : List Char} (plain : needsEscapes text = false) :
    ∀ character ∈ text, isPrintable character = true := by
  intro character member
  have all : text.any (fun character => !isPrintable character) = false :=
    (Bool.or_eq_false_iff.mp plain).1
  simpa using List.any_eq_false.mp all character member

theorem hasPair_cons_cons (first second : Char → Bool) (left right : Char) (rest : List Char) :
    hasPair first second (left :: right :: rest) =
      ((first left && second right) || hasPair first second (right :: rest)) := rfl

/-- Parts of a text have no pair that the text has not. -/
theorem hasPair_of_append {first second : Char → Bool} {front rest : List Char}
    (plain : hasPair first second (front ++ rest) = false) :
    hasPair first second rest = false := by
  induction front with
  | nil => exact plain
  | cons character others inductionHypothesis =>
      refine inductionHypothesis ?_
      cases shown : others ++ rest with
      | nil => rfl
      | cons next more =>
          rw [List.cons_append, shown, hasPair_cons_cons, Bool.or_eq_false_iff] at plain
          exact plain.2

/-- Behind a part without pairs there is nothing that would make one. -/
theorem head_of_hasPair {first second : Char → Bool} {front rest : List Char}
    (plain : hasPair first second (front ++ rest) = false)
    (passed : ∀ character ∈ front, first character = true) (nonempty : front ≠ []) :
    rest.head?.any second = false := by
  obtain ⟨initial, last, rfl⟩ : ∃ initial last, front = initial ++ [last] :=
    ⟨front.dropLast, front.getLast nonempty, (List.dropLast_concat_getLast nonempty).symm⟩
  cases rest with
  | nil => rfl
  | cons next others =>
      have holds := passed last (by simp)
      rw [List.append_assoc] at plain
      have here := hasPair_of_append plain
      rw [List.singleton_append, hasPair_cons_cons, holds, Bool.true_and] at here
      exact (Bool.or_eq_false_iff.mp here).1

theorem visible_of_head {text : List Char}
    (printable : ∀ character ∈ text, isPrintable character = true)
    (noSpace : text.head?.any isSpace = false) (inLine : text.head?.any isBreak = false) :
    text.head?.any isSeparator = false := by
  cases text with
  | nil => rfl
  | cons character others =>
      have here : isBreak character = false := inLine
      have visible : isSpace character = false := noSpace
      simp only [List.head?_cons, Option.any_some]
      rw [isSeparator_of_isPrintable (printable character List.mem_cons_self) here, visible]

/-- A text that starts with a space, behind all its leading spaces. -/
theorem exists_spaces {first : Char} (others : List Char) (space : isSpace first = true) :
    ∃ count rest, first :: others = spaces (count + 1) ++ rest ∧
      rest.head?.any isSpace = false := by
  obtain ⟨front, rest, split, blank, visible⟩ := Text.exists_prefix isSpace others
  have alike : front = spaces front.length :=
    List.eq_replicate_iff.mpr ⟨rfl, fun character member => by
      simpa [isSpace] using blank character member⟩
  have isSpaceFirst : first = ' ' := by simpa [isSpace] using space
  refine ⟨front.length, rest, ?_, visible⟩
  rw [split, isSpaceFirst, alike]
  simp [spaces, List.replicate_succ]

/-! ## Positions -/

namespace Cursor

variable {rest front : List Char} {index line column : Nat}

@[simp] theorem skip_append : (⟨front ++ rest, index, line, column⟩ : Cursor).skip front.length =
    ⟨rest, index + front.length, line, column + front.length⟩ := by
  simp [skip]

theorem skip_cons (character : Char) :
    (⟨character :: rest, index, line, column⟩ : Cursor).skip 1 =
      ⟨rest, index + 1, line, column + 1⟩ := rfl

theorem skipWhile_append {test : Char → Bool} (passed : ∀ character ∈ front, test character = true)
    (stops : rest.head?.any test = false) :
    (⟨front ++ rest, index, line, column⟩ : Cursor).skipWhile test =
      ⟨rest, index + front.length, line, column + front.length⟩ := by
  rw [skipWhile, Text.takeWhile_append_of_stop passed stops, skip_append]

/-- A written line break stands for itself. -/
theorem takeBreak_cons {character : Char} (printable : isPrintable character = true)
    (breaks : isBreak character = true) :
    (⟨character :: rest, index, line, column⟩ : Cursor).takeBreak =
      ([character], ⟨rest, index + 1, line + 1, 0⟩) := by
  rcases isBreak_of_isPrintable printable breaks with rfl | rfl | rfl <;> rfl

/-- Documents are not bounded by marks behind the start of a line. -/
theorem atDocumentBoundary_of_column (cursor : Cursor) (inside : 0 < cursor.column) :
    cursor.atDocumentBoundary = false := by
  have column : (cursor.column == 0) = false := beq_eq_false_iff_ne.mpr (by omega)
  simp [atDocumentBoundary, atDocumentMark, column]

end Cursor

/-- What has been read behind more text. -/
def behind (front : List Char) (result : Except ReadError (List Char × Cursor)) :
    Except ReadError (List Char × Cursor) :=
  result.map fun scalar => (front ++ scalar.1, scalar.2)

theorem behind_behind (front more : List Char)
    (result : Except ReadError (List Char × Cursor)) :
    behind front (behind more result) = behind (front ++ more) result := by
  cases result with
  | error reason => rfl
  | ok scalar => simp [behind, Except.map]

/-! ## Lines -/

/-- Whether a text is at its end or starts with what may start a token. -/
def startsToken : List Char → Bool
  | [] => true
  | character :: _ => !isSeparator character && character != '#' && character != '\uFEFF'

theorem startsToken_head {next : List Char} (token : startsToken next = true)
    {test : Char → Bool} (visible : ∀ character, test character = true →
      isSeparator character = true ∨ character = '#' ∨ character = '\uFEFF') :
    next.head?.any test = false := by
  cases next with
  | nil => rfl
  | cons character others =>
      simp only [startsToken, Bool.and_eq_true, Bool.not_eq_true', bne_iff_ne] at token
      refine Bool.eq_false_iff.mpr fun passed => ?_
      rcases visible character passed with separates | same | same
      · rw [token.1.1] at separates
        cases separates
      · exact token.1.2 same
      · exact token.2 same

theorem visible_of_startsToken {next : List Char} (token : startsToken next = true) :
    next.head?.any isSeparator = false :=
  startsToken_head token fun _ separates => Or.inl separates

theorem not_blank_of_visible {next : List Char} (visible : next.head?.any isSeparator = false) :
    next.head?.any isBlank = false ∧ next.head?.any isBreak = false := by
  cases next with
  | nil => exact ⟨rfl, rfl⟩
  | cons character others =>
      simp only [List.head?_cons, Option.any_some, isSeparator, Bool.or_eq_false_iff] at visible ⊢
      exact visible

/-- Spaces in front of something visible are stepped over. -/
theorem Gap.readLines_spaces (least : Option Nat) {next : List Char}
    (visible : next.head?.any isSeparator = false) (count : Nat) {budget index line column : Nat}
    (enough : count < budget) :
    Gap.readLines least budget ⟨spaces count ++ next, index, line, column⟩ =
      .ok ([], ⟨next, index + count, line, column + count⟩) := by
  induction count generalizing budget index column with
  | zero =>
      obtain ⟨fuel, rfl⟩ : ∃ fuel, budget = fuel + 1 := ⟨budget - 1, by omega⟩
      obtain ⟨noBlank, noBreak⟩ := not_blank_of_visible visible
      cases next with
      | nil => rfl
      | cons character others =>
          have here : isBlank character = false ∧ isBreak character = false := ⟨noBlank, noBreak⟩
          simp [spaces, readLines, here]
  | succ count inductionHypothesis =>
      obtain ⟨fuel, rfl⟩ : ∃ fuel, budget = fuel + 1 := ⟨budget - 1, by omega⟩
      have split : spaces (count + 1) ++ next = ' ' :: (spaces count ++ next) := rfl
      have later : readLines least fuel ⟨spaces count ++ next, index + 1, line, column + 1⟩ =
          .ok ([], ⟨next, index + 1 + count, line, column + 1 + count⟩) :=
        inductionHypothesis (by omega)
      have blank : isBlank ' ' = true := by decide
      have noTab : ¬(' ' = '\t' ∧ least.any (column < ·) = true) := by simp
      rw [split, readLines, Cursor.skip_cons, later]
      simp only [blank, noTab, if_true, if_false]
      congr 3
      · omega
      · omega

theorem isBlank_of_mem_spaces {count : Nat} {character : Char}
    (member : character ∈ spaces count) : isBlank character = true := by
  rw [(List.mem_replicate.mp member).2]
  decide

/-- Spaces between two words make up a gap. -/
theorem Gap.read_spaces (least : Option Nat) {next : List Char}
    (visible : next.head?.any isSeparator = false) (count : Nat) {index line column : Nat} :
    Gap.read least ⟨spaces count ++ next, index, line, column⟩ =
      .ok (⟨spaces count, []⟩, ⟨next, index + count, line, column + count⟩) := by
  obtain ⟨noBlank, noBreak⟩ := not_blank_of_visible visible
  have taken : (spaces count ++ next).takeWhile isBlank = spaces count :=
    Text.takeWhile_append_of_stop (fun _ member => isBlank_of_mem_spaces member) noBlank
  have skipped : (⟨spaces count ++ next, index, line, column⟩ : Cursor).skipBlanks =
      ⟨next, index + count, line, column + count⟩ := by
    have length : (spaces count).length = count := List.length_replicate
    rw [Cursor.skipBlanks, Cursor.skipWhile_append (fun _ member => isBlank_of_mem_spaces member)
      noBlank, length]
  simp only [Gap.read, taken, skipped, Cursor.atBreak, noBreak, Bool.false_eq_true, if_false]

/-- Line breaks and the indentation behind them make up a gap. -/
theorem Gap.readLines_breaks (least : Option Nat) {breaks next : List Char}
    (printable : ∀ character ∈ breaks, isPrintable character = true ∧ isBreak character = true)
    (visible : next.head?.any isSeparator = false) (count : Nat) {budget index line column : Nat}
    (nonempty : breaks ≠ []) (enough : breaks.length + count < budget) :
    Gap.readLines least budget ⟨breaks ++ (spaces count ++ next), index, line, column⟩ =
      .ok (breaks, ⟨next, index + breaks.length + count, line + breaks.length, count⟩) := by
  induction breaks generalizing budget index line column with
  | nil => exact absurd rfl nonempty
  | cons character rest inductionHypothesis =>
      obtain ⟨fuel, rfl⟩ : ∃ fuel, budget = fuel + 1 := ⟨budget - 1, by omega⟩
      obtain ⟨printableHere, breaksHere⟩ := printable character List.mem_cons_self
      have noBlank : isBlank character = false := by
        rcases isBreak_of_isPrintable printableHere breaksHere with rfl | rfl | rfl <;> decide
      have length : (character :: rest).length = rest.length + 1 := List.length_cons
      rw [List.cons_append, readLines]
      simp only [noBlank, breaksHere, Bool.false_eq_true, if_false, if_true,
        Cursor.takeBreak_cons printableHere breaksHere]
      by_cases last : rest = []
      · subst last
        have enoughLeft : count < fuel := by
          simp only [List.length_cons, List.length_nil] at enough
          omega
        have later : readLines least fuel ⟨spaces count ++ next, index + 1, line + 1, 0⟩ =
            .ok ([], ⟨next, index + 1 + count, line + 1, 0 + count⟩) :=
          readLines_spaces least visible count enoughLeft
        rw [List.nil_append, later]
        simp
      · have later : readLines least fuel
            ⟨rest ++ (spaces count ++ next), index + 1, line + 1, 0⟩ =
            .ok (rest, ⟨next, index + 1 + rest.length + count, line + 1 + rest.length, count⟩) :=
          inductionHypothesis (fun other member => printable other (List.mem_cons_of_mem _ member))
            last (by omega)
        rw [later, length]
        simp only [List.cons_append, List.nil_append]
        congr 3
        · omega
        · omega

end ReleaseRules.Yaml
