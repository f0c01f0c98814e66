import Mathlib.Algebra.Group.Nat.Defs
import ReleaseRules.Proofs.Yaml.Characters

/-!
Contract: quoted scalars are read as they are written.

Owns:
- escapes of characters;
- runs of quoted scalars, which a bound on the number of steps does not affect;
- texts in double and in single quotes.

Does not own: which texts are quoted.
-/

namespace ReleaseRules.Yaml

/-! ## Escapes -/

private theorem hexDigit?_upperHexDigit (value : Nat) (small : value < 16) :
    hexDigit? (upperHexDigit value) = some value := by
  have every : ∀ digit < 16, hexDigit? (upperHexDigit digit) = some digit := by decide
  exact every value small

theorem length_hexDigits (width value : Nat) : (hexDigits width value).length = width := by
  induction width generalizing value with
  | zero => rfl
  | succ width inductionHypothesis => simp [hexDigits, inductionHypothesis]

private theorem hexValue?_append (start : Nat) (front : List Char) (digit : Char) :
    hexValue? start (front ++ [digit]) =
      (hexValue? start front).bind fun value =>
        (hexDigit? digit).map fun last => 16 * value + last := by
  induction front generalizing start with
  | nil => cases found : hexDigit? digit <;> simp [hexValue?, found]
  | cons character rest inductionHypothesis =>
      cases found : hexDigit? character with
      | none => simp [hexValue?, found]
      | some value => simp [hexValue?, found, inductionHypothesis]

/-- Hexadecimal digits denote the number that they have been made for. -/
theorem hexValue?_hexDigits {width value : Nat} (fits : value < 16 ^ width) :
    hexValue? 0 (hexDigits width value) = some value := by
  induction width generalizing value with
  | zero =>
      obtain rfl : value = 0 := by simpa using fits
      rfl
  | succ width inductionHypothesis =>
      have quotient : value / 16 < 16 ^ width := by
        rw [Nat.pow_succ] at fits
        omega
      have parts : 16 * (value / 16) + value % 16 = value := Nat.div_add_mod value 16
      rw [hexDigits, hexValue?_append, inductionHypothesis quotient,
        hexDigit?_upperHexDigit _ (Nat.mod_lt _ (by decide)), Option.bind_some, Option.map_some,
        parts]

private theorem readEscape_hexDigits {kind : Char} {width : Nat} {character : Char}
    (noShort : shortEscape? kind = none) (wide : escapeWidth? kind = some width)
    (fits : character.toNat < 16 ^ width) (rest : List Char) :
    readEscape (kind :: hexDigits width character.toNat ++ rest) = .ok (character, width + 1) := by
  have length := length_hexDigits width character.toNat
  have enough : ¬ (hexDigits width character.toNat ++ rest).length < width := by
    rw [List.length_append, length]
    omega
  have taken : (hexDigits width character.toNat ++ rest).take width =
      hexDigits width character.toNat := List.take_left' length
  have valid : character.toNat.isValidChar := character.valid
  rw [List.cons_append, readEscape]
  simp only [noShort, wide, enough, taken, hexValue?_hexDigits fits, valid, if_true, if_false,
    Char.ofNat_toNat]

/-- The escape of a character is read as this character. -/
theorem readEscape_escapeOf (character : Char) (rest : List Char) :
    readEscape (escapeOf character ++ rest) = .ok (character, (escapeOf character).length) := by
  unfold escapeOf
  split
  all_goals first | rfl | skip
  dsimp only
  have bound : character.toNat < 0x110000 := by
    have valid := character.valid
    simp only [UInt32.isValidChar, Nat.isValidChar] at valid
    simp only [Char.toNat]
    omega
  split
  · rw [readEscape_hexDigits rfl rfl (by omega), List.length_cons, length_hexDigits]
  split
  · rw [readEscape_hexDigits rfl rfl (by omega), List.length_cons, length_hexDigits]
  · rw [readEscape_hexDigits rfl rfl (by omega), List.length_cons, length_hexDigits]

theorem escapeOf_cons (character : Char) :
    ∃ kind rest, escapeOf character = kind :: rest ∧ isBreak kind = false := by
  unfold escapeOf
  split
  all_goals first | exact ⟨_, _, rfl, by decide⟩ | skip
  dsimp only
  split
  · exact ⟨_, _, rfl, by decide⟩
  split
  · exact ⟨_, _, rfl, by decide⟩
  · exact ⟨_, _, rfl, by decide⟩

/-! ## Runs -/

/-- Any bound above the number of characters gives the same run. -/
theorem readQuotedRun_budget (single : Bool) {budget other : Nat} {cursor : Cursor}
    (enough : cursor.rest.length < budget) (alsoEnough : cursor.rest.length < other) :
    readQuotedRun single budget cursor = readQuotedRun single other cursor := by
  induction budget generalizing other cursor with
  | zero => omega
  | succ fuel inductionHypothesis =>
      obtain ⟨otherFuel, rfl⟩ : ∃ fuel, other = fuel + 1 := ⟨other - 1, by omega⟩
      cases shown : cursor.rest with
      | nil => simp only [readQuotedRun, shown]
      | cons character rest =>
          have later : ∀ count, readQuotedRun single fuel (cursor.skip (count + 1)) =
              readQuotedRun single otherFuel (cursor.skip (count + 1)) := by
            intro count
            have shorter : (cursor.skip (count + 1)).rest.length =
                cursor.rest.length - (count + 1) := List.length_drop
            rw [shown, List.length_cons] at shorter enough alsoEnough
            exact inductionHypothesis (by omega) (by omega)
          rw [readQuotedRun, readQuotedRun]
          simp only [later 0, later 1]
          simp only [later]

/-- Whether a written form is read as one character of a run. -/
def IsPiece (single : Bool) (character : Char) (piece : List Char) : Prop :=
  ∀ after index line column,
    readQuotedRun single ((piece ++ after).length + 1) ⟨piece ++ after, index, line, column⟩ =
      (readQuotedRun single (after.length + 1)
        ⟨after, index + piece.length, line, column + piece.length⟩).map
        fun run => (character :: run.1, run.2)

theorem IsPiece.of_single {character : Char} (visible : isSeparator character = false) :
    IsPiece true character (if character = '\'' then ['\'', '\''] else [character]) := by
  intro after index line column
  split
  · rename_i same
    subst same
    have quote : isSeparator '\'' = false := by decide
    have length : (['\'', '\''] ++ after).length = after.length + 2 := by simp
    rw [length, readQuotedRun]
    simp only [List.cons_append, List.nil_append, quote, List.head?_cons, Cursor.skip,
      List.drop_succ_cons, List.drop_zero, bind, Except.bind, pure, Except.pure, Except.map,
      Bool.false_eq_true, if_false, if_true, BEq.rfl]
    have sameRun : readQuotedRun true (after.length + 2)
        ⟨after, index + 2, line, column + 2⟩ = readQuotedRun true (after.length + 1)
        ⟨after, index + 2, line, column + 2⟩ := readQuotedRun_budget true (by simp) (by simp)
    rw [sameRun]
    rfl
  · rename_i different
    rw [List.singleton_append, readQuotedRun]
    simp only [visible, different, Cursor.skip, List.drop_succ_cons, List.drop_zero, bind,
      Except.bind, pure, Except.pure, Except.map, Bool.false_eq_true, if_false, if_true,
      List.length_cons]
    rfl

theorem IsPiece.of_double {character : Char} (noSpace : isSpace character = false) :
    IsPiece false character (doubleQuotedCharacter character) := by
  intro after index line column
  unfold doubleQuotedCharacter
  split
  · have read := readEscape_escapeOf character after
    obtain ⟨kind, rest, shown, inLine⟩ := escapeOf_cons character
    have backslash : isSeparator '\\' = false := by decide
    have noBreak : (escapeOf character ++ after).head?.any isBreak = false := by
      simp [shown, inLine]
    rw [List.cons_append, readQuotedRun]
    simp only [backslash, noBreak, read, bind, Except.bind, pure, Except.pure, Except.map,
      Bool.false_eq_true, if_false, if_true, List.length_cons, Cursor.skip, List.drop_succ_cons,
      List.drop_left, show ¬ '\\' = '"' by decide]
    have sameRun : ∀ cursor : Cursor, cursor.rest = after →
        readQuotedRun false ((escapeOf character ++ after).length + 1) cursor =
          readQuotedRun false (after.length + 1) cursor := by
      rintro cursor rfl
      exact readQuotedRun_budget false (by rw [List.length_append]; omega) (by omega)
    rw [sameRun _ rfl]
  · rename_i plain
    simp only [Bool.or_eq_true, Bool.not_eq_true', decide_eq_true_eq, not_or,
      Bool.not_eq_false, Bool.not_eq_true] at plain
    obtain ⟨⟨⟨printable, inLine⟩, noQuote⟩, noBackslash⟩ := plain
    have visible : isSeparator character = false := by
      rw [isSeparator_of_isPrintable printable inLine, noSpace]
    rw [List.singleton_append, readQuotedRun]
    simp only [visible, noQuote, noBackslash, Cursor.skip, List.drop_succ_cons, List.drop_zero,
      bind, Except.bind, pure, Except.pure, Except.map, Bool.false_eq_true, if_false,
      List.length_cons]
    rfl

/-! ## Quoted texts -/

section Quoted

variable {single : Bool} {budget index line column : Nat}

/-- What is read of a quoted scalar behind a run. -/
private def readQuotedRest (single : Bool) (budget : Nat) (run : List Char × RunEnd × Cursor) :
    Except ReadError (List Char × Cursor) :=
  if run.2.2.rest.head? == some (quoteOf single) then .ok (run.1, run.2.2.skip 1)
  else do
    let (between, cursor) ←
      match run.2.1 with
      | .plainly => (Gap.read none run.2.2).map fun gap => (gap.1.folded, gap.2)
      | .escapedBreak => Gap.readLines none (run.2.2.rest.length + 1) run.2.2
    behind (run.1 ++ between) (readQuotedFrom single budget cursor)

private theorem readQuotedFrom_run {rest : List Char} (inside : 0 < column)
    (goesOn : rest ≠ []) :
    readQuotedFrom single (budget + 1) ⟨rest, index, line, column⟩ =
      (readQuotedRun single (rest.length + 1) ⟨rest, index, line, column⟩).bind
        (readQuotedRest single budget) := by
  have inDocument := Cursor.atDocumentBoundary_of_column ⟨rest, index, line, column⟩ inside
  have someRest : rest.isEmpty = false := by simpa using goesOn
  rw [readQuotedFrom]
  simp only [inDocument, someRest, Bool.false_eq_true, if_false]
  cases readQuotedRun single (rest.length + 1) ⟨rest, index, line, column⟩ with
  | error reason => rfl
  | ok run =>
      obtain ⟨text, ending, cursor⟩ := run
      simp only [bind, Except.bind, readQuotedRest]
      split
      · rfl
      · cases ending with
        | plainly => cases Gap.read none cursor <;> rfl
        | escapedBreak => rfl

/-- The first character of a quoted text is read before the rest of it. -/
theorem readQuotedFrom_piece {character : Char} {piece after : List Char}
    (reads : IsPiece single character piece) (goesOn : after ≠ []) (inside : 0 < column) :
    readQuotedFrom single (budget + 1) ⟨piece ++ after, index, line, column⟩ =
      behind [character] (readQuotedFrom single (budget + 1)
        ⟨after, index + piece.length, line, column + piece.length⟩) := by
  rw [readQuotedFrom_run inside (by simp [goesOn]), readQuotedFrom_run (by omega) goesOn,
    reads after index line column]
  cases readQuotedRun single (after.length + 1)
      ⟨after, index + piece.length, line, column + piece.length⟩ with
  | error reason => rfl
  | ok run =>
      obtain ⟨text, ending, cursor⟩ := run
      simp only [Except.map, Except.bind, readQuotedRest]
      split
      · rfl
      · cases ending with
        | plainly =>
            cases Gap.read none cursor with
            | error reason => rfl
            | ok gap =>
                simp only [bind, Except.bind]
                cases readQuotedFrom single budget gap.2 <;> rfl
        | escapedBreak =>
            cases Gap.readLines none (cursor.rest.length + 1) cursor with
            | error reason => rfl
            | ok gap =>
                simp only [bind, Except.bind]
                cases readQuotedFrom single budget gap.2 <;> rfl

private theorem readQuotedFrom_gap {gap : Gap} {text : List Char} {after : Cursor}
    (separated : text.head?.any isSeparator = true) (inside : 0 < column)
    (read : Gap.read none ⟨text, index, line, column⟩ = .ok (gap, after)) :
    readQuotedFrom single (budget + 1) ⟨text, index, line, column⟩ =
      behind gap.folded (readQuotedFrom single budget after) := by
  obtain ⟨first, rest, rfl⟩ : ∃ first rest, text = first :: rest := by
    cases text with
    | nil => cases separated
    | cons first rest => exact ⟨first, rest, rfl⟩
  have separates : isSeparator first = true := separated
  have noRun : readQuotedRun single ((first :: rest).length + 1)
      ⟨first :: rest, index, line, column⟩ =
      .ok ([], .plainly, ⟨first :: rest, index, line, column⟩) := by
    rw [readQuotedRun]
    simp only [separates, if_true]
  have noQuote : ((first :: rest).head? == some (quoteOf single)) = false := by
    refine beq_eq_false_iff_ne.mpr fun same => ?_
    obtain rfl : first = quoteOf single := by simpa using same
    cases single <;> exact absurd separates (by decide)
  rw [readQuotedFrom_run inside (by simp), noRun]
  simp only [Except.bind, readQuotedRest, noQuote, read, Except.map, bind, Bool.false_eq_true,
    if_false, List.nil_append]

/-- Spaces in a quoted text. -/
theorem readQuotedFrom_spaces (count : Nat) {next : List Char}
    (visible : next.head?.any isSeparator = false) (inside : 0 < column) :
    readQuotedFrom single (budget + 1) ⟨spaces (count + 1) ++ next, index, line, column⟩ =
      behind (spaces (count + 1)) (readQuotedFrom single budget
        ⟨next, index + (count + 1), line, column + (count + 1)⟩) :=
  readQuotedFrom_gap rfl inside (Gap.read_spaces none visible (count + 1))

/-- Line breaks in a quoted text, with the indentation behind them. -/
theorem readQuotedFrom_breaks {breaks next : List Char} (count : Nat)
    (breaking : ∀ character ∈ breaks, isPrintable character = true ∧ isBreak character = true)
    (noFeed : '\n' ∉ breaks) (nonempty : breaks ≠ [])
    (visible : next.head?.any isSeparator = false) (inside : 0 < column) :
    readQuotedFrom single (budget + 1)
        ⟨breaks ++ (spaces count ++ next), index, line, column⟩ =
      behind breaks (readQuotedFrom single budget
        ⟨next, index + breaks.length + count, line + breaks.length, count⟩) := by
  obtain ⟨first, rest, rfl⟩ := List.exists_cons_of_ne_nil nonempty
  have breaksFirst : isBreak first = true := (breaking first List.mem_cons_self).2
  have noBlank : isBlank first = false := by
    rcases isBreak_of_isPrintable (breaking first List.mem_cons_self).1 breaksFirst with
      rfl | rfl | rfl <;> decide
  have lines : Gap.readLines none (((first :: rest) ++ (spaces count ++ next)).length + 1)
      ⟨(first :: rest) ++ (spaces count ++ next), index, line, column⟩ = .ok (first :: rest,
        ⟨next, index + (first :: rest).length + count, line + (first :: rest).length, count⟩) :=
    Gap.readLines_breaks none breaking visible count nonempty (by simp [spaces]; omega)
  have here : (⟨(first :: rest) ++ (spaces count ++ next), index, line, column⟩ :
      Cursor).skipBlanks = ⟨(first :: rest) ++ (spaces count ++ next), index, line, column⟩ := by
    simp [Cursor.skipBlanks, Cursor.skipWhile, Cursor.skip, noBlank]
  have read : Gap.read none ⟨(first :: rest) ++ (spaces count ++ next), index, line, column⟩ =
      .ok (⟨[], first :: rest⟩,
        ⟨next, index + (first :: rest).length + count, line + (first :: rest).length, count⟩) := by
    have atBreak : (⟨(first :: rest) ++ (spaces count ++ next), index, line, column⟩ :
        Cursor).atBreak = true := breaksFirst
    rw [Gap.read, here]
    simp only [atBreak, lines, if_true]
  have folded : (⟨[], first :: rest⟩ : Gap).folded = first :: rest := by
    have noFeedFirst : first ≠ '\n' := fun same => noFeed (same ▸ List.mem_cons_self)
    unfold Gap.folded
    split
    · rename_i none
      cases none
    · rename_i same
      exact absurd (List.cons.inj same).1 noFeedFirst
    · rename_i same
      exact absurd (List.cons.inj same).1 noFeedFirst
    · rfl
  have separated : ((first :: rest) ++ (spaces count ++ next)).head?.any isSeparator = true := by
    simp [isSeparator, breaksFirst]
  rw [readQuotedFrom_gap separated inside read, folded]

/-- The closing quote. -/
theorem readQuotedFrom_close {after : List Char}
    (closes : single = true → after.head? ≠ some '\'') (inside : 0 < column) :
    readQuotedFrom single (budget + 1) ⟨quoteOf single :: after, index, line, column⟩ =
      .ok ([], ⟨after, index + 1, line, column + 1⟩) := by
  have noRun : readQuotedRun single ((quoteOf single :: after).length + 1)
      ⟨quoteOf single :: after, index, line, column⟩ =
      .ok ([], .plainly, ⟨quoteOf single :: after, index, line, column⟩) := by
    rw [readQuotedRun]
    cases single with
    | true =>
        have noPair : (after.head? == some '\'') = false :=
          beq_eq_false_iff_ne.mpr (closes rfl)
        have visible : isSeparator '\'' = false := by decide
        simp [quoteOf, visible, noPair]
    | false =>
        have visible : isSeparator '"' = false := by decide
        simp [quoteOf, visible]
  rw [readQuotedFrom_run inside (by simp), noRun]
  simp [Except.bind, readQuotedRest, Cursor.skip]

private theorem doubleQuoted_spaces (count : Nat) :
    (spaces count).flatMap doubleQuotedCharacter = spaces count := by
  induction count with
  | zero => rfl
  | succ count inductionHypothesis =>
      have here : doubleQuotedCharacter ' ' = [' '] := by decide
      have split : spaces (count + 1) = ' ' :: spaces count := rfl
      rw [split, List.flatMap_cons, here, inductionHypothesis, List.singleton_append]

/-- A character other than a space starts with something visible. -/
private theorem doubleQuoted_head {character : Char} (noSpace : isSpace character = false) :
    ∃ first rest, doubleQuotedCharacter character = first :: rest ∧ isSeparator first = false := by
  unfold doubleQuotedCharacter
  split
  · exact ⟨'\\', _, rfl, by decide⟩
  · rename_i plain
    simp only [Bool.or_eq_true, Bool.not_eq_true', decide_eq_true_eq, not_or, Bool.not_eq_false,
      Bool.not_eq_true] at plain
    refine ⟨character, [], rfl, ?_⟩
    rw [isSeparator_of_isPrintable plain.1.1.1 plain.1.1.2, noSpace]

private theorem doubleQuoted_visible {text : List Char} (after : List Char)
    (visible : text.head?.any isSpace = false) :
    (text.flatMap doubleQuotedCharacter ++ '"' :: after).head?.any isSeparator = false := by
  cases text with
  | nil => rfl
  | cons character others =>
      obtain ⟨first, rest, shown, visibleFirst⟩ := doubleQuoted_head visible
      simpa [List.flatMap_cons, shown] using visibleFirst

/-- A text in double quotes, up to and with the closing one. -/
theorem readQuotedFrom_double {text after : List Char} (inside : 0 < column)
    (enough : text.length < budget) :
    readQuotedFrom false budget
        ⟨text.flatMap doubleQuotedCharacter ++ '"' :: after, index, line, column⟩ =
      .ok (text, ⟨after, index + (text.flatMap doubleQuotedCharacter).length + 1, line,
        column + (text.flatMap doubleQuotedCharacter).length + 1⟩) := by
  induction bound : text.length using Nat.strongRecOn generalizing text budget index column with
  | ind size inductionHypothesis =>
      subst bound
      obtain ⟨fuel, rfl⟩ : ∃ fuel, budget = fuel + 1 := ⟨budget - 1, by omega⟩
      cases text with
      | nil =>
          have closed : readQuotedFrom false (fuel + 1) ⟨'"' :: after, index, line, column⟩ =
              .ok ([], ⟨after, index + 1, line, column + 1⟩) :=
            readQuotedFrom_close (by simp) inside
          simpa using closed
      | cons first others =>
          by_cases space : isSpace first = true
          · obtain ⟨count, rest, split, visible⟩ := exists_spaces others space
            have size : others.length + 1 = count + 1 + rest.length := by
              have lengths := congrArg List.length split
              simpa [spaces] using lengths
            rw [List.length_cons] at enough
            rw [split, List.flatMap_append, doubleQuoted_spaces, List.append_assoc,
              readQuotedFrom_spaces count (doubleQuoted_visible after visible) inside,
              inductionHypothesis rest.length (by rw [List.length_cons]; omega) (by omega)
                (by omega) rfl]
            simp only [behind, Except.map, List.length_append, spaces, List.length_replicate]
            congr 3 <;> omega
          · have reads := IsPiece.of_double (Bool.eq_false_iff.mpr space)
            rw [List.flatMap_cons, List.append_assoc,
              readQuotedFrom_piece reads (by simp) inside,
              inductionHypothesis others.length (by simp) (by omega)
                (by simp only [List.length_cons] at enough; omega) rfl]
            simp only [behind, Except.map, List.length_append, List.singleton_append]
            congr 3 <;> omega

private theorem singleQuoted_cons (indent : Nat) {character : Char} (rest : List Char)
    (inLine : isBreak character = false) :
    singleQuotedText indent false (character :: rest) =
      (if character = '\'' then ['\'', '\''] else [character]) ++
        singleQuotedText indent false rest := by
  simp [singleQuotedText, inLine]

private theorem singleQuoted_spaces (indent count : Nat) (rest : List Char) :
    singleQuotedText indent false (spaces count ++ rest) =
      spaces count ++ singleQuotedText indent false rest := by
  induction count with
  | zero => rfl
  | succ count inductionHypothesis =>
      have split : spaces (count + 1) = ' ' :: spaces count := rfl
      have noQuote : ¬ ' ' = '\'' := by decide
      rw [split, List.cons_append, singleQuoted_cons indent _ (by decide), if_neg noQuote,
        inductionHypothesis, List.singleton_append, List.cons_append]

private theorem singleQuoted_breaks (indent : Nat) (fresh : Bool) {breaks : List Char}
    (breaking : ∀ character ∈ breaks, isBreak character = true) (nonempty : breaks ≠ [])
    (rest : List Char) :
    singleQuotedText indent fresh (breaks ++ rest) =
      breaks ++ singleQuotedText indent true rest := by
  induction breaks generalizing fresh with
  | nil => exact absurd rfl nonempty
  | cons character others inductionHypothesis =>
      have here := breaking character List.mem_cons_self
      by_cases last : others = []
      · subst last
        simp [singleQuotedText, here]
      · have later := inductionHypothesis true
          (fun other member => breaking other (List.mem_cons_of_mem _ member)) last
        simp [singleQuotedText, here, later]

private theorem singleQuoted_fresh (indent : Nat) {rest : List Char}
    (inLine : rest.head?.any isBreak = false) :
    singleQuotedText indent true rest = spaces indent ++ singleQuotedText indent false rest := by
  cases rest with
  | nil => simp [singleQuotedText]
  | cons character others =>
      have here : isBreak character = false := inLine
      simp [singleQuotedText, here]

private theorem singleQuoted_visible (indent : Nat) {text : List Char} (after : List Char)
    (visible : text.head?.any isSeparator = false) :
    (singleQuotedText indent false text ++ '\'' :: after).head?.any isSeparator = false := by
  cases text with
  | nil => rfl
  | cons character others =>
      have here : isSeparator character = false := visible
      have inLine : isBreak character = false :=
        (Bool.or_eq_false_iff.mp (isSeparator.eq_1 character ▸ here)).2
      rw [singleQuoted_cons indent others inLine]
      split
      · rfl
      · exact here

/-- Texts that may stand in single quotes on lines of their own. -/
structure IsSingleQuotable (text : List Char) : Prop where
  printable : ∀ character ∈ text, isPrintable character = true
  noFeed : '\n' ∉ text
  noSpaceBreak : hasPair isSpace isBreak text = false
  noBreakSpace : hasPair isBreak isSpace text = false

theorem IsSingleQuotable.drop {front rest : List Char}
    (quotable : IsSingleQuotable (front ++ rest)) : IsSingleQuotable rest :=
  ⟨fun character member => quotable.printable character (List.mem_append_right _ member),
    fun member => quotable.noFeed (List.mem_append_right _ member),
    hasPair_of_append quotable.noSpaceBreak, hasPair_of_append quotable.noBreakSpace⟩

/-- A text in single quotes is read up to and with the closing one, wherever it starts on a
line. -/
private def ReadsSingle (indent : Nat) (after text : List Char) : Prop :=
  ∀ budget index line column : Nat, 0 < column → text.length < budget →
    ∃ final, ((∀ character ∈ text, isBreak character = false) →
        final = column + (singleQuotedText indent false text).length + 1) ∧
      readQuotedFrom true budget
        ⟨singleQuotedText indent false text ++ '\'' :: after, index, line, column⟩ =
      .ok (text, ⟨after, index + (singleQuotedText indent false text).length + 1,
        line + (text.filter isBreak).length, final⟩)

variable {indent : Nat} {after : List Char}

private theorem readsSingle_nil (closes : after.head? ≠ some '\'') :
    ReadsSingle indent after [] := by
  intro budget index line column inside enough
  obtain ⟨fuel, rfl⟩ : ∃ fuel, budget = fuel + 1 := ⟨budget - 1, by omega⟩
  have closed : readQuotedFrom true (fuel + 1) ⟨'\'' :: after, index, line, column⟩ =
      .ok ([], ⟨after, index + 1, line, column + 1⟩) :=
    readQuotedFrom_close (fun _ => closes) inside
  exact ⟨column + 1, fun _ => rfl, closed⟩

/-- A group of breaks is followed by the indentation. -/
private theorem ReadsSingle.breaks (positive : 0 < indent) {front rest : List Char}
    (quotable : IsSingleQuotable (front ++ rest)) (nonempty : front ≠ [])
    (breaking : ∀ character ∈ front, isBreak character = true)
    (inLine : rest.head?.any isBreak = false) (reads : ReadsSingle indent after rest) :
    ReadsSingle indent after (front ++ rest) := by
  intro budget index line column inside enough
  obtain ⟨fuel, rfl⟩ : ∃ fuel, budget = fuel + 1 := ⟨budget - 1, by omega⟩
  have positiveLength := List.length_pos_iff.mpr nonempty
  rw [List.length_append] at enough
  have noSpace : rest.head?.any isSpace = false :=
    head_of_hasPair quotable.noBreakSpace breaking nonempty
  have visible : rest.head?.any isSeparator = false :=
    visible_of_head quotable.drop.printable noSpace inLine
  have allBreaking : ∀ character ∈ front,
      isPrintable character = true ∧ isBreak character = true := fun character member =>
    ⟨quotable.printable character (List.mem_append_left _ member), breaking character member⟩
  have noFeed : '\n' ∉ front := fun member => quotable.noFeed (List.mem_append_left _ member)
  obtain ⟨final, -, read⟩ := reads fuel (index + front.length + indent) (line + front.length) indent
    positive (by omega)
  refine ⟨final, fun onLine => ?_, ?_⟩
  · obtain ⟨character, member⟩ := List.exists_mem_of_ne_nil front nonempty
    have here := breaking character member
    rw [onLine character (List.mem_append_left _ member)] at here
    cases here
  · rw [singleQuoted_breaks indent false breaking nonempty, singleQuoted_fresh indent inLine,
      List.append_assoc, List.append_assoc,
      readQuotedFrom_breaks indent allBreaking noFeed nonempty
        (singleQuoted_visible indent after visible) inside, read]
    simp only [behind, Except.map, List.length_append, spaces, List.length_replicate,
      List.filter_append, List.filter_eq_self.mpr breaking]
    congr 3 <;> omega

private theorem ReadsSingle.spaced {count : Nat} {rest : List Char}
    (quotable : IsSingleQuotable (spaces (count + 1) ++ rest))
    (noSpace : rest.head?.any isSpace = false) (reads : ReadsSingle indent after rest) :
    ReadsSingle indent after (spaces (count + 1) ++ rest) := by
  intro budget index line column inside enough
  obtain ⟨fuel, rfl⟩ : ∃ fuel, budget = fuel + 1 := ⟨budget - 1, by omega⟩
  have length : (spaces (count + 1)).length = count + 1 := List.length_replicate
  rw [List.length_append, length] at enough
  have spaced : ∀ character ∈ spaces (count + 1), isSpace character = true ∧
      isBreak character = false := by
    intro character member
    rw [(List.mem_replicate.mp member).2]
    decide
  have inLine : rest.head?.any isBreak = false :=
    head_of_hasPair quotable.noSpaceBreak (fun character member => (spaced character member).1)
      (by simp [spaces])
  have visible : rest.head?.any isSeparator = false :=
    visible_of_head quotable.drop.printable noSpace inLine
  obtain ⟨final, farther, read⟩ := reads fuel (index + (count + 1)) line (column + (count + 1))
    (by omega) (by omega)
  refine ⟨final, fun onLine => ?_, ?_⟩
  · rw [farther fun character member => onLine character (List.mem_append_right _ member),
      singleQuoted_spaces, List.length_append, length]
    omega
  · have noBreaks : (spaces (count + 1)).filter isBreak = [] :=
      List.filter_eq_nil_iff.mpr fun character member => by simp [(spaced character member).2]
    rw [singleQuoted_spaces, List.append_assoc,
      readQuotedFrom_spaces count (singleQuoted_visible indent after visible) inside, read]
    simp only [behind, Except.map, List.filter_append, noBreaks, List.nil_append,
      List.length_append, length]
    congr 3
    omega

private theorem ReadsSingle.character {first : Char} {others : List Char}
    (visible : isSeparator first = false) (reads : ReadsSingle indent after others) :
    ReadsSingle indent after (first :: others) := by
  intro budget index line column inside enough
  obtain ⟨fuel, rfl⟩ : ∃ fuel, budget = fuel + 1 := ⟨budget - 1, by omega⟩
  rw [List.length_cons] at enough
  have inLine : isBreak first = false :=
    (Bool.or_eq_false_iff.mp (isSeparator.eq_1 first ▸ visible)).2
  rw [singleQuoted_cons indent others inLine, List.append_assoc]
  have isPiece := IsPiece.of_single visible
  have somePiece : 0 < (if first = '\'' then ['\'', '\''] else [first]).length := by
    split <;> simp
  generalize (if first = '\'' then ['\'', '\''] else [first]) = piece at isPiece somePiece
  obtain ⟨final, farther, read⟩ := reads (fuel + 1) (index + piece.length) line
    (column + piece.length) (by omega) (by omega)
  refine ⟨final, fun onLine => ?_, ?_⟩
  · rw [farther fun character member => onLine character (List.mem_cons_of_mem _ member),
      List.length_append]
    omega
  · rw [readQuotedFrom_piece isPiece (by simp) inside, read]
    simp only [behind, Except.map, List.length_append, List.singleton_append,
      List.filter_cons, inLine, Bool.false_eq_true, if_false]
    congr 3
    omega

/-- A text in single quotes, up to and with the closing one. -/
theorem readQuotedFrom_single (positive : 0 < indent) {text : List Char}
    (quotable : IsSingleQuotable text) (closes : after.head? ≠ some '\'') :
    ReadsSingle indent after text := by
  induction bound : text.length using Nat.strongRecOn generalizing text with
  | ind size inductionHypothesis =>
      subst bound
      cases text with
      | nil => exact readsSingle_nil closes
      | cons first others =>
          by_cases breaks : isBreak first = true
          · obtain ⟨front, rest, split, breaking, inLine⟩ :=
              Text.exists_prefix isBreak (first :: others)
            have nonempty : front ≠ [] := by
              rintro rfl
              rw [List.nil_append] at split
              rw [← split] at inLine
              exact absurd breaks (by simpa using inLine)
            have positiveLength := List.length_pos_iff.mpr nonempty
            rw [split] at quotable ⊢
            refine .breaks positive quotable nonempty breaking inLine ?_
            refine inductionHypothesis rest.length ?_ quotable.drop rfl
            rw [split, List.length_append]
            omega
          · have inLine : isBreak first = false := Bool.eq_false_iff.mpr breaks
            by_cases space : isSpace first = true
            · obtain ⟨count, rest, split, noSpace⟩ := exists_spaces others space
              rw [split] at quotable ⊢
              refine .spaced quotable noSpace (inductionHypothesis rest.length ?_ quotable.drop rfl)
              rw [split, List.length_append, spaces, List.length_replicate]
              omega
            · have printable := quotable.printable first List.mem_cons_self
              have visible : isSeparator first = false := by
                rw [isSeparator_of_isPrintable printable inLine, Bool.eq_false_iff.mpr space]
              have rest : IsSingleQuotable others :=
                IsSingleQuotable.drop (List.singleton_append ▸ quotable)
              exact .character visible (inductionHypothesis others.length (by simp) rest rfl)

private theorem length_le_double (text : List Char) :
    text.length ≤ (text.flatMap doubleQuotedCharacter).length := by
  induction text with
  | nil => simp
  | cons character rest inductionHypothesis =>
      have some : 0 < (doubleQuotedCharacter character).length := by
        unfold doubleQuotedCharacter
        split <;> simp
      rw [List.flatMap_cons, List.length_append, List.length_cons]
      omega

private theorem length_le_single (indent : Nat) (fresh : Bool) (text : List Char) :
    text.length ≤ (singleQuotedText indent fresh text).length := by
  induction text generalizing fresh with
  | nil => simp
  | cons character rest inductionHypothesis =>
      rw [singleQuotedText]
      split
      · simpa using inductionHypothesis true
      · have later := inductionHypothesis false
        have some : 0 < (if character = '\'' then ['\'', '\''] else [character]).length := by
          split <;> simp
        simp only [List.length_append, List.length_cons]
        omega

/-- A scalar in double quotes. -/
theorem readQuoted_double (text after : List Char) :
    readQuoted false
        ⟨'"' :: (text.flatMap doubleQuotedCharacter ++ '"' :: after), index, line, column⟩ =
      .ok (text, ⟨after, index + (text.flatMap doubleQuotedCharacter).length + 2, line,
        column + (text.flatMap doubleQuotedCharacter).length + 2⟩) := by
  have shorter := length_le_double text
  rw [readQuoted, Cursor.skip_cons, readQuotedFrom_double (by omega)]
  · congr 3 <;> omega
  · simp only [List.length_cons, List.length_append]
    omega

/-- A scalar in single quotes. -/
theorem readQuoted_single {indent : Nat} (positive : 0 < indent) {text after : List Char}
    (quotable : IsSingleQuotable text) (closes : after.head? ≠ some '\'') :
    ∃ final, ((∀ character ∈ text, isBreak character = false) →
        final = column + (singleQuotedText indent false text).length + 2) ∧
      readQuoted true
        ⟨'\'' :: (singleQuotedText indent false text ++ '\'' :: after), index, line, column⟩ =
      .ok (text, ⟨after, index + (singleQuotedText indent false text).length + 2,
        line + (text.filter isBreak).length, final⟩) := by
  have shorter := length_le_single indent false text
  obtain ⟨final, farther, read⟩ : ∃ final,
      ((∀ character ∈ text, isBreak character = false) →
        final = column + 1 + (singleQuotedText indent false text).length + 1) ∧
      readQuotedFrom true
      (('\'' :: (singleQuotedText indent false text ++ '\'' :: after)).length + 1)
      ⟨singleQuotedText indent false text ++ '\'' :: after, index + 1, line, column + 1⟩ =
      .ok (text, ⟨after, index + 1 + (singleQuotedText indent false text).length + 1,
        line + (text.filter isBreak).length, final⟩) :=
    readQuotedFrom_single positive quotable closes _ _ _ _ (by omega)
      (by simp only [List.length_cons, List.length_append]; omega)
  refine ⟨final, fun onLine => by rw [farther onLine]; omega, ?_⟩
  rw [readQuoted, Cursor.skip_cons, read]
  congr 3
  omega

end Quoted

theorem IsSingleQuotable.of_styleOf {text : List Char} (style : styleOf text = .singleQuoted) :
    IsSingleQuotable text := by
  unfold styleOf at style
  split at style
  · split at style <;> cases style
  · rename_i noFeed
    split at style
    · cases style
    · split at style
      · rename_i quotable
        simp only [maySingleQuote, Bool.not_eq_true', Bool.or_eq_false_iff] at quotable
        exact ⟨isPrintable_of_needsEscapes quotable.1, by simpa using noFeed,
          (Bool.or_eq_false_iff.mp quotable.1).2, quotable.2⟩
      · cases style

end ReleaseRules.Yaml
