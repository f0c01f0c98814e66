import ReleaseRules.Proofs.Number.Notation
import ReleaseRules.Proofs.Text.Runs
import ReleaseRules.Proofs.Yaml.Characters

/-!
Contract: plain scalars are read as they are written.

Owns:
- plain texts as words with spaces between them;
- plain texts in front of a colon, at the end of a line and at the end of the text;
- numbers, which are plain texts.

Does not own: the values that plain texts denote.
-/

namespace ReleaseRules.Yaml

open ReleaseRules.Number (digitsOf integerText)

/-! ## Words -/

/-- Whether characters make up the inner part of a word: none separates, and the last one is no
colon. -/
def isRun (run : List Char) : Bool :=
  run.all (fun character => !isSeparator character) && run.getLast? != some ':'

/-- Words with spaces between them; no word but the first may start a comment. -/
inductive Words : List Char → Prop where
  | one (run : List Char) (nonempty : run ≠ []) (visible : isRun run = true) : Words run
  | more (run : List Char) (count : Nat) (rest : List Char) (nonempty : run ≠ [])
      (visible : isRun run = true) (later : Words rest) (text : rest.head? ≠ some '#') :
      Words (run ++ (spaces (count + 1) ++ rest))

theorem isRun_tail {character : Char} {rest : List Char}
    (visible : isRun (character :: rest) = true) : isRun rest = true := by
  simp only [isRun, List.all_cons, Bool.and_eq_true, bne_iff_ne] at visible ⊢
  refine ⟨visible.1.2, ?_⟩
  cases rest with
  | nil => simp
  | cons next others => simpa [List.getLast?_cons_cons] using visible.2

/-- A run is read up to what ends it. -/
theorem readPlainRun_append {run after : List Char} (visible : isRun run = true)
    (stops : readPlainRun false after = .ok []) :
    readPlainRun false (run ++ after) = .ok run := by
  induction run with
  | nil => exact stops
  | cons character rest inductionHypothesis =>
      have later := inductionHypothesis (isRun_tail visible)
      simp only [isRun, List.all_cons, Bool.and_eq_true, Bool.not_eq_true', bne_iff_ne] at visible
      obtain ⟨⟨here, inRest⟩, last⟩ := visible
      -- A colon is not the last character, and the next one does not separate.
      have goesOn : (decide (character = ':') && startsSeparated (rest ++ after)) = false := by
        by_cases colon : character = ':'
        · subst colon
          cases rest with
          | nil => exact absurd rfl last
          | cons next others =>
              have visibleNext : isSeparator next = false := by
                simpa using (List.all_eq_true.mp inRest) next List.mem_cons_self
              simp [startsSeparated, visibleNext]
        · simp [colon]
      rw [List.cons_append, readPlainRun]
      simp only [here, goesOn, later, Bool.false_and, Bool.false_eq_true, if_false]

theorem words_cons {text : List Char} (words : Words text) :
    ∃ first rest, text = first :: rest ∧ isSeparator first = false := by
  have start : ∀ run more : List Char, run ≠ [] → isRun run = true →
      ∃ first rest, run ++ more = first :: rest ∧ isSeparator first = false := by
    intro run more nonempty visible
    obtain ⟨first, rest, rfl⟩ := List.exists_cons_of_ne_nil nonempty
    simp only [isRun, List.all_cons, Bool.and_eq_true, Bool.not_eq_true'] at visible
    exact ⟨first, rest ++ more, rfl, visible.1.1⟩
  cases words with
  | one run nonempty visible => simpa using start text [] nonempty visible
  | more run count rest nonempty visible later noComment => exact start run _ nonempty visible

/-- What is read of a plain scalar behind a run that makes up its text so far. -/
def readPlainRest (least budget : Nat) (shown : List Char) (cursor : Cursor) :
    Except ReadError PlainScalar := do
  if !cursor.rest.head?.any isSeparator then return ⟨shown, false, cursor⟩
  let (next, cursor) ← Gap.read (some least) cursor
  if cursor.column < least then return ⟨shown, next.crossesLine, cursor⟩
  let later ← readPlainFrom false least budget next cursor
  return { later with text := shown ++ later.text }

theorem readPlainFrom_run {least budget index line column : Nat} {run after : List Char}
    {gap : Gap} (nonempty : run ≠ []) (visible : isRun run = true)
    (stops : readPlainRun false after = .ok []) (text : run.head? ≠ some '#')
    (inDocument :
      (⟨run ++ after, index, line, column⟩ : Cursor).atDocumentBoundary = false) :
    readPlainFrom false least (budget + 1) gap ⟨run ++ after, index, line, column⟩ =
      readPlainRest least budget (gap.folded ++ run)
        ⟨after, index + run.length, line, column + run.length⟩ := by
  have noComment : ((run ++ after).head? == some '#') = false := by
    obtain ⟨first, rest, rfl⟩ := List.exists_cons_of_ne_nil nonempty
    simpa using text
  have taken := readPlainRun_append visible stops
  have skipped : (⟨run ++ after, index, line, column⟩ : Cursor).skip run.length =
      ⟨after, index + run.length, line, column + run.length⟩ := Cursor.skip_append
  have someRun : run.isEmpty = false := by simpa using nonempty
  rw [readPlainFrom]
  simp only [inDocument, noComment, taken, skipped, someRun, bind, Except.bind, pure, Except.pure,
    Bool.or_self, Bool.false_eq_true, if_false, Bool.not_false, Bool.true_and, decide_eq_true_eq,
    readPlainRest]

/-- Words are read one after the other, up to what is behind the last one. -/
theorem readPlainFrom_words {text after : List Char} (words : Words text)
    (noComment : text.head? ≠ some '#') (stops : readPlainRun false after = .ok [])
    {least budget index line column : Nat} {gap : Gap} {crossed : Bool} {final : Cursor}
    (ends : ∀ shown fuel, readPlainRest least fuel shown
      ⟨after, index + text.length, line, column + text.length⟩ = .ok ⟨shown, crossed, final⟩)
    (inDocument :
      (⟨text ++ after, index, line, column⟩ : Cursor).atDocumentBoundary = false)
    (indented : least ≤ column + 1) (enough : text.length < budget) :
    readPlainFrom false least budget gap ⟨text ++ after, index, line, column⟩ =
      .ok ⟨gap.folded ++ text, crossed, final⟩ := by
  induction words generalizing budget index column gap with
  | one run nonempty visible =>
      obtain ⟨fuel, rfl⟩ : ∃ fuel, budget = fuel + 1 := ⟨budget - 1, by omega⟩
      rw [readPlainFrom_run nonempty visible stops noComment inDocument]
      exact ends _ fuel
  | more run count rest nonempty visible later noCommentLater inductionHypothesis =>
      obtain ⟨fuel, rfl⟩ : ∃ fuel, budget = fuel + 1 := ⟨budget - 1, by omega⟩
      obtain ⟨first, others, shown, visibleFirst⟩ := words_cons later
      have length : (run ++ (spaces (count + 1) ++ rest)).length =
          run.length + (count + 1) + rest.length := by
        simp [spaces]
        omega
      have someRun := List.length_pos_iff.mpr nonempty
      have split : run ++ (spaces (count + 1) ++ rest) ++ after =
          run ++ (spaces (count + 1) ++ (rest ++ after)) := by simp
      have noCommentHere : run.head? ≠ some '#' := by
        obtain ⟨initial, more, rfl⟩ := List.exists_cons_of_ne_nil nonempty
        simpa using noComment
      have stopsHere : readPlainRun false (spaces (count + 1) ++ (rest ++ after)) = .ok [] := rfl
      have gapRead : Gap.read (some least) ⟨spaces (count + 1) ++ (rest ++ after),
          index + run.length, line, column + run.length⟩ = .ok (⟨spaces (count + 1), []⟩,
          ⟨rest ++ after, index + run.length + (count + 1), line,
            column + run.length + (count + 1)⟩) :=
        Gap.read_spaces _ (by simpa [shown] using visibleFirst) _
      have behind : ¬ column + run.length + (count + 1) < least := by omega
      have endsLater : ∀ shown fuel, readPlainRest least fuel shown
          ⟨after, index + run.length + (count + 1) + rest.length, line,
            column + run.length + (count + 1) + rest.length⟩ = .ok ⟨shown, crossed, final⟩ := by
        intro shown fuel
        have indexed : index + run.length + (count + 1) + rest.length =
            index + (run ++ (spaces (count + 1) ++ rest)).length := by omega
        have placed : column + run.length + (count + 1) + rest.length =
            column + (run ++ (spaces (count + 1) ++ rest)).length := by omega
        rw [indexed, placed]
        exact ends shown fuel
      have inside : 0 < column + run.length + (count + 1) := by omega
      have continues : readPlainFrom false least fuel ⟨spaces (count + 1), []⟩ ⟨rest ++ after,
          index + run.length + (count + 1), line, column + run.length + (count + 1)⟩ =
          .ok ⟨spaces (count + 1) ++ rest, crossed, final⟩ :=
        inductionHypothesis noCommentLater endsLater
          (Cursor.atDocumentBoundary_of_column _ inside) (by omega) (by omega)
      rw [split] at inDocument ⊢
      rw [readPlainFrom_run nonempty visible stopsHere noCommentHere inDocument, readPlainRest]
      have separated : (spaces (count + 1) ++ (rest ++ after)).head?.any isSeparator = true := rfl
      simp only [separated, gapRead, behind, continues, bind, Except.bind, pure, Except.pure,
        Bool.not_true, Bool.false_eq_true, if_false]
      simp [Gap.folded]

/-! ## Plain texts are words -/

theorem hasInnerIndicator_append {spaced : Bool} {front rest : List Char} {last : Char}
    (plain : hasInnerIndicator spaced (front ++ rest) = false) (ends : front.getLast? = some last) :
    hasInnerIndicator (isSeparator last) rest = false ∧
      (last = ':' → startsSeparated rest = false) := by
  induction front generalizing spaced with
  | nil => cases ends
  | cons character others inductionHypothesis =>
      simp only [List.cons_append, hasInnerIndicator, Bool.or_eq_false_iff] at plain
      cases others with
      | nil =>
          obtain rfl : character = last := by simpa using ends
          refine ⟨plain.2, ?_⟩
          rintro rfl
          simpa using plain.1.1
      | cons next more =>
          exact inductionHypothesis plain.2 (by simpa [List.getLast?_cons_cons] using ends)

/-- A text up to its first space, the spaces there and what follows them. -/
theorem exists_run (text : List Char) : ∃ run rest count, text = run ++ (spaces count ++ rest) ∧
    (∀ character ∈ run, isSpace character = false) ∧ rest.head?.any isSpace = false ∧
    (count = 0 → rest = []) := by
  obtain ⟨run, behind, rfl, inRun, stops⟩ :=
    Text.exists_prefix (fun character => !isSpace character) text
  obtain ⟨blanks, rest, rfl, areSpaces, visible⟩ := Text.exists_prefix isSpace behind
  have same : blanks = spaces blanks.length := List.eq_replicate_of_mem fun character member => by
    simpa [isSpace] using areSpaces character member
  refine ⟨run, rest, blanks.length, by rw [← same], fun character member => by
    simpa using inRun character member, visible, fun none => ?_⟩
  -- Without spaces, the next character would have to be both a space and none.
  obtain rfl := List.eq_nil_of_length_eq_zero none
  cases rest with
  | nil => rfl
  | cons first others =>
      simp only [List.nil_append, List.head?_cons, Option.any_some] at stops visible
      rw [visible] at stops
      cases stops

/-- Visible characters make up a word if the last one is no colon. -/
theorem isRun_of_printable {run : List Char}
    (printable : ∀ character ∈ run, isPrintable character = true ∧ isBreak character = false)
    (inRun : ∀ character ∈ run, isSpace character = false) (noColon : run.getLast? ≠ some ':') :
    isRun run = true := by
  simp only [isRun, Bool.and_eq_true, List.all_eq_true, Bool.not_eq_true', bne_iff_ne]
  refine ⟨fun character member => ?_, noColon⟩
  obtain ⟨shown, inLine⟩ := printable character member
  rw [isSeparator_of_isPrintable shown inLine]
  exact inRun character member

/-- A text that does not end with a space goes on behind each one. -/
theorem visibleLast_of_spaces {run rest : List Char} {count : Nat}
    (visibleLast : (run ++ (spaces (count + 1) ++ rest)).getLast?.any isSpace = false) :
    rest ≠ [] ∧ rest.getLast?.any isSpace = false := by
  have someRest : rest ≠ [] := by
    rintro rfl
    have final : (run ++ (spaces (count + 1) ++ [])).getLast? = some ' ' := by
      rw [List.append_nil, List.getLast?_append]
      simp [spaces, List.getLast?_replicate]
    rw [final] at visibleLast
    cases visibleLast
  rw [List.getLast?_append, List.getLast?_append, List.getLast?_eq_some_getLast someRest]
    at visibleLast
  rw [List.getLast?_eq_some_getLast someRest]
  exact ⟨someRest, by simpa using visibleLast⟩

theorem no_comment_of_plain {rest : List Char} (plain : hasInnerIndicator true rest = false) :
    rest.head? ≠ some '#' := by
  intro comment
  obtain ⟨others, rfl⟩ := List.head?_eq_some_iff.mp comment
  simp [hasInnerIndicator] at plain

theorem words_of_printable {text : List Char} (nonempty : text ≠ [])
    (printable : ∀ character ∈ text, isPrintable character = true ∧ isBreak character = false)
    {spaced : Bool} (plain : hasInnerIndicator spaced text = false)
    (visibleFirst : text.head?.any isSpace = false)
    (visibleLast : text.getLast?.any isSpace = false) : Words text := by
  induction bound : text.length using Nat.strongRecOn generalizing text spaced with
  | ind size inductionHypothesis =>
      subst bound
      obtain ⟨run, rest, count, split, inRun, visible, closed⟩ := exists_run text
      subst split
      have someRun : run ≠ [] := by
        rintro rfl
        cases count with
        | zero => exact nonempty (by rw [closed rfl]; rfl)
        | succ count => cases visibleFirst
      obtain ⟨last, ends⟩ : ∃ last, run.getLast? = some last :=
        ⟨run.getLast someRun, List.getLast?_eq_some_getLast someRun⟩
      obtain ⟨plainBehind, goesOn⟩ := hasInnerIndicator_append plain ends
      have noColon : run.getLast? ≠ some ':' := by
        intro colon
        have apart := goesOn (Option.some.inj (ends.symm.trans colon))
        cases count with
        | zero => rw [closed rfl] at apart; cases apart
        | succ count => cases apart
      have isWord : isRun run = true := isRun_of_printable
        (fun character member => printable character (List.mem_append_left _ member)) inRun noColon
      cases count with
      | zero =>
          rw [closed rfl]
          simpa [spaces] using Words.one run someRun isWord
      | succ count =>
          obtain ⟨someRest, visibleRest⟩ := visibleLast_of_spaces visibleLast
          have endsInSpace : (spaces (count + 1)).getLast? = some ' ' := by
            simp [spaces, List.getLast?_replicate]
          obtain ⟨plainRest, -⟩ := hasInnerIndicator_append plainBehind endsInSpace
          refine Words.more run count rest someRun isWord ?_ (no_comment_of_plain plainRest)
          exact inductionHypothesis rest.length (by simp [spaces]; omega) someRest
            (fun character member => printable character
              (List.mem_append_right _ (List.mem_append_right _ member)))
            plainRest visible visibleRest rfl

/-! ## Plain scalars -/

/-- Whether a text neither starts with a document mark nor can become one by what follows. -/
theorem atDocumentBoundary_of_take {text after : List Char} {index line column : Nat}
    (nonempty : text ≠ []) (noStart : text.take 3 ≠ ['-', '-', '-'])
    (noEnd : text.take 3 ≠ ['.', '.', '.'])
    (apart : after.head?.any (fun character => character == '-' || character == '.') = false) :
    (⟨text ++ after, index, line, column⟩ : Cursor).atDocumentBoundary = false := by
  have apartFrom : ∀ mark : Char, mark = '-' ∨ mark = '.' → text.take 3 ≠ [mark, mark, mark] →
      (⟨text ++ after, index, line, column⟩ : Cursor).atDocumentMark mark = false := by
    intro mark isMark different
    have behind : ∀ first others, after = first :: others → (first == mark) = false := by
      rintro first others rfl
      simp only [List.head?_cons, Option.any_some, Bool.or_eq_false_iff] at apart
      rcases isMark with rfl | rfl
      · exact apart.1
      · exact apart.2
    simp only [Cursor.atDocumentMark, Bool.and_eq_false_iff]
    refine Or.inr ?_
    -- Either three characters of the text differ from the marks, or the next one does.
    rcases text with _ | ⟨first, _ | ⟨second, _ | ⟨third, others⟩⟩⟩
    · exact absurd rfl nonempty
    · cases after with
      | nil => rfl
      | cons second others =>
          have other := behind second others rfl
          cases others with
          | nil => rfl
          | cons third more => simp [other]
    · cases after with
      | nil => rfl
      | cons third others => simp [behind third others rfl]
    · have noMarks : ¬ (first = mark ∧ second = mark ∧ third = mark) := by
        rintro ⟨rfl, rfl, rfl⟩
        exact different rfl
      simp only [List.cons_append]
      refine Bool.eq_false_iff.mpr fun marks => ?_
      simp only [Bool.and_eq_true, beq_iff_eq] at marks
      exact noMarks ⟨marks.1.1.1, marks.1.1.2, marks.1.2⟩
  rw [Cursor.atDocumentBoundary, apartFrom '-' (Or.inl rfl) noStart,
    apartFrom '.' (Or.inr rfl) noEnd, Bool.or_self]

/-- Whether a text starts like a plain scalar, whatever stands behind it. -/
def startsLikePlain : List Char → Bool
  | [] => false
  | first :: rest =>
      !isSeparator first && first != '\uFEFF' && !isLeadingIndicator first &&
        !((first = '?' || first = ':' || first = '-') && startsSeparated rest)

/-- Texts that may be plain scalars. -/
structure IsPlain (text : List Char) : Prop where
  words : Words text
  starts : startsLikePlain text = true
  noComment : text.head? ≠ some '#'
  noStart : text.take 3 ≠ ['-', '-', '-']
  noEnd : text.take 3 ≠ ['.', '.', '.']

theorem IsPlain.of_mayBePlain {text : List Char} (nonempty : text ≠ [])
    (plain : mayBePlain text = true) : IsPlain text := by
  simp only [mayBePlain, Bool.not_eq_true', Bool.or_eq_false_iff] at plain
  obtain ⟨⟨⟨noEscapes, noBreaks⟩, ends⟩, noIndicator⟩ := plain
  obtain ⟨visibleFirst, visibleLast⟩ := Bool.or_eq_false_iff.mp ends
  obtain ⟨first, rest, rfl⟩ := List.exists_cons_of_ne_nil nonempty
  simp only [hasIndicator, Bool.or_eq_false_iff, beq_eq_false_iff_ne] at noIndicator
  obtain ⟨⟨⟨⟨noStart, noEnd⟩, noLeading⟩, noMark⟩, noInner⟩ := noIndicator
  have inner : hasInnerIndicator false (first :: rest) = false := by
    have noColon : (decide (first = ':') && startsSeparated rest) = false := by
      by_cases colon : first = ':'
      · simpa [colon] using noMark
      · simp [colon]
    simp [hasInnerIndicator, noColon, noInner]
  have printable : ∀ character ∈ first :: rest,
      isPrintable character = true ∧ isBreak character = false := fun character member =>
    ⟨isPrintable_of_needsEscapes noEscapes character member,
      by simpa using List.any_eq_false.mp noBreaks character member⟩
  obtain ⟨printableFirst, inLine⟩ := printable first List.mem_cons_self
  have visible : isSeparator first = false := by
    rw [isSeparator_of_isPrintable printableFirst inLine]
    exact visibleFirst
  have noOrderMark : first ≠ '\uFEFF' := by
    rintro rfl
    exact absurd printableFirst (by decide)
  refine ⟨words_of_printable nonempty printable inner visibleFirst visibleLast, ?_, ?_, noStart,
    noEnd⟩
  · simp [startsLikePlain, visible, noOrderMark, noLeading, noMark]
  · intro comment
    obtain rfl : first = '#' := by simpa using comment
    exact absurd noLeading (by decide)

theorem IsPlain.of_styleOf {text : List Char} (style : styleOf text = .plain) : IsPlain text := by
  unfold styleOf at style
  split at style
  · split at style <;> cases style
  · split at style
    · rename_i plain
      rw [Bool.and_eq_true] at plain
      refine .of_mayBePlain ?_ plain.2
      -- The empty text would be read as null.
      rintro rfl
      exact absurd plain.1 (by decide)
    · split at style <;> cases style

section Reading

variable {text : List Char} {least index line column : Nat}

/-- A plain scalar is read up to what ends it. -/
theorem IsPlain.read (plain : IsPlain text) {after : List Char}
    (stops : readPlainRun false after = .ok [])
    (apart : after.head?.any (fun character => character == '-' || character == '.') = false)
    {crossed : Bool} {final : Cursor}
    (ends : ∀ shown fuel, readPlainRest least fuel shown
      ⟨after, index + text.length, line, column + text.length⟩ = .ok ⟨shown, crossed, final⟩)
    (indented : least ≤ column + 1) :
    readPlain false least ⟨text ++ after, index, line, column⟩ = .ok ⟨text, crossed, final⟩ := by
  have nonempty : text ≠ [] := by
    obtain ⟨first, rest, rfl, -⟩ := words_cons plain.words
    simp
  have inDocument : (⟨text ++ after, index, line, column⟩ : Cursor).atDocumentBoundary = false :=
    atDocumentBoundary_of_take nonempty plain.noStart plain.noEnd apart
  have enough : text.length < (text ++ after).length + 1 := by
    rw [List.length_append]
    omega
  exact readPlainFrom_words plain.words plain.noComment stops ends inDocument indented enough

/-- A plain key in front of its colon. -/
theorem IsPlain.read_key (plain : IsPlain text) {more : List Char}
    (separated : startsSeparated more = true) (indented : least ≤ column + 1) :
    readPlain false least ⟨text ++ ':' :: more, index, line, column⟩ =
      .ok ⟨text, false, ⟨':' :: more, index + text.length, line, column + text.length⟩⟩ := by
  have stops : readPlainRun false (':' :: more) = .ok [] := by
    have visible : isSeparator ':' = false := by decide
    simp [readPlainRun, visible, separated]
  exact plain.read stops rfl (fun shown fuel => rfl) indented

/-- A plain scalar at the end of its line. -/
theorem IsPlain.read_line (plain : IsPlain text) {next : List Char}
    (token : startsToken next = true) {count : Nat} (outside : count < least)
    (indented : least ≤ column + 1) :
    readPlain false least ⟨text ++ '\n' :: (spaces count ++ next), index, line, column⟩ =
      .ok ⟨text, true, ⟨next, index + text.length + 1 + count, line + 1, count⟩⟩ := by
  refine plain.read rfl rfl (fun shown fuel => ?_) indented
  have gap : Gap.read (some least) ⟨'\n' :: (spaces count ++ next), index + text.length, line,
      column + text.length⟩ = .ok (⟨[], ['\n']⟩,
        ⟨next, index + text.length + 1 + count, line + 1, count⟩) := by
    have lines : Gap.readLines (some least) (('\n' :: (spaces count ++ next)).length + 1)
        ⟨['\n'] ++ (spaces count ++ next), index + text.length, line, column + text.length⟩ =
        .ok (['\n'], ⟨next, index + text.length + 1 + count, line + 1, count⟩) :=
      Gap.readLines_breaks (some least) (by simp; decide) (visible_of_startsToken token) count
        (by simp) (by simp [spaces]; omega)
    have noBlanks : ('\n' :: (spaces count ++ next)).takeWhile isBlank = [] := rfl
    have here : (⟨'\n' :: (spaces count ++ next), index + text.length, line,
        column + text.length⟩ : Cursor).skipBlanks = ⟨'\n' :: (spaces count ++ next),
          index + text.length, line, column + text.length⟩ := rfl
    have breaks : (⟨'\n' :: (spaces count ++ next), index + text.length, line,
        column + text.length⟩ : Cursor).atBreak = true := rfl
    rw [Gap.read, here]
    simp only [breaks, if_true]
    rw [List.singleton_append] at lines
    rw [lines]
  have separated : ('\n' :: (spaces count ++ next)).head?.any isSeparator = true := rfl
  simp only [readPlainRest, separated, gap, outside, bind, Except.bind, pure, Except.pure,
    Bool.not_true, Bool.false_eq_true, if_false, if_true]
  rfl

/-- A plain scalar at the end of the text. -/
theorem IsPlain.read_end (plain : IsPlain text) (indented : least ≤ column + 1) :
    readPlain false least ⟨text, index, line, column⟩ =
      .ok ⟨text, false, ⟨[], index + text.length, line, column + text.length⟩⟩ := by
  have read : readPlain false least ⟨text ++ [], index, line, column⟩ =
      .ok ⟨text, false, ⟨[], index + text.length, line, column + text.length⟩⟩ :=
    plain.read rfl rfl (fun shown fuel => rfl) indented
  rwa [List.append_nil] at read

end Reading

/-! ## Words and numbers without quotes -/

theorem IsPlain.of_null : IsPlain "null".toList := .of_mayBePlain (by decide) (by decide)

theorem IsPlain.of_bool (value : Bool) : IsPlain (toString value).toList := by
  cases value
  · exact .of_mayBePlain (by decide) (by decide)
  · exact .of_mayBePlain (by decide) (by decide)

/-- Whether a character occurs in written numbers. -/
def isNumeral (character : Char) : Bool :=
  character.isDigit || character = '.' || character = 'e' || character = '-'

/-- Whether a text has characters of numbers only and starts with a digit. -/
def isMagnitude (text : List Char) : Bool :=
  text.all isNumeral && text.head?.any Char.isDigit

private theorem ne_of_isDigit {character other : Char} (digit : character.isDigit = true)
    (noDigit : other.isDigit = false) : character ≠ other := by
  rintro rfl
  exact absurd (digit.symm.trans noDigit) (by decide)

private theorem visible_of_isNumeral {character : Char} (numeral : isNumeral character = true) :
    isSeparator character = false ∧ character ≠ ':' ∧ character ≠ '#' := by
  simp only [isNumeral, Bool.or_eq_true, decide_eq_true_eq] at numeral
  rcases numeral with ((digit | rfl) | rfl) | rfl
  · have apart : ∀ other : Char, other.isDigit = false → character ≠ other := fun _ =>
      ne_of_isDigit digit
    refine ⟨?_, apart ':' (by decide), apart '#' (by decide)⟩
    simp [isSeparator, isBlank, isBreak, apart ' ' (by decide), apart '\t' (by decide),
      apart '\n' (by decide), apart '\r' (by decide), apart '\u0085' (by decide),
      apart '\u2028' (by decide), apart '\u2029' (by decide)]
  · decide
  · decide
  · decide

theorem isMagnitude_cons {first : Char} {rest : List Char} (digit : first.isDigit = true)
    (numerals : ∀ character ∈ rest, isNumeral character = true) :
    isMagnitude (first :: rest) = true := by
  have here : isNumeral first = true := by simp [isNumeral, digit]
  simp only [isMagnitude, List.all_cons, here, Bool.true_and, Bool.and_eq_true, List.all_eq_true]
  exact ⟨numerals, digit⟩

private theorem isNumeral_of_isDigit {character : Char} (digit : character.isDigit = true) :
    isNumeral character = true := by
  simp [isNumeral, digit]

private theorem isMagnitude_digitsOf (value : Nat) : isMagnitude (digitsOf value) = true := by
  obtain ⟨first, others, shown, -⟩ := Number.exists_digitsOf value
  have areDigits : ∀ character ∈ first :: others, character.isDigit = true := fun _ member =>
    Number.isDigit_of_mem_digitsOf (shown ▸ member)
  rw [shown]
  exact isMagnitude_cons (areDigits first List.mem_cons_self) fun character member =>
    isNumeral_of_isDigit (areDigits character (List.mem_cons_of_mem _ member))

/-- A magnitude behind an optional minus sign is a plain text. -/
theorem IsPlain.of_isMagnitude {text : List Char} (magnitude : isMagnitude text = true) :
    IsPlain text ∧ IsPlain ('-' :: text) := by
  simp only [isMagnitude, Bool.and_eq_true, List.all_eq_true] at magnitude
  obtain ⟨numerals, starts⟩ := magnitude
  obtain ⟨first, rest, rfl⟩ : ∃ first rest, text = first :: rest := by
    cases text with
    | nil => cases starts
    | cons first rest => exact ⟨first, rest, rfl⟩
  have digit : first.isDigit = true := starts
  have isWord : ∀ run : List Char, (∀ character ∈ run, isNumeral character = true) →
      isRun run = true := by
    intro run allNumerals
    simp only [isRun, Bool.and_eq_true, List.all_eq_true, Bool.not_eq_true', bne_iff_ne]
    refine ⟨fun character member => (visible_of_isNumeral (allNumerals character member)).1, ?_⟩
    intro colon
    exact (visible_of_isNumeral (allNumerals ':' (List.mem_of_getLast? colon))).2.1 rfl
  have signed : ∀ character ∈ '-' :: first :: rest, isNumeral character = true :=
    List.forall_mem_cons.mpr ⟨by decide, numerals⟩
  have noMark : ∀ mark : Char, mark.isDigit = false → first ≠ mark := fun _ =>
    ne_of_isDigit digit
  have visible := (visible_of_isNumeral (numerals first List.mem_cons_self)).1
  have noLeading : isLeadingIndicator first = false := by
    have noDigits : "#,[]\x7b\x7d&*!|>'\"%@\x60".toList.all (!·.isDigit) = true := by decide
    refine Bool.eq_false_iff.mpr fun leading => ?_
    have other := List.all_eq_true.mp noDigits first (by simpa [isLeadingIndicator] using leading)
    exact noMark first (by simpa using other) rfl
  constructor
  · refine ⟨.one _ (by simp) (isWord _ numerals), ?_, ?_, ?_, ?_⟩
    · simp [startsLikePlain, visible, noLeading, noMark '\uFEFF' (by decide),
        noMark '?' (by decide), noMark ':' (by decide), noMark '-' (by decide)]
    · simpa using noMark '#' (by decide)
    · exact fun same => noMark '-' (by decide) (List.cons.inj same).1
    · exact fun same => noMark '.' (by decide) (List.cons.inj same).1
  · have separate : startsLikePlain ('-' :: first :: rest) = true := by
      have apart : isSeparator '-' = false := by decide
      have noLeadingSign : isLeadingIndicator '-' = false := by decide
      simp [startsLikePlain, startsSeparated, visible, apart, noLeadingSign]
    refine ⟨.one _ (by simp) (isWord _ signed), separate, by simp, ?_, ?_⟩
    · exact fun same => noMark '-' (by decide) (List.cons.inj (List.cons.inj same).2).1
    · exact fun same => absurd (List.cons.inj same).1 (by decide)

private theorem isNumeral_of_mem_integerText {value : Int} {character : Char}
    (member : character ∈ integerText value) : isNumeral character = true := by
  unfold integerText at member
  split at member
  · rcases List.mem_cons.mp member with rfl | later
    · decide
    · exact isNumeral_of_isDigit (Number.isDigit_of_mem_digitsOf later)
  · exact isNumeral_of_isDigit (Number.isDigit_of_mem_digitsOf member)

theorem isMagnitude_text (digits : Number.DecimalDigits) :
    isMagnitude (digits.text numberNotation) = true := by
  have point : isNumeral '.' = true := by decide
  rcases digits.text_cases numberNotation with ⟨whole, fraction, shown, -, areDigits, starts⟩ |
    ⟨first, others, exponent, shown, areDigits, -⟩
  · obtain ⟨first, others, rfl⟩ : ∃ first others, whole = first :: others := by
      rcases starts with rfl | ⟨first, others, rfl, -⟩
      · exact ⟨'0', [], rfl⟩
      · exact ⟨first, others, rfl⟩
    rw [shown, List.cons_append]
    refine isMagnitude_cons (areDigits first List.mem_cons_self) fun character member => ?_
    rcases List.mem_append.mp member with inWhole | behind
    · exact isNumeral_of_isDigit (areDigits character
        (List.mem_append_left _ (List.mem_cons_of_mem _ inWhole)))
    · rcases List.mem_cons.mp behind with rfl | inFraction
      · exact point
      · exact isNumeral_of_isDigit (areDigits character (List.mem_append_right _ inFraction))
  · have noSign : numberNotation.positiveExponent.toList = [] := by decide
    rw [shown, noSign, ite_self, List.nil_append]
    refine isMagnitude_cons (areDigits first List.mem_cons_self) fun character member => ?_
    rcases List.mem_append.mp member with inFraction | behind
    · split at inFraction
      · cases inFraction
      · rcases List.mem_cons.mp inFraction with rfl | inOthers
        · exact point
        · exact isNumeral_of_isDigit (areDigits character (List.mem_cons_of_mem _ inOthers))
    · rcases List.mem_cons.mp behind with rfl | inExponent
      · decide
      · exact isNumeral_of_mem_integerText inExponent

/-- A written number is a plain text. -/
theorem IsPlain.of_number (value : TreeNumber) : IsPlain (writeNumber value) := by
  cases value with
  | integer value =>
      have magnitude := isMagnitude_digitsOf value.natAbs
      rw [writeNumber, integerText]
      split
      · exact (IsPlain.of_isMagnitude magnitude).2
      · exact (IsPlain.of_isMagnitude magnitude).1
  | floating value =>
      have magnitude : isMagnitude (if value.mantissa = 0 then ['0', '.', '0']
          else value.shortestDigits.text numberNotation) = true := by
        split
        · decide
        · exact isMagnitude_text _
      rw [writeNumber, floatingText, Number.Binary64.text]
      split
      · exact (IsPlain.of_isMagnitude magnitude).2
      · exact (IsPlain.of_isMagnitude magnitude).1

end ReleaseRules.Yaml
