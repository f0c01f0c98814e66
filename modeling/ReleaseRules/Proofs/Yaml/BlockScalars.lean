import Mathlib.Data.List.Basic
import ReleaseRules.Proofs.Yaml.Characters

/-!
Contract: literal scalars are read as they are written.

Owns:
- the lines of a literal scalar and the empty lines between them;
- its end, where the chomping decides which line breaks are kept;
- its header, with the hint on indentation and chomping.

Does not own: which texts are literal.
-/

namespace ReleaseRules.Yaml

variable {indent index line column : Nat}

/-! ## Empty lines -/

private theorem takeWhile_spaces (count : Nat) {next : List Char}
    (visible : next.head?.any isSpace = false) :
    (spaces count ++ next).takeWhile (· = ' ') = spaces count :=
  Text.takeWhile_append_of_stop
    (fun _ member => decide_eq_true (List.mem_replicate.mp member).2) visible

/-- Of the spaces that start a line, those up to the indentation are eaten. -/
private theorem eaten_spaces {next : List Char} {count : Nat} (within : count ≤ indent)
    (outside : count < indent → next.head?.any isSeparator = false) :
    min ((spaces count ++ next).takeWhile (· = ' ')).length indent = count := by
  rcases Nat.lt_or_ge count indent with shorter | whole
  · obtain ⟨noBlank, -⟩ := not_blank_of_visible (outside shorter)
    have noSpace : next.head?.any isSpace = false := by
      cases next with
      | nil => rfl
      | cons character others =>
          have here : isBlank character = false := noBlank
          simp only [isBlank, Bool.or_eq_false_iff] at here
          exact here.1
    rw [takeWhile_spaces count noSpace, spaces, List.length_replicate]
    omega
  · obtain rfl : count = indent := by omega
    have longer : count ≤ ((spaces count ++ next).takeWhile (· = ' ')).length := by
      rw [List.takeWhile_append_of_pos fun character member => by
        simpa using (List.mem_replicate.mp member).2]
      simp [spaces]
    omega

private theorem no_tab_of_outside {next : List Char} {count : Nat}
    (outside : count < indent → next.head?.any isSeparator = false) :
    (decide (count < indent) && next.head? == some '\t') = false := by
  by_cases shorter : count < indent
  · have visible := outside shorter
    cases next with
    | nil => simp
    | cons character others =>
        have here : isSeparator character = false := visible
        have noTab : character ≠ '\t' := by
          rintro rfl
          exact absurd here (by decide)
        simp [noTab]
  · simp [shorter]

/-- No line is empty where a token stands in front of the indentation, or a line behind it. -/
private theorem readEmptyLines_none {next : List Char} {count : Nat}
    (inLine : next.head?.any isBreak = false) (within : count ≤ indent)
    (outside : count < indent → next.head?.any isSeparator = false) (fuel widest index line : Nat) :
    readEmptyLines (some indent) (fuel + 1) widest ⟨spaces count ++ next, index, line, 0⟩ =
      .ok ([], max widest count, ⟨next, index + count, line, count⟩) := by
  have skipped : (⟨spaces count ++ next, index, line, 0⟩ : Cursor).skip count =
      ⟨next, index + count, line, count⟩ := by
    simp [Cursor.skip, spaces]
  rw [readEmptyLines]
  simp only [Nat.sub_zero, eaten_spaces within outside, skipped, no_tab_of_outside outside,
    Cursor.atBreak, inLine, Bool.false_eq_true, if_false]

/-- Empty lines end at a token in front of the indentation, or at a line behind it. -/
theorem readEmptyLines_breaks {breaks next : List Char} {count : Nat}
    (breaking : ∀ character ∈ breaks, isPrintable character = true ∧ isBreak character = true)
    (inLine : next.head?.any isBreak = false) (within : count ≤ indent)
    (outside : count < indent → next.head?.any isSeparator = false) {budget widest : Nat}
    (enough : breaks.length < budget) :
    ∃ wider, readEmptyLines (some indent) budget widest
        ⟨breaks ++ (spaces count ++ next), index, line, 0⟩ =
      .ok (breaks, wider,
        ⟨next, index + breaks.length + count, line + breaks.length, count⟩) := by
  induction breaks generalizing budget widest index line with
  | nil =>
      obtain ⟨fuel, rfl⟩ : ∃ fuel, budget = fuel + 1 := ⟨budget - 1, by omega⟩
      exact ⟨max widest count, readEmptyLines_none inLine within outside fuel widest index line⟩
  | cons character rest inductionHypothesis =>
      obtain ⟨fuel, rfl⟩ : ∃ fuel, budget = fuel + 1 := ⟨budget - 1, by omega⟩
      obtain ⟨printable, breaks⟩ := breaking character List.mem_cons_self
      rw [List.length_cons] at enough
      obtain ⟨wider, later⟩ : ∃ wider, readEmptyLines (some indent) fuel (max widest 0)
          ⟨rest ++ (spaces count ++ next), index + 1, line + 1, 0⟩ = .ok (rest, wider,
            ⟨next, index + 1 + rest.length + count, line + 1 + rest.length, count⟩) :=
        inductionHypothesis (fun other member => breaking other (List.mem_cons_of_mem _ member))
          (by omega)
      have noSpace : character ≠ ' ' := by
        rintro rfl
        exact absurd breaks (by decide)
      have noTab : character ≠ '\t' := ne_tab_of_isPrintable printable
      have here : (⟨character :: (rest ++ (spaces count ++ next)), index, line, 0⟩ :
          Cursor).skip 0 = ⟨character :: (rest ++ (spaces count ++ next)), index, line, 0⟩ := rfl
      refine ⟨wider, ?_⟩
      rw [List.cons_append, readEmptyLines]
      simp only [List.takeWhile_cons, noSpace, decide_false, Bool.false_eq_true, if_false,
        List.length_nil, Nat.zero_min, here, Cursor.atBreak, List.head?_cons, Option.any_some,
        breaks, if_true, Cursor.takeBreak_cons printable breaks, later, List.length_cons]
      simp only [Option.some_beq_some, beq_eq_false_iff_ne.mpr noTab, Bool.and_false,
        Bool.false_eq_true, if_false, List.singleton_append]
      congr 4 <;> omega

/-! ## Lines -/

private theorem literalLines_line (indent : Nat) {front : List Char}
    (inLine : ∀ character ∈ front, isBreak character = false) (rest : List Char) :
    literalLines indent false (front ++ rest) = front ++ literalLines indent false rest := by
  induction front with
  | nil => rfl
  | cons character others inductionHypothesis =>
      have here := inLine character List.mem_cons_self
      have later := inductionHypothesis fun other member =>
        inLine other (List.mem_cons_of_mem _ member)
      simp [literalLines, here, later]

private theorem literalLines_breaks (indent : Nat) (fresh : Bool) {breaks : List Char}
    (breaking : ∀ character ∈ breaks, isBreak character = true) (nonempty : breaks ≠ [])
    (rest : List Char) :
    literalLines indent fresh (breaks ++ rest) = breaks ++ literalLines indent true rest := by
  induction breaks generalizing fresh with
  | nil => exact absurd rfl nonempty
  | cons character others inductionHypothesis =>
      have here := breaking character List.mem_cons_self
      by_cases last : others = []
      · subst last
        simp [literalLines, here]
      · have later := inductionHypothesis true
          (fun other member => breaking other (List.mem_cons_of_mem _ member)) last
        simp [literalLines, here, later]

private theorem literalLines_fresh (indent : Nat) {rest : List Char}
    (inLine : rest.head?.any isBreak = false) (nonempty : rest ≠ []) :
    literalLines indent true rest = spaces indent ++ literalLines indent false rest := by
  obtain ⟨character, others, rfl⟩ := List.exists_cons_of_ne_nil nonempty
  have here : isBreak character = false := inLine
  simp [literalLines, here]

/-- What is read of a literal scalar from the end of a line on. -/
def readLineEnd (chomping : Chomping) (indent budget : Nat) (blank : Bool) (cursor : Cursor) :
    Except ReadError (List Char × Cursor) := do
  let (empty, _, after) ← readEmptyLines (some indent) (cursor.takeBreak.2.rest.length + 1) 0
    cursor.takeBreak.2
  readBlockLines .literal chomping indent budget ⟨cursor.takeBreak.1, empty, blank⟩ after

variable {chomping : Chomping} {budget : Nat} {ending : LineEnd}

/-- A line is read up to its end. -/
theorem readBlockLines_line {front rest : List Char} (nonempty : front ≠ [])
    (inLine : ∀ character ∈ front, isBreak character = false)
    (ends : rest ≠ [] → rest.head?.any isBreak = true) (index line : Nat) :
    ∃ blank, readBlockLines .literal chomping indent (budget + 1) ending
        ⟨front ++ rest, index, line, indent⟩ =
      behind (ending.last ++ ending.empty ++ front) (readLineEnd chomping indent budget blank
        ⟨rest, index + front.length, line, indent + front.length⟩) := by
  have taken : (front ++ rest).takeWhile (fun character => !isBreak character) = front := by
    refine Text.takeWhile_append_of_stop
      (fun character member => by simp [inLine character member]) ?_
    cases rest with
    | nil => rfl
    | cons character others =>
        have stop : isBreak character = true := ends (by simp)
        simp [stop]
  have someText : (front ++ rest).isEmpty = false := by simp [nonempty]
  refine ⟨(front ++ rest).head?.any isBlank, ?_⟩
  rw [readBlockLines]
  simp only [taken, someText, beq_self_eq_true, Bool.not_false, Bool.and_self, if_true,
    Cursor.skip_append, readLineEnd, bind, Except.bind]
  cases readEmptyLines (some indent)
      ((⟨rest, index + front.length, line, indent + front.length⟩ : Cursor).takeBreak.2.rest.length
        + 1) 0
      (⟨rest, index + front.length, line, indent + front.length⟩ : Cursor).takeBreak.2 with
  | error reason => rfl
  | ok empty =>
      have noFold : ending.between .literal ((front ++ rest).head?.any isBlank) =
          ending.last ++ ending.empty := by
        simp [LineEnd.between]
      dsimp only
      rw [noFold]
      generalize readBlockLines .literal chomping indent budget _ empty.2.2 = later
      cases later <;> rfl

/-- Behind the breaks between two lines, the second line is read. -/
theorem readLineEnd_next {first : Char} {later text : List Char}
    (breaking : ∀ character ∈ first :: later,
      isPrintable character = true ∧ isBreak character = true)
    (inLine : text.head?.any isBreak = false) (blank : Bool) (index line column : Nat) :
    ∃ index' line', line < line' ∧ readLineEnd chomping indent budget blank
        ⟨first :: later ++ (spaces indent ++ text), index, line, column⟩ =
      readBlockLines .literal chomping indent budget ⟨[first], later, blank⟩
        ⟨text, index', line', indent⟩ := by
  obtain ⟨printableFirst, breaksFirst⟩ := breaking first List.mem_cons_self
  obtain ⟨wider, empty⟩ : ∃ wider, readEmptyLines (some indent)
      ((later ++ (spaces indent ++ text)).length + 1) 0
      ⟨later ++ (spaces indent ++ text), index + 1, line + 1, 0⟩ = .ok (later, wider,
        ⟨text, index + 1 + later.length + indent, line + 1 + later.length, indent⟩) :=
    readEmptyLines_breaks
      (fun character member => breaking character (List.mem_cons_of_mem _ member))
      inLine (Nat.le_refl indent) (fun shorter => absurd shorter (Nat.lt_irrefl indent))
      (by rw [List.length_append]; omega)
  refine ⟨index + 1 + later.length + indent, line + 1 + later.length, by omega, ?_⟩
  rw [readLineEnd, List.cons_append, Cursor.takeBreak_cons printableFirst breaksFirst]
  simp only [empty, bind, Except.bind]

/-- Texts of lines that are not empty, with breaks between them. -/
inductive Lines : List Char → Prop
  | single {front : List Char} (some : front ≠ [])
      (inLine : ∀ character ∈ front, isBreak character = false) : Lines front
  | cons {front breaks rest : List Char} (some : front ≠ [])
      (inLine : ∀ character ∈ front, isBreak character = false) (apart : breaks ≠ [])
      (breaking : ∀ character ∈ breaks, isBreak character = true) (later : Lines rest) :
      Lines (front ++ (breaks ++ rest))

/-- The first character of a text of lines, which whatever follows leaves as it is. -/
theorem Lines.exists_cons {text : List Char} (lines : Lines text) :
    ∃ first others, text = first :: others ∧ isBreak first = false := by
  have starts : ∀ {front : List Char} (rest : List Char), front ≠ [] →
      (∀ character ∈ front, isBreak character = false) →
      ∃ first others, front ++ rest = first :: others ∧ isBreak first = false := by
    intro front rest some inLine
    obtain ⟨first, others, rfl⟩ := List.exists_cons_of_ne_nil some
    exact ⟨first, others ++ rest, rfl, inLine first List.mem_cons_self⟩
  cases lines with
  | single some inLine => simpa using starts [] some inLine
  | cons some inLine => exact starts _ some inLine

theorem Lines.inLine {text : List Char} (lines : Lines text) :
    text.head?.any isBreak = false := by
  obtain ⟨first, others, rfl, inLine⟩ := lines.exists_cons
  exact inLine

theorem Lines.ne_nil {text : List Char} (lines : Lines text) : text ≠ [] := by
  obtain ⟨first, others, rfl, -⟩ := lines.exists_cons
  exact List.cons_ne_nil first others

/-- What follows breaks is not empty if the text does not end with one. -/
private theorem ne_nil_of_stops {front rest : List Char} (some : front ≠ [])
    (breaking : ∀ character ∈ front, isBreak character = true)
    (stops : (front ++ rest).getLast?.any isBreak = false) : rest ≠ [] := by
  rintro rfl
  have last := breaking _ (List.getLast_mem some)
  rw [List.append_nil, List.getLast?_eq_some_getLast some] at stops
  simp [last] at stops

/-- A text that neither starts nor ends with a break is one of lines. -/
theorem lines_of_stops {text : List Char} (nonempty : text ≠ [])
    (starts : text.head?.any isBreak = false) (stops : text.getLast?.any isBreak = false) :
    Lines text := by
  induction bound : text.length using Nat.strongRecOn generalizing text with
  | ind size inductionHypothesis =>
      subst bound
      obtain ⟨front, more, rfl, inLineNot, breaksNext⟩ :=
        Text.exists_prefix (fun character => !isBreak character) text
      have inLine : ∀ character ∈ front, isBreak character = false := fun character member => by
        simpa using inLineNot character member
      cases more with
      | nil =>
          rw [List.append_nil] at nonempty ⊢
          exact .single nonempty inLine
      | cons first later =>
          have breaks : isBreak first = true := by simpa using breaksNext
          have some : front ≠ [] := by
            rintro rfl
            cases breaks.symm.trans starts
          obtain ⟨breaks, rest, split, breaking, inLineNext⟩ :=
            Text.exists_prefix isBreak (first :: later)
          have apart : breaks ≠ [] := by
            rintro rfl
            rw [List.nil_append] at split
            rw [← split] at inLineNext
            cases breaks.symm.trans inLineNext
          rw [split] at stops ⊢
          rw [List.getLast?_append_of_ne_nil _ (by simp [apart])] at stops
          have someRest := ne_nil_of_stops apart breaking stops
          rw [List.getLast?_append_of_ne_nil _ someRest] at stops
          refine .cons some inLine apart breaking
            (inductionHypothesis rest.length ?_ someRest inLineNext stops rfl)
          have positive := List.length_pos_iff.mpr some
          rw [split]
          simp only [List.length_append]
          omega

/-- The lines of a text are read up to its end. -/
theorem readBlockLines_text {text rest : List Char} (lines : Lines text)
    (printable : ∀ character ∈ text, isPrintable character = true)
    (ends : rest ≠ [] → rest.head?.any isBreak = true) (enough : text.length < budget)
    (index line : Nat) :
    ∃ fuel blank cursor, cursor.rest = rest ∧ line ≤ cursor.line ∧
      readBlockLines .literal chomping indent budget ending
          ⟨literalLines indent false text ++ rest, index, line, indent⟩ =
        behind (ending.last ++ ending.empty ++ text)
          (readLineEnd chomping indent fuel blank cursor) := by
  induction lines generalizing budget ending index line with
  | @single front some inLine =>
      obtain ⟨fuel, rfl⟩ : ∃ fuel, budget = fuel + 1 := ⟨budget - 1, by omega⟩
      obtain ⟨blank, read⟩ := readBlockLines_line some inLine ends index line
      have shown : literalLines indent false front = front := by
        simpa [literalLines] using literalLines_line indent inLine []
      rw [shown]
      exact ⟨fuel, blank, _, rfl, Nat.le_refl line, read⟩
  | @cons front breaks text some inLine apart breaking later inductionHypothesis =>
      obtain ⟨fuel, rfl⟩ : ∃ fuel, budget = fuel + 1 := ⟨budget - 1, by omega⟩
      obtain ⟨first, others, rfl⟩ := List.exists_cons_of_ne_nil apart
      have printableBreaks : ∀ character ∈ first :: others,
          isPrintable character = true ∧ isBreak character = true := fun character member =>
        ⟨printable character (List.mem_append_right _ (List.mem_append_left _ member)),
          breaking character member⟩
      have printableLater : ∀ character ∈ text, isPrintable character = true :=
        fun character member =>
          printable character (List.mem_append_right _ (List.mem_append_right _ member))
      have shown : literalLines indent false (front ++ (first :: others ++ text)) ++ rest =
          front ++ (first :: others ++
            (spaces indent ++ (literalLines indent false text ++ rest))) := by
        rw [literalLines_line indent inLine, literalLines_breaks indent false breaking apart,
          literalLines_fresh indent later.inLine later.ne_nil]
        simp
      have inLineLater : (literalLines indent false text ++ rest).head?.any isBreak = false := by
        obtain ⟨character, tail, rfl, here⟩ := later.exists_cons
        simp [literalLines, here]
      have endsHere : (first :: others ++
          (spaces indent ++ (literalLines indent false text ++ rest))).head?.any isBreak = true :=
        breaking first List.mem_cons_self
      obtain ⟨blank, read⟩ := readBlockLines_line some inLine (fun _ => endsHere) index line
      obtain ⟨index', line', farther, next⟩ :=
        readLineEnd_next printableBreaks inLineLater blank (index + front.length) line
          (indent + front.length)
      have positive := List.length_pos_iff.mpr some
      rw [List.length_append, List.length_append] at enough
      obtain ⟨final, blankLast, cursor, here, fartherLast, readLater⟩ :=
        inductionHypothesis printableLater (show text.length < fuel by omega) index' line'
      refine ⟨final, blankLast, cursor, here, by omega, ?_⟩
      rw [shown, read, next, readLater, behind_behind]
      simp

/-! ## The end -/

/-- The line breaks at the end of a scalar that are kept. -/
def keptBreaks (chomping : Chomping) (breaks : List Char) : List Char :=
  match chomping with
  | .strip => []
  | .clip => breaks.take 1
  | .keep => breaks

/-- A scalar ends where none of its lines starts. -/
private theorem readBlockLines_done {after : Cursor}
    (outside : after.column = indent → after.rest = []) :
    readBlockLines .literal chomping indent budget ending after =
      .ok (ending.tail chomping, after) := by
  cases budget with
  | zero => rfl
  | succ fuel =>
      have stops : (after.column == indent && !after.rest.isEmpty) = false := by
        by_cases atIndent : after.column = indent
        · simp [outside atIndent]
        · simp [atIndent]
      rw [readBlockLines]
      simp only [stops, Bool.false_eq_true, if_false]

/-- A scalar whose last line ends with the text. -/
private theorem readLineEnd_end (blank : Bool) (index line column : Nat) :
    readLineEnd chomping indent budget blank ⟨[], index, line, column⟩ =
      .ok ([], ⟨[], index, line, column⟩) := by
  have noEmpty : readEmptyLines (some indent) 1 0 ⟨[], index, line, column⟩ =
      .ok ([], max 0 column, ⟨[], index, line, column⟩) := by
    simp [readEmptyLines, Cursor.skip, Cursor.atBreak]
  have here : (⟨[], index, line, column⟩ : Cursor).takeBreak =
      ([], ⟨[], index, line, column⟩) := rfl
  rw [readLineEnd, here]
  simp only [List.length_nil, Nat.zero_add, noEmpty, bind, Except.bind]
  rw [readBlockLines_done fun _ => rfl]
  cases chomping <;> rfl

/-- A literal scalar ends with the breaks behind its last line, in front of a token that is not
indented or at the end of the text. -/
theorem readLineEnd_breaks {breaks next : List Char} {count : Nat}
    (breaking : ∀ character ∈ breaks, isPrintable character = true ∧ isBreak character = true)
    (token : startsToken next = true) (outside : count < indent)
    (closed : breaks = [] → count = 0 ∧ next = []) (blank : Bool) {cursor : Cursor}
    (here : cursor.rest = breaks ++ (spaces count ++ next)) :
    ∃ after, after.rest = next ∧ (breaks ≠ [] → cursor.line < after.line ∧ after.column = count) ∧
      readLineEnd chomping indent budget blank cursor =
        .ok (keptBreaks chomping breaks, after) := by
  obtain ⟨rest, index, line, column⟩ := cursor
  obtain rfl := here
  have inLine : next.head?.any isBreak = false :=
    (not_blank_of_visible (visible_of_startsToken token)).2
  cases breaks with
  | nil =>
      obtain ⟨rfl, rfl⟩ := closed rfl
      refine ⟨⟨[], index, line, column⟩, rfl, fun some => absurd rfl some, ?_⟩
      have none : keptBreaks chomping [] = [] := by cases chomping <;> rfl
      rw [none]
      exact readLineEnd_end blank index line column
  | cons first later =>
      obtain ⟨printableFirst, breaksFirst⟩ := breaking first List.mem_cons_self
      obtain ⟨wider, empty⟩ : ∃ wider, readEmptyLines (some indent)
          ((later ++ (spaces count ++ next)).length + 1) 0
          ⟨later ++ (spaces count ++ next), index + 1, line + 1, 0⟩ = .ok (later, wider,
            ⟨next, index + 1 + later.length + count, line + 1 + later.length, count⟩) :=
        readEmptyLines_breaks
          (fun character member => breaking character (List.mem_cons_of_mem _ member)) inLine
          (by omega) (fun _ => visible_of_startsToken token) (by rw [List.length_append]; omega)
      refine ⟨⟨next, index + 1 + later.length + count, line + 1 + later.length, count⟩, rfl,
        fun _ => ⟨show line < line + 1 + later.length by omega, rfl⟩, ?_⟩
      rw [readLineEnd, List.cons_append, Cursor.takeBreak_cons printableFirst breaksFirst]
      simp only [empty, bind, Except.bind]
      rw [readBlockLines_done fun atIndent => absurd atIndent (by simpa using Nat.ne_of_lt outside)]
      cases chomping <;> rfl

/-! ## The header -/

/-- The chomping that the hint of a text asks for. -/
def literalChomping (text : List Char) : Chomping :=
  match text.reverse with
  | [] => .strip
  | [last] => if isBreak last then .keep else .strip
  | last :: previous :: _ =>
      if isBreak last then (if isBreak previous then .keep else .clip) else .strip

/-- The mark of a chomping. -/
def chompingMark : Chomping → List Char
  | .strip => ['-']
  | .clip => []
  | .keep => ['+']

/-- Whether the indentation of a text cannot be seen from its first line. -/
def isHinted (text : List Char) : Bool :=
  text.head?.any fun first => isSpace first || isBreak first

/-- A header: the indentation, if it has to be told, and the chomping. -/
def headerText (hinted : Bool) (chomping : Chomping) : List Char :=
  (if hinted then ['2'] else []) ++ chompingMark chomping

theorem literalHint_eq (text : List Char) :
    literalHint text = headerText (isHinted text) (literalChomping text) := by
  have digits : Number.digitsOf indentStep = ['2'] := rfl
  unfold literalHint headerText literalChomping isHinted
  rw [digits]
  dsimp only
  congr 1
  rcases text.reverse with _ | ⟨last, others⟩
  · rfl
  · cases others with
    | nil => cases shown : isBreak last <;> simp [shown, chompingMark]
    | cons previous more =>
        cases shown : isBreak last <;> cases shownPrevious : isBreak previous <;>
          simp [shown, shownPrevious, chompingMark]

/-- A header is read at the end of its line. -/
theorem readHeader_headerText (hinted : Bool) (chomping : Chomping) {after : List Char}
    (ends : after = [] ∨ ∃ more, after = '\n' :: more) :
    readHeader (headerText hinted chomping ++ after) =
      .ok (chomping, if hinted then some 2 else none, (headerText hinted chomping).length) := by
  rcases ends with rfl | ⟨more, rfl⟩ <;> cases hinted <;> cases chomping <;> rfl

/-- A literal scalar is read behind its header. -/
theorem readBlock_header (parent : Nat) (hinted : Bool) (chomping : Chomping)
    (lines : List Char) :
    readBlock .literal (some parent)
        ⟨'|' :: (headerText hinted chomping ++ '\n' :: lines), index, line, column⟩ =
      (do
        let (empty, widest, cursor) ←
          readEmptyLines (if hinted then some (parent + 2) else none) (lines.length + 1) 0
            ⟨lines, index + 1 + (headerText hinted chomping).length + 1, line + 1, 0⟩
        readBlockLines .literal chomping
          (if hinted then parent + 2 else max widest (parent + 1)) (cursor.rest.length + 1)
          ⟨[], empty, false⟩ cursor) := by
  have header : readHeader (headerText hinted chomping ++ '\n' :: lines) =
      .ok (chomping, if hinted then some 2 else none, (headerText hinted chomping).length) :=
    readHeader_headerText hinted chomping (Or.inr ⟨lines, rfl⟩)
  have skipped : (⟨headerText hinted chomping ++ '\n' :: lines, index + 1, line, column + 1⟩ :
      Cursor).skip (headerText hinted chomping).length = ⟨'\n' :: lines,
        index + 1 + (headerText hinted chomping).length, line,
        column + 1 + (headerText hinted chomping).length⟩ := Cursor.skip_append
  have noBlanks : ∀ cursor : Cursor, cursor.rest = '\n' :: lines →
      cursor.skipBlanks.skipComment = cursor := by
    rintro ⟨rest, index, line, column⟩ rfl
    rfl
  rw [readBlock, Cursor.skip_cons]
  simp only [header, bind, Except.bind, skipped, noBlanks]
  cases hinted <;> rfl

/-! ## Literal scalars -/

theorem literalLines_append_breaks (indent : Nat) (fresh : Bool) (text : List Char)
    {breaks : List Char} (breaking : ∀ character ∈ breaks, isBreak character = true) :
    literalLines indent fresh (text ++ breaks) = literalLines indent fresh text ++ breaks := by
  induction text generalizing fresh with
  | nil =>
      by_cases empty : breaks = []
      · simp [empty, literalLines]
      · have all := literalLines_breaks indent fresh breaking empty []
        simpa [literalLines] using all
  | cons character rest inductionHypothesis =>
      simp only [List.cons_append, literalLines]
      split
      · rw [inductionHypothesis, List.cons_append]
      · split <;> simp [inductionHypothesis]

private theorem literalLines_lead (indent : Nat) {lead core : List Char}
    (leading : ∀ character ∈ lead, isBreak character = true)
    (inLine : core.head?.any isBreak = false) (nonempty : core ≠ []) :
    literalLines indent true (lead ++ core) =
      lead ++ (spaces indent ++ literalLines indent false core) := by
  rw [← literalLines_fresh indent inLine nonempty]
  by_cases empty : lead = []
  · simp [empty]
  · exact literalLines_breaks indent true leading empty core

private theorem length_le_literal (indent : Nat) (fresh : Bool) (text : List Char) :
    text.length ≤ (literalLines indent fresh text).length := by
  induction text generalizing fresh with
  | nil => simp
  | cons character rest inductionHypothesis =>
      have behindBreak := inductionHypothesis true
      have inLine := inductionHypothesis false
      simp only [literalLines]
      split
      · simpa using behindBreak
      · split <;> simp only [List.length_append, List.length_cons] <;> omega

/-- Without a hint, the indentation is that of the first line. -/
theorem readEmptyLines_unhinted {next : List Char} (visible : next.head?.any isSpace = false)
    (inLine : next.head?.any isBreak = false) (noTab : next.head? ≠ some '\t') (budget : Nat) :
    readEmptyLines none (budget + 1) 0 ⟨spaces indent ++ next, index, line, 0⟩ =
      .ok ([], indent, ⟨next, index + indent, line, indent⟩) := by
  have skipped : (⟨spaces indent ++ next, index, line, 0⟩ : Cursor).skip indent =
      ⟨next, index + indent, line, indent⟩ := by
    simp [Cursor.skip, spaces]
  have counted : (spaces indent).length = indent := List.length_replicate
  rw [readEmptyLines]
  simp only [takeWhile_spaces indent visible, counted, skipped, Cursor.atBreak, inLine,
    Bool.true_and, beq_eq_false_iff_ne.mpr noTab, Bool.false_eq_true, if_false, Nat.zero_max]

/-- The empty lines in front of the first line are read, and the indentation is found. -/
private theorem readEmptyLines_first {parent : Nat} {hinted : Bool} {lead next : List Char}
    (leading : ∀ character ∈ lead, isPrintable character = true ∧ isBreak character = true)
    (inLine : next.head?.any isBreak = false)
    (unhinted : hinted = false →
      lead = [] ∧ next.head?.any isSpace = false ∧ next.head? ≠ some '\t') :
    ∃ widest index' line', line ≤ line' ∧
      (if hinted then parent + 2 else max widest (parent + 1)) = parent + 2 ∧
      readEmptyLines (if hinted then some (parent + 2) else none)
          ((lead ++ (spaces (parent + 2) ++ next)).length + 1) 0
          ⟨lead ++ (spaces (parent + 2) ++ next), index, line, 0⟩ =
        .ok (lead, widest, ⟨next, index', line', parent + 2⟩) := by
  cases hinted with
  | true =>
      obtain ⟨widest, read⟩ : ∃ widest, readEmptyLines (some (parent + 2))
          ((lead ++ (spaces (parent + 2) ++ next)).length + 1) 0
          ⟨lead ++ (spaces (parent + 2) ++ next), index, line, 0⟩ = .ok (lead, widest,
            ⟨next, index + lead.length + (parent + 2), line + lead.length, parent + 2⟩) :=
        readEmptyLines_breaks leading inLine (Nat.le_refl (parent + 2))
          (fun shorter => absurd shorter (Nat.lt_irrefl _)) (by rw [List.length_append]; omega)
      exact ⟨widest, _, _, Nat.le_add_right line lead.length, rfl, read⟩
  | false =>
      obtain ⟨rfl, visible, noTab⟩ := unhinted rfl
      refine ⟨parent + 2, index + (parent + 2), line, Nat.le_refl line, ?_, ?_⟩
      · show max (parent + 2) (parent + 1) = parent + 2
        omega
      · exact readEmptyLines_unhinted visible inLine noTab _

/-- A scalar of nothing but breaks: they are the empty lines in front of a line that does not
come. -/
private theorem readBlock_breaks (index line column : Nat) {parent count : Nat}
    {breaks next : List Char}
    (breaking : ∀ character ∈ breaks, isPrintable character = true ∧ isBreak character = true)
    (token : startsToken next = true) (outside : count ≤ parent) :
    ∃ after, after.rest = next ∧ line < after.line ∧ after.column = count ∧
      readBlock .literal (some parent) ⟨'|' :: (headerText true .keep ++ '\n' ::
          (breaks ++ (spaces count ++ next))), index, line, column⟩ = .ok (breaks, after) := by
  have inLine : next.head?.any isBreak = false :=
    (not_blank_of_visible (visible_of_startsToken token)).2
  obtain ⟨widest, read⟩ : ∃ widest, readEmptyLines (some (parent + 2))
      ((breaks ++ (spaces count ++ next)).length + 1) 0
      ⟨breaks ++ (spaces count ++ next), index + 1 + (headerText true .keep).length + 1,
        line + 1, 0⟩ = .ok (breaks, widest, ⟨next,
          index + 1 + (headerText true .keep).length + 1 + breaks.length + count,
          line + 1 + breaks.length, count⟩) :=
    readEmptyLines_breaks breaking inLine (by omega) (fun _ => visible_of_startsToken token)
      (by rw [List.length_append]; omega)
  have apart : (count == parent + 2) = false := beq_eq_false_iff_ne.mpr (by omega)
  refine ⟨⟨next, index + 1 + (headerText true .keep).length + 1 + breaks.length + count,
    line + 1 + breaks.length, count⟩, rfl, ?_, rfl, ?_⟩
  · show line < line + 1 + breaks.length
    omega
  · rw [readBlock_header]
    simp only [if_true, read, bind, Except.bind]
    simp only [readBlockLines, apart, Bool.false_and, Bool.false_eq_true, if_false]
    rfl

/-- A text that does not end with a break is one of lines behind its leading breaks. -/
private theorem exists_lead {text : List Char} (nonempty : text ≠ [])
    (stops : text.getLast?.any isBreak = false) :
    ∃ lead core, text = lead ++ core ∧ (∀ character ∈ lead, isBreak character = true) ∧
      Lines core := by
  obtain ⟨lead, core, rfl, leading, inLine⟩ := Text.exists_prefix isBreak text
  have some : core ≠ [] := by
    by_cases none : lead = []
    · simpa [none] using nonempty
    · exact ne_nil_of_stops none leading stops
  rw [List.getLast?_append_of_ne_nil _ some] at stops
  exact ⟨lead, core, rfl, leading, lines_of_stops some inLine stops⟩

/-- Without a hint, a text starts with a visible character. -/
private theorem visible_of_unhinted {lead core : List Char}
    (leading : ∀ character ∈ lead, isBreak character = true) (lines : Lines core)
    (printable : ∀ character ∈ core, isPrintable character = true)
    (unhinted : isHinted (lead ++ core) = false) :
    lead = [] ∧ core.head?.any isSpace = false ∧ core.head? ≠ some '\t' := by
  cases lead with
  | cons first others =>
      have here := leading first List.mem_cons_self
      simp [isHinted, here] at unhinted
  | nil =>
      obtain ⟨character, others, rfl, -⟩ := lines.exists_cons
      simp only [isHinted, List.nil_append, List.head?_cons, Option.any_some,
        Bool.or_eq_false_iff] at unhinted
      have noTab := ne_tab_of_isPrintable (printable character List.mem_cons_self)
      exact ⟨rfl, unhinted.1, by simpa using noTab⟩

/-- Lines behind leading breaks are read back, together with the breaks behind them that the
chomping keeps. -/
private theorem readBlock_lines (index line column : Nat) {parent count : Nat} (hinted : Bool)
    (chomping : Chomping) {lead core breaks next : List Char} (lines : Lines core)
    (leading : ∀ character ∈ lead, isPrintable character = true ∧ isBreak character = true)
    (printable : ∀ character ∈ core, isPrintable character = true)
    (visible : hinted = false → isHinted (lead ++ core) = false)
    (breaking : ∀ character ∈ breaks, isPrintable character = true ∧ isBreak character = true)
    (token : startsToken next = true) (outside : count ≤ parent)
    (closed : breaks = [] → count = 0 ∧ next = []) :
    ∃ after, after.rest = next ∧ (breaks ≠ [] → line < after.line ∧ after.column = count) ∧
      readBlock .literal (some parent) ⟨'|' :: (headerText hinted chomping ++ '\n' ::
          (literalLines (parent + 2) true (lead ++ core) ++
            (breaks ++ (spaces count ++ next)))), index, line, column⟩ =
        .ok (lead ++ core ++ keptBreaks chomping breaks, after) := by
  obtain ⟨rest, isRest⟩ : ∃ rest, rest = breaks ++ (spaces count ++ next) := ⟨_, rfl⟩
  have ends : rest ≠ [] → rest.head?.any isBreak = true := by
    intro some
    cases breaks with
    | nil =>
        obtain ⟨rfl, rfl⟩ := closed rfl
        exact absurd isRest some
    | cons first others =>
        rw [isRest]
        exact (breaking first List.mem_cons_self).2
  have headCore : (literalLines (parent + 2) false core ++ rest).head? = core.head? := by
    obtain ⟨character, others, rfl, here⟩ := lines.exists_cons
    simp [literalLines, here]
  have unhinted : hinted = false → lead = [] ∧
      (literalLines (parent + 2) false core ++ rest).head?.any isSpace = false ∧
      (literalLines (parent + 2) false core ++ rest).head? ≠ some '\t' := by
    rw [headCore]
    exact fun noHint => visible_of_unhinted (fun character member => (leading character member).2)
      lines printable (visible noHint)
  obtain ⟨widest, index', line', below, indented, first⟩ : ∃ widest index' line', line + 1 ≤ line' ∧
      (if hinted then parent + 2 else max widest (parent + 1)) = parent + 2 ∧
      readEmptyLines (if hinted then some (parent + 2) else none) ((lead ++ (spaces (parent + 2) ++
          (literalLines (parent + 2) false core ++ rest))).length + 1) 0
          ⟨lead ++ (spaces (parent + 2) ++ (literalLines (parent + 2) false core ++ rest)),
            index + 1 + (headerText hinted chomping).length + 1, line + 1, 0⟩ =
        .ok (lead, widest,
          ⟨literalLines (parent + 2) false core ++ rest, index', line', parent + 2⟩) :=
    readEmptyLines_first leading (by rw [headCore]; exact lines.inLine) unhinted
  have longer := length_le_literal (parent + 2) false core
  obtain ⟨fuel, blank, cursor, here, farther, read⟩ : ∃ fuel blank cursor, cursor.rest = rest ∧
      line' ≤ cursor.line ∧ readBlockLines .literal chomping (parent + 2)
          ((literalLines (parent + 2) false core ++ rest).length + 1) ⟨[], lead, false⟩
          ⟨literalLines (parent + 2) false core ++ rest, index', line', parent + 2⟩ =
        behind (lead ++ core) (readLineEnd chomping (parent + 2) fuel blank cursor) :=
    readBlockLines_text lines printable ends (by rw [List.length_append]; omega) index' line'
  obtain ⟨after, atNext, moved, final⟩ : ∃ after, after.rest = next ∧
      (breaks ≠ [] → cursor.line < after.line ∧ after.column = count) ∧
      readLineEnd chomping (parent + 2) fuel blank cursor =
        .ok (keptBreaks chomping breaks, after) :=
    readLineEnd_breaks breaking token (by omega) closed blank (here.trans isRest)
  have shown : literalLines (parent + 2) true (lead ++ core) ++ (breaks ++ (spaces count ++ next)) =
      lead ++ (spaces (parent + 2) ++ (literalLines (parent + 2) false core ++ rest)) := by
    rw [literalLines_lead (parent + 2) (fun character member => (leading character member).2)
      lines.inLine lines.ne_nil, isRest]
    simp only [List.append_assoc]
  refine ⟨after, atNext, fun some => ⟨?_, (moved some).2⟩, ?_⟩
  · have later := (moved some).1
    omega
  · rw [readBlock_header, shown]
    simp only [first, bind, Except.bind, indented, read, final, behind, Except.map]

/-- The lines of a literal scalar are read back, together with the breaks behind them that the
chomping keeps. -/
theorem readBlock_literal (index line column : Nat) {parent count : Nat} (hinted : Bool)
    (chomping : Chomping) {text breaks next : List Char}
    (printable : ∀ character ∈ text, isPrintable character = true)
    (stops : text.getLast?.any isBreak = false)
    (visible : hinted = false → text ≠ [] ∧ isHinted text = false)
    (keeps : text = [] → chomping = .keep)
    (breaking : ∀ character ∈ breaks, isPrintable character = true ∧ isBreak character = true)
    (token : startsToken next = true) (outside : count ≤ parent)
    (closed : breaks = [] → count = 0 ∧ next = []) :
    ∃ after, after.rest = next ∧ (breaks ≠ [] → line < after.line ∧ after.column = count) ∧
      readBlock .literal (some parent) ⟨'|' :: (headerText hinted chomping ++ '\n' ::
          (literalLines (parent + 2) true text ++ (breaks ++ (spaces count ++ next)))),
          index, line, column⟩ =
        .ok (text ++ keptBreaks chomping breaks, after) := by
  by_cases empty : text = []
  · obtain rfl := empty
    obtain rfl := keeps rfl
    obtain rfl : hinted = true := by
      cases hinted with
      | true => rfl
      | false => exact absurd rfl (visible rfl).1
    obtain ⟨after, atNext, below, atColumn, read⟩ :=
      readBlock_breaks index line column breaking token outside
    exact ⟨after, atNext, fun _ => ⟨below, atColumn⟩, read⟩
  · obtain ⟨lead, core, rfl, leading, lines⟩ := exists_lead empty stops
    exact readBlock_lines index line column hinted chomping lines
      (fun character member =>
        ⟨printable character (List.mem_append_left _ member), leading character member⟩)
      (fun character member => printable character (List.mem_append_right _ member))
      (fun noHint => (visible noHint).2) breaking token outside closed

/-! ## Literal texts -/

/-- Texts that are written as literal scalars. -/
structure IsLiteral (text : List Char) : Prop where
  nonempty : text ≠ []
  printable : ∀ character ∈ text, isPrintable character = true

theorem IsLiteral.of_styleOf {text : List Char} (style : styleOf text = .literal) :
    IsLiteral text := by
  unfold styleOf at style
  split at style
  · split at style
    · rename_i literal
      simp only [mayBeLiteral, Bool.not_eq_true', Bool.or_eq_false_iff] at literal
      exact ⟨by simpa using literal.1.1, isPrintable_of_needsEscapes literal.1.2⟩
    · cases style
  · repeat' split at style
    all_goals cases style

theorem feed_of_literal {text : List Char} (style : styleOf text = .literal) : '\n' ∈ text := by
  unfold styleOf at style
  split at style
  · rename_i feed
    simpa using feed
  · repeat' split at style
    all_goals cases style

private theorem literalChomping_concat (front : List Char) {last : Char}
    (breaks : isBreak last = true) :
    literalChomping (front ++ [last]) = if front.getLast?.all isBreak then .keep else .clip := by
  rw [literalChomping, List.reverse_append, ← List.head?_reverse]
  cases front.reverse with
  | nil => simp [breaks]
  | cons previous others =>
      cases here : isBreak previous <;> simp [breaks, here]

/-- A text whose last line is not empty ends there. -/
theorem keptBreaks_stopped {text : List Char} (stops : text.getLast?.any isBreak = false)
    (breaks : List Char) : keptBreaks (literalChomping text) breaks = [] := by
  have strips : literalChomping text = .strip := by
    rw [← List.head?_reverse] at stops
    rw [literalChomping]
    match shown : text.reverse with
    | [] => rfl
    | [last] =>
        rw [shown] at stops
        have noBreak : isBreak last = false := stops
        simp [noBreak]
    | last :: previous :: others =>
        rw [shown] at stops
        have noBreak : isBreak last = false := stops
        simp [noBreak]
  rw [strips]
  rfl

/-- The chomping keeps the breaks at the end of a text. -/
theorem keptBreaks_append (front : List Char) {trail more : List Char}
    (breaking : ∀ character ∈ trail ++ more, isBreak character = true) :
    keptBreaks (literalChomping (front ++ (trail ++ more))) trail = trail := by
  by_cases empty : trail ++ more = []
  · obtain ⟨rfl, -⟩ := List.append_eq_nil_iff.mp empty
    cases literalChomping (front ++ ([] ++ more)) <;> rfl
  · generalize whole : trail ++ more = breaks at breaking empty
    obtain ⟨initial, last, rfl⟩ : ∃ initial last, breaks = initial ++ [last] :=
      ⟨breaks.dropLast, breaks.getLast empty, (List.dropLast_concat_getLast empty).symm⟩
    rw [← List.append_assoc, literalChomping_concat _ (breaking last (by simp))]
    split
    · rfl
    · rename_i noBreak
      -- The break is the only one.
      have single : initial = [] := by
        cases shown : initial.getLast? with
        | none => exact List.getLast?_eq_none_iff.mp shown
        | some previous =>
            have here := breaking previous
              (List.mem_append_left _ (List.mem_of_getLast? shown))
            rw [List.getLast?_append, shown] at noBreak
            simp [here] at noBreak
      have size := congrArg List.length whole
      rw [single] at size
      simp only [List.length_append, List.length_cons, List.length_nil] at size
      exact List.take_of_length_le (by omega)

theorem literalChomping_of_breaks {text : List Char} (nonempty : text ≠ [])
    (breaking : ∀ character ∈ text, isBreak character = true) :
    literalChomping text = .keep := by
  obtain ⟨initial, last, rfl⟩ : ∃ initial last, text = initial ++ [last] :=
    ⟨text.dropLast, text.getLast nonempty, (List.dropLast_concat_getLast nonempty).symm⟩
  rw [literalChomping_concat _ (breaking last (by simp)), if_pos]
  cases shown : initial.getLast? with
  | none => rfl
  | some previous =>
      exact breaking previous (List.mem_append_left _ (List.mem_of_getLast? shown))

/-- What a text with breaks at its end shows in its header. -/
private theorem isHinted_append {front trail : List Char} (nonempty : front ++ trail ≠ [])
    (breaking : ∀ character ∈ trail, isBreak character = true)
    (unhinted : isHinted (front ++ trail) = false) : front ≠ [] ∧ isHinted front = false := by
  cases front with
  | nil =>
      obtain ⟨first, others, rfl⟩ := List.exists_cons_of_ne_nil nonempty
      have here := breaking first List.mem_cons_self
      simp [isHinted, here] at unhinted
  | cons first others => exact ⟨by simp, unhinted⟩

/-- A literal text in front of the next line. -/
theorem readBlock_line (index line column : Nat) {parent count : Nat} {text next : List Char}
    (literal : IsLiteral text) (token : startsToken next = true) (outside : count ≤ parent) :
    ∃ after, after.rest = next ∧ line < after.line ∧ after.column = count ∧
      readBlock .literal (some parent) ⟨'|' :: (literalHint text ++ '\n' ::
          (literalLines (parent + 2) true text ++
            ((if text.getLast?.any isBreak then [] else ['\n']) ++ (spaces count ++ next)))),
          index, line, column⟩ = .ok (text, after) := by
  obtain ⟨front, trail, rfl, breaking, stops⟩ := Text.exists_suffix isBreak text
  obtain ⟨nonempty, printable⟩ := literal
  rw [literalHint_eq, literalLines_append_breaks _ _ _ breaking, List.append_assoc]
  have printableFront : ∀ character ∈ front, isPrintable character = true :=
    fun character member => printable character (List.mem_append_left _ member)
  by_cases empty : trail = []
  · subst empty
    rw [List.append_nil] at nonempty
    have feed : ∀ character ∈ ['\n'], isPrintable character = true ∧ isBreak character = true :=
      List.forall_mem_singleton.mpr (by decide)
    obtain ⟨after, atNext, moved, read⟩ := readBlock_literal index line column (isHinted front)
      (literalChomping front) printableFront stops (fun unhinted => ⟨nonempty, unhinted⟩)
      (fun empty => absurd empty nonempty) feed token outside (fun none => by cases none)
    obtain ⟨below, atColumn⟩ := moved (by simp)
    refine ⟨after, atNext, below, atColumn, ?_⟩
    rw [keptBreaks_stopped stops] at read
    simpa [stops] using read
  · have ends : (front ++ trail).getLast?.any isBreak = true := by
      rw [List.getLast?_append, List.getLast?_eq_some_getLast empty]
      exact breaking _ (List.getLast_mem empty)
    have breaks : ∀ character ∈ trail,
        isPrintable character = true ∧ isBreak character = true := fun character member =>
      ⟨printable character (List.mem_append_right _ member), breaking character member⟩
    have keeps : front = [] → literalChomping (front ++ trail) = .keep := by
      rintro rfl
      exact literalChomping_of_breaks nonempty breaking
    obtain ⟨after, atNext, moved, read⟩ := readBlock_literal index line column
      (isHinted (front ++ trail)) (literalChomping (front ++ trail)) printableFront stops
      (isHinted_append nonempty breaking) keeps breaks token outside
      (fun none => absurd none empty)
    obtain ⟨below, atColumn⟩ := moved empty
    refine ⟨after, atNext, below, atColumn, ?_⟩
    have kept : keptBreaks (literalChomping (front ++ trail)) trail = trail := by
      have all : keptBreaks (literalChomping (front ++ (trail ++ []))) trail = trail :=
        keptBreaks_append front (by simpa using breaking)
      simpa using all
    rw [kept] at read
    rw [ends]
    exact read

/-- A header alone stands for the empty text. -/
private theorem readBlock_bare (index line column parent : Nat) (hinted : Bool)
    (chomping : Chomping) :
    ∃ after, after.rest = [] ∧ readBlock .literal (some parent)
        ⟨'|' :: headerText hinted chomping, index, line, column⟩ = .ok ([], after) := by
  have header : readHeader (headerText hinted chomping) =
      .ok (chomping, if hinted then some 2 else none, (headerText hinted chomping).length) := by
    simpa using readHeader_headerText hinted chomping (Or.inl rfl)
  have skipped : (⟨headerText hinted chomping, index + 1, line, column + 1⟩ : Cursor).skip
      (headerText hinted chomping).length = ⟨[], index + 1 + (headerText hinted chomping).length,
        line, column + 1 + (headerText hinted chomping).length⟩ := by
    simp [Cursor.skip]
  have noBlanks : ∀ index line column : Nat,
      (⟨[], index, line, column⟩ : Cursor).skipBlanks.skipComment = ⟨[], index, line, column⟩ :=
    fun _ _ _ => rfl
  have noBreak : ∀ index line column : Nat,
      (⟨[], index, line, column⟩ : Cursor).takeBreak.2 = ⟨[], index, line, column⟩ :=
    fun _ _ _ => rfl
  have noLines : ∀ (asked : Option Nat) (index line column : Nat),
      readEmptyLines asked 1 0 ⟨[], index, line, column⟩ =
        .ok ([], max 0 column, ⟨[], index, line, column⟩) := by
    intro asked index line column
    cases asked <;> simp [readEmptyLines, Cursor.skip, Cursor.atBreak]
  have noTail : (⟨[], [], false⟩ : LineEnd).tail chomping = [] := by
    cases chomping <;> rfl
  refine ⟨⟨[], index + 1 + (headerText hinted chomping).length, line,
    column + 1 + (headerText hinted chomping).length⟩, rfl, ?_⟩
  rw [readBlock, Cursor.skip_cons]
  simp only [header, bind, Except.bind, skipped, noBlanks, noBreak, List.isEmpty_nil, Bool.true_or,
    Bool.not_true, Bool.false_eq_true, if_false, pure, Except.pure, List.length_nil, Nat.zero_add,
    noLines, readBlockLines, Bool.and_false, noTail]

/-- A literal text at the end, without the line feeds behind it. -/
theorem readBlock_end (index line column parent : Nat) {text feeds : List Char}
    (literal : IsLiteral (text ++ feeds)) (feeding : ∀ character ∈ feeds, character = '\n') :
    ∃ after, after.rest = [] ∧
      readBlock .literal (some parent) ⟨'|' :: (literalHint (text ++ feeds) ++
          if text.isEmpty then [] else '\n' :: literalLines (parent + 2) true text),
          index, line, column⟩ = .ok (text, after) := by
  obtain ⟨nonempty, printable⟩ := literal
  rw [literalHint_eq]
  by_cases empty : text = []
  · subst empty
    obtain ⟨after, atEnd, read⟩ := readBlock_bare index line column parent
      (isHinted ([] ++ feeds)) (literalChomping ([] ++ feeds))
    exact ⟨after, atEnd, by simpa using read⟩
  obtain ⟨front, trail, rfl, breaking, stops⟩ := Text.exists_suffix isBreak text
  have allBreaking : ∀ character ∈ trail ++ feeds, isBreak character = true := by
    intro character member
    rcases List.mem_append.mp member with here | feed
    · exact breaking character here
    · rw [feeding character feed]
      decide
  have printableFront : ∀ character ∈ front, isPrintable character = true :=
    fun character member => printable character (by simp [member])
  have breaks : ∀ character ∈ trail,
      isPrintable character = true ∧ isBreak character = true := fun character member =>
    ⟨printable character (by simp [member]), breaking character member⟩
  have keeps : front = [] → literalChomping (front ++ trail ++ feeds) = .keep := by
    rintro rfl
    exact literalChomping_of_breaks nonempty (by simpa using allBreaking)
  have visible : isHinted (front ++ trail ++ feeds) = false →
      front ≠ [] ∧ isHinted front = false := by
    intro unhinted
    rw [List.append_assoc] at nonempty unhinted
    exact isHinted_append nonempty allBreaking unhinted
  obtain ⟨after, atEnd, -, read⟩ : ∃ after, after.rest = [] ∧
      (trail ≠ [] → line < after.line ∧ after.column = 0) ∧
      readBlock .literal (some parent) ⟨'|' :: (headerText (isHinted (front ++ trail ++ feeds))
          (literalChomping (front ++ trail ++ feeds)) ++ '\n' ::
          (literalLines (parent + 2) true front ++ (trail ++ (spaces 0 ++ [])))),
          index, line, column⟩ =
        .ok (front ++ keptBreaks (literalChomping (front ++ trail ++ feeds)) trail, after) :=
    readBlock_literal index line column _ _ printableFront stops visible keeps breaks rfl
      (Nat.zero_le parent) (fun _ => ⟨rfl, rfl⟩)
  refine ⟨after, atEnd, ?_⟩
  have kept : keptBreaks (literalChomping (front ++ trail ++ feeds)) trail = trail := by
    rw [List.append_assoc]
    exact keptBreaks_append front allBreaking
  have someText : (front ++ trail).isEmpty = false := by simpa using empty
  rw [kept] at read
  rw [someText, literalLines_append_breaks _ _ _ breaking]
  simpa [spaces] using read

end ReleaseRules.Yaml
