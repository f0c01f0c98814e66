import ReleaseRules.Proofs.Yaml.BlockScalars
import ReleaseRules.Proofs.Yaml.BlockStates
import ReleaseRules.Proofs.Yaml.KeyLength
import ReleaseRules.Proofs.Yaml.PlainScalars

/-!
Contract: the tokens of written scalars.

Owns:
- scalars as keys in front of their colon;
- scalars at the end of a line and at the end of the text.

Does not own: the marks of block collections.
-/

namespace ReleaseRules.Yaml

namespace Lexer

/-! ## Reading scalars -/

/-- The place for a key at the cursor. -/
def place (lexer : Lexer) : Option SimpleKey :=
  if lexer.keyAllowed then
    some ⟨lexer.tokens.size, lexer.cursor.index, lexer.cursor.line, lexer.cursor.column,
      lexer.indent == some lexer.cursor.column⟩
  else none

variable {index line column : Nat} {tokens : Array Token} {indents : List Nat}
  {keyAllowed : Bool}

theorem saveKey_block {cursor : Cursor} :
    saveKey ⟨cursor, tokens, indents, [none], keyAllowed⟩ =
      .ok ⟨cursor, tokens, indents, [place ⟨cursor, tokens, indents, [none], keyAllowed⟩],
        keyAllowed⟩ := by
  cases keyAllowed <;> rfl

/-- A place that is indented more than the innermost collection is no place for one of its
keys. -/
theorem place_optional {cursor : Cursor} {top : Nat} (inside : top < cursor.column) :
    (place ⟨cursor, tokens, top :: indents, [none], keyAllowed⟩).any (·.required) = false := by
  have apart : (some top == some cursor.column) = false := by
    simpa using Nat.ne_of_lt inside
  cases keyAllowed with
  | false => rfl
  | true => exact apart

theorem place_line {lexer : Lexer} {line : Nat} (within : lexer.cursor.line ≤ line) :
    lexer.place.all (·.line ≤ line) = true := by
  unfold place
  split
  · simpa using within
  · rfl

theorem place_passed {lexer : Lexer} {line : Nat} (behind : lexer.cursor.line < line) :
    lexer.place.all (·.line < line) = true := by
  unfold place
  split
  · simpa using behind
  · rfl

/-- A quoted scalar is a token of its own. -/
theorem readQuotedScalar_of_readQuoted {cursor final : Cursor} {single : Bool} {text : List Char}
    (read : readQuoted single cursor = .ok (text, final)) :
    readQuotedScalar ⟨cursor, tokens, indents, [none], keyAllowed⟩ single =
      .ok ⟨final, tokens.push
          (.scalar (if single then .singleQuoted else .doubleQuoted) text), indents,
        [place ⟨cursor, tokens, indents, [none], keyAllowed⟩], false⟩ := by
  simp only [readQuotedScalar, saveKey_block, bind, Except.bind, read]
  rfl

/-- The indicators are the leading ones and three that may start a plain scalar. -/
private theorem isIndicator_of_noLeading {character : Char}
    (noLeading : isLeadingIndicator character = false) (noQuestion : character ≠ '?')
    (noColon : character ≠ ':') (noDash : character ≠ '-') : isIndicator character = false := by
  have members : "-?:,[]\x7b\x7d#&*!|>'\"%@\x60".toList.all (fun indicator =>
      isLeadingIndicator indicator || indicator == '?' || indicator == ':' || indicator == '-') =
        true := by
    decide
  refine Bool.eq_false_iff.mpr fun indicator => ?_
  have kind := List.all_eq_true.mp members character (by simpa [isIndicator] using indicator)
  simp [noLeading, noQuestion, noColon, noDash] at kind

/-- The token of a text that starts like a plain scalar is one. -/
theorem readHere_plain {text : List Char} (starts : startsLikePlain text = true)
    (after : List Char) :
    readHere ⟨⟨text ++ after, index, line, column⟩, tokens, indents, [none], keyAllowed⟩ =
      readPlainScalar ⟨⟨text ++ after, index, line, column⟩, tokens, indents, [none],
        keyAllowed⟩ := by
  cases text with
  | nil => cases starts
  | cons first rest =>
      simp only [startsLikePlain, Bool.and_eq_true, Bool.not_eq_true', bne_iff_ne] at starts
      obtain ⟨⟨⟨visible, -⟩, noLeading⟩, noMark⟩ := starts
      have inBlock : ∀ cursor : Cursor,
          inFlow ⟨cursor, tokens, indents, [none], keyAllowed⟩ = false := fun _ => rfl
      by_cases mark : first = '?' ∨ first = ':' ∨ first = '-'
      · -- These marks stand alone only in front of a separator.
        have goesOn : startsSeparated (rest ++ after) = false := by
          have visibleRest : startsSeparated rest = false := by
            rcases mark with rfl | rfl | rfl <;> simpa using noMark
          cases rest with
          | nil => cases visibleRest
          | cons next others => exact visibleRest
        have noBlank : (rest ++ after).head?.any isBlank = false := by
          cases behindMark : rest ++ after with
          | nil => rfl
          | cons next others =>
              rw [behindMark] at goesOn
              exact (Bool.or_eq_false_iff.mp goesOn).1
        rw [List.cons_append]
        generalize rest ++ after = others at goesOn noBlank
        rcases mark with rfl | rfl | rfl
        all_goals
          simp [readHere, readInner, inBlock, goesOn, noBlank, startsPlain]
      · obtain ⟨noQuestion, noColon, noDash⟩ : first ≠ '?' ∧ first ≠ ':' ∧ first ≠ '-' := by
          simpa [not_or] using mark
        have noIndicator := isIndicator_of_noLeading noLeading noQuestion noColon noDash
        have noneOf : ∀ other : Char, isLeadingIndicator other = true → first ≠ other := by
          rintro other leading rfl
          rw [noLeading] at leading
          cases leading
        have noBar : first ≠ '|' := noneOf '|' (by decide)
        have noFold : first ≠ '>' := noneOf '>' (by decide)
        rw [List.cons_append, readHere]
        simp only
        unfold readInner
        split
        case h_11 =>
          simp [inBlock, noQuestion, noColon, noDash, noBar, noFold, startsPlain, visible,
            noIndicator]
        all_goals exact absurd noLeading (by decide)

/-- A plain scalar is a token of its own. -/
theorem readPlainScalar_of_readPlain {cursor final : Cursor} {text : List Char} {crossed : Bool}
    (read : readPlain false ((indents.head?.map (· + 1)).getD 0) cursor =
      .ok ⟨text, crossed, final⟩) :
    readPlainScalar ⟨cursor, tokens, indents, [none], keyAllowed⟩ =
      .ok ⟨final, tokens.push (.scalar .plain text), indents,
        [place ⟨cursor, tokens, indents, [none], keyAllowed⟩], crossed⟩ := by
  have inBlock : ∀ key : Option SimpleKey,
      inFlow ⟨cursor, tokens, indents, [key], keyAllowed⟩ = false := fun _ => rfl
  simp only [readPlainScalar, saveKey_block, bind, Except.bind, inBlock, indent, read]
  rfl

/-- A literal scalar is a token of its own, behind which a key may start. -/
theorem readHere_literal {rest text : List Char} {after : Cursor} {top : Nat}
    (read : readBlock .literal (some top) ⟨'|' :: rest, index, line, column⟩ = .ok (text, after)) :
    readHere ⟨⟨'|' :: rest, index, line, column⟩, tokens, top :: indents, [none], keyAllowed⟩ =
      .ok ⟨after, tokens.push (.scalar .literal text), top :: indents, [none], true⟩ := by
  have inBlock : inFlow ⟨⟨'|' :: rest, index, line, column⟩, tokens, top :: indents, [none],
    keyAllowed⟩ = false := rfl
  have noKey : dropKey ⟨⟨'|' :: rest, index, line, column⟩, tokens, top :: indents, [none],
    keyAllowed⟩ = .ok ⟨⟨'|' :: rest, index, line, column⟩, tokens, top :: indents, [none],
      keyAllowed⟩ := rfl
  have parent : indent ⟨⟨'|' :: rest, index, line, column⟩, tokens, top :: indents, [none],
    keyAllowed⟩ = some top := rfl
  rw [readHere]
  simp [readInner, inBlock, readBlockScalar, noKey, bind, Except.bind, parent, read, pure,
    Except.pure, push, moveTo]

/-! ## Behind scalars -/

variable {next : List Char} {count : Nat} {key : Option SimpleKey} {all : List Token}

/-- Behind a scalar, the rest of its line is stepped over. -/
theorem LeadsTo.of_line (token : startsToken next = true) (optional : key.any (·.required) = false)
    (passed : key.all (·.line ≤ line) = true) :
    LeadsTo ⟨⟨'\n' :: (spaces count ++ next), index, line, column⟩, all.toArray, indents, [key],
        keyAllowed⟩
      ((⟨next, count, all, indents, true⟩ : BlockState).lexer (index + 1 + count) (line + 1)) := by
  refine .of_prepare ?_ ?_
  · have behind : (⟨next, count, all, indents, true⟩ : BlockState).lexer (index + 1 + count)
        (line + 1) = ⟨⟨spaces 0 ++ next, index + 1 + count, line + 1, count⟩,
          all.toArray, indents, [none], true⟩ := rfl
    rw [prepare_line token count optional passed, behind, prepare_spaces token]
    rfl
  · simp only [BlockState.lexer, List.length_cons, List.length_append]
    omega

/-- A scalar that was read up to the next token leaves no place for a key. -/
theorem LeadsTo.of_passed (token : startsToken next = true)
    (optional : key.any (·.required) = false) (passed : key.all (·.line < line) = true) :
    LeadsTo ⟨⟨next, index, line, column⟩, all.toArray, indents, [key], keyAllowed⟩
      ((⟨next, column, all, indents, keyAllowed⟩ : BlockState).lexer index line) := by
  refine .of_prepare ?_ (Nat.le_refl _)
  have prepared : ∀ keys : List (Option SimpleKey),
      prepare ⟨⟨spaces 0 ++ next, index, line, column⟩, all.toArray, indents, keys, keyAllowed⟩ =
        (dropStaleKeys ⟨⟨next, index, line, column⟩, all.toArray, indents, keys,
          keyAllowed⟩).map (·.closeBlocks (some column)) := prepare_spaces token 0
  have dropped := prepared [key]
  rw [dropStaleKeys_passed optional passed] at dropped
  exact dropped.trans (prepared [none]).symm

end Lexer

/-- Texts are written in one of four styles. -/
theorem styleOf_cases (text : List Char) :
    styleOf text = .plain ∨ (styleOf text = .singleQuoted ∨ styleOf text = .doubleQuoted) ∨
      styleOf text = .literal := by
  unfold styleOf
  repeat' split
  all_goals simp

theorem writeText_ne_nil (indent : Nat) (text : List Char) : writeText indent text ≠ [] := by
  rcases styleOf_cases text with plain | (single | double) | literal
  · obtain ⟨first, rest, rfl, -⟩ := words_cons (IsPlain.of_styleOf plain).words
    simp [writeText, plain]
  · simp [writeText, single]
  · simp [writeText, double]
  · simp [writeText, literal]

namespace BlockState

variable {next : List Char} {column count top : Nat} {tokens : List Token} {indents : List Nat}
  {keyAllowed : Bool}

theorem startsToken_plain {text : List Char} (starts : startsLikePlain text = true)
    (after : List Char) : startsToken (text ++ after) = true := by
  cases text with
  | nil => cases starts
  | cons first rest =>
      simp only [startsLikePlain, Bool.and_eq_true, Bool.not_eq_true', bne_iff_ne] at starts
      have noComment : first ≠ '#' := by
        rintro rfl
        exact absurd starts.1.2 (by decide)
      simp [startsToken, starts.1.1.1, starts.1.1.2, noComment]

/-- A token that is indented more than the innermost collection is one step. -/
theorem leadsTo_token {rest : List Char} (token : startsToken rest = true) (inside : top < column)
    {index line : Nat} {later : Lexer}
    (read : Lexer.readHere ⟨⟨rest, index, line, column⟩, tokens.toArray, top :: indents, [none],
      keyAllowed⟩ = .ok later) (shorter : later.cursor.rest.length < rest.length) :
    ((⟨rest, column, tokens, top :: indents, keyAllowed⟩ : BlockState).lexer index
      line).LeadsTo later := by
  have behind : (top :: indents).head?.all (· ≤ column) = true := by
    simpa using Nat.le_of_lt inside
  exact .of_readHere (Lexer.prepare_settled token behind)
    (fun start => absurd (show column = 0 from start) (by omega)) read shorter

/-- A plain scalar at the end of its line. -/
theorem reaches_plain {text : List Char} (plain : IsPlain text) (token : startsToken next = true)
    (inside : top < column) (outside : count ≤ top) :
    Reaches ⟨text ++ '\n' :: (spaces count ++ next), column, tokens, top :: indents, keyAllowed⟩
      ⟨next, count, tokens ++ [.scalar .plain text], top :: indents, true⟩ := by
  intro index line
  refine ⟨index + text.length + 1 + count, line + 1, ?_⟩
  have read : readPlain false (top + 1)
      ⟨text ++ '\n' :: (spaces count ++ next), index, line, column⟩ =
      .ok ⟨text, true, ⟨next, index + text.length + 1 + count, line + 1, count⟩⟩ :=
    plain.read_line token (by omega) (by omega)
  refine (leadsTo_token (startsToken_plain plain.starts _) inside
    ((Lexer.readHere_plain plain.starts _).trans (Lexer.readPlainScalar_of_readPlain read))
    ?_).trans ?_
  · simp only [List.length_append, List.length_cons]
    omega
  · rw [List.push_toArray]
    exact .of_passed token (Lexer.place_optional inside)
      (Lexer.place_passed (Nat.lt_succ_self line))

/-- Behind the last scalar, all collections are closed. -/
private theorem yields_last {key : Option SimpleKey} (optional : key.any (·.required) = false)
    {index line column : Nat} :
    Lexer.Yields ⟨⟨[], index, line, column⟩, tokens.toArray, top :: indents, [key], keyAllowed⟩
      (tokens ++ List.replicate (indents.length + 1) .blockEnd) :=
  Lexer.yields_end optional

/-- A plain scalar at the end of the text. -/
theorem ends_plain {text : List Char} (plain : IsPlain text) (inside : top < column) :
    Ends ⟨text, column, tokens, top :: indents, keyAllowed⟩
      (tokens ++ [.scalar .plain text] ++ List.replicate (indents.length + 1) .blockEnd) := by
  have ends : Ends ⟨text ++ [], column, tokens, top :: indents, keyAllowed⟩
      (tokens ++ [.scalar .plain text] ++ List.replicate (indents.length + 1) .blockEnd) := by
    intro index line
    have read : readPlain false (top + 1) ⟨text ++ [], index, line, column⟩ =
        .ok ⟨text, false, ⟨[], index + text.length, line, column + text.length⟩⟩ := by
      rw [List.append_nil]
      exact plain.read_end (by omega)
    have nonempty : 0 < (text ++ []).length := by
      obtain ⟨first, rest, rfl, -⟩ := words_cons plain.words
      simp
    refine (leadsTo_token (startsToken_plain plain.starts _) inside
      ((Lexer.readHere_plain plain.starts _).trans (Lexer.readPlainScalar_of_readPlain read))
      nonempty).yields ?_
    rw [List.push_toArray]
    exact yields_last (Lexer.place_optional inside)
  rwa [List.append_nil] at ends

/-- A text in quotes is read up to its closing quote, on one line if it has no line breaks. -/
private theorem readQuoted_written (parent index line column : Nat) {text after : List Char}
    (quoted : styleOf text = .singleQuoted ∨ styleOf text = .doubleQuoted)
    (closes : after.head? ≠ some '\'') :
    ∃ line' column', line ≤ line' ∧
      ((∀ character ∈ text, isBreak character = false) →
        line' = line ∧ column' = column + (writeText (parent + 2) text).length) ∧
      readQuoted (decide (styleOf text = .singleQuoted))
          ⟨writeText (parent + 2) text ++ after, index, line, column⟩ =
        .ok (text, ⟨after, index + (writeText (parent + 2) text).length, line', column'⟩) := by
  rcases quoted with single | double
  · have shown : writeText (parent + 2) text ++ after =
        '\'' :: (singleQuotedText (parent + 2) false text ++ '\'' :: after) := by
      simp [writeText, single]
    have length : (writeText (parent + 2) text).length =
        (singleQuotedText (parent + 2) false text).length + 2 := by
      simp [writeText, single]
    obtain ⟨column', farther, read⟩ : ∃ column',
        ((∀ character ∈ text, isBreak character = false) →
          column' = column + (writeText (parent + 2) text).length) ∧
        readQuoted true ⟨writeText (parent + 2) text ++ after, index, line, column⟩ =
          .ok (text, ⟨after, index + (writeText (parent + 2) text).length,
            line + (text.filter isBreak).length, column'⟩) := by
      rw [shown, length]
      exact readQuoted_single (Nat.succ_pos (parent + 1)) (IsSingleQuotable.of_styleOf single)
        closes
    rw [decide_eq_true single]
    refine ⟨_, column', Nat.le_add_right line _, fun onLine => ⟨?_, farther onLine⟩, read⟩
    have none : text.filter isBreak = [] :=
      List.filter_eq_nil_iff.mpr fun character member => by simp [onLine character member]
    rw [none]
    rfl
  · have shown : writeText (parent + 2) text ++ after =
        '"' :: (text.flatMap doubleQuotedCharacter ++ '"' :: after) := by
      simp [writeText, double]
    have length : (writeText (parent + 2) text).length =
        (text.flatMap doubleQuotedCharacter).length + 2 := by
      simp only [writeText, double, List.length_cons, List.length_append, List.length_nil]
    have noSingle : decide (styleOf text = .singleQuoted) = false := by simp [double]
    refine ⟨line, column + (writeText (parent + 2) text).length, Nat.le_refl line,
      fun _ => ⟨rfl, rfl⟩, ?_⟩
    rw [noSingle, shown, length, readQuoted_double]
    rfl

/-- The token of a text in quotes is a quoted scalar. -/
private theorem readHere_quote {indent index line column : Nat} {tokens : Array Token}
    {indents : List Nat} {keyAllowed : Bool} {text : List Char}
    (quoted : styleOf text = .singleQuoted ∨ styleOf text = .doubleQuoted) (after : List Char) :
    Lexer.readHere ⟨⟨writeText indent text ++ after, index, line, column⟩, tokens, indents, [none],
        keyAllowed⟩ =
      Lexer.readQuotedScalar ⟨⟨writeText indent text ++ after, index, line, column⟩, tokens,
        indents, [none], keyAllowed⟩ (decide (styleOf text = .singleQuoted)) := by
  rcases quoted with single | double
  · have shown : writeText indent text ++ after =
        '\'' :: (singleQuotedText indent false text ++ '\'' :: after) := by
      simp [writeText, single]
    rw [shown, decide_eq_true single]
    rfl
  · have shown : writeText indent text ++ after =
        '"' :: (text.flatMap doubleQuotedCharacter ++ '"' :: after) := by
      simp [writeText, double]
    have noSingle : decide (styleOf text = .singleQuoted) = false := by simp [double]
    rw [shown, noSingle]
    rfl

/-- A text in quotes is a token up to its closing quote. -/
theorem readHere_quoted (parent index line column : Nat) (tokens : List Token)
    (indents : List Nat) (keyAllowed : Bool) {text after : List Char}
    (quoted : styleOf text = .singleQuoted ∨ styleOf text = .doubleQuoted)
    (closes : after.head? ≠ some '\'') :
    ∃ line' column', line ≤ line' ∧
      ((∀ character ∈ text, isBreak character = false) →
        line' = line ∧ column' = column + (writeText (parent + 2) text).length) ∧
      Lexer.readHere ⟨⟨writeText (parent + 2) text ++ after, index, line, column⟩, tokens.toArray,
          indents, [none], keyAllowed⟩ =
        .ok ⟨⟨after, index + (writeText (parent + 2) text).length, line', column'⟩,
          (tokens ++ [Token.scalar (styleOf text) text]).toArray, indents,
          [Lexer.place ⟨⟨writeText (parent + 2) text ++ after, index, line, column⟩, tokens.toArray,
            indents, [none], keyAllowed⟩], false⟩ := by
  obtain ⟨line', column', below, onLine, read⟩ :=
    readQuoted_written parent index line column quoted closes
  refine ⟨line', column', below, onLine, ?_⟩
  rw [readHere_quote quoted, Lexer.readQuotedScalar_of_readQuoted read, List.push_toArray]
  rcases quoted with style | style
  · rw [style]
    rfl
  · rw [style]
    rfl

theorem startsToken_quoted {text : List Char}
    (quoted : styleOf text = .singleQuoted ∨ styleOf text = .doubleQuoted) (indent : Nat)
    (after : List Char) : startsToken (writeText indent text ++ after) = true := by
  rcases quoted with single | double
  · have shown : writeText indent text ++ after =
        '\'' :: (singleQuotedText indent false text ++ ['\''] ++ after) := by
      simp [writeText, single]
    rw [shown]
    rfl
  · have shown : writeText indent text ++ after =
        '"' :: (text.flatMap doubleQuotedCharacter ++ ['"'] ++ after) := by
      simp [writeText, double]
    rw [shown]
    rfl

/-- A text in quotes at the end of its line. -/
private theorem reaches_quoted {text : List Char}
    (quoted : styleOf text = .singleQuoted ∨ styleOf text = .doubleQuoted)
    (token : startsToken next = true) (inside : top < column) :
    Reaches ⟨writeText (top + 2) text ++ '\n' :: (spaces count ++ next), column, tokens,
        top :: indents, keyAllowed⟩
      ⟨next, count, tokens ++ [.scalar (styleOf text) text], top :: indents, true⟩ := by
  intro index line
  have noQuote : ('\n' :: (spaces count ++ next)).head? ≠ some '\'' := by simp
  obtain ⟨line', column', below, -, read⟩ :=
    readHere_quoted top index line column tokens (top :: indents) keyAllowed quoted noQuote
  have nonempty := List.length_pos_iff.mpr (writeText_ne_nil (top + 2) text)
  refine ⟨_, _, (leadsTo_token (startsToken_quoted quoted _ _) inside read ?_).trans
    (.of_line token (Lexer.place_optional inside) (Lexer.place_line below))⟩
  rw [List.length_append]
  dsimp only
  omega

/-- A literal text is followed by the next line. -/
private theorem reaches_literal {text : List Char} (style : styleOf text = .literal)
    (token : startsToken next = true) (inside : top < column) (outside : count ≤ top) :
    Reaches ⟨writeText (top + 2) text ++ (lineEnd text ++ (spaces count ++ next)), column, tokens,
        top :: indents, keyAllowed⟩
      ⟨next, count, tokens ++ [.scalar (styleOf text) text], top :: indents, true⟩ := by
  intro index line
  have shown : writeText (top + 2) text ++ (lineEnd text ++ (spaces count ++ next)) =
      '|' :: (literalHint text ++ '\n' :: (literalLines (top + 2) true text ++
        ((if text.getLast?.any isBreak then [] else ['\n']) ++ (spaces count ++ next)))) := by
    simp [writeText, lineEnd, style]
  obtain ⟨after, atNext, below, atColumn, read⟩ := readBlock_line index line column
    (.of_styleOf style) token outside
  obtain ⟨rest, index', line', column'⟩ := after
  obtain rfl := atNext
  obtain rfl := atColumn
  refine ⟨index', line', (leadsTo_token ?_ inside ?_ ?_)⟩
  · rw [shown]
    rfl
  · rw [shown, style, Lexer.readHere_literal read, List.push_toArray]
    rfl
  · rw [shown]
    simp only [lexer, List.length_cons, List.length_append]
    omega

/-- A text in its style at the end of its line. -/
theorem reaches_text {text : List Char} (token : startsToken next = true) (inside : top < column)
    (outside : count ≤ top) :
    Reaches ⟨writeText (top + 2) text ++ (lineEnd text ++ (spaces count ++ next)), column, tokens,
        top :: indents, keyAllowed⟩
      ⟨next, count, tokens ++ [.scalar (styleOf text) text], top :: indents, true⟩ := by
  by_cases literal : styleOf text = .literal
  · exact reaches_literal literal token inside outside
  have line : lineEnd text ++ (spaces count ++ next) = '\n' :: (spaces count ++ next) := by
    simp [lineEnd, literal]
  rw [line]
  rcases styleOf_cases text with plain | quoted | same
  · have shown : writeText (top + 2) text = text := by simp [writeText, plain]
    rw [shown, plain]
    exact reaches_plain (.of_styleOf plain) token inside outside
  · exact reaches_quoted quoted token inside
  · exact absurd same literal

end BlockState

end ReleaseRules.Yaml
