import ReleaseRules.Proofs.Yaml.Characters
import ReleaseRules.Yaml.Lexer

/-!
Contract: states between the tokens of block collections, and how one leads to another.

Owns:
- what happens in front of every token, from spaces to closed collections;
- states between two tokens, and the relation of a state to later ones;
- states whose tokens are known up to the end of the text.

Does not own: the tokens themselves.
-/

namespace ReleaseRules.Yaml

variable {next : List Char} {index line column : Nat} {tokens : Array Token}
  {indents : List Nat} {keyAllowed : Bool}

namespace Cursor

theorem skipOrderMark_of_startsToken (token : startsToken next = true) :
    (⟨next, index, line, column⟩ : Cursor).skipOrderMark = ⟨next, index, line, column⟩ := by
  have apart : next.head?.any (· == '\uFEFF') = false :=
    startsToken_head token fun character same => Or.inr (Or.inr (by simpa using same))
  have noMark : (next.head? == some '\uFEFF') = false := by
    cases next with
    | nil => rfl
    | cons character others => simpa using apart
  simp only [skipOrderMark, noMark, Bool.and_false, Bool.false_eq_true, if_false]

theorem skipComment_of_startsToken (token : startsToken next = true) :
    (⟨next, index, line, column⟩ : Cursor).skipComment = ⟨next, index, line, column⟩ := by
  have apart : next.head?.any (· == '#') = false :=
    startsToken_head token fun character same => Or.inr (Or.inl (by simpa using same))
  rw [skipComment]
  split
  · rename_i same
    have here : next = '#' :: _ := same
    rw [here] at apart
    simp at apart
  · rfl

end Cursor

namespace Lexer

/-! ## In front of a token -/

/-- What happens in front of every token. -/
def prepare (lexer : Lexer) : Except ReadError Lexer := do
  let lexer ← (lexer.skipToToken (lexer.cursor.rest.length + 1)).dropStaleKeys
  return lexer.closeBlocks (some lexer.cursor.column)

/-- Read a token in front of which nothing is left to do, and all tokens behind it. -/
def readPrepared (budget : Nat) (lexer : Lexer) : Except ReadError (Array Token) :=
  match lexer.cursor.rest with
  | [] => do
      let lexer ← (lexer.closeBlocks none).dropKey
      return lexer.tokens
  | character :: after => do
      let lexer ←
        if lexer.cursor.column == 0 && character == '%' then lexer.readDirectiveLine
        else if lexer.cursor.atDocumentMark '-' then lexer.readDocumentMark .documentStart
        else if lexer.cursor.atDocumentMark '.' then lexer.readDocumentMark .documentEnd
        else lexer.readInner character after
      readTokens budget lexer

theorem readTokens_succ (budget : Nat) (lexer : Lexer) :
    readTokens (budget + 1) lexer = lexer.prepare >>= readPrepared budget := by
  rw [readTokens, prepare]
  simp only [bind, Except.bind, pure, Except.pure]
  cases (lexer.skipToToken (lexer.cursor.rest.length + 1)).dropStaleKeys <;> rfl

/-- States that are alike in front of their next token have the same tokens. -/
theorem readTokens_of_prepare {lexer other : Lexer} (alike : lexer.prepare = other.prepare)
    (budget : Nat) : readTokens budget lexer = readTokens budget other := by
  cases budget with
  | zero => rfl
  | succ budget => rw [readTokens_succ, readTokens_succ, alike]

theorem skipToToken_spaces (token : startsToken next = true) (count budget : Nat)
    (keys : List (Option SimpleKey)) :
    skipToToken (budget + 1)
        ⟨⟨spaces count ++ next, index, line, column⟩, tokens, indents, keys, keyAllowed⟩ =
      ⟨⟨next, index + count, line, column + count⟩, tokens, indents, keys, keyAllowed⟩ := by
  have noOrderMark : (⟨spaces count ++ next, index, line, column⟩ : Cursor).skipOrderMark =
      ⟨spaces count ++ next, index, line, column⟩ := by
    cases count with
    | zero => exact Cursor.skipOrderMark_of_startsToken token
    | succ count => simp [Cursor.skipOrderMark, spaces, List.replicate_succ]
  have skipped : ∀ tabs : Bool,
      (⟨spaces count ++ next, index, line, column⟩ : Cursor).skipWhile
        (fun character => decide (character = ' ') || (tabs && decide (character = '\t'))) =
      ⟨next, index + count, line, column + count⟩ := by
    intro tabs
    have length : (spaces count).length = count := List.length_replicate
    have stops : next.head?.any (fun character => decide (character = ' ') ||
        (tabs && decide (character = '\t'))) = false :=
      startsToken_head token fun character passed => by
        refine Or.inl ?_
        simp only [Bool.or_eq_true, Bool.and_eq_true, decide_eq_true_eq] at passed
        rcases passed with rfl | ⟨-, rfl⟩ <;> decide
    rw [Cursor.skipWhile_append (fun character member => by
      simp [(List.mem_replicate.mp member).2]) stops, length]
  have noBreak : next.head?.any isBreak = false :=
    (not_blank_of_visible (visible_of_startsToken token)).2
  rw [skipToToken]
  simp only [noOrderMark, skipped, Cursor.skipComment_of_startsToken token, Cursor.atBreak, noBreak,
    Bool.false_eq_true, if_false, moveTo]

theorem skipToToken_line (token : startsToken next = true) (count budget : Nat)
    (keys : List (Option SimpleKey)) :
    skipToToken (budget + 2)
        ⟨⟨'\n' :: (spaces count ++ next), index, line, column⟩, tokens, indents, keys, keyAllowed⟩ =
      ⟨⟨next, index + 1 + count, line + 1, count⟩, tokens, indents, keys,
        keyAllowed || !decide (1 < keys.length)⟩ := by
  have noOrderMark : (⟨'\n' :: (spaces count ++ next), index, line, column⟩ :
      Cursor).skipOrderMark = ⟨'\n' :: (spaces count ++ next), index, line, column⟩ := by
    simp [Cursor.skipOrderMark]
  have skipped : ∀ tabs : Bool,
      (⟨'\n' :: (spaces count ++ next), index, line, column⟩ : Cursor).skipWhile
        (fun character => decide (character = ' ') || (tabs && decide (character = '\t'))) =
      ⟨'\n' :: (spaces count ++ next), index, line, column⟩ := by
    intro tabs
    simp [Cursor.skipWhile, Cursor.skip]
  have broken : (⟨'\n' :: (spaces count ++ next), index, line, column⟩ : Cursor).takeBreak.2 =
      ⟨spaces count ++ next, index + 1, line + 1, 0⟩ := rfl
  have breaks : (⟨'\n' :: (spaces count ++ next), index, line, column⟩ : Cursor).atBreak = true :=
    rfl
  have noComment : (⟨'\n' :: (spaces count ++ next), index, line, column⟩ : Cursor).skipComment =
    ⟨'\n' :: (spaces count ++ next), index, line, column⟩ := rfl
  rw [skipToToken]
  simp only [noOrderMark, skipped, noComment, breaks, if_true, broken]
  rw [skipToToken_spaces token, Nat.zero_add]
  rfl

theorem dropStaleKeys_none {cursor : Cursor} :
    dropStaleKeys ⟨cursor, tokens, indents, [none], keyAllowed⟩ =
      .ok ⟨cursor, tokens, indents, [none], keyAllowed⟩ := rfl

/-- A key stays where its colon may still come. -/
theorem dropStaleKeys_kept {cursor : Cursor} {key : SimpleKey}
    (kept : SimpleKey.isStale key cursor = false) :
    dropStaleKeys ⟨cursor, tokens, indents, [some key], keyAllowed⟩ =
      .ok ⟨cursor, tokens, indents, [some key], keyAllowed⟩ := by
  simp [dropStaleKeys, kept]

/-- A key that is not required goes with its line. -/
theorem dropStaleKeys_passed {cursor : Cursor} {key : Option SimpleKey}
    (optional : key.any (·.required) = false) (passed : key.all (·.line < cursor.line) = true) :
    dropStaleKeys ⟨cursor, tokens, indents, [key], keyAllowed⟩ =
      .ok ⟨cursor, tokens, indents, [none], keyAllowed⟩ := by
  cases key with
  | none => rfl
  | some key =>
      have free : key.required = false := optional
      have stale : SimpleKey.isStale key cursor = true := by
        simp only [Option.all_some, decide_eq_true_eq] at passed
        simp [SimpleKey.isStale, passed]
      simp [dropStaleKeys, free, stale]

theorem prepare_spaces (token : startsToken next = true) (count : Nat)
    (keys : List (Option SimpleKey)) :
    prepare ⟨⟨spaces count ++ next, index, line, column⟩, tokens, indents, keys, keyAllowed⟩ =
      (dropStaleKeys ⟨⟨next, index + count, line, column + count⟩, tokens, indents, keys,
        keyAllowed⟩).map (·.closeBlocks (some (column + count))) := by
  rw [prepare, skipToToken_spaces token]
  simp only [dropStaleKeys]
  split <;> rfl

/-- Behind the end of a line, a key may start. -/
theorem prepare_line (token : startsToken next = true) (count : Nat)
    {key : Option SimpleKey} (optional : key.any (·.required) = false)
    (passed : key.all (·.line ≤ line) = true) :
    prepare ⟨⟨'\n' :: (spaces count ++ next), index, line, column⟩, tokens, indents, [key],
        keyAllowed⟩ =
      .ok (closeBlocks ⟨⟨next, index + 1 + count, line + 1, count⟩, tokens, indents, [none], true⟩
        (some count)) := by
  have behind : key.all (·.line < line + 1) = true := by
    cases key with
    | none => rfl
    | some key => simpa [Nat.lt_succ_iff] using passed
  have split : ('\n' :: (spaces count ++ next)).length + 1 =
      (spaces count ++ next).length + 2 := rfl
  have allowed : (keyAllowed || !decide (1 < [key].length)) = true := by simp
  rw [prepare]
  dsimp only
  rw [split, skipToToken_line token, allowed, dropStaleKeys_passed optional behind]
  rfl

/-- Nothing is closed where the innermost collection is not indented more. -/
theorem closeBlocks_inside {cursor : Cursor} {keys : List (Option SimpleKey)}
    (inside : indents.head?.all (· ≤ column) = true) :
    closeBlocks ⟨cursor, tokens, indents, keys, keyAllowed⟩ (some column) =
      ⟨cursor, tokens, indents, keys, keyAllowed⟩ := by
  rw [closeBlocks]
  split
  · rfl
  · cases indents with
    | nil => simp
    | cons top outer =>
        have noMore : ¬ column < top := by simpa using inside
        simp [noMore]

private theorem append_replicate_succ (token : Token) (count : Nat) :
    tokens ++ Array.replicate (count + 1) token =
      tokens.push token ++ Array.replicate count token := by
  apply Array.ext'
  simp [List.replicate_succ]

/-- The innermost collection is closed in front of a column that it does not reach. -/
theorem closeBlocks_outside {cursor : Cursor} {top : Nat} {key : Option SimpleKey}
    (outside : column < top) :
    closeBlocks ⟨cursor, tokens, top :: indents, [key], keyAllowed⟩ (some column) =
      closeBlocks ⟨cursor, tokens.push .blockEnd, indents, [key], keyAllowed⟩ (some column) := by
  have inBlock : ∀ (tokens : Array Token) (indents : List Nat),
      inFlow ⟨cursor, tokens, indents, [key], keyAllowed⟩ = false := fun _ _ => rfl
  have shorter : (indents.dropWhile fun indent => decide (column < indent)).length ≤
      indents.length := (List.dropWhile_sublist _).length_le
  have count : (top :: indents).length -
        (indents.dropWhile fun indent => decide (column < indent)).length =
      indents.length - (indents.dropWhile fun indent => decide (column < indent)).length + 1 := by
    rw [List.length_cons]
    omega
  have dropped : (top :: indents).dropWhile (fun indent => decide (column < indent)) =
      indents.dropWhile fun indent => decide (column < indent) := by
    rw [List.dropWhile_cons_of_pos (by simpa using outside)]
  simp only [closeBlocks, inBlock, Bool.false_eq_true, if_false, dropped, count,
    append_replicate_succ]

theorem closeBlocks_all {cursor : Cursor} {key : Option SimpleKey} :
    closeBlocks ⟨cursor, tokens, indents, [key], keyAllowed⟩ none =
      ⟨cursor, tokens ++ Array.replicate indents.length .blockEnd, [], [key], keyAllowed⟩ := by
  have inBlock : inFlow ⟨cursor, tokens, indents, [key], keyAllowed⟩ = false := rfl
  have dropped : indents.dropWhile (fun _ => true) = [] := by
    cases shown : indents.dropWhile (fun _ => true) with
    | nil => rfl
    | cons top outer =>
        have stops := List.head?_dropWhile_not (fun _ => true) indents
        rw [shown] at stops
        cases stops
  simp only [closeBlocks, inBlock, Bool.false_eq_true, if_false, dropped, List.length_nil,
    Nat.sub_zero]

/-- At the end, all collections are closed, from whatever column on. -/
theorem closeBlocks_twice {cursor : Cursor} {key : Option SimpleKey} (column : Nat) :
    closeBlocks (closeBlocks ⟨cursor, tokens, indents, [key], keyAllowed⟩ (some column)) none =
      closeBlocks ⟨cursor, tokens, indents, [key], keyAllowed⟩ none := by
  induction indents generalizing tokens with
  | nil => rw [closeBlocks_inside rfl]
  | cons top outer inductionHypothesis =>
      by_cases outside : column < top
      · rw [closeBlocks_outside outside, inductionHypothesis, closeBlocks_all, closeBlocks_all,
          List.length_cons, append_replicate_succ]
      · rw [closeBlocks_inside (by simpa using outside)]

theorem prepare_settled (token : startsToken next = true)
    (inside : indents.head?.all (· ≤ column) = true) :
    prepare ⟨⟨next, index, line, column⟩, tokens, indents, [none], keyAllowed⟩ =
      .ok ⟨⟨next, index, line, column⟩, tokens, indents, [none], keyAllowed⟩ := by
  have same : prepare ⟨⟨spaces 0 ++ next, index, line, column⟩, tokens, indents, [none],
      keyAllowed⟩ = .ok (closeBlocks ⟨⟨next, index, line, column⟩, tokens, indents, [none],
        keyAllowed⟩ (some column)) := by
    rw [prepare_spaces token, dropStaleKeys_none]
    rfl
  rw [closeBlocks_inside inside] at same
  exact same

/-! ## Steps -/

/-- Whether reading from a state is reading from a later one. Every token that is read in
between has a character of its own. -/
def LeadsTo (lexer later : Lexer) : Prop :=
  ∃ steps, steps + later.cursor.rest.length ≤ lexer.cursor.rest.length ∧
    ∀ budget, readTokens (budget + steps) lexer = readTokens budget later

/-- Whether these are all tokens up to the end of the text. -/
def Yields (lexer : Lexer) (all : List Token) : Prop :=
  ∀ budget, lexer.cursor.rest.length < budget → readTokens budget lexer = .ok all.toArray

theorem LeadsTo.trans {lexer middle later : Lexer} (first : lexer.LeadsTo middle)
    (second : middle.LeadsTo later) : lexer.LeadsTo later := by
  obtain ⟨steps, shorter, read⟩ := first
  obtain ⟨more, shorterStill, readMore⟩ := second
  refine ⟨more + steps, by omega, fun budget => ?_⟩
  rw [← Nat.add_assoc, read, readMore]

theorem LeadsTo.yields {lexer later : Lexer} {all : List Token} (leads : lexer.LeadsTo later)
    (yields : later.Yields all) : lexer.Yields all := by
  intro budget enough
  obtain ⟨steps, shorter, read⟩ := leads
  obtain ⟨left, rfl⟩ : ∃ left, budget = left + steps := ⟨budget - steps, by omega⟩
  rw [read]
  exact yields left (by omega)

/-- What happens in front of a token takes no step. -/
theorem LeadsTo.of_prepare {lexer later : Lexer} (alike : lexer.prepare = later.prepare)
    (shorter : later.cursor.rest.length ≤ lexer.cursor.rest.length) : lexer.LeadsTo later :=
  ⟨0, by omega, readTokens_of_prepare alike⟩

/-- Whether a text at the start of a line is a directive or a mark of a document. -/
def startsMark (text : List Char) : Bool :=
  text.head? == some '%' || text.take 3 == ['-', '-', '-'] || text.take 3 == ['.', '.', '.']

/-- Read the token at the cursor, which is no mark of a document. -/
def readHere (lexer : Lexer) : Except ReadError Lexer :=
  match lexer.cursor.rest with
  | [] => .error .unexpectedEnd
  | character :: after => lexer.readInner character after

/-- A token that is no mark of a document is one step. -/
theorem LeadsTo.of_readHere {lexer ready later : Lexer} (prepared : lexer.prepare = .ok ready)
    (content : ready.cursor.column = 0 → startsMark ready.cursor.rest = false)
    (read : ready.readHere = .ok later)
    (shorter : later.cursor.rest.length < lexer.cursor.rest.length) : lexer.LeadsTo later := by
  refine ⟨1, by omega, fun budget => ?_⟩
  have noDirective : ready.cursor.column = 0 → ready.cursor.rest.head? ≠ some '%' := by
    intro start
    have noMark := content start
    simp only [startsMark, Bool.or_eq_false_iff, beq_eq_false_iff_ne] at noMark
    exact noMark.1.1
  have noMark : ∀ mark, mark = '-' ∨ mark = '.' → ready.cursor.atDocumentMark mark = false := by
    intro mark either
    by_cases start : ready.cursor.column = 0
    · have noMark := content start
      simp only [startsMark, Bool.or_eq_false_iff, beq_eq_false_iff_ne] at noMark
      have apart : ∀ others, ready.cursor.rest ≠ mark :: mark :: mark :: others := by
        rintro others same
        rw [same] at noMark
        rcases either with rfl | rfl
        · exact noMark.1.2 rfl
        · exact noMark.2 rfl
      rw [Cursor.atDocumentMark]
      rcases shown : ready.cursor.rest with _ | ⟨first, _ | ⟨second, _ | ⟨third, others⟩⟩⟩
      · simp
      · simp
      · simp
      · refine Bool.eq_false_iff.mpr fun marks => ?_
        simp only [Bool.and_eq_true, beq_iff_eq] at marks
        obtain ⟨-, ⟨⟨rfl, rfl⟩, rfl⟩, -⟩ := marks
        exact apart others shown
    · simp [Cursor.atDocumentMark, start]
  rw [readTokens_succ, prepared]
  rw [readHere] at read
  split at read
  · cases read
  · rename_i character after here
    have noPercent : (ready.cursor.column == 0 && character == '%') = false := by
      rw [here] at noDirective
      simpa using noDirective
    simp only [bind, Except.bind, readPrepared, here, noPercent, noMark '-' (Or.inl rfl),
      noMark '.' (Or.inr rfl), read, Bool.false_eq_true, if_false]

theorem cursor_closeBlocks (lexer : Lexer) (column : Option Nat) :
    (lexer.closeBlocks column).cursor = lexer.cursor := by
  rw [closeBlocks]
  split <;> rfl

/-- At the end of the text, all collections are closed. -/
theorem yields_end {tokens : List Token} {key : Option SimpleKey}
    (optional : key.any (·.required) = false) :
    Yields ⟨⟨[], index, line, column⟩, tokens.toArray, indents, [key], keyAllowed⟩
      (tokens ++ List.replicate indents.length .blockEnd) := by
  intro budget enough
  obtain ⟨fuel, rfl⟩ : ∃ fuel, budget = fuel + 1 := ⟨budget - 1, by omega⟩
  obtain ⟨kept, free, dropped⟩ : ∃ kept : Option SimpleKey, kept.any (·.required) = false ∧
      dropStaleKeys ⟨⟨[], index, line, column⟩, tokens.toArray, indents, [key], keyAllowed⟩ =
        .ok ⟨⟨[], index, line, column⟩, tokens.toArray, indents, [kept], keyAllowed⟩ := by
    cases key with
    | none => exact ⟨none, rfl, rfl⟩
    | some key =>
        have free : key.required = false := optional
        cases stale : SimpleKey.isStale key ⟨[], index, line, column⟩ with
        | false => exact ⟨some key, free, dropStaleKeys_kept stale⟩
        | true => exact ⟨none, rfl, by simp [dropStaleKeys, free, stale]⟩
  have prepared : prepare ⟨⟨spaces 0 ++ [], index, line, column⟩, tokens.toArray, indents, [key],
      keyAllowed⟩ = .ok (closeBlocks ⟨⟨[], index, line, column⟩, tokens.toArray, indents, [kept],
        keyAllowed⟩ (some column)) := by
    rw [prepare_spaces rfl]
    simp only [Nat.add_zero, dropped]
    rfl
  have optionalKey : dropKey ⟨⟨[], index, line, column⟩,
      tokens.toArray ++ Array.replicate indents.length .blockEnd, [], [kept], keyAllowed⟩ =
      .ok ⟨⟨[], index, line, column⟩,
        tokens.toArray ++ Array.replicate indents.length .blockEnd, [], [none], keyAllowed⟩ := by
    cases kept with
    | none => rfl
    | some kept =>
        have free : kept.required = false := free
        simp [dropKey, free]
  have read := readTokens_succ fuel
    ⟨⟨spaces 0 ++ [], index, line, column⟩, tokens.toArray, indents, [key], keyAllowed⟩
  rw [prepared] at read
  refine read.trans ?_
  simp only [bind, Except.bind, readPrepared, cursor_closeBlocks, closeBlocks_twice,
    closeBlocks_all, optionalKey, pure, Except.pure]
  simp

end Lexer

/-! ## States of block collections -/

/-- State between two tokens of block collections: the text ahead and its column, the tokens so
far, the columns of the open collections, the innermost first, and whether a key may start. -/
structure BlockState where
  rest : List Char
  column : Nat
  tokens : List Token
  indents : List Nat
  keyAllowed : Bool

namespace BlockState

/-- A state at an index and a line. -/
def lexer (state : BlockState) (index line : Nat) : Lexer :=
  ⟨⟨state.rest, index, line, state.column⟩, state.tokens.toArray, state.indents, [none],
    state.keyAllowed⟩

/-- Whether a state leads to a later one, wherever it is in the text. -/
def Reaches (state later : BlockState) : Prop :=
  ∀ index line, ∃ index' line', (state.lexer index line).LeadsTo (later.lexer index' line')

/-- Whether these are all tokens up to the end of the text. -/
def Ends (state : BlockState) (all : List Token) : Prop :=
  ∀ index line, (state.lexer index line).Yields all

theorem Reaches.trans {state middle later : BlockState} (first : state.Reaches middle)
    (second : middle.Reaches later) : state.Reaches later := by
  intro index line
  obtain ⟨index', line', leads⟩ := first index line
  obtain ⟨index'', line'', leadsOn⟩ := second index' line'
  exact ⟨index'', line'', leads.trans leadsOn⟩

theorem Reaches.ends {state later : BlockState} {all : List Token} (reaches : state.Reaches later)
    (ends : later.Ends all) : state.Ends all := by
  intro index line
  obtain ⟨index', line', leads⟩ := reaches index line
  exact leads.yields (ends index' line')

section Gaps

variable {rest : List Char} {column : Nat} {tokens : List Token} {indents : List Nat}
  {keyAllowed : Bool}

/-- Spaces are stepped over. -/
theorem reaches_spaces (token : startsToken rest = true) (count : Nat) :
    Reaches ⟨spaces count ++ rest, column, tokens, indents, keyAllowed⟩
      ⟨rest, column + count, tokens, indents, keyAllowed⟩ := by
  intro index line
  refine ⟨index + count, line, Lexer.LeadsTo.of_prepare ?_ ?_⟩
  · have behind : (⟨rest, column + count, tokens, indents, keyAllowed⟩ : BlockState).lexer
        (index + count) line = ⟨⟨spaces 0 ++ rest, index + count, line, column + count⟩,
          tokens.toArray, indents, [none], keyAllowed⟩ := rfl
    rw [behind, Lexer.prepare_spaces token, lexer, Lexer.prepare_spaces token]
    rfl
  · simp [lexer]

/-- The end of a line and the indentation of the next one are stepped over. -/
theorem reaches_line (token : startsToken rest = true) (count : Nat) :
    Reaches ⟨'\n' :: (spaces count ++ rest), column, tokens, indents, keyAllowed⟩
      ⟨rest, count, tokens, indents, true⟩ := by
  intro index line
  refine ⟨index + 1 + count, line + 1, Lexer.LeadsTo.of_prepare ?_ ?_⟩
  · have behind : (⟨rest, count, tokens, indents, true⟩ : BlockState).lexer (index + 1 + count)
        (line + 1) = ⟨⟨spaces 0 ++ rest, index + 1 + count, line + 1, count⟩,
          tokens.toArray, indents, [none], true⟩ := rfl
    rw [behind, Lexer.prepare_spaces token, lexer, Lexer.prepare_line token count rfl rfl]
    rfl
  · simp only [lexer, List.length_cons, List.length_append]
    omega

/-- In front of a token that is indented less, the innermost collection is closed. -/
theorem reaches_close {top : Nat} (token : startsToken rest = true) (outside : column < top) :
    Reaches ⟨rest, column, tokens, top :: indents, keyAllowed⟩
      ⟨rest, column, tokens ++ [.blockEnd], indents, keyAllowed⟩ := by
  intro index line
  refine ⟨index, line, Lexer.LeadsTo.of_prepare ?_ (Nat.le_refl _)⟩
  have prepared : ∀ (tokens : Array Token) (indents : List Nat),
      Lexer.prepare ⟨⟨spaces 0 ++ rest, index, line, column⟩, tokens, indents, [none], keyAllowed⟩ =
        .ok (Lexer.closeBlocks ⟨⟨rest, index, line, column⟩, tokens, indents, [none], keyAllowed⟩
          (some column)) := by
    intro tokens indents
    rw [Lexer.prepare_spaces token, Lexer.dropStaleKeys_none]
    rfl
  have here := prepared tokens.toArray (top :: indents)
  rw [Lexer.closeBlocks_outside outside, List.push_toArray] at here
  exact here.trans (prepared (tokens ++ [Token.blockEnd]).toArray indents).symm

/-- At the end of the text, all collections are closed. -/
theorem ends_nil : Ends ⟨[], column, tokens, indents, keyAllowed⟩
    (tokens ++ List.replicate indents.length .blockEnd) := by
  intro index line
  exact Lexer.yields_end rfl

end Gaps

end BlockState

end ReleaseRules.Yaml
