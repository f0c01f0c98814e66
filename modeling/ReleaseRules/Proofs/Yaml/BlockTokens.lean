import ReleaseRules.Proofs.Yaml.ScalarTokens

/-!
Contract: the marks of written block collections.

Owns:
- collections that are opened by their first mark;
- dashes, question marks and colons;
- keys on one line with their colon, and empty collections.

Does not own: the order of the marks in a tree.
-/

namespace ReleaseRules.Yaml

/-! ## Marks -/

/-- The token of a collection that a mark at a column opens, if it does. -/
def opening (column : Nat) (start : Token) (indents : List Nat) : List Token :=
  if indents.head?.any (column ≤ ·) then [] else [start]

/-- The columns of the open collections behind a mark at a column. -/
def opened (column : Nat) (indents : List Nat) : List Nat :=
  if indents.head?.any (column ≤ ·) then indents else column :: indents

/-- The marks of a collection without items in flow style. -/
structure FlowMarks where
  opens : Char
  closes : Char
  start : Token
  finish : Token

/-- The marks of lists. -/
def FlowMarks.list : FlowMarks := ⟨'[', ']', .flowSequenceStart, .flowSequenceEnd⟩

/-- The marks of maps. -/
def FlowMarks.map : FlowMarks := ⟨'\x7b', '\x7d', .flowMappingStart, .flowMappingEnd⟩

namespace Lexer

variable {index line column : Nat} {tokens : List Token} {indents : List Nat}
  {keyAllowed : Bool}

private theorem insertIdx_length_append {α : Type} (front : List α) (value : α) (rest : List α) :
    (front ++ rest).insertIdx front.length value = front ++ value :: rest := by
  induction front with
  | nil => cases rest <;> rfl
  | cons first others inductionHypothesis => simp [inductionHypothesis]

theorem openBlock_block {cursor : Cursor} (column : Nat) (start : Token) (rest : List Token) :
    openBlock ⟨cursor, (tokens ++ rest).toArray, indents, [none], keyAllowed⟩ column tokens.length
        start =
      ⟨cursor, (tokens ++ opening column start indents ++ rest).toArray, opened column indents,
        [none], keyAllowed⟩ := by
  have inBlock : inFlow ⟨cursor, (tokens ++ rest).toArray, indents, [none], keyAllowed⟩ = false :=
    rfl
  by_cases inside : indents.head?.any (column ≤ ·) = true
  · simp [openBlock, inBlock, indent, inside, opening, opened]
  · simp only [openBlock, inBlock, indent, inside, opening, opened, Bool.false_or,
      Bool.false_eq_true, if_false, List.insertIdxIfInBounds_toArray, insertIdx_length_append]
    simp

/-- A mark at the cursor may open a collection behind all tokens so far. -/
theorem openBlock_last {cursor : Cursor} (start : Token) :
    openBlock ⟨cursor, tokens.toArray, indents, [none], keyAllowed⟩ cursor.column tokens.length
        start =
      ⟨cursor, (tokens ++ opening cursor.column start indents).toArray,
        opened cursor.column indents, [none], keyAllowed⟩ := by
  have all : openBlock ⟨cursor, (tokens ++ []).toArray, indents, [none], keyAllowed⟩ cursor.column
      tokens.length start = ⟨cursor, (tokens ++ opening cursor.column start indents ++ []).toArray,
        opened cursor.column indents, [none], keyAllowed⟩ :=
    openBlock_block cursor.column start []
  rwa [List.append_nil, List.append_nil] at all

theorem readBlockEntry_block {cursor : Cursor} :
    readBlockEntry ⟨cursor, tokens.toArray, indents, [none], true⟩ =
      .ok ⟨cursor.skip 1,
        (tokens ++ opening cursor.column .blockSequenceStart indents ++
          [Token.blockEntry]).toArray,
        opened cursor.column indents, [none], true⟩ := by
  have inBlock : inFlow ⟨cursor, tokens.toArray, indents, [none], true⟩ = false := rfl
  simp only [readBlockEntry, inBlock, Bool.not_true, Bool.and_false, Bool.false_eq_true, if_false,
    List.size_toArray, openBlock_last, dropKey, readMark, push, moveTo, bind, Except.bind, pure,
    Except.pure, List.push_toArray]

theorem readKeyMark_block {cursor : Cursor} :
    readKeyMark ⟨cursor, tokens.toArray, indents, [none], true⟩ =
      .ok ⟨cursor.skip 1,
        (tokens ++ opening cursor.column .blockMappingStart indents ++ [Token.key]).toArray,
        opened cursor.column indents, [none], true⟩ := by
  have inBlock : ∀ (tokens : List Token) (indents : List Nat),
      inFlow ⟨cursor, tokens.toArray, indents, [none], true⟩ = false := fun _ _ => rfl
  simp only [readKeyMark, inBlock, Bool.not_true, Bool.and_false, Bool.false_eq_true, if_false,
    List.size_toArray, openBlock_last, dropKey, readMark, push, moveTo, bind, Except.bind, pure,
    Except.pure, List.push_toArray, Bool.not_false]

theorem readValueMark_block {cursor : Cursor} :
    readValueMark ⟨cursor, tokens.toArray, indents, [none], true⟩ =
      .ok ⟨cursor.skip 1,
        (tokens ++ opening cursor.column .blockMappingStart indents ++ [Token.value]).toArray,
        opened cursor.column indents, [none], true⟩ := by
  have inBlock : ∀ (tokens : List Token) (indents : List Nat),
      inFlow ⟨cursor, tokens.toArray, indents, [none], true⟩ = false := fun _ _ => rfl
  simp only [readValueMark, inBlock, Bool.not_true, Bool.and_false, Bool.false_eq_true, if_false,
    List.size_toArray, openBlock_last, readMark, push, moveTo, List.push_toArray, Bool.not_false]

/-- A colon behind a simple key puts the token of the key in front of it. -/
theorem readValueMark_key {cursor : Cursor} {key : SimpleKey} {shown : Token}
    (place : key.token = tokens.length) :
    readValueMark ⟨cursor, (tokens ++ [shown]).toArray, indents, [some key], keyAllowed⟩ =
      .ok ⟨cursor.skip 1,
        (tokens ++ opening key.column .blockMappingStart indents ++
          [Token.key, shown, Token.value]).toArray,
        opened key.column indents, [none], false⟩ := by
  simp only [readValueMark, place, List.insertIdxIfInBounds_toArray, insertIdx_length_append,
    openBlock_block, readMark, push, moveTo, List.push_toArray, List.append_assoc,
    List.cons_append, List.nil_append]

end Lexer

namespace BlockState

variable {rest : List Char} {column : Nat} {tokens : List Token} {indents : List Nat}
  {keyAllowed : Bool}

/-- A mark at the start of a node and the space behind it. -/
theorem reaches_mark {mark : Char} {start shown : Token} (token : startsToken rest = true)
    (visible : startsToken (mark :: ' ' :: rest) = true)
    (content : Lexer.startsMark (mark :: ' ' :: rest) = false)
    (inside : indents.head?.all (· ≤ column) = true)
    (read : ∀ index line, Lexer.readHere ((⟨mark :: ' ' :: rest, column, tokens, indents, true⟩ :
        BlockState).lexer index line) =
      .ok ((⟨' ' :: rest, column + 1, tokens ++ opening column start indents ++ [shown],
        opened column indents, true⟩ : BlockState).lexer (index + 1) line)) :
    Reaches ⟨mark :: ' ' :: rest, column, tokens, indents, true⟩
      ⟨rest, column + 2, tokens ++ opening column start indents ++ [shown],
        opened column indents, true⟩ := by
  have spaced : Reaches ⟨mark :: ' ' :: rest, column, tokens, indents, true⟩
      ⟨spaces 1 ++ rest, column + 1, tokens ++ opening column start indents ++ [shown],
        opened column indents, true⟩ := by
    intro index line
    refine ⟨index + 1, line, .of_readHere (Lexer.prepare_settled visible inside)
      (fun _ => content) (read index line) ?_⟩
    simp [lexer, spaces]
  exact spaced.trans (reaches_spaces token 1)

/-- A dash in front of an item. -/
theorem reaches_dash (token : startsToken rest = true)
    (inside : indents.head?.all (· ≤ column) = true) :
    Reaches ⟨'-' :: ' ' :: rest, column, tokens, indents, true⟩
      ⟨rest, column + 2, tokens ++ opening column .blockSequenceStart indents ++ [.blockEntry],
        opened column indents, true⟩ := by
  refine reaches_mark token rfl rfl inside fun index line => ?_
  have mark : Lexer.readHere ((⟨'-' :: ' ' :: rest, column, tokens, indents, true⟩ :
      BlockState).lexer index line) = ((⟨'-' :: ' ' :: rest, column, tokens, indents, true⟩ :
      BlockState).lexer index line).readBlockEntry := rfl
  rw [mark, lexer, Lexer.readBlockEntry_block]
  rfl

/-- A question mark in front of a key that has a line of its own. -/
theorem reaches_question (token : startsToken rest = true)
    (inside : indents.head?.all (· ≤ column) = true) :
    Reaches ⟨'?' :: ' ' :: rest, column, tokens, indents, true⟩
      ⟨rest, column + 2, tokens ++ opening column .blockMappingStart indents ++ [.key],
        opened column indents, true⟩ := by
  refine reaches_mark token rfl rfl inside fun index line => ?_
  have mark : Lexer.readHere ((⟨'?' :: ' ' :: rest, column, tokens, indents, true⟩ :
      BlockState).lexer index line) = ((⟨'?' :: ' ' :: rest, column, tokens, indents, true⟩ :
      BlockState).lexer index line).readKeyMark := rfl
  rw [mark, lexer, Lexer.readKeyMark_block]
  rfl

/-- A colon at the start of a line, in front of the value of such a key. -/
theorem reaches_colon (token : startsToken rest = true)
    (inside : indents.head?.all (· ≤ column) = true) :
    Reaches ⟨':' :: ' ' :: rest, column, tokens, indents, true⟩
      ⟨rest, column + 2, tokens ++ opening column .blockMappingStart indents ++ [.value],
        opened column indents, true⟩ := by
  refine reaches_mark token rfl rfl inside fun index line => ?_
  have mark : Lexer.readHere ((⟨':' :: ' ' :: rest, column, tokens, indents, true⟩ :
      BlockState).lexer index line) = ((⟨':' :: ' ' :: rest, column, tokens, indents, true⟩ :
      BlockState).lexer index line).readValueMark := rfl
  rw [mark, lexer, Lexer.readValueMark_block]
  rfl

/-- Keys on one line start no document. -/
theorem startsMark_key {parent : Nat} {text : List Char} (literal : styleOf text ≠ .literal)
    (more : List Char) :
    Lexer.startsMark (writeText (parent + 2) text ++ ':' :: more) = false := by
  rcases styleOf_cases text with plain | quoted | same
  · have shown : writeText (parent + 2) text = text := by simp [writeText, plain]
    obtain ⟨-, starts, -, noStart, noEnd⟩ := IsPlain.of_styleOf plain
    rw [shown]
    cases text with
    | nil => cases starts
    | cons first others =>
        simp only [startsLikePlain, Bool.and_eq_true, Bool.not_eq_true', bne_iff_ne] at starts
        have noPercent : first ≠ '%' := by
          rintro rfl
          exact absurd starts.1.2 (by decide)
        rcases others with _ | ⟨second, _ | ⟨third, more⟩⟩
        · simp [Lexer.startsMark, noPercent]
        · simp [Lexer.startsMark, noPercent]
        · simpa [Lexer.startsMark, noPercent] using And.intro noStart noEnd
  · rcases quoted with single | double
    · simp [writeText, single, Lexer.startsMark]
    · simp [writeText, double, Lexer.startsMark]
  · exact absurd same literal

/-- A key on one line is read up to its colon. -/
theorem readHere_key (parent index line column : Nat) {tokens : List Token} {indents : List Nat}
    {text more : List Char} (onLine : ∀ character ∈ text, isBreak character = false)
    (separated : startsSeparated more = true)
    (inside : indents.head?.all (· ≤ column) = true) :
    Lexer.readHere ⟨⟨writeText (parent + 2) text ++ ':' :: more, index, line, column⟩,
        tokens.toArray, indents, [none], true⟩ =
      .ok ⟨⟨':' :: more, index + (writeText (parent + 2) text).length, line,
          column + (writeText (parent + 2) text).length⟩,
        (tokens ++ [Token.scalar (styleOf text) text]).toArray, indents,
        [some ⟨tokens.length, index, line, column, indents.head? == some column⟩], false⟩ := by
  rcases styleOf_cases text with plain | quoted | literal
  · have shown : writeText (parent + 2) text = text := by simp [writeText, plain]
    have least : (indents.head?.map (· + 1)).getD 0 ≤ column + 1 := by
      cases indents with
      | nil => exact Nat.zero_le _
      | cons top outer =>
          have within : top ≤ column := by simpa using inside
          exact Nat.succ_le_succ within
    have isPlain := IsPlain.of_styleOf plain
    rw [shown, Lexer.readHere_plain isPlain.starts,
      Lexer.readPlainScalar_of_readPlain (isPlain.read_key separated least), List.push_toArray,
      plain]
    rfl
  · obtain ⟨line', column', -, sameLine, read⟩ := readHere_quoted parent index line column tokens
      indents true quoted (show (':' :: more).head? ≠ some '\'' by simp)
    obtain ⟨rfl, rfl⟩ := sameLine onLine
    exact read
  · exact absurd (onLine '\n' (feed_of_literal literal)) (by decide)

theorem startsToken_text {text : List Char} (literal : styleOf text ≠ .literal) (indent : Nat)
    (after : List Char) : startsToken (writeText indent text ++ after) = true := by
  rcases styleOf_cases text with plain | quoted | same
  · have shown : writeText indent text = text := by simp [writeText, plain]
    rw [shown]
    exact startsToken_plain (IsPlain.of_styleOf plain).starts after
  · exact startsToken_quoted quoted indent after
  · exact absurd same literal

/-- Keys on one line are no longer than keys may be. -/
theorem length_key {key : String} (simple : isSimpleKey key = true) (indent : Nat) :
    (∀ character ∈ key.toList, isBreak character = false) ∧
      (writeText indent key.toList).length ≤ Lexer.keyLengthLimit := by
  simp only [isSimpleKey, Bool.and_eq_true, decide_eq_true_eq, Bool.not_eq_true'] at simple
  have onLine : ∀ character ∈ key.toList, isBreak character = false := fun character member => by
    simpa using List.any_eq_false.mp simple.2 character member
  have short := length_writeText indent onLine
  rw [String.ofList_toList] at short
  refine ⟨onLine, Nat.le_trans short ?_⟩
  have bytes := simple.1
  simp only [simpleKeyLimit] at bytes
  simp only [Lexer.keyLengthLimit]
  omega

/-- The colon behind a simple key. -/
private theorem leadsTo_value {index line : Nat} {key : SimpleKey} {shown : Token}
    {more : List Char} (separated : startsSeparated more = true)
    (inside : indents.head?.all (· ≤ column) = true) (place : key.token = tokens.length)
    (kept : Lexer.SimpleKey.isStale key ⟨':' :: more, index, line, column⟩ = false) :
    Lexer.LeadsTo ⟨⟨':' :: more, index, line, column⟩, (tokens ++ [shown]).toArray, indents,
        [some key], false⟩
      ((⟨more, column + 1, tokens ++ opening key.column .blockMappingStart indents ++
        [.key, shown, .value], opened key.column indents, false⟩ : BlockState).lexer (index + 1)
          line) := by
  have prepared : Lexer.prepare ⟨⟨spaces 0 ++ ':' :: more, index, line, column⟩,
      (tokens ++ [shown]).toArray, indents, [some key], false⟩ =
      .ok ⟨⟨':' :: more, index, line, column⟩, (tokens ++ [shown]).toArray, indents, [some key],
        false⟩ := by
    rw [Lexer.prepare_spaces rfl]
    simp only [Nat.add_zero, Lexer.dropStaleKeys_kept kept, Except.map,
      Lexer.closeBlocks_inside inside]
  refine .of_readHere prepared (fun _ => rfl) ?_ (Nat.lt_succ_self more.length)
  have mark : Lexer.readHere ⟨⟨':' :: more, index, line, column⟩, (tokens ++ [shown]).toArray,
      indents, [some key], false⟩ = Lexer.readValueMark ⟨⟨':' :: more, index, line, column⟩,
        (tokens ++ [shown]).toArray, indents, [some key], false⟩ := by
    simp [Lexer.readHere, Lexer.readInner, separated]
  rw [mark, Lexer.readValueMark_key place]
  rfl

/-- A key on one line, with its colon. -/
theorem reaches_key {key : String} (simple : isSimpleKey key = true) (parent : Nat)
    {more : List Char} (separated : startsSeparated more = true)
    (inside : indents.head?.all (· ≤ column) = true) :
    Reaches ⟨writeText (parent + 2) key.toList ++ ':' :: more, column, tokens, indents, true⟩
      ⟨more, column + (writeText (parent + 2) key.toList).length + 1,
        tokens ++ opening column .blockMappingStart indents ++
          [.key, .scalar (styleOf key.toList) key.toList, .value],
        opened column indents, false⟩ := by
  obtain ⟨onLine, short⟩ := length_key simple (parent + 2)
  have noLiteral : styleOf key.toList ≠ .literal := fun literal =>
    absurd (onLine '\n' (feed_of_literal literal)) (by decide)
  intro index line
  have prepared : Lexer.prepare ⟨⟨writeText (parent + 2) key.toList ++ ':' :: more, index, line,
      column⟩, tokens.toArray, indents, [none], true⟩ = .ok ⟨⟨writeText (parent + 2) key.toList ++
        ':' :: more, index, line, column⟩, tokens.toArray, indents, [none], true⟩ :=
    Lexer.prepare_settled (startsToken_text noLiteral _ _) inside
  have behindKey : indents.head?.all
      (· ≤ column + (writeText (parent + 2) key.toList).length) = true := by
    cases indents with
    | nil => rfl
    | cons top outer =>
        have within : top ≤ column := by simpa using inside
        simpa using Nat.le_trans within (Nat.le_add_right column _)
  have kept : Lexer.SimpleKey.isStale
      ⟨tokens.length, index, line, column, indents.head? == some column⟩
      ⟨':' :: more, index + (writeText (parent + 2) key.toList).length, line,
        column + (writeText (parent + 2) key.toList).length⟩ = false := by
    simp only [Lexer.SimpleKey.isStale, Bool.or_eq_false_iff, decide_eq_false_iff_not]
    omega
  refine ⟨index + (writeText (parent + 2) key.toList).length + 1, line,
    (Lexer.LeadsTo.of_readHere prepared (fun _ => startsMark_key noLiteral more)
      (readHere_key parent index line column onLine separated inside) ?_).trans
    (leadsTo_value separated behindKey rfl kept)⟩
  have nonempty := List.length_pos_iff.mpr (writeText_ne_nil (parent + 2) key.toList)
  rw [List.length_append]
  dsimp only
  omega

/-! ## Empty collections -/

/-- The first mark of an empty collection, whose place is kept. -/
private theorem leadsTo_opens {marks : FlowMarks} (known : marks = .list ∨ marks = .map)
    (inside : indents.head?.all (· ≤ column) = true) (index line : Nat) (after : List Char) :
    ((⟨marks.opens :: marks.closes :: after, column, tokens, indents, keyAllowed⟩ :
        BlockState).lexer index line).LeadsTo
      ⟨⟨marks.closes :: after, index + 1, line, column + 1⟩, (tokens ++ [marks.start]).toArray,
        indents, [none, Lexer.place ⟨⟨marks.opens :: marks.closes :: after, index, line, column⟩,
          tokens.toArray, indents, [none], keyAllowed⟩], true⟩ := by
  have read : Lexer.readHere ⟨⟨marks.opens :: marks.closes :: after, index, line, column⟩,
      tokens.toArray, indents, [none], keyAllowed⟩ =
      .ok ⟨⟨marks.closes :: after, index + 1, line, column + 1⟩,
        (tokens ++ [marks.start]).toArray, indents, [none,
          Lexer.place ⟨⟨marks.opens :: marks.closes :: after, index, line, column⟩,
            tokens.toArray, indents, [none], keyAllowed⟩], true⟩ := by
    rw [← List.push_toArray]
    rcases known with rfl | rfl <;> cases keyAllowed <;> rfl
  have visible : startsToken (marks.opens :: marks.closes :: after) = true := by
    rcases known with rfl | rfl <;> rfl
  have content : Lexer.startsMark (marks.opens :: marks.closes :: after) = false := by
    rcases known with rfl | rfl <;> rfl
  exact .of_readHere (Lexer.prepare_settled visible inside) (fun _ => content) read
    (Nat.lt_succ_self _)

/-- The second mark of an empty collection, behind which its place is that of the last node. -/
private theorem leadsTo_closes {marks : FlowMarks} (known : marks = .list ∨ marks = .map)
    {index line : Nat} {after : List Char} {key : Option SimpleKey}
    (fresh : key.all (fun key =>
      !Lexer.SimpleKey.isStale key ⟨marks.closes :: after, index, line, column⟩) = true) :
    Lexer.LeadsTo ⟨⟨marks.closes :: after, index, line, column⟩, tokens.toArray, indents,
        [none, key], true⟩
      ⟨⟨after, index + 1, line, column + 1⟩, (tokens ++ [marks.finish]).toArray, indents, [key],
        false⟩ := by
  have kept : Lexer.dropStaleKeys ⟨⟨marks.closes :: after, index, line, column⟩, tokens.toArray,
      indents, [none, key], true⟩ =
      .ok ⟨⟨marks.closes :: after, index, line, column⟩, tokens.toArray, indents, [none, key],
        true⟩ := by
    cases key with
    | none => rfl
    | some key =>
        have notStale : Lexer.SimpleKey.isStale key
            ⟨marks.closes :: after, index, line, column⟩ = false := by
          simpa using fresh
        simp [Lexer.dropStaleKeys, notStale]
  have visible : startsToken (marks.closes :: after) = true := by
    rcases known with rfl | rfl <;> rfl
  have prepared : Lexer.prepare ⟨⟨spaces 0 ++ marks.closes :: after, index, line, column⟩,
      tokens.toArray, indents, [none, key], true⟩ =
      .ok ⟨⟨marks.closes :: after, index, line, column⟩, tokens.toArray, indents, [none, key],
        true⟩ := by
    rw [Lexer.prepare_spaces visible]
    simp only [Nat.add_zero, kept]
    rfl
  have content : Lexer.startsMark (marks.closes :: after) = false := by
    rcases known with rfl | rfl <;> rfl
  have read : Lexer.readHere ⟨⟨marks.closes :: after, index, line, column⟩, tokens.toArray,
      indents, [none, key], true⟩ =
      .ok ⟨⟨after, index + 1, line, column + 1⟩, (tokens ++ [marks.finish]).toArray, indents,
        [key], false⟩ := by
    rw [← List.push_toArray]
    rcases known with rfl | rfl <;> rfl
  exact .of_readHere prepared (fun _ => content) read (Nat.lt_succ_self _)

/-- Behind the two marks of an empty collection, the state is that of its place. -/
theorem leadsTo_empty {marks : FlowMarks} (known : marks = .list ∨ marks = .map)
    (inside : indents.head?.all (· ≤ column) = true) (index line : Nat) (after : List Char) :
    ((⟨marks.opens :: marks.closes :: after, column, tokens, indents, keyAllowed⟩ :
        BlockState).lexer index line).LeadsTo
      ⟨⟨after, index + 2, line, column + 2⟩, (tokens ++ [marks.start, marks.finish]).toArray,
        indents, [Lexer.place ⟨⟨marks.opens :: marks.closes :: after, index, line, column⟩,
          tokens.toArray, indents, [none], keyAllowed⟩], false⟩ := by
  have fresh : (Lexer.place ⟨⟨marks.opens :: marks.closes :: after, index, line, column⟩,
      tokens.toArray, indents, [none], keyAllowed⟩).all
        (fun key => !Lexer.SimpleKey.isStale key
          ⟨marks.closes :: after, index + 1, line, column + 1⟩) = true := by
    cases keyAllowed with
    | false => rfl
    | true => simp [Lexer.place, Lexer.SimpleKey.isStale, Lexer.keyLengthLimit]
  have both : tokens ++ [marks.start, marks.finish] = tokens ++ [marks.start] ++ [marks.finish] := by
    simp
  rw [both]
  exact (leadsTo_opens known inside index line after).trans (leadsTo_closes known fresh)

end BlockState

end ReleaseRules.Yaml
