import ReleaseRules.Proofs.Document.FinalFeeds
import ReleaseRules.Proofs.Yaml.WrittenTokens

/-!
Contract: the tokens of a written tree that has no line feeds at its end.

Owns:
- the last leaf, up to the end of the text;
- the collections around it.

Does not own: leaves in front of the last one.
-/

namespace ReleaseRules.Yaml

open ReleaseRules.Document

/-! ## The last text -/

theorem notMem_of_words {text : List Char} (words : Words text) : '\n' ∉ text := by
  have inRun : ∀ run : List Char, isRun run = true → '\n' ∉ run := by
    intro run visible member
    rw [isRun, Bool.and_eq_true, List.all_eq_true] at visible
    exact absurd (visible.1 '\n' member) (by decide)
  induction words with
  | one run nonempty visible => exact inRun run visible
  | more run count rest nonempty visible later noComment inductionHypothesis =>
      intro member
      rcases List.mem_append.mp member with here | behind
      · exact inRun run visible here
      · rcases List.mem_append.mp behind with space | inRest
        · exact absurd (List.mem_replicate.mp space).2 (by decide)
        · exact inductionHypothesis inRest

/-- Nothing but the line feed is taken off a plain scalar. -/
theorem withoutFinalNewlines_plain {text : List Char} (plain : IsPlain text) :
    withoutFinalNewlines (text ++ ['\n']) = text := by
  rw [withoutFinalNewlines_feeds text (by simp)]
  exact withoutFinalNewlines_of_getLast? fun last =>
    notMem_of_words plain.words (List.mem_of_getLast? last)

theorem withoutFinalNewlines_quoted {text : List Char}
    (quoted : styleOf text = .singleQuoted ∨ styleOf text = .doubleQuoted) (indent : Nat) :
    withoutFinalNewlines (writeText indent text ++ lineEnd text) = writeText indent text := by
  have line : lineEnd text = ['\n'] := by
    rcases quoted with single | double
    · simp [lineEnd, single]
    · simp [lineEnd, double]
  rw [line, withoutFinalNewlines_feeds _ (by simp)]
  refine withoutFinalNewlines_of_getLast? ?_
  obtain ⟨front, quote, visible, shown⟩ : ∃ front quote, quote ≠ '\n' ∧
      writeText indent text = front ++ [quote] := by
    rcases quoted with single | double
    · exact ⟨'\'' :: singleQuotedText indent false text, '\'', by decide, by
        simp [writeText, single]⟩
    · exact ⟨'"' :: text.flatMap doubleQuotedCharacter, '"', by decide, by
        simp [writeText, double]⟩
  rw [shown, List.getLast?_concat]
  simpa using visible

private theorem getLast?_literalLines (indent : Nat) (fresh : Bool) (text : List Char) :
    (literalLines indent fresh text).getLast? = text.getLast? := by
  induction text generalizing fresh with
  | nil => rfl
  | cons character rest inductionHypothesis =>
      have behindBreak := inductionHypothesis true
      have inLine := inductionHypothesis false
      simp only [literalLines]
      split
      · rw [List.getLast?_cons, List.getLast?_cons, behindBreak]
      · split
        · rw [List.getLast?_append, List.getLast?_cons, List.getLast?_cons, inLine]
          rfl
        · rw [List.getLast?_cons, List.getLast?_cons, inLine]

/-- A literal text is cut in front of the line feeds at its end. -/
theorem withoutFinalNewlines_literal {text : List Char} (style : styleOf text = .literal)
    (indent : Nat) :
    withoutFinalNewlines (writeText indent text ++ lineEnd text) =
      '|' :: (literalHint text ++ if (withoutFinalNewlines text).isEmpty then []
        else '\n' :: literalLines indent true (withoutFinalNewlines text)) := by
  obtain ⟨feeds, split, feeding⟩ := withoutFinalNewlines_append text
  have last := getLast?_withoutFinalNewlines text
  generalize withoutFinalNewlines text = kept at split last ⊢
  have breaking : ∀ character ∈ feeds, isBreak character = true := by
    intro character member
    rw [feeding character member]
    decide
  have lines : literalLines indent true text = literalLines indent true kept ++ feeds := by
    rw [split, literalLines_append_breaks indent true kept breaking]
  have lineEnds : ∀ character ∈ feeds ++ lineEnd text, character = '\n' := by
    intro character member
    rcases List.mem_append.mp member with feed | final
    · exact feeding character feed
    · unfold lineEnd at final
      split at final
      · cases final
      · simpa using final
  have shown : writeText indent text ++ lineEnd text =
      '|' :: (literalHint text ++ '\n' :: literalLines indent true kept) ++
        (feeds ++ lineEnd text) := by
    simp [writeText, style, lines]
  rw [shown, withoutFinalNewlines_feeds _ lineEnds]
  cases kept with
  | nil =>
      have header : '|' :: (literalHint text ++ '\n' :: literalLines indent true []) =
          '|' :: literalHint text ++ ['\n'] := by
        simp [literalLines]
      rw [header, withoutFinalNewlines_feeds _ (by simp), withoutFinalNewlines_of_getLast?]
      · simp
      · rw [literalHint_eq]
        cases isHinted text <;> cases literalChomping text <;> decide
  | cons first others =>
      rw [withoutFinalNewlines_of_getLast?]
      · simp
      · have split : '|' :: (literalHint text ++
            '\n' :: literalLines indent true (first :: others)) =
            '|' :: literalHint text ++ ['\n'] ++ literalLines indent true (first :: others) := by
          simp
        rw [split, List.getLast?_append, getLast?_literalLines,
          List.getLast?_eq_some_getLast (by simp)]
        rw [List.getLast?_eq_some_getLast (by simp)] at last
        exact last

/-! ## The last leaf -/

namespace BlockState

variable {column top : Nat} {tokens : List Token} {indents : List Nat} {keyAllowed : Bool}

/-- A text in quotes at the end of the text. -/
private theorem ends_quoted {text : List Char}
    (quoted : styleOf text = .singleQuoted ∨ styleOf text = .doubleQuoted) (inside : top < column) :
    Ends ⟨writeText (top + 2) text, column, tokens, top :: indents, keyAllowed⟩
      (tokens ++ [.scalar (styleOf text) text] ++
        List.replicate (indents.length + 1) .blockEnd) := by
  have ends : Ends ⟨writeText (top + 2) text ++ [], column, tokens, top :: indents, keyAllowed⟩
      (tokens ++ [.scalar (styleOf text) text] ++
        List.replicate (indents.length + 1) .blockEnd) := by
    intro index line
    obtain ⟨line', column', below, -, read⟩ := readHere_quoted top index line column tokens
      (top :: indents) keyAllowed quoted (show [].head? ≠ some '\'' by simp)
    have nonempty := List.length_pos_iff.mpr (writeText_ne_nil (top + 2) text)
    refine (leadsTo_token (startsToken_quoted quoted _ _) inside read ?_).yields
      (Lexer.yields_end (Lexer.place_optional inside))
    rw [List.append_nil]
    exact nonempty
  rwa [List.append_nil] at ends

/-- A literal text at the end of the text has no line feeds there. -/
private theorem ends_literal {text : List Char} (style : styleOf text = .literal)
    (inside : top < column) :
    Ends ⟨withoutFinalNewlines (writeText (top + 2) text ++ lineEnd text), column, tokens,
        top :: indents, keyAllowed⟩
      (tokens ++ [.scalar .literal (withoutFinalNewlines text)] ++
        List.replicate (indents.length + 1) .blockEnd) := by
  intro index line
  obtain ⟨feeds, split, feeding⟩ := withoutFinalNewlines_append text
  have literal : IsLiteral (withoutFinalNewlines text ++ feeds) := by
    rw [← split]
    exact .of_styleOf style
  obtain ⟨after, atEnd, read⟩ := readBlock_end index line column top literal feeding
  rw [← split] at read
  obtain ⟨rest, index', line', column'⟩ := after
  obtain rfl : rest = [] := atEnd
  rw [withoutFinalNewlines_literal style]
  refine (leadsTo_token rfl inside (Lexer.readHere_literal read) ?_).yields ?_
  · exact Nat.succ_pos _
  · rw [List.push_toArray]
    exact Lexer.yields_end rfl

/-- A text at the end. -/
theorem ends_text (text : List Char) (inside : top < column) :
    Ends ⟨withoutFinalNewlines (writeText (top + 2) text ++ lineEnd text), column, tokens,
        top :: indents, keyAllowed⟩
      (tokens ++ [.scalar (styleOf text) (lastText (styleOf text) text)] ++
        List.replicate (indents.length + 1) .blockEnd) := by
  rcases styleOf_cases text with plain | quoted | literal
  · have isPlain := IsPlain.of_styleOf plain
    have shown : writeText (top + 2) text ++ lineEnd text = text ++ ['\n'] := by
      simp [writeText, lineEnd, plain]
    have kept : lastText (styleOf text) text = text := by simp [lastText, plain]
    rw [shown, withoutFinalNewlines_plain isPlain, kept, plain]
    exact ends_plain isPlain inside
  · have kept : lastText (styleOf text) text = text := by
      rcases quoted with single | double
      · simp [lastText, single]
      · simp [lastText, double]
    rw [withoutFinalNewlines_quoted quoted, kept]
    exact ends_quoted quoted inside
  · have kept : lastText (styleOf text) text = withoutFinalNewlines text := by
      simp [lastText, literal]
    rw [kept, literal]
    exact ends_literal literal inside

/-- An empty collection at the end. -/
theorem ends_empty {marks : FlowMarks} (known : marks = .list ∨ marks = .map)
    (inside : top < column) :
    Ends ⟨[marks.opens, marks.closes], column, tokens, top :: indents, keyAllowed⟩
      (tokens ++ [marks.start, marks.finish] ++ List.replicate (indents.length + 1) .blockEnd) := by
  intro index line
  have behind : (top :: indents).head?.all (· ≤ column) = true := by
    simpa using Nat.le_of_lt inside
  exact (leadsTo_empty known behind index line []).yields
    (Lexer.yields_end (Lexer.place_optional inside))

/-- A leaf at the end. -/
theorem ends_leaf {value : Tree} {shown : List Char} {indentless : Bool}
    (leaf : writeLeaf? (top + 2) value = some shown) (inside : top < column) :
    Ends ⟨withoutFinalNewlines shown, column, tokens, top :: indents, keyAllowed⟩
      (tokens ++ nodeTokens indentless (withoutFeeds (nodeOf value)) ++
        List.replicate (indents.length + 1) .blockEnd) := by
  match value with
  | .null =>
      obtain rfl := Option.some.inj leaf
      exact ends_plain .of_null inside
  | .bool true =>
      obtain rfl := Option.some.inj leaf
      exact ends_plain (.of_bool true) inside
  | .bool false =>
      obtain rfl := Option.some.inj leaf
      exact ends_plain (.of_bool false) inside
  | .number value =>
      obtain rfl := Option.some.inj leaf
      rw [withoutFinalNewlines_plain (.of_number value)]
      exact ends_plain (.of_number value) inside
  | .text value =>
      obtain rfl := Option.some.inj leaf
      exact ends_text value.toList inside
  | .list [] =>
      obtain rfl := Option.some.inj leaf
      exact ends_empty (Or.inl rfl) inside
  | .map [] =>
      obtain rfl := Option.some.inj leaf
      exact ends_empty (Or.inr rfl) inside

/-! ## The collections around it -/

/-- What starts with a token does so without the line feeds at its end. -/
theorem startsToken_withoutFinalNewlines {text : List Char}
    (starts : ∀ after, startsToken (text ++ after) = true) :
    withoutFinalNewlines text ≠ [] ∧ startsToken (withoutFinalNewlines text) = true := by
  cases text with
  | nil => exact absurd (starts [' ']) (by decide)
  | cons first rest =>
      have here := starts []
      rw [List.append_nil] at here
      have visible : first ≠ '\n' := by
        rintro rfl
        have separated : startsToken ('\n' :: rest) = false := rfl
        rw [separated] at here
        cases here
      have nonempty : withoutFinalNewlines (first :: rest) ≠ [] :=
        withoutFinalNewlines_ne_nil visible
      refine ⟨nonempty, ?_⟩
      obtain ⟨feeds, split, -⟩ := withoutFinalNewlines_append (first :: rest)
      obtain ⟨character, others, shown⟩ := List.exists_cons_of_ne_nil nonempty
      rw [shown] at split ⊢
      obtain rfl : first = character := (List.cons.inj split).1
      exact here

theorem writeItems_more (indent : Nat) (item : Tree) {rest : List Tree} (some : rest ≠ []) :
    writeItems indent (item :: rest) =
      writeItems indent [item] ++ (spaces indent ++ writeItems indent rest) := by
  rw [writeItems_cons, writeItems_cons]
  simp [some, writeItems]

theorem writeEntries_more (indent : Nat) (key : String) (value : Tree)
    {rest : List (String × Tree)} (some : rest ≠ []) :
    writeEntries indent ((key, value) :: rest) =
      writeEntries indent [(key, value)] ++ (spaces indent ++ writeEntries indent rest) := by
  rw [writeEntries_cons, writeEntries_cons]
  simp [some, writeEntries]

/-- What stands in front of a part that stays is not changed. -/
private theorem withoutFinalNewlines_front (front : List Char) {text : List Char}
    (starts : ∀ after, startsToken (text ++ after) = true) :
    withoutFinalNewlines (front ++ text) = front ++ withoutFinalNewlines text :=
  withoutFinalNewlines_behind front (startsToken_withoutFinalNewlines starts).1

/-! ## Items and entries at the end

As in front of other tokens, each of them ends if a collection with items does. -/

section Steps

variable {outer : List Nat}

private theorem ends_item {item : Tree} (inside : indents.head?.all (· ≤ column) = true)
    (opens : opened column indents = column :: outer)
    (collection : ∀ tokens, writeLeaf? (column + 2) item = none →
      Ends ⟨withoutFinalNewlines (writeCollection (column + 2) item), column + 2, tokens,
          column :: outer, true⟩
        (tokens ++ nodeTokens false (withoutFeeds (nodeOf item)) ++
          List.replicate (outer.length + 1) .blockEnd)) :
    Ends ⟨withoutFinalNewlines (writeItems column [item]), column, tokens, indents, true⟩
      (tokens ++ opening column .blockSequenceStart indents ++
        itemTokens (itemsWithoutFeeds (itemNodes [item])) ++
        List.replicate (outer.length + 1) .blockEnd) := by
  have shown : writeItems column [item] = ['-', ' '] ++ writeNode (column + 2) item := by
    rw [writeItems_cons]
    simp [writeItems]
  have all : tokens ++ opening column .blockSequenceStart indents ++
      itemTokens (itemsWithoutFeeds (itemNodes [item])) =
      tokens ++ opening column .blockSequenceStart indents ++ [.blockEntry] ++
        nodeTokens false (withoutFeeds (nodeOf item)) := by
    simp [itemNodes, itemsWithoutFeeds, itemTokens]
  have starts := startsToken_node (column + 2) item
  rw [shown, withoutFinalNewlines_front _ starts, all]
  refine (reaches_itemDash inside opens (startsToken_withoutFinalNewlines starts).2).ends ?_
  cases leaf : writeLeaf? (column + 2) item with
  | some text =>
      rw [writeNode_leaf leaf]
      exact ends_leaf leaf (by omega)
  | none =>
      rw [writeNode_collection leaf]
      exact collection _ leaf

private theorem ends_entry (key : String) {value : Tree}
    (inside : indents.head?.all (· ≤ column) = true)
    (opens : opened column indents = column :: outer)
    (collection : ∀ start tokens, writeLeaf? (column + 2) value = none →
      (if isList value && isSimpleKey key then column = start else column < start) →
      Ends ⟨withoutFinalNewlines (writeCollection start value), start, tokens, column :: outer,
          true⟩
        (tokens ++ nodeTokens (isSimpleKey key) (withoutFeeds (nodeOf value)) ++
          List.replicate (outer.length + 1) .blockEnd)) :
    Ends ⟨withoutFinalNewlines (writeEntries column [(key, value)]), column, tokens, indents, true⟩
      (tokens ++ opening column .blockMappingStart indents ++
        entryTokens (entriesWithoutFeeds (entryNodes [(key, value)])) ++
        List.replicate (outer.length + 1) .blockEnd) := by
  have whole : writeEntries column [(key, value)] = writeEntry column key value := by
    rw [writeEntries_cons]
    simp [writeEntries]
  have single : entriesWithoutFeeds (entryNodes [(key, value)]) =
      [(textNode key.toList, withoutFeeds (nodeOf value))] := by
    simp [entryNodes, entriesWithoutFeeds]
  have all : tokens ++ opening column .blockMappingStart indents ++
      entryTokens (entriesWithoutFeeds (entryNodes [(key, value)])) =
      tokens ++ opening column .blockMappingStart indents ++ keyTokens key ++
        nodeTokens (isSimpleKey key) (withoutFeeds (nodeOf value)) := by
    rw [single, entryTokens_cons]
    simp [entryTokens]
  rw [whole, all]
  cases leaf : writeLeaf? (column + 2) value with
  | some text =>
      obtain ⟨front, start, keyAllowed, shown, below, reaches⟩ :=
        reaches_leafValue key leaf inside opens
      rw [shown, withoutFinalNewlines_front front (startsToken_leaf leaf)]
      exact (reaches _ (startsToken_withoutFinalNewlines (startsToken_leaf leaf)).2).ends
        (ends_leaf leaf below)
  | none =>
      obtain ⟨front, start, shown, place, reaches⟩ := reaches_collectionValue key leaf inside opens
      rw [shown, withoutFinalNewlines_front front (startsToken_collection leaf)]
      exact (reaches _ (startsToken_withoutFinalNewlines (startsToken_collection leaf)).2).ends
        (collection start _ leaf place)

end Steps

mutual

/-- A collection at the end. -/
theorem ends_collection (value : Tree) (indentless : Bool) (column top : Nat)
    (tokens : List Token) (indents : List Nat) {inner : Nat}
    (collection : writeLeaf? inner value = none)
    (place : if isList value && indentless then top = column else top < column) :
    Ends ⟨withoutFinalNewlines (writeCollection column value), column, tokens, top :: indents, true⟩
      (tokens ++ nodeTokens indentless (withoutFeeds (nodeOf value)) ++
        List.replicate (indents.length + 1) .blockEnd) := by
  match value with
  | .list (item :: rest) =>
      have within : top ≤ column := by
        cases indentless with
        | false => exact Nat.le_of_lt place
        | true => exact Nat.le_of_eq place
      have items := ends_items (item :: rest) column tokens (top :: indents) (by simp)
        (by simpa using within)
      rw [writeCollection]
      cases indentless with
      | true =>
          obtain rfl : top = column := place
          rw [opening_here, opened_here, List.append_nil] at items
          rw [nodeTokens_list, if_pos rfl]
          exact items
      | false =>
          have inside : top < column := place
          rw [opening_inside _ _ inside, opened_inside _ inside] at items
          rw [nodeTokens_list, if_neg (by simp)]
          simpa [List.replicate_succ] using items
  | .map (entry :: rest) =>
      have inside : top < column := place
      have entries := ends_entries (entry :: rest) column tokens (top :: indents) (by simp)
        (by simpa using Nat.le_of_lt inside)
      rw [opening_inside _ _ inside, opened_inside _ inside] at entries
      rw [writeCollection, nodeTokens_map]
      simpa [List.replicate_succ] using entries

/-- The items of a list up to the end. -/
theorem ends_items (items : List Tree) (column : Nat) (tokens : List Token) (indents : List Nat)
    (some : items ≠ []) (inside : indents.head?.all (· ≤ column) = true) :
    Ends ⟨withoutFinalNewlines (writeItems column items), column, tokens, indents, true⟩
      (tokens ++ opening column .blockSequenceStart indents ++
        itemTokens (itemsWithoutFeeds (itemNodes items)) ++
        List.replicate (opened column indents).length .blockEnd) := by
  match items with
  | [] => exact absurd rfl some
  | item :: rest =>
      obtain ⟨outer, opens⟩ := opened_cons inside
      by_cases last : rest = []
      · subst last
        rw [opens]
        exact ends_item inside opens fun tokens leaf =>
          ends_collection item false (column + 2) column tokens outer leaf (by simp)
      · have starts := startsToken_items last column
        have first := reaches_items [item] column column tokens indents (by simp) inside
          (startsToken_withoutFinalNewlines starts).2 (Nat.le_refl column)
        have later := ends_items rest column
          (tokens ++ opening column .blockSequenceStart indents ++ itemTokens (itemNodes [item]))
          (opened column indents) last (by simp [opens])
        rw [opens, opening_here, opened_here, List.append_nil] at later
        have shown : withoutFinalNewlines (writeItems column (item :: rest)) =
            writeItems column [item] ++
              (spaces column ++ withoutFinalNewlines (writeItems column rest)) := by
          rw [writeItems_more column item last, ← List.append_assoc,
            withoutFinalNewlines_front _ starts, List.append_assoc]
        have all : tokens ++ opening column .blockSequenceStart indents ++
            itemTokens (itemsWithoutFeeds (itemNodes (item :: rest))) =
            tokens ++ opening column .blockSequenceStart indents ++ itemTokens (itemNodes [item]) ++
              itemTokens (itemsWithoutFeeds (itemNodes rest)) := by
          obtain ⟨next, others, rfl⟩ := List.exists_cons_of_ne_nil last
          simp [itemNodes, itemsWithoutFeeds, itemTokens]
        rw [opens] at first ⊢
        rw [shown, all]
        exact first.ends later

/-- The entries of a map up to the end. -/
theorem ends_entries (entries : List (String × Tree)) (column : Nat) (tokens : List Token)
    (indents : List Nat) (some : entries ≠ []) (inside : indents.head?.all (· ≤ column) = true) :
    Ends ⟨withoutFinalNewlines (writeEntries column entries), column, tokens, indents, true⟩
      (tokens ++ opening column .blockMappingStart indents ++
        entryTokens (entriesWithoutFeeds (entryNodes entries)) ++
        List.replicate (opened column indents).length .blockEnd) := by
  match entries with
  | [] => exact absurd rfl some
  | (key, value) :: rest =>
      obtain ⟨outer, opens⟩ := opened_cons inside
      by_cases last : rest = []
      · subst last
        rw [opens]
        exact ends_entry key inside opens fun start tokens leaf place =>
          ends_collection value _ start column tokens outer leaf place
      · have starts := startsToken_entries last column
        have first := reaches_entries [(key, value)] column column tokens indents (by simp) inside
          (startsToken_withoutFinalNewlines starts).2 (Nat.le_refl column)
        have later := ends_entries rest column
          (tokens ++ opening column .blockMappingStart indents ++
            entryTokens (entryNodes [(key, value)]))
          (opened column indents) last (by simp [opens])
        rw [opens, opening_here, opened_here, List.append_nil] at later
        have shown : withoutFinalNewlines (writeEntries column ((key, value) :: rest)) =
            writeEntries column [(key, value)] ++
              (spaces column ++ withoutFinalNewlines (writeEntries column rest)) := by
          rw [writeEntries_more column key value last, ← List.append_assoc,
            withoutFinalNewlines_front _ starts, List.append_assoc]
        have all : tokens ++ opening column .blockMappingStart indents ++
            entryTokens (entriesWithoutFeeds (entryNodes ((key, value) :: rest))) =
            tokens ++ opening column .blockMappingStart indents ++
              entryTokens (entryNodes [(key, value)]) ++
              entryTokens (entriesWithoutFeeds (entryNodes rest)) := by
          obtain ⟨⟨nextKey, nextValue⟩, others, rfl⟩ := List.exists_cons_of_ne_nil last
          simp [entryNodes, entriesWithoutFeeds, entryTokens]
        rw [opens] at first ⊢
        rw [shown, all]
        exact first.ends later

end

end BlockState

/-! ## Whole texts -/

/-- The tokens of a text of allowed characters that starts with one. -/
private theorem tokens_of_ends {text : List Char} {all : List Token}
    (allowed : ∀ character ∈ text, isAllowed character = true) (token : startsToken text = true)
    (ends : BlockState.Ends ⟨text, 0, [], [], true⟩ all) : tokens text = .ok all := by
  have noOther : text.find? (fun character => !isAllowed character) = none := by
    simpa using allowed
  have start : Lexer.ofText text = (⟨text, 0, [], [], true⟩ : BlockState).lexer 0 0 := by
    unfold Lexer.ofText
    split
    · exact absurd token Bool.false_ne_true
    · rfl
  rw [tokens, noOther]
  dsimp only
  rw [start, ends 0 0 _ (show text.length < text.length + 2 by omega)]
  rfl

private theorem write_map (entry : String × Tree) (rest : List (String × Tree)) :
    write (.map (entry :: rest)) = writeEntries 0 (entry :: rest) := by
  rw [write, writeLeaf?, Option.getD_none, writeCollection]
  all_goals simp

/-- The empty map, on its line or without the end of that line. -/
private theorem ends_emptyMap : ∀ text, text = "\x7b\x7d\n".toList ∨ text = "\x7b\x7d".toList →
    BlockState.Ends ⟨text, 0, [], [], true⟩ [.flowMappingStart, .flowMappingEnd] := by
  intro text either index line
  have marks : FlowMarks.map = .list ∨ FlowMarks.map = .map := Or.inr rfl
  rcases either with rfl | rfl
  · have behind : Lexer.LeadsTo ⟨⟨'\n' :: (spaces 0 ++ []), index + 2, line, 2⟩,
          [Token.flowMappingStart, .flowMappingEnd].toArray, [], [Lexer.place
            ⟨⟨['\x7b', '\x7d', '\n'], index, line, 0⟩, #[], [], [none], true⟩], false⟩
        ((⟨[], 0, [.flowMappingStart, .flowMappingEnd], [], true⟩ : BlockState).lexer
          (index + 2 + 1 + 0) (line + 1)) :=
      .of_line rfl rfl (Lexer.place_line (Nat.le_refl line))
    exact (BlockState.leadsTo_empty marks rfl index line ['\n']).yields
      (behind.yields (BlockState.ends_nil _ _))
  · exact (BlockState.leadsTo_empty marks rfl index line []).yields (Lexer.yields_end rfl)

/-- The tokens of a written map are those of its node. -/
theorem tokens_write (entries : List (String × Tree))
    (allowed : ∀ character ∈ write (.map entries), isAllowed character = true) :
    tokens (write (.map entries)) = .ok (nodeTokens false (nodeOf (.map entries))) := by
  cases entries with
  | nil => exact tokens_of_ends allowed rfl (ends_emptyMap _ (Or.inl rfl))
  | cons entry rest =>
      rw [write_map] at allowed ⊢
      have starts := BlockState.startsToken_entries (List.cons_ne_nil entry rest) 0
      have walk := (BlockState.reaches_entries (entry :: rest) 0 0 [] [] (by simp) rfl
        (show startsToken [] = true from rfl) (Nat.le_refl 0)).ends BlockState.ends_nil
      have whole : writeEntries 0 (entry :: rest) ++ (spaces 0 ++ []) =
          writeEntries 0 (entry :: rest) := by
        simp [spaces]
      rw [whole] at walk
      have token := starts []
      rw [List.append_nil] at token
      rw [tokens_of_ends allowed token walk]
      simp [nodeOf, nodeTokens, entryNodes, opening, opened]

/-- Without the line feeds at its end, a written map has the tokens of its node without those of
its last text. -/
theorem tokens_withoutFinalNewlines (entries : List (String × Tree))
    (allowed : ∀ character ∈ write (.map entries), isAllowed character = true) :
    tokens (withoutFinalNewlines (write (.map entries))) =
      .ok (nodeTokens false (withoutFeeds (nodeOf (.map entries)))) := by
  have allowedHere : ∀ character ∈ withoutFinalNewlines (write (.map entries)),
      isAllowed character = true := by
    obtain ⟨feeds, split, -⟩ := withoutFinalNewlines_append (write (.map entries))
    rw [split] at allowed
    exact fun character member => allowed character (List.mem_append_left _ member)
  cases entries with
  | nil => exact tokens_of_ends allowedHere rfl (ends_emptyMap _ (Or.inr rfl))
  | cons entry rest =>
      rw [write_map] at allowedHere ⊢
      have starts := BlockState.startsToken_entries (List.cons_ne_nil entry rest) 0
      have walk := BlockState.ends_entries (entry :: rest) 0 [] [] (by simp) rfl
      rw [tokens_of_ends allowedHere (BlockState.startsToken_withoutFinalNewlines starts).2 walk,
        nodeTokens_map]
      simp [opening, opened]

end ReleaseRules.Yaml
