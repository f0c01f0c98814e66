import ReleaseRules.Proofs.Yaml.BlockTokens
import ReleaseRules.Proofs.Yaml.WrittenNodes

/-!
Contract: the tokens of a written tree are those of its node.

Owns:
- leaves at the end of a line;
- items, entries and collections behind each other.

Does not own: the end of the text.
-/

namespace ReleaseRules.Yaml

namespace BlockState

variable {next : List Char} {column count top : Nat} {tokens : List Token} {indents : List Nat}
  {keyAllowed : Bool}

/-! ## Starts -/

theorem startsToken_writeText (indent : Nat) (text after : List Char) :
    startsToken (writeText indent text ++ after) = true := by
  by_cases literal : styleOf text = .literal
  · have shown : writeText indent text ++ after =
        '|' :: (literalHint text ++ '\n' :: literalLines indent true text ++ after) := by
      simp [writeText, literal]
    rw [shown]
    rfl
  · exact startsToken_text literal indent after

theorem startsToken_leaf {indent : Nat} {value : Tree} {shown : List Char}
    (leaf : writeLeaf? indent value = some shown) (after : List Char) :
    startsToken (shown ++ after) = true := by
  match value with
  | .null => obtain rfl := Option.some.inj leaf; rfl
  | .bool true => obtain rfl := Option.some.inj leaf; rfl
  | .bool false => obtain rfl := Option.some.inj leaf; rfl
  | .number value =>
      obtain rfl := Option.some.inj leaf
      rw [List.append_assoc]
      exact startsToken_plain (IsPlain.of_number value).starts _
  | .text value =>
      obtain rfl := Option.some.inj leaf
      rw [List.append_assoc]
      exact startsToken_writeText indent value.toList _
  | .list [] => obtain rfl := Option.some.inj leaf; rfl
  | .map [] => obtain rfl := Option.some.inj leaf; rfl

theorem startsToken_collection {indent inner : Nat} {value : Tree}
    (collection : writeLeaf? inner value = none) (after : List Char) :
    startsToken (writeCollection indent value ++ after) = true := by
  match value with
  | .list (item :: rest) =>
      rw [writeCollection, writeItems]
      rfl
  | .map ((key, value) :: rest) =>
      rw [writeCollection, writeEntries]
      dsimp only
      split
      · rw [List.append_assoc, List.append_assoc, List.append_assoc]
        exact startsToken_writeText _ _ _
      · rfl

/-! ## Leaves -/

theorem reaches_empty {marks : FlowMarks} (known : marks = .list ∨ marks = .map)
    (token : startsToken next = true) (inside : top < column) :
    Reaches ⟨marks.opens :: marks.closes :: '\n' :: (spaces count ++ next), column, tokens,
        top :: indents, keyAllowed⟩
      ⟨next, count, tokens ++ [marks.start, marks.finish], top :: indents, true⟩ := by
  intro index line
  have behind : (top :: indents).head?.all (· ≤ column) = true := by
    simpa using Nat.le_of_lt inside
  exact ⟨_, _, (leadsTo_empty known behind index line _).trans
    (.of_line token (Lexer.place_optional inside) (Lexer.place_line (Nat.le_refl line)))⟩

/-- A leaf at the end of its line. -/
theorem reaches_leaf {value : Tree} {shown : List Char} {indentless : Bool}
    (leaf : writeLeaf? (top + 2) value = some shown) (token : startsToken next = true)
    (inside : top < column) (outside : count ≤ top) :
    Reaches ⟨shown ++ (spaces count ++ next), column, tokens, top :: indents, keyAllowed⟩
      ⟨next, count, tokens ++ nodeTokens indentless (nodeOf value), top :: indents, true⟩ := by
  match value with
  | .null =>
      obtain rfl := Option.some.inj leaf
      exact reaches_plain .of_null token inside outside
  | .bool true =>
      obtain rfl := Option.some.inj leaf
      exact reaches_plain (.of_bool true) token inside outside
  | .bool false =>
      obtain rfl := Option.some.inj leaf
      exact reaches_plain (.of_bool false) token inside outside
  | .number value =>
      obtain rfl := Option.some.inj leaf
      rw [List.append_assoc]
      exact reaches_plain (.of_number value) token inside outside
  | .text value =>
      obtain rfl := Option.some.inj leaf
      rw [List.append_assoc]
      exact reaches_text token inside outside
  | .list [] =>
      obtain rfl := Option.some.inj leaf
      exact reaches_empty (Or.inl rfl) token inside
  | .map [] =>
      obtain rfl := Option.some.inj leaf
      exact reaches_empty (Or.inr rfl) token inside

/-! ## Collections -/

/-- Behind a mark, the innermost collection stands at the column of the mark. -/
theorem opened_cons (inside : indents.head?.all (· ≤ column) = true) :
    ∃ outer, opened column indents = column :: outer := by
  cases indents with
  | nil => exact ⟨[], rfl⟩
  | cons top outer =>
      have within : top ≤ column := by simpa using inside
      by_cases same : column ≤ top
      · obtain rfl : top = column := Nat.le_antisymm within same
        exact ⟨outer, by simp [opened]⟩
      · exact ⟨top :: outer, by simp [opened, same]⟩

theorem opening_here (start : Token) (outer : List Nat) :
    opening column start (column :: outer) = [] := by
  simp [opening]

theorem opened_here (outer : List Nat) : opened column (column :: outer) = column :: outer := by
  simp [opened]

theorem opening_inside (start : Token) (outer : List Nat) (inside : top < column) :
    opening column start (top :: outer) = [start] := by
  have more : ¬ column ≤ top := by omega
  simp [opening, more]

theorem opened_inside (outer : List Nat) (inside : top < column) :
    opened column (top :: outer) = column :: top :: outer := by
  have more : ¬ column ≤ top := by omega
  simp [opened, more]

/-- A node at an indentation; its first line is indented already. -/
def writeNode (indent : Nat) (value : Tree) : List Char :=
  (writeLeaf? indent value).getD (writeCollection indent value)

theorem writeNode_leaf {indent : Nat} {value : Tree} {shown : List Char}
    (leaf : writeLeaf? indent value = some shown) : writeNode indent value = shown := by
  rw [writeNode, leaf, Option.getD_some]

theorem writeNode_collection {indent : Nat} {value : Tree}
    (collection : writeLeaf? indent value = none) :
    writeNode indent value = writeCollection indent value := by
  rw [writeNode, collection, Option.getD_none]

theorem startsToken_node (indent : Nat) (value : Tree) (rest : List Char) :
    startsToken (writeNode indent value ++ rest) = true := by
  cases shown : writeLeaf? indent value with
  | none =>
      rw [writeNode_collection shown]
      exact startsToken_collection shown rest
  | some text =>
      rw [writeNode_leaf shown]
      exact startsToken_leaf shown rest

theorem writeItems_cons (indent : Nat) (item : Tree) (rest : List Tree) :
    writeItems indent (item :: rest) = ['-', ' '] ++ (writeNode (indent + 2) item ++
      ((if rest.isEmpty then [] else spaces indent) ++ writeItems indent rest)) := by
  rw [writeItems, writeNode, indentStep]
  simp only [List.append_assoc, List.cons_append, List.nil_append]

theorem startsToken_entries {entries : List (String × Tree)} (some : entries ≠ [])
    (indent : Nat) (rest : List Char) :
    startsToken (writeEntries indent entries ++ rest) = true := by
  obtain ⟨entry, others, rfl⟩ := List.exists_cons_of_ne_nil some
  have collection : writeLeaf? indent (.map (entry :: others)) = none := rfl
  have starts : startsToken (writeCollection indent (.map (entry :: others)) ++ rest) = true :=
    startsToken_collection collection rest
  rwa [writeCollection] at starts

theorem startsToken_items {items : List Tree} (some : items ≠ []) (indent : Nat)
    (rest : List Char) : startsToken (writeItems indent items ++ rest) = true := by
  obtain ⟨item, others, rfl⟩ := List.exists_cons_of_ne_nil some
  rfl

/-- An entry of a map. -/
def writeEntry (indent : Nat) (key : String) (value : Tree) : List Char :=
  if isSimpleKey key then
    writeText (indent + 2) key.toList ++ ':' ::
      (match writeLeaf? (indent + 2) value with
        | some text => ' ' :: text
        | none =>
            '\n' :: (spaces (if isList value then indent else indent + 2) ++
              writeCollection (if isList value then indent else indent + 2) value))
  else
    '?' :: ' ' :: (writeText (indent + 2) key.toList ++ (lineEnd key.toList ++ (spaces indent ++
      ':' :: ' ' :: writeNode (indent + 2) value)))

theorem writeEntries_cons (indent : Nat) (key : String) (value : Tree)
    (rest : List (String × Tree)) :
    writeEntries indent ((key, value) :: rest) = writeEntry indent key value ++
      ((if rest.isEmpty then [] else spaces indent) ++ writeEntries indent rest) := by
  rw [writeEntries, writeEntry]
  dsimp only [indentStep]
  split
  · exact List.append_assoc _ _ _
  · simp only [List.append_assoc, writeNode]

/-- The tokens in front of a value. -/
def keyTokens (key : String) : List Token :=
  [.key, .scalar (styleOf key.toList) key.toList, .value]

theorem entryTokens_cons (key : String) (value : Node) (rest : List (Node × Node)) :
    entryTokens ((textNode key.toList, value) :: rest) =
      keyTokens key ++ (nodeTokens (isSimpleKey key) value ++ entryTokens rest) := by
  rw [entryTokens, isOnLine_textNode]
  rfl

/-- A key on one line, up to what follows its colon. -/
private theorem reaches_simpleKey {key : String} (simple : isSimpleKey key = true)
    {outer : List Nat} (inside : indents.head?.all (· ≤ column) = true)
    (opens : opened column indents = column :: outer) {more : List Char}
    (separated : startsSeparated more = true) :
    Reaches ⟨writeText (column + 2) key.toList ++ ':' :: more, column, tokens, indents, true⟩
      ⟨more, column + (writeText (column + 2) key.toList).length + 1,
        tokens ++ opening column .blockMappingStart indents ++ keyTokens key, column :: outer,
        false⟩ := by
  rw [← opens]
  exact reaches_key simple column separated inside

/-- A key that has a line of its own, up to its value. -/
private theorem reaches_wideKey (key : String) {outer : List Nat}
    (inside : indents.head?.all (· ≤ column) = true)
    (opens : opened column indents = column :: outer) {rest : List Char}
    (token : startsToken rest = true) :
    Reaches ⟨'?' :: ' ' :: (writeText (column + 2) key.toList ++ (lineEnd key.toList ++
        (spaces column ++ ':' :: ' ' :: rest))), column, tokens, indents, true⟩
      ⟨rest, column + 2, tokens ++ opening column .blockMappingStart indents ++ keyTokens key,
        column :: outer, true⟩ := by
  have all : tokens ++ opening column .blockMappingStart indents ++ keyTokens key =
      tokens ++ opening column .blockMappingStart indents ++ [.key] ++
        [.scalar (styleOf key.toList) key.toList] ++ [.value] := by
    simp [keyTokens]
  have question : Reaches ⟨'?' :: ' ' :: (writeText (column + 2) key.toList ++
        (lineEnd key.toList ++ (spaces column ++ ':' :: ' ' :: rest))), column, tokens, indents,
        true⟩
      ⟨writeText (column + 2) key.toList ++ (lineEnd key.toList ++
        (spaces column ++ ':' :: ' ' :: rest)), column + 2,
        tokens ++ opening column .blockMappingStart indents ++ [.key], column :: outer, true⟩ := by
    rw [← opens]
    exact reaches_question (startsToken_writeText _ _ _) inside
  have colon : ∀ tokens : List Token,
      Reaches ⟨':' :: ' ' :: rest, column, tokens, column :: outer, true⟩
        ⟨rest, column + 2, tokens ++ [.value], column :: outer, true⟩ := by
    intro tokens
    have mark : Reaches ⟨':' :: ' ' :: rest, column, tokens, column :: outer, true⟩
        ⟨rest, column + 2,
          tokens ++ opening column .blockMappingStart (column :: outer) ++ [.value],
          opened column (column :: outer), true⟩ :=
      reaches_colon token (by simp)
    rwa [opening_here, opened_here, List.append_nil] at mark
  rw [all]
  exact question.trans ((reaches_text rfl (by omega) (Nat.le_refl column)).trans (colon _))

/-- An entry up to its value, which is a leaf: the text in front of it and its column. -/
theorem reaches_leafValue (key : String) {value : Tree} {shown : List Char} {outer : List Nat}
    (leaf : writeLeaf? (column + 2) value = some shown)
    (inside : indents.head?.all (· ≤ column) = true)
    (opens : opened column indents = column :: outer) :
    ∃ front start keyAllowed, writeEntry column key value = front ++ shown ∧ column < start ∧
      ∀ rest, startsToken rest = true →
        Reaches ⟨front ++ rest, column, tokens, indents, true⟩
          ⟨rest, start, tokens ++ opening column .blockMappingStart indents ++ keyTokens key,
            column :: outer, keyAllowed⟩ := by
  cases simple : isSimpleKey key with
  | true =>
      refine ⟨writeText (column + 2) key.toList ++ [':', ' '],
        column + (writeText (column + 2) key.toList).length + 1 + 1, false, ?_, by omega, ?_⟩
      · simp [writeEntry, simple, leaf]
      · intro rest token
        rw [List.append_assoc]
        exact (reaches_simpleKey simple inside opens rfl).trans (reaches_spaces token 1)
  | false =>
      refine ⟨'?' :: ' ' :: (writeText (column + 2) key.toList ++ (lineEnd key.toList ++
        (spaces column ++ [':', ' ']))), column + 2, true, ?_, by omega, ?_⟩
      · simp [writeEntry, simple, writeNode_leaf leaf]
      · intro rest token
        simpa using reaches_wideKey key inside opens token

/-- An entry up to its value, which is a collection with items. -/
theorem reaches_collectionValue (key : String) {value : Tree} {outer : List Nat}
    (leaf : writeLeaf? (column + 2) value = none) (inside : indents.head?.all (· ≤ column) = true)
    (opens : opened column indents = column :: outer) :
    ∃ front start, writeEntry column key value = front ++ writeCollection start value ∧
      (if isList value && isSimpleKey key then column = start else column < start) ∧
      ∀ rest, startsToken rest = true →
        Reaches ⟨front ++ rest, column, tokens, indents, true⟩
          ⟨rest, start, tokens ++ opening column .blockMappingStart indents ++ keyTokens key,
            column :: outer, true⟩ := by
  cases simple : isSimpleKey key with
  | true =>
      refine ⟨writeText (column + 2) key.toList ++ ':' :: '\n' ::
        spaces (if isList value then column else column + 2),
        if isList value then column else column + 2, ?_, ?_, ?_⟩
      · simp [writeEntry, simple, leaf]
      · cases isList value
        · exact Nat.lt_add_of_pos_right (by decide)
        · rfl
      · intro rest token
        rw [List.append_assoc]
        exact (reaches_simpleKey simple inside opens rfl).trans (reaches_line token _)
  | false =>
      refine ⟨'?' :: ' ' :: (writeText (column + 2) key.toList ++ (lineEnd key.toList ++
        (spaces column ++ [':', ' ']))), column + 2, ?_, ?_, ?_⟩
      · simp [writeEntry, simple, writeNode_collection leaf]
      · simp
      · intro rest token
        simpa using reaches_wideKey key inside opens token

/-! ## Items and entries

Each of them leads on if a collection with items does: the lists and maps below take this from
the collections inside of them. -/

section Steps

variable {outer : List Nat}

/-- The dash of an item, up to the node behind it. -/
theorem reaches_itemDash (inside : indents.head?.all (· ≤ column) = true)
    (opens : opened column indents = column :: outer) {rest : List Char}
    (token : startsToken rest = true) :
    Reaches ⟨['-', ' '] ++ rest, column, tokens, indents, true⟩
      ⟨rest, column + 2, tokens ++ opening column .blockSequenceStart indents ++ [.blockEntry],
        column :: outer, true⟩ := by
  rw [← opens]
  exact reaches_dash token inside

private theorem reaches_item {item : Tree} (inside : indents.head?.all (· ≤ column) = true)
    (opens : opened column indents = column :: outer)
    (collection : ∀ tokens, writeLeaf? (column + 2) item = none →
      Reaches ⟨writeCollection (column + 2) item ++ (spaces count ++ next), column + 2, tokens,
          column :: outer, true⟩
        ⟨next, count, tokens ++ nodeTokens false (nodeOf item), column :: outer, true⟩)
    (token : startsToken next = true) (outside : count ≤ column) :
    Reaches ⟨['-', ' '] ++ (writeNode (column + 2) item ++ (spaces count ++ next)), column, tokens,
        indents, true⟩
      ⟨next, count, tokens ++ opening column .blockSequenceStart indents ++
        .blockEntry :: nodeTokens false (nodeOf item), column :: outer, true⟩ := by
  have all : tokens ++ opening column .blockSequenceStart indents ++
      .blockEntry :: nodeTokens false (nodeOf item) =
      tokens ++ opening column .blockSequenceStart indents ++ [.blockEntry] ++
        nodeTokens false (nodeOf item) := by
    simp
  rw [all]
  refine (reaches_itemDash inside opens (startsToken_node (column + 2) item _)).trans ?_
  cases leaf : writeLeaf? (column + 2) item with
  | some text =>
      rw [writeNode_leaf leaf]
      exact reaches_leaf leaf token (by omega) outside
  | none =>
      rw [writeNode_collection leaf]
      exact collection _ leaf

private theorem reaches_entry (key : String) {value : Tree}
    (inside : indents.head?.all (· ≤ column) = true)
    (opens : opened column indents = column :: outer)
    (collection : ∀ start tokens, writeLeaf? (column + 2) value = none →
      (if isList value && isSimpleKey key then column = start else column < start) →
      Reaches ⟨writeCollection start value ++ (spaces count ++ next), start, tokens,
          column :: outer, true⟩
        ⟨next, count, tokens ++ nodeTokens (isSimpleKey key) (nodeOf value), column :: outer, true⟩)
    (token : startsToken next = true) (outside : count ≤ column) :
    Reaches ⟨writeEntry column key value ++ (spaces count ++ next), column, tokens, indents, true⟩
      ⟨next, count, tokens ++ opening column .blockMappingStart indents ++ keyTokens key ++
        nodeTokens (isSimpleKey key) (nodeOf value), column :: outer, true⟩ := by
  cases leaf : writeLeaf? (column + 2) value with
  | some text =>
      obtain ⟨front, start, keyAllowed, shown, below, reaches⟩ :=
        reaches_leafValue key leaf inside opens
      rw [shown, List.append_assoc]
      exact (reaches _ (startsToken_leaf leaf _)).trans (reaches_leaf leaf token below outside)
  | none =>
      obtain ⟨front, start, shown, place, reaches⟩ := reaches_collectionValue key leaf inside opens
      rw [shown, List.append_assoc]
      exact (reaches _ (startsToken_collection leaf _)).trans (collection start _ leaf place)

end Steps

mutual

/-- A collection with items, in front of a token that is not indented more than what is around
the collection. -/
theorem reaches_collection (value : Tree) (indentless : Bool) (column top count : Nat)
    (tokens : List Token) (indents : List Nat) {next : List Char} {inner : Nat}
    (collection : writeLeaf? inner value = none)
    (place : if isList value && indentless then top = column else top < column)
    (token : startsToken next = true) (outside : count ≤ top) :
    Reaches ⟨writeCollection column value ++ (spaces count ++ next), column, tokens, top :: indents,
        true⟩
      ⟨next, count, tokens ++ nodeTokens indentless (nodeOf value), top :: indents, true⟩ := by
  match value with
  | .list (item :: rest) =>
      have within : top ≤ column := by
        cases indentless with
        | false => exact Nat.le_of_lt place
        | true => exact Nat.le_of_eq place
      have items := reaches_items (item :: rest) column count tokens (top :: indents) (by simp)
        (by simpa using within) token (Nat.le_trans outside within)
      rw [writeCollection]
      cases indentless with
      | true =>
          obtain rfl : top = column := place
          rw [opening_here, opened_here, List.append_nil] at items
          exact items
      | false =>
          have inside : top < column := place
          rw [opening_inside _ _ inside, opened_inside _ inside] at items
          have shown : tokens ++ nodeTokens false (nodeOf (.list (item :: rest))) =
              tokens ++ [.blockSequenceStart] ++ itemTokens (itemNodes (item :: rest)) ++
                [.blockEnd] := by
            simp [nodeOf, nodeTokens, itemNodes]
          rw [shown]
          exact items.trans (reaches_close token (by omega))
  | .map (entry :: rest) =>
      have inside : top < column := place
      have entries := reaches_entries (entry :: rest) column count tokens (top :: indents) (by simp)
        (by simpa using Nat.le_of_lt inside) token (by omega)
      rw [opening_inside _ _ inside, opened_inside _ inside] at entries
      have shown : tokens ++ nodeTokens indentless (nodeOf (.map (entry :: rest))) =
          tokens ++ [.blockMappingStart] ++ entryTokens (entryNodes (entry :: rest)) ++
            [.blockEnd] := by
        simp [nodeOf, nodeTokens, entryNodes]
      rw [writeCollection, shown]
      exact entries.trans (reaches_close token (by omega))

/-- The items of a list behind each other. -/
theorem reaches_items (items : List Tree) (column count : Nat) (tokens : List Token)
    (indents : List Nat) {next : List Char} (some : items ≠ [])
    (inside : indents.head?.all (· ≤ column) = true) (token : startsToken next = true)
    (outside : count ≤ column) :
    Reaches ⟨writeItems column items ++ (spaces count ++ next), column, tokens, indents, true⟩
      ⟨next, count, tokens ++ opening column .blockSequenceStart indents ++
        itemTokens (itemNodes items), opened column indents, true⟩ := by
  match items with
  | [] => exact absurd rfl some
  | item :: rest =>
      obtain ⟨outer, opens⟩ := opened_cons inside
      have entry : ∀ (count : Nat) (next : List Char), startsToken next = true → count ≤ column →
          Reaches ⟨['-', ' '] ++ (writeNode (column + 2) item ++ (spaces count ++ next)), column,
              tokens, indents, true⟩
            ⟨next, count, tokens ++ opening column .blockSequenceStart indents ++
              .blockEntry :: nodeTokens false (nodeOf item), column :: outer, true⟩ :=
        fun count next token outside => reaches_item inside opens
          (fun tokens leaf => reaches_collection item false (column + 2) column count tokens outer
            leaf (by simp) token outside) token outside
      rw [opens, writeItems_cons]
      by_cases last : rest = []
      · subst last
        simpa [writeItems, itemNodes, itemTokens] using entry count next token outside
      · have later := reaches_items rest column count
          (tokens ++ opening column .blockSequenceStart indents ++
            .blockEntry :: nodeTokens false (nodeOf item)) (column :: outer) last (by simp) token
              outside
        rw [opening_here, opened_here, List.append_nil] at later
        have shown : ['-', ' '] ++ (writeNode (column + 2) item ++ ((if rest.isEmpty then []
            else spaces column) ++ writeItems column rest)) ++ (spaces count ++ next) =
            ['-', ' '] ++ (writeNode (column + 2) item ++ (spaces column ++
              (writeItems column rest ++ (spaces count ++ next)))) := by
          simp [last]
        have all : tokens ++ opening column .blockSequenceStart indents ++
            itemTokens (itemNodes (item :: rest)) =
            tokens ++ opening column .blockSequenceStart indents ++
              .blockEntry :: nodeTokens false (nodeOf item) ++ itemTokens (itemNodes rest) := by
          simp [itemNodes, itemTokens]
        rw [shown, all]
        exact (entry column _ (startsToken_items last column _) (Nat.le_refl column)).trans later

/-- The entries of a map behind each other. -/
theorem reaches_entries (entries : List (String × Tree)) (column count : Nat)
    (tokens : List Token) (indents : List Nat) {next : List Char} (some : entries ≠ [])
    (inside : indents.head?.all (· ≤ column) = true) (token : startsToken next = true)
    (outside : count ≤ column) :
    Reaches ⟨writeEntries column entries ++ (spaces count ++ next), column, tokens, indents, true⟩
      ⟨next, count, tokens ++ opening column .blockMappingStart indents ++
        entryTokens (entryNodes entries), opened column indents, true⟩ := by
  match entries with
  | [] => exact absurd rfl some
  | (key, value) :: rest =>
      obtain ⟨outer, opens⟩ := opened_cons inside
      have entry : ∀ (count : Nat) (next : List Char), startsToken next = true → count ≤ column →
          Reaches ⟨writeEntry column key value ++ (spaces count ++ next), column, tokens, indents,
              true⟩
            ⟨next, count, tokens ++ opening column .blockMappingStart indents ++ keyTokens key ++
              nodeTokens (isSimpleKey key) (nodeOf value), column :: outer, true⟩ :=
        fun count next token outside => reaches_entry key inside opens
          (fun start tokens leaf place => reaches_collection value _ start column count tokens
            outer leaf place token outside) token outside
      rw [opens, writeEntries_cons, entryNodes, entryTokens_cons]
      by_cases last : rest = []
      · subst last
        simpa [writeEntries, entryNodes, entryTokens] using entry count next token outside
      · have later := reaches_entries rest column count
          (tokens ++ opening column .blockMappingStart indents ++ keyTokens key ++
            nodeTokens (isSimpleKey key) (nodeOf value))
          (column :: outer) last (by simp) token outside
        rw [opening_here, opened_here, List.append_nil] at later
        have shown : writeEntry column key value ++ ((if rest.isEmpty then [] else spaces column) ++
            writeEntries column rest) ++ (spaces count ++ next) = writeEntry column key value ++
              (spaces column ++ (writeEntries column rest ++ (spaces count ++ next))) := by
          simp [last]
        have all : tokens ++ opening column .blockMappingStart indents ++
            (keyTokens key ++ (nodeTokens (isSimpleKey key) (nodeOf value) ++
              entryTokens (entryNodes rest))) =
            tokens ++ opening column .blockMappingStart indents ++ keyTokens key ++
              nodeTokens (isSimpleKey key) (nodeOf value) ++ entryTokens (entryNodes rest) := by
          simp
        rw [shown, all]
        exact (entry column _ (startsToken_entries last column _) (Nat.le_refl column)).trans later

end

end BlockState

end ReleaseRules.Yaml
