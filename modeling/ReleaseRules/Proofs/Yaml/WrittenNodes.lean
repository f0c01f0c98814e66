import ReleaseRules.Document.Basic

/-!
Contract: the nodes that trees are written as.

Owns:
- the node of a tree, with the styles of its scalars;
- the tokens of such a node;
- the node whose last text has no line feeds at its end.

Does not own: the written text.
-/

namespace ReleaseRules.Yaml

/-- The node of a text. -/
def textNode (text : List Char) : Node := .scalar none none (styleOf text) text

mutual

/-- The node that a tree is written as. -/
def nodeOf : Tree → Node
  | .null => .scalar none none .plain "null".toList
  | .bool value => .scalar none none .plain (toString value).toList
  | .number value => .scalar none none .plain (writeNumber value)
  | .text value => textNode value.toList
  | .list items => .sequence none none (itemNodes items)
  | .map entries => .mapping none none (entryNodes entries)

/-- The nodes of items. -/
def itemNodes : List Tree → List Node
  | [] => []
  | item :: rest => nodeOf item :: itemNodes rest

/-- The nodes of keys and values. -/
def entryNodes : List (String × Tree) → List (Node × Node)
  | [] => []
  | (key, value) :: rest => (textNode key.toList, nodeOf value) :: entryNodes rest

end

/-- Whether a key stands on one line with its value. -/
def isOnLine : Node → Bool
  | .scalar _ _ _ text => isSimpleKey (String.ofList text)
  | _ => false

theorem isOnLine_textNode (key : String) : isOnLine (textNode key.toList) = isSimpleKey key := by
  rw [textNode, isOnLine, String.ofList_toList]

mutual

/-- The tokens of a node without labels and tags. The list behind a key on one line has no marks
of its own. -/
def nodeTokens (indentless : Bool) : Node → List Token
  | .scalar _ _ style text => [.scalar style text]
  | .sequence _ _ items =>
      if items.isEmpty then [.flowSequenceStart, .flowSequenceEnd]
      else if indentless then itemTokens items
      else .blockSequenceStart :: (itemTokens items ++ [.blockEnd])
  | .mapping _ _ entries =>
      if entries.isEmpty then [.flowMappingStart, .flowMappingEnd]
      else .blockMappingStart :: (entryTokens entries ++ [.blockEnd])
  | .alias _ => []

/-- The tokens of items. -/
def itemTokens : List Node → List Token
  | [] => []
  | item :: rest => .blockEntry :: (nodeTokens false item ++ itemTokens rest)

/-- The tokens of keys and values. -/
def entryTokens : List (Node × Node) → List Token
  | [] => []
  | (key, value) :: rest =>
      .key :: (nodeTokens false key ++
        .value :: (nodeTokens (isOnLine key) value ++ entryTokens rest))

end

/-- A text at the end of a document that has no line feeds there. -/
def lastText (style : ScalarStyle) (text : List Char) : List Char :=
  if style = .literal then Document.withoutFinalNewlines text else text

mutual

/-- The node whose last text, if it is literal, has no line feeds at its end. -/
def withoutFeeds : Node → Node
  | .scalar label tag style text => .scalar label tag style (lastText style text)
  | .sequence label tag items => .sequence label tag (itemsWithoutFeeds items)
  | .mapping label tag entries => .mapping label tag (entriesWithoutFeeds entries)
  | .alias label => .alias label

/-- The items of which the last one has no line feeds at its end. -/
def itemsWithoutFeeds : List Node → List Node
  | [] => []
  | item :: rest =>
      if rest.isEmpty then [withoutFeeds item] else item :: itemsWithoutFeeds rest

/-- The entries of which the last one has no line feeds at its end. -/
def entriesWithoutFeeds : List (Node × Node) → List (Node × Node)
  | [] => []
  | (key, value) :: rest =>
      if rest.isEmpty then [(key, withoutFeeds value)]
      else (key, value) :: entriesWithoutFeeds rest

end

theorem itemsWithoutFeeds_isEmpty (item : Node) (rest : List Node) :
    ¬ (itemsWithoutFeeds (item :: rest)).isEmpty = true := by
  rw [itemsWithoutFeeds]
  split <;> simp

theorem entriesWithoutFeeds_isEmpty (entry : Node × Node) (rest : List (Node × Node)) :
    ¬ (entriesWithoutFeeds (entry :: rest)).isEmpty = true := by
  rw [entriesWithoutFeeds]
  split <;> simp

theorem nodeTokens_list (indentless : Bool) (item : Tree) (rest : List Tree) :
    nodeTokens indentless (withoutFeeds (nodeOf (.list (item :: rest)))) =
      if indentless then itemTokens (itemsWithoutFeeds (itemNodes (item :: rest)))
      else .blockSequenceStart ::
        (itemTokens (itemsWithoutFeeds (itemNodes (item :: rest))) ++ [.blockEnd]) := by
  rw [nodeOf, withoutFeeds, nodeTokens, itemNodes, if_neg (itemsWithoutFeeds_isEmpty _ _)]

theorem nodeTokens_map (indentless : Bool) (entry : String × Tree)
    (rest : List (String × Tree)) :
    nodeTokens indentless (withoutFeeds (nodeOf (.map (entry :: rest)))) =
      .blockMappingStart ::
        (entryTokens (entriesWithoutFeeds (entryNodes (entry :: rest))) ++ [.blockEnd]) := by
  rw [nodeOf, withoutFeeds, nodeTokens, entryNodes, if_neg (entriesWithoutFeeds_isEmpty _ _)]

/-! ## Bare nodes -/

mutual

/-- Whether a node has neither labels nor tags nor aliases. -/
def isBare : Node → Bool
  | .scalar label tag _ _ => label.isNone && tag.isNone
  | .sequence label tag items => label.isNone && tag.isNone && areBareItems items
  | .mapping label tag entries => label.isNone && tag.isNone && areBareEntries entries
  | .alias _ => false

/-- Whether all items are bare. -/
def areBareItems : List Node → Bool
  | [] => true
  | item :: rest => isBare item && areBareItems rest

/-- Whether all keys and values are bare. -/
def areBareEntries : List (Node × Node) → Bool
  | [] => true
  | (key, value) :: rest => isBare key && isBare value && areBareEntries rest

end

mutual

theorem isBare_nodeOf (tree : Tree) : isBare (nodeOf tree) = true := by
  match tree with
  | .null => rfl
  | .bool _ => rfl
  | .number _ => rfl
  | .text _ => rfl
  | .list items => simpa [nodeOf, isBare] using areBareItems_itemNodes items
  | .map entries => simpa [nodeOf, isBare] using areBareEntries_entryNodes entries

theorem areBareItems_itemNodes (items : List Tree) : areBareItems (itemNodes items) = true := by
  match items with
  | [] => rfl
  | item :: rest =>
      simp [itemNodes, areBareItems, isBare_nodeOf item, areBareItems_itemNodes rest]

theorem areBareEntries_entryNodes (entries : List (String × Tree)) :
    areBareEntries (entryNodes entries) = true := by
  match entries with
  | [] => rfl
  | (key, value) :: rest =>
      simp [entryNodes, areBareEntries, textNode, isBare, isBare_nodeOf value,
        areBareEntries_entryNodes rest]

end

mutual

theorem isBare_withoutFeeds (node : Node) (bare : isBare node = true) :
    isBare (withoutFeeds node) = true := by
  match node with
  | .scalar label tag style text => exact bare
  | .sequence label tag items =>
      simp only [isBare, Bool.and_eq_true] at bare
      simp [withoutFeeds, isBare, bare.1.1, bare.1.2, areBareItems_withoutFeeds items bare.2]
  | .mapping label tag entries =>
      simp only [isBare, Bool.and_eq_true] at bare
      simp [withoutFeeds, isBare, bare.1.1, bare.1.2, areBareEntries_withoutFeeds entries bare.2]
  | .alias label => cases bare

theorem areBareItems_withoutFeeds (items : List Node) (bare : areBareItems items = true) :
    areBareItems (itemsWithoutFeeds items) = true := by
  match items with
  | [] => rfl
  | item :: rest =>
      simp only [areBareItems, Bool.and_eq_true] at bare
      rw [itemsWithoutFeeds]
      split
      · simp [areBareItems, isBare_withoutFeeds item bare.1]
      · simp [areBareItems, bare.1, areBareItems_withoutFeeds rest bare.2]

theorem areBareEntries_withoutFeeds (entries : List (Node × Node))
    (bare : areBareEntries entries = true) :
    areBareEntries (entriesWithoutFeeds entries) = true := by
  match entries with
  | [] => rfl
  | (key, value) :: rest =>
      simp only [areBareEntries, Bool.and_eq_true] at bare
      rw [entriesWithoutFeeds]
      split
      · simp [areBareEntries, bare.1.1, isBare_withoutFeeds value bare.1.2]
      · simp [areBareEntries, bare.1.1, bare.1.2, areBareEntries_withoutFeeds rest bare.2]

end

end ReleaseRules.Yaml
