import ReleaseRules.Proofs.Yaml.ValueTrees
import ReleaseRules.Proofs.Yaml.WrittenNodes

/-!
Contract: the texts at the end of trees and of the nodes that they are read from.

Owns:
- the text that a tree ends with, and the scalar that a node ends with;
- the same text behind both, from the node over its content and its value to the tree.

Does not own: reading nodes from a text.
-/

namespace ReleaseRules.Yaml

mutual

/-- The text that a tree ends with, if its last value is one. -/
def finalText? : Tree → Option String
  | .text value => some value
  | .list items => finalItemText? items
  | .map entries => finalEntryText? entries
  | _ => none

/-- The text that the last item ends with. -/
def finalItemText? : List Tree → Option String
  | [] => none
  | item :: rest => if rest.isEmpty then finalText? item else finalItemText? rest

/-- The text that the last value ends with. -/
def finalEntryText? : List (String × Tree) → Option String
  | [] => none
  | (_, value) :: rest => if rest.isEmpty then finalText? value else finalEntryText? rest

end

mutual

/-- The scalar that a node ends with: its style and its text. -/
def finalScalar? : Node → Option (ScalarStyle × List Char)
  | .scalar _ _ style text => some (style, text)
  | .sequence _ _ items => finalItemScalar? items
  | .mapping _ _ entries => finalEntryScalar? entries
  | .alias _ => none

/-- The scalar that the last item ends with. -/
def finalItemScalar? : List Node → Option (ScalarStyle × List Char)
  | [] => none
  | item :: rest => if rest.isEmpty then finalScalar? item else finalItemScalar? rest

/-- The scalar that the last value ends with. -/
def finalEntryScalar? : List (Node × Node) → Option (ScalarStyle × List Char)
  | [] => none
  | (_, value) :: rest => if rest.isEmpty then finalScalar? value else finalEntryScalar? rest

end

/-! ## Written nodes -/

mutual

theorem finalScalar_nodeOf (tree : Tree) {text : String} (final : finalText? tree = some text) :
    finalScalar? (nodeOf tree) = some (styleOf text.toList, text.toList) := by
  match tree with
  | .null => cases final
  | .bool _ => cases final
  | .number _ => cases final
  | .text value =>
      cases final
      rfl
  | .list items => exact finalScalar_itemNodes items final
  | .map entries => exact finalScalar_entryNodes entries final

theorem finalScalar_itemNodes (items : List Tree) {text : String}
    (final : finalItemText? items = some text) :
    finalItemScalar? (itemNodes items) = some (styleOf text.toList, text.toList) := by
  match items with
  | [] => cases final
  | [item] => exact finalScalar_nodeOf item final
  | item :: second :: rest => exact finalScalar_itemNodes (second :: rest) final

theorem finalScalar_entryNodes (entries : List (String × Tree)) {text : String}
    (final : finalEntryText? entries = some text) :
    finalEntryScalar? (entryNodes entries) = some (styleOf text.toList, text.toList) := by
  match entries with
  | [] => cases final
  | [(key, value)] => exact finalScalar_nodeOf value final
  | (key, value) :: second :: rest => exact finalScalar_entryNodes (second :: rest) final

end

mutual

/-- Only the last scalar loses its line feeds. -/
theorem finalScalar_withoutFeeds (node : Node) {style : ScalarStyle} {text : List Char}
    (final : finalScalar? node = some (style, text)) :
    finalScalar? (withoutFeeds node) = some (style, lastText style text) := by
  match node with
  | .scalar label tag style text =>
      cases final
      rfl
  | .sequence label tag items => exact finalScalar_itemsWithoutFeeds items final
  | .mapping label tag entries => exact finalScalar_entriesWithoutFeeds entries final
  | .alias _ => cases final

theorem finalScalar_itemsWithoutFeeds (items : List Node) {style : ScalarStyle} {text : List Char}
    (final : finalItemScalar? items = some (style, text)) :
    finalItemScalar? (itemsWithoutFeeds items) = some (style, lastText style text) := by
  match items with
  | [] => cases final
  | [item] => exact finalScalar_withoutFeeds item final
  | item :: second :: rest =>
      have later := finalScalar_itemsWithoutFeeds (second :: rest) final
      rw [itemsWithoutFeeds, if_neg (by simp), finalItemScalar?,
        if_neg (itemsWithoutFeeds_isEmpty second rest)]
      exact later

theorem finalScalar_entriesWithoutFeeds (entries : List (Node × Node)) {style : ScalarStyle}
    {text : List Char} (final : finalEntryScalar? entries = some (style, text)) :
    finalEntryScalar? (entriesWithoutFeeds entries) = some (style, lastText style text) := by
  match entries with
  | [] => cases final
  | [(key, value)] => exact finalScalar_withoutFeeds value final
  | (key, value) :: second :: rest =>
      have later := finalScalar_entriesWithoutFeeds (second :: rest) final
      rw [entriesWithoutFeeds, if_neg (by simp), finalEntryScalar?,
        if_neg (entriesWithoutFeeds_isEmpty second rest)]
      exact later

end

mutual

/-- A node whose last text keeps its line feeds stays as it is. -/
theorem withoutFeeds_nodeOf (tree : Tree)
    (kept : ∀ text, finalText? tree = some text →
      lastText (styleOf text.toList) text.toList = text.toList) :
    withoutFeeds (nodeOf tree) = nodeOf tree := by
  match tree with
  | .null => rfl
  | .bool _ => rfl
  | .number _ => rfl
  | .text value => rw [nodeOf, textNode, withoutFeeds, kept value rfl]
  | .list items => rw [nodeOf, withoutFeeds, withoutFeeds_itemNodes items kept]
  | .map entries => rw [nodeOf, withoutFeeds, withoutFeeds_entryNodes entries kept]

theorem withoutFeeds_itemNodes (items : List Tree)
    (kept : ∀ text, finalItemText? items = some text →
      lastText (styleOf text.toList) text.toList = text.toList) :
    itemsWithoutFeeds (itemNodes items) = itemNodes items := by
  match items with
  | [] => rfl
  | [item] => exact congrArg ([·]) (withoutFeeds_nodeOf item kept)
  | item :: second :: rest =>
      exact congrArg (nodeOf item :: ·) (withoutFeeds_itemNodes (second :: rest) kept)

theorem withoutFeeds_entryNodes (entries : List (String × Tree))
    (kept : ∀ text, finalEntryText? entries = some text →
      lastText (styleOf text.toList) text.toList = text.toList) :
    entriesWithoutFeeds (entryNodes entries) = entryNodes entries := by
  match entries with
  | [] => rfl
  | [(key, value)] =>
      exact congrArg (fun node => [(textNode key.toList, node)]) (withoutFeeds_nodeOf value kept)
  | (key, value) :: second :: rest =>
      exact congrArg ((textNode key.toList, nodeOf value) :: ·)
        (withoutFeeds_entryNodes (second :: rest) kept)

end

/-! ## Read trees -/

theorem finalItemText_cons (item : Tree) {rest : List Tree} {text : String}
    (final : finalItemText? rest = some text) : finalItemText? (item :: rest) = some text := by
  cases rest with
  | nil => cases final
  | cons second rest => exact final

theorem finalEntryText_cons (entry : String × Tree) {rest : List (String × Tree)} {text : String}
    (final : finalEntryText? rest = some text) : finalEntryText? (entry :: rest) = some text := by
  cases rest with
  | nil => cases final
  | cons second rest => exact final

/-- The entry of a read mapping, in front of the others. -/
theorem ofEntries_cons {seen : List Value} {key value : Content}
    {rest : List (Content × Content)} {values : List (Value × Value)}
    (read : Value.ofEntries seen ((key, value) :: rest) = .ok values) :
    ∃ keyValue itsValue others, values = (keyValue, itsValue) :: others ∧
      Value.ofContent value = .ok itsValue ∧
      Value.ofEntries (keyValue :: seen) rest = .ok others := by
  obtain ⟨keyValue, -, read⟩ := ok_of_bind read
  split at read
  · cases read
  · obtain ⟨itsValue, readValue, read⟩ := ok_of_bind read
    obtain ⟨others, readOthers, read⟩ := ok_of_bind read
    cases read
    exact ⟨keyValue, itsValue, others, rfl, readValue, readOthers⟩

/-- The entry of a tree's mapping, in front of the others. -/
theorem entryTrees_cons {key value : Value} {rest : List (Value × Value)}
    {trees : List (String × Tree)} (held : Value.entryTrees ((key, value) :: rest) = .ok trees) :
    ∃ name tree others, trees = (name, tree) :: others ∧ value.toTree = .ok tree ∧
      Value.entryTrees rest = .ok others := by
  cases key with
  | text name =>
      obtain ⟨tree, heldValue, held⟩ := ok_of_bind held
      obtain ⟨others, heldOthers, held⟩ := ok_of_bind held
      cases held
      exact ⟨name, tree, others, rfl, heldValue, heldOthers⟩
  | _ => cases held

variable (anchors : List (Nat × Node)) (limit : Nat)

theorem expand_scalar (depth followed : Nat) (label : Option Nat) (tag : Option String)
    (style : ScalarStyle) (text : List Char) :
    Content.expand anchors limit depth followed (.scalar label tag style text) =
      (.scalar tag style text, followed) := by
  cases depth <;> rfl

mutual

/-- The tree of a bare node ends with the quoted text that the node ends with. -/
theorem finalText_of_node (node : Node) (bare : isBare node = true) {style : ScalarStyle}
    {text : List Char} (final : finalScalar? node = some (style, text)) (quoted : style ≠ .plain)
    (depth followed : Nat) {value : Value} {tree : Tree}
    (read : Value.ofContent (Content.expand anchors limit depth followed node).1 = .ok value)
    (held : value.toTree = .ok tree) : finalText? tree = some (String.ofList text) := by
  match node, depth with
  | .scalar label tag style text, _ =>
      cases final
      simp only [isBare, Bool.and_eq_true, Option.isNone_iff_eq_none] at bare
      obtain ⟨rfl, rfl⟩ := bare
      rw [expand_scalar] at read
      rw [Value.ofContent, Scalar.ofStyle, if_neg quoted] at read
      cases read
      cases held
      rfl
  | .sequence label tag items, 0 => cases read
  | .mapping label tag entries, 0 => cases read
  | .sequence label tag items, depth + 1 =>
      simp only [isBare, Bool.and_eq_true, Option.isNone_iff_eq_none] at bare
      obtain ⟨⟨rfl, rfl⟩, bareItems⟩ := bare
      obtain ⟨values, readItems, read⟩ := ok_of_bind read
      cases read
      obtain ⟨trees, heldItems, held⟩ := ok_of_bind held
      cases held
      exact finalText_of_items items bareItems final quoted depth _ readItems heldItems
  | .mapping label tag entries, depth + 1 =>
      simp only [isBare, Bool.and_eq_true, Option.isNone_iff_eq_none] at bare
      obtain ⟨⟨rfl, rfl⟩, bareEntries⟩ := bare
      obtain ⟨values, readEntries, read⟩ := ok_of_bind read
      cases read
      obtain ⟨trees, heldEntries, held⟩ := ok_of_bind held
      have valid := Value.areValidEntries_of_ofEntries _ readEntries
      rw [Value.collect_of_entryTrees valid heldEntries] at held
      cases held
      exact finalText_of_entries entries bareEntries final quoted depth _ _ readEntries heldEntries
  | .alias _, _ => cases bare

theorem finalText_of_items (items : List Node) (bare : areBareItems items = true)
    {style : ScalarStyle} {text : List Char} (final : finalItemScalar? items = some (style, text))
    (quoted : style ≠ .plain) (depth followed : Nat) {values : List Value} {trees : List Tree}
    (read : Value.ofItems
      (Content.eachItem (Content.expand anchors limit depth) followed items).1 = .ok values)
    (held : Value.itemTrees values = .ok trees) :
    finalItemText? trees = some (String.ofList text) := by
  match items with
  | [] => cases final
  | [item] =>
      simp only [areBareItems, Bool.and_eq_true] at bare
      obtain ⟨value, readItem, read⟩ := ok_of_bind read
      cases read
      obtain ⟨tree, heldItem, held⟩ := ok_of_bind held
      cases held
      exact finalText_of_node item bare.1 final quoted depth followed readItem heldItem
  | item :: second :: rest =>
      rw [areBareItems, Bool.and_eq_true] at bare
      obtain ⟨value, -, read⟩ := ok_of_bind read
      obtain ⟨others, readOthers, read⟩ := ok_of_bind read
      cases read
      obtain ⟨tree, -, held⟩ := ok_of_bind held
      obtain ⟨otherTrees, heldOthers, held⟩ := ok_of_bind held
      cases held
      exact finalItemText_cons tree
        (finalText_of_items (second :: rest) bare.2 final quoted depth _ readOthers heldOthers)

theorem finalText_of_entries (entries : List (Node × Node)) (bare : areBareEntries entries = true)
    {style : ScalarStyle} {text : List Char}
    (final : finalEntryScalar? entries = some (style, text)) (quoted : style ≠ .plain)
    (depth followed : Nat) (seen : List Value) {values : List (Value × Value)}
    {trees : List (String × Tree)}
    (read : Value.ofEntries seen
      (Content.eachEntry (Content.expand anchors limit depth) followed entries).1 = .ok values)
    (held : Value.entryTrees values = .ok trees) :
    finalEntryText? trees = some (String.ofList text) := by
  match entries with
  | [] => cases final
  | [(key, value)] =>
      simp only [areBareEntries, Bool.and_eq_true] at bare
      obtain ⟨keyValue, itsValue, others, rfl, readValue, readOthers⟩ := ofEntries_cons read
      cases readOthers
      obtain ⟨name, tree, otherTrees, rfl, heldValue, heldOthers⟩ := entryTrees_cons held
      cases heldOthers
      exact finalText_of_node value bare.1.2 final quoted depth _ readValue heldValue
  | (key, value) :: second :: rest =>
      rw [areBareEntries, Bool.and_eq_true] at bare
      obtain ⟨keyValue, itsValue, others, rfl, -, readOthers⟩ := ofEntries_cons read
      obtain ⟨name, tree, otherTrees, rfl, -, heldOthers⟩ := entryTrees_cons held
      exact finalEntryText_cons (name, tree)
        (finalText_of_entries (second :: rest) bare.2 final quoted depth _ _ readOthers heldOthers)

end

end ReleaseRules.Yaml
