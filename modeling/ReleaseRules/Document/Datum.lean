import ReleaseRules.Document.Tree

/-!
Contract: self-describing data as a format delivers it, before it becomes a tree.

Owns:
- the data type, which keeps repeated keys, keys that are not texts, and values that can only be
  passed over;
- the tree that data denotes.

Does not own: how a format delivers its data.
-/

namespace ReleaseRules

open Number (Floating)

/-- Self-describing data. What is well-formed but has no value is `unusable`. -/
inductive Datum where
  | unusable
  | null
  | bool (value : Bool)
  | integer (value : Int)
  | floating (value : Floating)
  | text (value : String)
  | list (items : List Datum)
  | record (entries : List (Datum × Datum))
deriving Repr, Inhabited

namespace Datum

mutual

/-- The tree of the data. A floating-point value that is not finite becomes null, a repeated
key keeps its last value, and neither a key that is not a text nor an integer beyond 64 bits
nor what is unusable has a tree. -/
def toTree? : Datum → Option Tree
  | .unusable => none
  | .null => some .null
  | .bool value => some (.bool value)
  | .integer value =>
      if exactInteger value then some (.number (.integer value)) else none
  | .floating (.finite value) => some (.number (.floating value))
  | .floating _ => some .null
  | .text value => some (.text value)
  | .list items => (itemTrees? items).map .list
  | .record entries => (entryTrees? entries).map fun entries => .map (Tree.collect entries)

/-- The trees of all items. -/
def itemTrees? : List Datum → Option (List Tree)
  | [] => some []
  | item :: rest => do
      let first ← toTree? item
      let others ← itemTrees? rest
      return first :: others

/-- The entries with the trees of their values. -/
def entryTrees? : List (Datum × Datum) → Option (List (String × Tree))
  | [] => some []
  | (.text key, value) :: rest => do
      let first ← toTree? value
      let others ← entryTrees? rest
      return (key, first) :: others
  | _ => none

end

mutual

/-- The data of a tree. -/
def ofTree : Tree → Datum
  | .null => .null
  | .bool value => .bool value
  | .number (.integer value) => .integer value
  | .number (.floating value) => .floating (.finite value)
  | .text value => .text value
  | .list items => .list (ofItems items)
  | .map entries => .record (ofEntries entries)

/-- The data of all items. -/
def ofItems : List Tree → List Datum
  | [] => []
  | item :: rest => ofTree item :: ofItems rest

/-- The data of all entries. -/
def ofEntries : List (String × Tree) → List (Datum × Datum)
  | [] => []
  | (key, value) :: rest => (.text key, ofTree value) :: ofEntries rest

end

mutual

/-- Whether nothing in the data is unusable, and every integer fits into 64 bits. -/
def isUsable : Datum → Bool
  | .unusable => false
  | .integer value => exactInteger value
  | .list items => itemsAreUsable items
  | .record entries => entriesAreUsable entries
  | _ => true

/-- Whether nothing in the items is unusable. -/
def itemsAreUsable : List Datum → Bool
  | [] => true
  | item :: rest => isUsable item && itemsAreUsable rest

/-- Whether nothing in the keys and values is unusable. -/
def entriesAreUsable : List (Datum × Datum) → Bool
  | [] => true
  | (key, value) :: rest => isUsable key && isUsable value && entriesAreUsable rest

end

end Datum

end ReleaseRules
