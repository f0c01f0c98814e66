import ReleaseRules.Number.Binary64

/-!
Contract: the document tree that every structured format is read into.

Owns:
- the tree type, with maps as entries in the order of their first appearance;
- look-up and replacement of entries;
- equality of trees, which ignores the order of entries.

Does not own: texts of trees and dotted key paths.
-/

namespace ReleaseRules

open Number (Binary64)

/-- The integers that a tree can hold exactly: the signed and the unsigned 64-bit ones. -/
def exactInteger (value : Int) : Bool :=
  decide (-9223372036854775808 ≤ value) && decide (value ≤ 18446744073709551615)

/-- A number of a tree. An integer and a floating-point number are never equal. -/
inductive TreeNumber where
  | integer (value : Int)
  | floating (value : Binary64)
deriving DecidableEq, Repr, Inhabited

/-- Document tree. -/
inductive Tree where
  | null
  | bool (value : Bool)
  | number (value : TreeNumber)
  | text (value : String)
  | list (items : List Tree)
  | map (entries : List (String × Tree))
deriving Repr, Inhabited

/-- Equality of numbers; the two zeros are equal. -/
def TreeNumber.same : TreeNumber → TreeNumber → Bool
  | .integer left, .integer right => left == right
  | .floating left, .floating right => left.sameValue right
  | _, _ => false

namespace Tree

/-- Value of the first entry with the given key. -/
def lookup {α : Type} (key : String) : List (String × α) → Option α
  | [] => none
  | (name, value) :: rest => if name = key then some value else lookup key rest

/-- Put a value under a key: in the place of the key's entry, or at the end. -/
def insert {α : Type} (key : String) (value : α) : List (String × α) → List (String × α)
  | [] => [(key, value)]
  | (name, old) :: rest =>
      if name = key then (name, value) :: rest else (name, old) :: insert key value rest

/-- Entries in order of first appearance, each key with its last value. -/
def collect {α : Type} (entries : List (String × α)) : List (String × α) :=
  entries.foldl (fun collected entry => insert entry.1 entry.2 collected) []

mutual

/-- Equality of trees: items in order, entries in any order. -/
def same : Tree → Tree → Bool
  | .null, .null => true
  | .bool left, .bool right => left == right
  | .number left, .number right => left.same right
  | .text left, .text right => left == right
  | .list left, .list right => sameItems left right
  | .map left, .map right => left.length == right.length && sameEntries left right
  | _, _ => false

/-- Equality of items at the same positions. -/
def sameItems : List Tree → List Tree → Bool
  | [], [] => true
  | left :: leftRest, right :: rightRest => same left right && sameItems leftRest rightRest
  | _, _ => false

/-- Whether every entry of the left list has an equal partner on the right. -/
def sameEntries : List (String × Tree) → List (String × Tree) → Bool
  | [], _ => true
  | (key, value) :: rest, right =>
      (match lookup key right with
        | some partner => same value partner
        | none => false) && sameEntries rest right

end

/-- The text that a tree is, if it is one. -/
def asText : Tree → Option String
  | .text value => some value
  | _ => none

/-- The items that a tree has, if it is a list. -/
def asItems : Tree → Option (List Tree)
  | .list items => some items
  | _ => none

/-- The entries that a tree has, if it is a map. -/
def asEntries : Tree → Option (List (String × Tree))
  | .map entries => some entries
  | _ => none

end Tree

end ReleaseRules
