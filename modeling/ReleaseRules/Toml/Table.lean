import ReleaseRules.Document.Datum
import ReleaseRules.Toml.Text

/-!
Contract: the tables that TOML statements build up.

Owns:
- tables that may still grow, and lists of them;
- where a dotted key or a header leads, and what it must not do again;
- the data of finished tables, with keys in order.

Does not own: the texts of statements.
-/

namespace ReleaseRules.Toml

/-- What stands under a key: a finished value, a table or a list of tables.

A table is implied when only headers of its parts or dotted keys have named it, and dotted
when the latter made it. -/
inductive Item where
  | value (datum : Datum)
  | table (implied dotted : Bool) (entries : List (String × Item))
  | tables (elements : List (List (String × Item)))
deriving Repr

/-- Entries of a table. -/
abbrev Entries := List (String × Item)

/-- How a path is followed: by a dotted key, by a header, or to the table of the last
header. -/
inductive Route where
  | dottedKey
  | header
  | section
deriving DecidableEq, Repr

/-- Change the table that a path leads to. Missing tables on the way are made. A dotted key
must not lead into a table that has a header of its own. -/
def changeAt (route : Route) (change : Entries → Except ReadError Entries) :
    List String → Entries → Except ReadError Entries
  | [], entries => change entries
  | key :: rest, entries =>
      match Tree.lookup key entries with
      | none => do
          let inner ← changeAt route change rest []
          return entries ++ [(key, .table true (route = .dottedKey) inner)]
      | some (.table implied dotted inner) =>
          if route = .dottedKey ∧ !implied then .error (.duplicateKey key)
          else do
            let inner ← changeAt route change rest inner
            return Tree.insert key (.table implied dotted inner) entries
      | some (.tables elements) =>
          match elements.reverse with
          | [] => .error (.notATable key)
          | last :: earlier => do
              let last ← changeAt route change rest last
              return Tree.insert key (.tables (earlier.reverse ++ [last])) entries
      | some (.value _) => .error (.notATable key)

/-- Add a value under a key that is not taken. -/
def addValue (key : String) (datum : Datum) (entries : Entries) : Except ReadError Entries :=
  match Tree.lookup key entries with
  | none => .ok (entries ++ [(key, .value datum)])
  | some _ => .error (.duplicateKey key)

/-- Add a value under a dotted key. -/
def addDotted (path : List String) (datum : Datum) (entries : Entries) :
    Except ReadError Entries :=
  match path.reverse with
  | [] => .error .invalidKey
  | key :: parents =>
      changeAt .dottedKey (addValue key datum) parents.reverse entries

/-- Open the table of a header. An implied table becomes one with a header, unless dotted keys
made it. -/
def openTable (key : String) (entries : Entries) : Except ReadError Entries :=
  match Tree.lookup key entries with
  | none => .ok (entries ++ [(key, .table false false [])])
  | some (.table true false inner) => .ok (Tree.insert key (.table false false inner) entries)
  | some _ => .error (.duplicateKey key)

/-- Open a new table in the list of a header. -/
def openElement (key : String) (entries : Entries) : Except ReadError Entries :=
  match Tree.lookup key entries with
  | none => .ok (entries ++ [(key, .tables [[]])])
  | some (.tables elements) => .ok (Tree.insert key (.tables (elements ++ [[]])) entries)
  | some _ => .error (.duplicateKey key)

/-- Open what a header names. -/
def openHeader (isList : Bool) (path : List String) (entries : Entries) :
    Except ReadError Entries :=
  match path.reverse with
  | [] => .error .invalidKey
  | key :: parents =>
      changeAt .header (if isList then openElement key else openTable key) parents.reverse
        entries

/-- Statement of a document. -/
inductive Statement where
  | pair (path : List String) (value : Datum)
  | header (isList : Bool) (path : List String)
deriving Repr

/-- Carry out statements one after the other. `section_` is the path of the last header. -/
def runStatements :
    List Statement → List String → Entries → Except ReadError Entries
  | [], _, entries => .ok entries
  | .pair path value :: rest, section_, entries => do
      let entries ← changeAt .section (addDotted path value) section_ entries
      runStatements rest section_ entries
  | .header isList path :: rest, _, entries => do
      let entries ← openHeader isList path entries
      runStatements rest path entries

/-- Put an entry into its place in the order of keys. -/
def insertSorted {α : Type} (entry : String × α) : List (String × α) → List (String × α)
  | [] => [entry]
  | first :: rest =>
      if entry.1 < first.1 then entry :: first :: rest else first :: insertSorted entry rest

/-- Entries in the order of their keys. -/
def sortEntries {α : Type} (entries : List (String × α)) : List (String × α) :=
  entries.foldr insertSorted []

/-- The record of entries in the order of their keys. -/
def recordOf (entries : List (String × Datum)) : Datum :=
  .record ((sortEntries entries).map fun entry => (.text entry.1, entry.2))

mutual

/-- The data of an item. -/
def Item.datum : Item → Datum
  | .value datum => datum
  | .table _ _ entries => recordOf (entryData entries)
  | .tables elements => .list (elementData elements)

/-- The data of all entries. -/
def entryData : List (String × Item) → List (String × Datum)
  | [] => []
  | (key, item) :: rest => (key, item.datum) :: entryData rest

/-- The data of all tables in a list. -/
def elementData : List (List (String × Item)) → List Datum
  | [] => []
  | entries :: rest => recordOf (entryData entries) :: elementData rest

end

end ReleaseRules.Toml
