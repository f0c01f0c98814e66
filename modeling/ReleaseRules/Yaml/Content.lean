import ReleaseRules.Document.Datum
import ReleaseRules.Yaml.Node
import ReleaseRules.Yaml.Scalar

/-!
Contract: the content of a YAML document, with every alias replaced by what it stands for.

Owns:
- the content type, in which what cannot be reached is marked as such;
- the limits on nesting and on the number of aliases that are followed;
- the untyped data of content.

Does not own: the values of documents.
-/

namespace ReleaseRules.Yaml

open Number (Floating)

/-- Content of a document. What lies beyond a limit is unreachable; that matters only where it
is looked at. -/
inductive Content where
  | absent
  | scalar (tag : Option String) (style : ScalarStyle) (text : List Char)
  | sequence (tag : Option String) (items : List Content)
  | mapping (tag : Option String) (entries : List (Content × Content))
  | unreachable (reason : ReadError)
deriving Repr, Inhabited

namespace Content

/-- How many collections may contain each other. -/
def nestingLimit : Nat := 128

/-- How many aliases may be followed for every event of a document. -/
def aliasesPerEvent : Nat := 100

/-- Apply a counting step to all items. -/
def eachItem (step : Nat → Node → Content × Nat) : Nat → List Node → List Content × Nat
  | count, [] => ([], count)
  | count, item :: rest =>
      let (first, count) := step count item
      let (others, count) := eachItem step count rest
      (first :: others, count)

/-- Apply a counting step to all keys and values. -/
def eachEntry (step : Nat → Node → Content × Nat) :
    Nat → List (Node × Node) → List (Content × Content) × Nat
  | count, [] => ([], count)
  | count, (key, value) :: rest =>
      let (key, count) := step count key
      let (value, count) := step count value
      let (others, count) := eachEntry step count rest
      ((key, value) :: others, count)

/-- The node that a node stands for: itself, or the node of its label. -/
def target (anchors : List (Nat × Node)) : Node → Node
  | .alias label => (anchors.lookup label).getD .missing
  | node => node

/-- Whether a node is an alias. -/
def isAlias : Node → Bool
  | .alias _ => true
  | _ => false

/-- Replace aliases. `limit` bounds the number of aliases, of which `followed` have been
followed, and `depth` is the number of collections that may still be entered. -/
def expand (anchors : List (Nat × Node)) (limit : Nat) :
    Nat → Nat → Node → Content × Nat
  | depth, followed, node =>
      let followed := if isAlias node then followed + 1 else followed
      if isAlias node && limit < followed then (.unreachable .tooManyAliases, followed)
      else
        match depth, target anchors node with
        | _, .scalar _ tag style text => (.scalar tag style text, followed)
        | 0, .sequence _ _ _ => (.unreachable .nestingTooDeep, followed)
        | depth + 1, .sequence _ tag items =>
            let (items, followed) := eachItem (expand anchors limit depth) followed items
            (.sequence tag items, followed)
        | 0, .mapping _ _ _ => (.unreachable .nestingTooDeep, followed)
        | depth + 1, .mapping _ tag entries =>
            let (entries, followed) := eachEntry (expand anchors limit depth) followed entries
            (.mapping tag entries, followed)
        | _, .alias _ => (.unreachable .unknownAnchor, followed)

/-- The content of a document. Of the nodes that share a label the last one counts. -/
def ofNode (node : Node) : Content :=
  (expand (Node.anchored node).reverse (aliasesPerEvent * Node.events node) nestingLimit 0
    node).1

/-- The content of the only document of a text. -/
def read (text : List Char) : Except ReadError Content := do
  match ← Node.document text with
  | some node => return ofNode node
  | none => return .absent

/-- The data of a scalar. -/
def scalarDatum : Scalar → Except ReadError Datum
  | .null => .ok .null
  | .bool value => .ok (.bool value)
  | .integer value =>
      if exactInteger value then .ok (.integer value) else .error .integerTooLarge
  | .floating value => .ok (.floating value)
  | .text value => .ok (.text (String.ofList value))

mutual

/-- The data of content. Data has no local tags. -/
def datum : Content → Except ReadError Datum
  | .absent => .ok .null
  | .scalar tag style text =>
      match tag with
      | none => scalarDatum (.ofStyle style text)
      | some tag =>
          if (localName? tag).isSome then .error .invalidTag
          else do scalarDatum (← Scalar.underTag tag text)
  | .sequence tag items =>
      if (tag.bind localName?).isSome then .error .invalidTag
      else do return .list (← itemData items)
  | .mapping tag entries =>
      if (tag.bind localName?).isSome then .error .invalidTag
      else do return .record (← entryData entries)
  | .unreachable reason => .error reason

/-- The data of all items. -/
def itemData : List Content → Except ReadError (List Datum)
  | [] => .ok []
  | item :: rest => do
      let first ← datum item
      let others ← itemData rest
      return first :: others

/-- The data of all keys and values. -/
def entryData : List (Content × Content) → Except ReadError (List (Datum × Datum))
  | [] => .ok []
  | (key, value) :: rest => do
      let key ← datum key
      let value ← datum value
      let others ← entryData rest
      return (key, value) :: others

end

end Content

end ReleaseRules.Yaml
