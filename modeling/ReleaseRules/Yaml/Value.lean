import ReleaseRules.Unicode.Version17
import ReleaseRules.Yaml.Content

/-!
Contract: the values of YAML documents and the trees that hold them.

Owns:
- the value type, which has tags and keys of every kind;
- equality of keys;
- the tree of a value, number by number and entry by entry, and the three reasons for which there
  is none;
- the text of a key that no tree can hold.

Does not own: reading content from a text.
-/

namespace ReleaseRules.Yaml

open Number (Floating integerText)

/-- Value of a document. -/
inductive Value where
  | null
  | bool (value : Bool)
  | integer (value : Int)
  | floating (value : Floating)
  | text (value : String)
  | sequence (items : List Value)
  | mapping (entries : List (Value × Value))
  | tagged (name : String) (value : Value)
deriving Repr, Inhabited

namespace Value

/-- Equality of floating-point keys: the zeros are equal, and so are undefined numbers. -/
def sameFloating : Floating → Floating → Bool
  | .finite left, .finite right => left.sameValue right
  | left, right => left == right

mutual

/-- Equality of values; the order of entries does not matter. -/
def same : Value → Value → Bool
  | .null, .null => true
  | .bool left, .bool right => left == right
  | .integer left, .integer right => left == right
  | .floating left, .floating right => sameFloating left right
  | .text left, .text right => left == right
  | .sequence left, .sequence right => sameItems left right
  | .mapping left, .mapping right =>
      left.length == right.length && sameEntries left right
  | .tagged leftName left, .tagged rightName right => leftName == rightName && same left right
  | _, _ => false

/-- Equality of items at the same positions. -/
def sameItems : List Value → List Value → Bool
  | [], [] => true
  | left :: leftRest, right :: rightRest => same left right && sameItems leftRest rightRest
  | _, _ => false

/-- Whether every entry on the left has an equal entry on the right. -/
def sameEntries : List (Value × Value) → List (Value × Value) → Bool
  | [], _ => true
  | (key, value) :: rest, right =>
      right.any (fun entry => same key entry.1 && same value entry.2) && sameEntries rest right

end

/-- The value of a scalar. -/
def ofScalar : Scalar → Except ReadError Value
  | .null => .ok .null
  | .bool value => .ok (.bool value)
  | .integer value =>
      if exactInteger value then .ok (.integer value) else .error .integerTooLarge
  | .floating value => .ok (.floating value)
  | .text value => .ok (.text (String.ofList value))

/-- Put a value under its local tag, if it has one. -/
def underLocalTag (tag : Option String) (value : Value) : Value :=
  match tag.bind localName? with
  | some name => .tagged name value
  | none => value

mutual

/-- The value of content. Two equal keys in one mapping are refused. -/
def ofContent : Content → Except ReadError Value
  | .absent => .ok .null
  | .scalar tag style characters =>
      match tag with
      | none => ofScalar (.ofStyle style characters)
      | some tag =>
          match localName? tag with
          | some name => do return .tagged name (← ofScalar (.ofStyle style characters))
          | none => do ofScalar (← Scalar.underTag tag characters)
  | .sequence tag items => do return underLocalTag tag (.sequence (← ofItems items))
  | .mapping tag entries => do return underLocalTag tag (.mapping (← ofEntries [] entries))
  | .unreachable reason => .error reason

/-- The values of all items. -/
def ofItems : List Content → Except ReadError (List Value)
  | [] => .ok []
  | item :: rest => do
      let first ← ofContent item
      let others ← ofItems rest
      return first :: others

/-- The values of all entries; `seen` holds the keys so far. -/
def ofEntries (seen : List Value) :
    List (Content × Content) → Except ReadError (List (Value × Value))
  | [] => .ok []
  | (key, value) :: rest => do
      let key ← ofContent key
      if seen.any (same key) then throw .duplicateKey
      let value ← ofContent value
      let others ← ofEntries (key :: seen) rest
      return (key, value) :: others

end

/-- The value of the only document of a text. -/
def read (source : List Char) : Except ReadError Value := do
  ofContent (← Content.read source)

/-- A tag as it is shown: a local name behind an exclamation mark. -/
def shownTag (name : String) : List Char := '!' :: name.toList

/-- Characters that a quoted text shows only by their numbers. -/
def isInvisible (character : Char) : Bool :=
  character != ' ' && Unicode.Version17.invisible.hasChar character

/-- One character of a quoted text. -/
def shownCharacter (character : Char) : List Char :=
  match character with
  | '\x00' => ['\\', '0']
  | '\t' => ['\\', 't']
  | '\r' => ['\\', 'r']
  | '\n' => ['\\', 'n']
  | '"' => ['\\', '"']
  | '\\' => ['\\', '\\']
  | _ =>
      if isInvisible character then
        ['\\', 'u', '\x7b'] ++ Nat.toDigits 16 character.toNat ++ ['\x7d']
      else [character]

/-- A text in quotes. -/
def shownText (value : String) : List Char :=
  '"' :: (value.toList.flatMap shownCharacter ++ ['"'])

/-- The plain text of a scalar key, as it is shown inside a mapping. -/
def shownKey? : Value → Option (List Char)
  | .bool value => some (toString value).toList
  | .integer value => some (integerText value)
  | .floating value => some (floatingText value)
  | .text value => some (shownText value)
  | _ => none

mutual

/-- A value as it is shown in a message. -/
def shown : Value → List Char
  | .null => "Null".toList
  | .bool value => "Bool(".toList ++ (toString value).toList ++ [')']
  | .integer value => "Number(".toList ++ integerText value ++ [')']
  | .floating value => "Number(".toList ++ floatingText value ++ [')']
  | .text value => "String(".toList ++ shownText value ++ [')']
  | .sequence items => "Sequence [".toList ++ shownItems items ++ [']']
  | .mapping entries => "Mapping \x7b".toList ++ shownEntries entries ++ ['\x7d']
  | .tagged name value =>
      "TaggedValue \x7b tag: ".toList ++ shownTag name ++ ", value: ".toList ++
        shown value ++ " \x7d".toList

/-- Items with commas between them. -/
def shownItems : List Value → List Char
  | [] => []
  | [item] => shown item
  | item :: rest => shown item ++ ", ".toList ++ shownItems rest

/-- Entries with commas between them. -/
def shownEntries : List (Value × Value) → List Char
  | [] => []
  | [(key, value)] => (shownKey? key).getD (shown key) ++ ": ".toList ++ shown value
  | (key, value) :: rest =>
      (shownKey? key).getD (shown key) ++ ": ".toList ++ shown value ++ ", ".toList ++
        shownEntries rest

end

/-- Reasons for which a value has no tree. -/
inductive TreeError where
  | unsupportedNumber (value : Floating)
  | foreignKey (key : Value)
  | tagged (name : String)
deriving Repr

/-- Message of a missing tree. -/
def TreeError.message : TreeError → String
  | .unsupportedNumber value => "unsupported number " ++ String.ofList (floatingText value)
  | .foreignKey key => "non-string mapping key " ++ String.ofList (shown key)
  | .tagged name => "tagged value " ++ String.ofList (shownTag name)

/-- An integer as a signed one of 64 bits, if it is one. -/
def signed? (value : Int) : Option Int :=
  if -9223372036854775808 ≤ value ∧ value ≤ 9223372036854775807 then some value else none

/-- An integer as an unsigned one of 64 bits, if it is one. -/
def unsigned? (value : Int) : Option Int :=
  if 0 ≤ value ∧ value ≤ 18446744073709551615 then some value else none

/-- The floating-point number next to an integer. -/
def nearest (value : Int) : Floating :=
  match Number.Binary64.ofQuotient (decide (value < 0)) value.natAbs 1 with
  | some number => .finite number
  | none => .infinity (decide (value < 0))

/-- A floating-point number in a tree; it has to be finite. -/
def ofFloating : Floating → Except TreeError Tree
  | .finite value => .ok (.number (.floating value))
  | value => .error (.unsupportedNumber value)

/-- An integer in a tree: signed if it can be, else unsigned if it can be, else the floating-point
number next to it. -/
def ofInteger (value : Int) : Except TreeError Tree :=
  match signed? value with
  | some value => .ok (.number (.integer value))
  | none =>
      match unsigned? value with
      | some value => .ok (.number (.integer value))
      | none => ofFloating (nearest value)

mutual

/-- The tree of a value. The first node in document order that no tree holds is reported; a
key comes before its value. The entries of a mapping are inserted one by one. -/
def toTree : Value → Except TreeError Tree
  | .null => .ok .null
  | .bool value => .ok (.bool value)
  | .integer value => ofInteger value
  | .floating value => ofFloating value
  | .text value => .ok (.text value)
  | .sequence items => do return .list (← itemTrees items)
  | .mapping entries => do return .map (Tree.collect (← entryTrees entries))
  | .tagged name _ => .error (.tagged name)

/-- The trees of all items. -/
def itemTrees : List Value → Except TreeError (List Tree)
  | [] => .ok []
  | item :: rest => do
      let first ← toTree item
      let others ← itemTrees rest
      return first :: others

/-- The entries with the trees of their values. -/
def entryTrees : List (Value × Value) → Except TreeError (List (String × Tree))
  | [] => .ok []
  | (key, value) :: rest =>
      match key with
      | .text key => do
          let first ← toTree value
          let others ← entryTrees rest
          return (key, first) :: others
      | key => .error (.foreignKey key)

end

end Value

end ReleaseRules.Yaml
