import ReleaseRules.Document.Datum
import ReleaseRules.Yaml.Content

/-!
Contract: the dialects in which rules are written.

Owns:
- what a dialect has to tell about its sources: texts, flags, lists, fields and variants;
- the dialects of JSON, of YAML, of TOML and of data whose dialect no longer matters.

Does not own: the rules that are read.
-/

namespace ReleaseRules

/-- The key of a field: its name or its position among the fields. -/
inductive FieldKey where
  | name (text : String)
  | position (index : Nat)
deriving DecidableEq, Repr

/-- Fields of a record: by key, or in order of declaration. Of the latter, `open_` tells whether
there may be more than are declared. -/
inductive Fields (Source : Type) where
  | keyed (entries : List (FieldKey × Source))
  | ordered (open_ : Bool) (items : List Source)

/-- A record with the name of its variant taken out of it. -/
structure Tagged where
  variant : String
  rest : Datum
deriving Repr

/-- What a dialect tells about its sources. Every question may have no answer. -/
structure Dialect (Source : Type) where
  /-- A text. -/
  text? : Source → Option String
  /-- A truth value. -/
  flag? : Source → Option Bool
  /-- Something or, where the dialect has a form for it, nothing. -/
  option? : Source → Option (Option Source)
  /-- A list. -/
  items? : Source → Option (List Source)
  /-- A record. -/
  fields? : Source → Option (Fields Source)
  /-- A variant: its key and what it carries. -/
  variant? : Source → Option (FieldKey × Option Source)
  /-- Whether a variant that carries this carries nothing. -/
  isEmptyPayload : Source → Bool
  /-- A record that names its variant itself. -/
  tagged? : Source → Option Tagged
  /-- The data of a source. -/
  datum? : Source → Option Datum
  /-- The document tree of a source. -/
  tree? : Source → Option Tree

namespace Datum

/-- The text of data that is a text. -/
def text? : Datum → Option String
  | .text value => some value
  | _ => none

/-- The truth value of data that is one. -/
def flag? : Datum → Option Bool
  | .bool value => some value
  | _ => none

/-- Null is nothing, all else something. -/
def option? : Datum → Option (Option Datum)
  | .unusable => none
  | .null => some none
  | value => some (some value)

/-- The items of a list. -/
def items? : Datum → Option (List Datum)
  | .list items => some items
  | _ => none

/-- The key of a field: a text or a number that is not negative. -/
def fieldKey? : Datum → Option FieldKey
  | .text name => some (.name name)
  | .integer value => if 0 ≤ value then some (.position value.toNat) else none
  | _ => none

/-- The entries of a record whose keys are all keys of fields. -/
def keyedEntries? : List (Datum × Datum) → Option (List (FieldKey × Datum))
  | [] => some []
  | (key, value) :: rest => do
      let key ← fieldKey? key
      let others ← keyedEntries? rest
      return (key, value) :: others

/-- The fields of a record or of a list; `open_` tells whether a list may be too long. -/
def fieldsOf? (open_ : Bool) : Datum → Option (Fields Datum)
  | .record entries => (keyedEntries? entries).map .keyed
  | .list items => some (.ordered open_ items)
  | _ => none

/-- A variant as a text, or as the only key of a record with what it carries. -/
def variant? : Datum → Option (FieldKey × Option Datum)
  | .text name => some (.name name, none)
  | .record [(key, value)] => (fieldKey? key).map (·, some value)
  | _ => none

/-- The entries without the one that names the variant, and that name; there has to be exactly
one. -/
def takeVariant? : List (Datum × Datum) → Option (Option String × List (Datum × Datum))
  | [] => some (none, [])
  | (key, value) :: rest => do
      let (found, others) ← takeVariant? rest
      match key with
      | .text "type" =>
          match found, value with
          | none, .text name => return (some name, others)
          | _, _ => none
      | _ => return (found, (key, value) :: others)

/-- A record that names its variant under `type`, or a list that starts with the name. All of it
has to be usable. -/
def tagged? (source : Datum) : Option Tagged :=
  if source.isUsable then
    match source with
    | .record entries => do
        let (found, rest) ← takeVariant? entries
        return ⟨← found, .record rest⟩
    | .list (.text name :: rest) => some ⟨name, .list rest⟩
    | _ => none
  else none

/-- Data, all of which has to be usable. -/
def whole? (source : Datum) : Option Datum := if source.isUsable then some source else none

end Datum

namespace Dialect

/-- Rules as JSON. -/
def json : Dialect Datum :=
  { text? := Datum.text?
    flag? := Datum.flag?
    option? := Datum.option?
    items? := Datum.items?
    fields? := Datum.fieldsOf? false
    variant? := Datum.variant?
    isEmptyPayload := fun payload =>
      match payload with
      | .null => true
      | _ => false
    tagged? := Datum.tagged?
    datum? := Datum.whole?
    tree? := Datum.toTree? }

/-- Parts of rules that were kept as data first. An empty record counts as no payload. -/
def kept : Dialect Datum :=
  { json with
    isEmptyPayload := fun payload =>
      match payload with
      | .null => true
      | .record [] => true
      | _ => false }

/-- Rules as TOML, which has no form for nothing. Lists may have more items than a record has
fields. -/
def toml : Dialect Datum :=
  { json with
    option? := fun value => some (some value)
    fields? := Datum.fieldsOf? true
    isEmptyPayload := fun payload =>
      match payload with
      | .list [] => true
      | .record [] => true
      | _ => false }

end Dialect

namespace Yaml.Content

/-- The text of a scalar of any style and tag. -/
def text? : Content → Option String
  | .scalar _ _ characters => some (String.ofList characters)
  | _ => none

/-- Whether a scalar is one of those that stand for nothing. -/
def isNothing : Content → Bool
  | .absent => true
  | .scalar _ style characters => style = .plain && (characters.isEmpty || isNull characters)
  | _ => false

/-- The truth value of a plain scalar, or of a literal one that is tagged so. -/
def flag? : Content → Option Bool
  | .scalar tag style characters =>
      if style = .plain || (style = .literal && tag == some "tag:yaml.org,2002:bool") then
        bool? characters
      else none
  | _ => none

/-- Plain scalars may stand for nothing. Under the tag of null nothing else is allowed, and
under any other tag they are something. -/
def option? : Content → Option (Option Content)
  | .absent => some none
  | .scalar tag style characters =>
      let content := Content.scalar tag style characters
      if style = .plain then
        match tag with
        | none => some (if content.isNothing then none else some content)
        | some "tag:yaml.org,2002:null" => if isNull characters then some none else none
        | some _ => some (some content)
      else some (some content)
  | .unreachable _ => none
  | content => some (some content)

/-- Whether a source is an empty plain scalar. -/
def isBlankScalar : Content → Bool
  | .absent => true
  | .scalar _ style characters => style = .plain && characters.isEmpty
  | _ => false

/-- The items of a sequence. An empty plain scalar is an empty list. -/
def items? : Content → Option (List Content)
  | .sequence _ items => some items
  | content => if content.isBlankScalar then some [] else none

/-- The entries of a mapping under the texts of their keys. -/
def keyedEntries? : List (Content × Content) → Option (List (FieldKey × Content))
  | [] => some []
  | (key, value) :: rest => do
      let name ← key.text?
      let others ← keyedEntries? rest
      return (.name name, value) :: others

/-- The fields of a mapping or a sequence. An empty plain scalar has none. -/
def fields? : Content → Option (Fields Content)
  | .sequence _ items => some (.ordered false items)
  | .mapping _ entries => (keyedEntries? entries).map .keyed
  | content => if content.isBlankScalar then some (.keyed []) else none

/-- A variant as a local tag, or as the text of a scalar. -/
def variant? : Content → Option (FieldKey × Option Content)
  | .scalar tag style characters =>
      match tag.bind localName? with
      | some name => some (.name name, some (.scalar none style characters))
      | none => some (.name (String.ofList characters), none)
  | .sequence tag items =>
      (tag.bind localName?).map fun name => (.name name, some (.sequence none items))
  | .mapping tag entries =>
      (tag.bind localName?).map fun name => (.name name, some (.mapping none entries))
  | _ => none

/-- Whether content is the key under which a record names its variant. -/
def isVariantKey (key : Datum) : Bool :=
  match key with
  | .text "type" => true
  | _ => false

/-- The entries without the one that names the variant, and that name. -/
def takeVariant? :
    List (Content × Content) → Option (Option String × List (Datum × Datum))
  | [] => some (none, [])
  | (key, value) :: rest => do
      let (found, others) ← takeVariant? rest
      let key ← key.datum.toOption
      if isVariantKey key then
        match found with
        | none => return (some (← value.text?), others)
        | some _ => none
      else return (found, (key, ← value.datum.toOption) :: others)

/-- A mapping that names its variant under `type`, or a sequence that starts with the name. -/
def tagged? : Content → Option Tagged
  | .mapping tag entries =>
      if (tag.bind localName?).isSome then none
      else do
        let (found, rest) ← takeVariant? entries
        return ⟨← found, .record rest⟩
  | .sequence tag (first :: rest) =>
      if (tag.bind localName?).isSome then none
      else do return ⟨← first.text?, .list (← (itemData rest).toOption)⟩
  | _ => none

mutual

/-- The document tree of content. Keys are the texts of scalars, and the last of several equal
keys counts. -/
def tree? : Content → Option Tree
  | .mapping tag entries =>
      if (tag.bind localName?).isSome then none
      else (entryTrees? entries).map fun entries => .map (Tree.collect entries)
  | .sequence tag items =>
      if (tag.bind localName?).isSome then none else (itemTrees? items).map .list
  | .scalar tag style characters =>
      (datum (.scalar tag style characters)).toOption.bind Datum.toTree?
  | .absent => some .null
  | .unreachable _ => none

/-- The trees of all items. -/
def itemTrees? : List Content → Option (List Tree)
  | [] => some []
  | item :: rest => do
      let first ← tree? item
      let others ← itemTrees? rest
      return first :: others

/-- The entries with the trees of their values. -/
def entryTrees? : List (Content × Content) → Option (List (String × Tree))
  | [] => some []
  | (key, value) :: rest => do
      let name ← key.text?
      let first ← tree? value
      let others ← entryTrees? rest
      return (name, first) :: others

end

end Yaml.Content

/-- Rules as YAML. -/
def Dialect.yaml : Dialect Yaml.Content :=
  { text? := Yaml.Content.text?
    flag? := Yaml.Content.flag?
    option? := Yaml.Content.option?
    items? := Yaml.Content.items?
    fields? := Yaml.Content.fields?
    variant? := Yaml.Content.variant?
    isEmptyPayload := Yaml.Content.isNothing
    tagged? := Yaml.Content.tagged?
    datum? := fun content => content.datum.toOption
    tree? := Yaml.Content.tree? }

end ReleaseRules
