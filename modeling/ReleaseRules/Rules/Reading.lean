import ReleaseRules.Rules.Basic
import ReleaseRules.Rules.Dialect

/-!
Contract: reading rules from their written form, in any dialect.

Owns:
- the fields of every part of a rule, with their other names and their defaults;
- what makes a part unreadable: a missing or repeated field, or one of the wrong kind.

Does not own: the grammars of the dialects.
-/

namespace ReleaseRules.Reading

/-- The place of a key among the names of declared fields. -/
def fieldIndex? (names : List (List String)) : FieldKey → Option Nat
  | .name text => names.findIdx? fun known => known.contains text
  | .position index => if index < names.length then some index else none

/-- Put sources into the slots of their fields. Unknown keys are passed over; a field that is
given twice is refused. -/
def fillSlots {Source : Type} (names : List (List String)) :
    List (FieldKey × Source) → List (Option Source) → Option (List (Option Source))
  | [], slots => some slots
  | (key, source) :: rest, slots =>
      match fieldIndex? names key with
      | none => fillSlots names rest slots
      | some index =>
          if (slots[index]?).join.isSome then none
          else fillSlots names rest (slots.set index (some source))

/-- The sources of declared fields, in order of declaration. -/
def slots? {Source : Type} (names : List (List String)) :
    Fields Source → Option (List (Option Source))
  | .keyed entries => fillSlots names entries (names.map fun _ => none)
  | .ordered open_ items =>
      if !open_ && names.length < items.length then none
      else
        some ((items.take names.length).map some ++
          List.replicate (names.length - items.length) none)

/-- Read all items, or nothing if one of them cannot be read. -/
def readAll {Source α : Type} (read : Source → Option α) : List Source → Option (List α)
  | [] => some []
  | item :: rest => do
      let first ← read item
      let others ← readAll read rest
      return first :: others

variable {Source : Type}

/-- Read a list. -/
def list? {α : Type} (dialect : Dialect Source) (read : Source → Option α) (source : Source) :
    Option (List α) := (dialect.items? source).bind (readAll read)

/-- Read something that may be nothing. -/
def optional? {α : Type} (dialect : Dialect Source) (read : Source → Option α)
    (source : Source) : Option (Option α) := do
  match ← dialect.option? source with
  | none => return none
  | some inner => return some (← read inner)

/-- Read a field, with a default for one that is missing. -/
def withDefault {α : Type} (default : α) (read : Source → Option α) : Option Source → Option α
  | none => some default
  | some source => read source

/-- The variant of several that a key names, by name or by number. -/
def chosen? {α : Type} (ofName? : String → Option α) (inOrder : List α) :
    FieldKey → Option α
  | .name text => ofName? text
  | .position index => inOrder[index]?

/-- Read a variant that carries nothing. -/
def plainVariant? {α : Type} (dialect : Dialect Source) (ofName? : String → Option α)
    (inOrder : List α) (source : Source) : Option α := do
  let (key, payload) ← dialect.variant? source
  let value ← chosen? ofName? inOrder key
  if payload.all dialect.isEmptyPayload then return value else none

/-- Read a strategy. -/
def strategy? (dialect : Dialect Source) : Source → Option Strategy :=
  plainVariant? dialect Strategy.ofName? Strategy.inOrder

/-- The format of a name. -/
def formatOfName? : String → Option Format
  | "yaml" => some .yaml
  | "json" => some .json
  | _ => none

/-- Read a format. -/
def format? (dialect : Dialect Source) : Source → Option Format :=
  plainVariant? dialect formatOfName? [.yaml, .json]

/-- Kinds of version sources. -/
inductive SourceKind where
  | tag
  | tagWithoutMark
  | literal
deriving DecidableEq, Repr

/-- The kind of a name. -/
def SourceKind.ofName? : String → Option SourceKind
  | "tag" => some .tag
  | "tag_without_v" => some .tagWithoutMark
  | "literal" => some .literal
  | _ => none

/-- Read the source of a version. Only a literal carries something: its template. -/
def versionSource? (dialect : Dialect Source) (source : Source) : Option VersionSource := do
  let (key, payload) ← dialect.variant? source
  match ← chosen? SourceKind.ofName? [.tag, .tagWithoutMark, .literal] key with
  | .tag => if payload.all dialect.isEmptyPayload then return .tag else none
  | .tagWithoutMark =>
      if payload.all dialect.isEmptyPayload then return .tagWithoutMark else none
  | .literal => return .literal (← dialect.text? (← payload))

/-- Read a guard by version. -/
def guard? (dialect : Dialect Source) (source : Source) : Option VersionGuard := do
  match ← slots? [["group"], ["strategy"], ["against"]] (← dialect.fields? source) with
  | [group, strategy, against] =>
      return {
        group := ← withDefault VersionPattern.versionGroup dialect.text? group
        strategy := ← strategy? dialect (← strategy)
        source := ← withDefault .tagWithoutMark (versionSource? dialect) against }
  | _ => none

/-- The names of the field that holds a key path. -/
def keyNames : List String := ["key", "path"]

/-- The slots of the fields behind the name of a variant. -/
def variantSlots? (names : List (List String)) (rest : Datum) :
    Option (List (Option Datum)) :=
  (Dialect.kept.fields? rest).bind (slots? names)

/-- Whether a variant without fields may have this behind its name: any record, or an empty
list. -/
def isIgnorable : Datum → Bool
  | .record _ => true
  | .list items => items.isEmpty
  | _ => false

/-- Read a condition. -/
def condition? (dialect : Dialect Source) (source : Source) : Option Condition := do
  let tagged ← dialect.tagged? source
  match tagged.variant with
  | "key_exists" | "key-exists" =>
      match ← variantSlots? [keyNames, ["file_type"]] tagged.rest with
      | [key, format] =>
          return .keyExists (← Dialect.kept.text? (← key))
            (← withDefault none (optional? Dialect.kept (format? Dialect.kept)) format)
      | _ => none
  | "value_matches" | "value-matches" =>
      match ← variantSlots? [keyNames, ["pattern"]] tagged.rest with
      | [key, pattern] =>
          return .valueMatches (← Dialect.kept.text? (← key)) (← Dialect.kept.text? (← pattern))
      | _ => none
  | "file_exists" | "file-exists" =>
      match ← variantSlots? [["path"]] tagged.rest with
      | [path] =>
          return .fileExists
            (← withDefault none (optional? Dialect.kept Dialect.kept.text?) path)
      | _ => none
  | _ => if isIgnorable tagged.rest then return .unknown else none

/-- Read an action that writes a value. -/
def valueAction? (make : String → Tree → Action) (rest : Datum) : Option Action := do
  match ← variantSlots? [keyNames, ["value"]] rest with
  | [key, value] =>
      return make (← Dialect.kept.text? (← key)) (← Dialect.kept.tree? (← value))
  | _ => none

/-- Read an action. -/
def action? (dialect : Dialect Source) (source : Source) : Option Action := do
  let tagged ← dialect.tagged? source
  match tagged.variant with
  | "update_version_in_value" | "update-version-in-value" =>
      match ← variantSlots? [keyNames, ["pattern"], ["version_source"], ["strategy"]]
          tagged.rest with
      | [key, pattern, version, strategy] =>
          return .updateVersion (← Dialect.kept.text? (← key))
            (← Dialect.kept.text? (← pattern))
            (← withDefault .tagWithoutMark (versionSource? Dialect.kept) version)
            (← withDefault none (optional? Dialect.kept (strategy? Dialect.kept)) strategy)
      | _ => none
  | "replace_value" | "replace-value" => valueAction? .replaceValue tagged.rest
  | "set_value_if_absent" | "set-value-if-absent" => valueAction? .setIfAbsent tagged.rest
  | "append_to_array" | "append-to-array" => valueAction? .appendItem tagged.rest
  | "regex_replace" | "regex-replace" =>
      match ← variantSlots? [["pattern"], ["replacement"], ["guard"]] tagged.rest with
      | [pattern, replacement, guard] =>
          return .replaceText (← Dialect.kept.text? (← pattern))
            (← Dialect.kept.text? (← replacement))
            (← withDefault none (optional? Dialect.kept (guard? Dialect.kept)) guard)
      | _ => none
  | _ => if isIgnorable tagged.rest then return .unknown else none

/-- Read a rule. -/
def rule? (dialect : Dialect Source) (source : Source) : Option Rule := do
  match ← slots? [["name"], ["description"], ["enabled"], ["target_files"], ["conditions"],
      ["actions"], ["stop_processing"]] (← dialect.fields? source) with
  | [name, description, enabled, targetFiles, conditions, actions, stops] =>
      return {
        name := ← dialect.text? (← name)
        description := ← withDefault none (optional? dialect dialect.text?) description
        enabled := ← withDefault true dialect.flag? enabled
        targetFiles := ← withDefault [] (list? dialect dialect.text?) targetFiles
        conditions := ← withDefault [] (list? dialect (condition? dialect)) conditions
        actions := ← withDefault [] (list? dialect (action? dialect)) actions
        stops := ← withDefault false dialect.flag? stops }
  | _ => none

/-- Read one text or a list of texts. -/
def oneOrMore? (dialect : Dialect Source) (source : Source) : Option (List String) := do
  match ← dialect.datum? source with
  | .text value => return [value]
  | .list items => readAll Datum.text? items
  | _ => none

/-- Read a field that is kept in step with the release. -/
def keptField? (dialect : Dialect Source) (source : Source) : Option KeptField := do
  match ← slots? [["key", "path", "field"], ["pattern"], ["value"], ["strategy"]]
      (← dialect.fields? source) with
  | [key, pattern, value, strategy] =>
      return {
        key := ← dialect.text? (← key)
        pattern := ← withDefault none (optional? dialect dialect.text?) pattern
        value := ← withDefault none (optional? dialect dialect.tree?) value
        strategy := ← withDefault .always (strategy? dialect) strategy }
  | _ => none

/-- Read a text that is kept in step with the release. -/
def keptText? (dialect : Dialect Source) (source : Source) : Option KeptText := do
  match ← slots? [["pattern"], ["replacement"], ["strategy"]] (← dialect.fields? source) with
  | [pattern, replacement, strategy] =>
      return {
        pattern := ← dialect.text? (← pattern)
        replacement := ← dialect.text? (← replacement)
        strategy := ← withDefault .always (strategy? dialect) strategy }
  | _ => none

/-- Read an entry that keeps fields and texts. -/
def preserveEntry? (dialect : Dialect Source) (source : Source) : Option PreserveEntry := do
  match ← slots? [["name"], ["enabled"], ["files", "file"], ["fields"], ["regex"]]
      (← dialect.fields? source) with
  | [name, enabled, files, fields, texts] =>
      return {
        name := ← withDefault none (optional? dialect dialect.text?) name
        enabled := ← withDefault true dialect.flag? enabled
        files := ← oneOrMore? dialect (← files)
        fields := ← withDefault [] (list? dialect (keptField? dialect)) fields
        texts := ← withDefault [] (list? dialect (keptText? dialect)) texts }
  | _ => none

end ReleaseRules.Reading
