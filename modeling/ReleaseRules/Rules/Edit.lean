import ReleaseRules.Document.Basic
import ReleaseRules.Rules.Action
import ReleaseRules.Rules.Change
import ReleaseRules.Rules.VersionPattern

/-!
Contract: what actions do to a text.

Owns:
- edits of the value at a key of a document;
- replacement of the matches of a regular expression;
- the change record of every edit.

Does not own: which actions are applied, and in which order.
-/

namespace ReleaseRules

/-- The text that shows a value: a text itself, any other value as compact JSON. -/
def Tree.display : Tree → String
  | .text value => value
  | tree => Json.compactText tree

mutual

/-- The tree with the templates in all its texts expanded. Keys stay as they are. -/
def Tree.expandTemplates (bindings : Template.Variables) : Tree → Tree
  | .text value => .text (String.ofList (Template.expand value.toList bindings))
  | .list items => .list (Tree.expandItems bindings items)
  | .map entries => .map (Tree.expandEntries bindings entries)
  | tree => tree

/-- The items with their templates expanded. -/
def Tree.expandItems (bindings : Template.Variables) : List Tree → List Tree
  | [] => []
  | item :: rest => item.expandTemplates bindings :: Tree.expandItems bindings rest

/-- The entries with the templates in their values expanded. -/
def Tree.expandEntries (bindings : Template.Variables) :
    List (String × Tree) → List (String × Tree)
  | [] => []
  | (key, value) :: rest =>
      (key, value.expandTemplates bindings) :: Tree.expandEntries bindings rest

end

namespace Edit

/-- A text after an edit, with what the record of the change says. -/
structure Edited where
  text : List Char
  key : Option String
  oldValue : Option String
  newValue : Option String
  description : String
deriving Repr

/-- Whether a value stands already where another is to be written. -/
def isUnchanged (old : Option Tree) (new : Tree) : Bool := old.any fun old => old.same new

/-- Edit the value at a key. `compute` sees the current value and gives the new one, if there
is to be one. Nothing happens when the text cannot be parsed, the value stays the same, it
cannot be written, or the document cannot be rendered. -/
def editValue (text : List Char) (key : String) (compute : Option Tree → Option Tree)
    (describe : String → String) : Option Edited := do
  let document ← (Document.parse text).toOption
  let old := document.get key
  let new ← compute old
  if isUnchanged old new then none
  else do
    let written ← (document.set key new).toOption
    let rendered ← written.render.toOption
    return ⟨rendered, some key, old.map Tree.display, some new.display,
      describe new.display⟩

/-- The value with the version that a regular expression finds replaced, unless a strategy
keeps it. -/
def updatedVersion (regex : Regex) (strategy : Option Strategy) (candidate : List Char)
    (current : String) : Option String := do
  let characters := current.toList.toArray
  let found ← regex.find characters 0
  let span ← found.named regex VersionPattern.versionGroup
  let allowed := strategy.all fun strategy =>
    strategy.allows (span.characters characters) candidate
  if allowed then
    return String.ofList
      ((characters.extract 0 span.start).toList ++ candidate ++
        (characters.extract span.stop characters.size).toList)
  else none

/-- Update the version inside of the value at a key. -/
def updateVersion (context : Context) (text : List Char) (key pattern : String)
    (source : VersionSource) (strategy : Option Strategy) : Option Edited := do
  let regex ← (VersionPattern.compile pattern.toList).toOption
  let candidate := source.resolve context
  editValue text key
    (fun old => do
      let current ← old.bind Tree.asText
      return .text (← updatedVersion regex strategy candidate current))
    fun shown => "Update version in " ++ key ++ " to " ++ shown

/-- Write a value at a key. -/
def replaceValue (context : Context) (text : List Char) (key : String) (value : Tree) :
    Option Edited :=
  editValue text key (fun _ => some (value.expandTemplates context.bindings))
    fun shown => "Set " ++ key ++ " to " ++ shown

/-- The value to write where there is none or null. -/
def initialValue (value : Tree) : Option Tree → Option Tree
  | none => some value
  | some .null => some value
  | some _ => none

/-- Write a value at a key that has none. -/
def setIfAbsent (context : Context) (text : List Char) (key : String) (value : Tree) :
    Option Edited :=
  editValue text key (initialValue (value.expandTemplates context.bindings))
    fun shown => "Initialize " ++ key ++ " to " ++ shown

/-- The list with a value at its end; nothing if the list has the value already. What is no
list counts as an empty one. -/
def extendedList (value : Tree) (old : Option Tree) : Option Tree :=
  let items := (old.bind Tree.asItems).getD []
  if items.any fun item => item.same value then none else some (.list (items ++ [value]))

/-- Append a value to the list at a key. -/
def appendItem (context : Context) (text : List Char) (key : String) (value : Tree) :
    Option Edited :=
  let expanded := value.expandTemplates context.bindings
  editValue text key (extendedList expanded)
    fun _ => "Append " ++ expanded.display ++ " to " ++ key

/-- The variables that the replacement of a match sees: those of the context and the named
groups that took part. -/
def matchVariables (bindings : Template.Variables) (regex : Regex) (characters : Array Char)
    (found : Regex.Match) : Template.Variables :=
  (regex.groupNames.zip found.groups).foldl
    (fun bindings group =>
      match group with
      | (some name, some span) =>
          Tree.insert name (String.ofList (span.characters characters)) bindings
      | _ => bindings)
    bindings

/-- Whether a guard allows the replacement of a match. A group that did not take part never
does. -/
def guardAllows (regex : Regex) (characters : Array Char) (found : Regex.Match)
    (candidate : List Char) (guard : VersionGuard) : Bool :=
  (found.named regex guard.group).any fun span =>
    guard.strategy.allows (span.characters characters) candidate

/-- What takes the place of a match; nothing if the match stays. -/
def replacementOf (context : Context) (regex : Regex) (characters : Array Char)
    (replacement : String) (guard : Option VersionGuard) (found : Regex.Match) :
    Option (List Char) :=
  let allowed := guard.all fun guard =>
    guardAllows regex characters found (guard.source.resolve context) guard
  if allowed then
    let bindings := matchVariables context.bindings regex characters found
    let shown := Template.expand replacement.toList bindings
    if shown = found.whole.characters characters then none else some shown
  else none

/-- The text from a position on with the given spans replaced. -/
def splice (characters : Array Char) : Nat → List (Regex.Span × List Char) → List Char
  | position, [] => (characters.extract position characters.size).toList
  | position, (span, shown) :: rest =>
      (characters.extract position span.start).toList ++ shown ++
        splice characters span.stop rest

/-- Replace the matches of a regular expression in a text. -/
def replaceText (context : Context) (text : List Char) (pattern replacement : String)
    (guard : Option VersionGuard) : Option Edited := do
  let regex ← (Regex.compile pattern.toList).toOption
  let characters := text.toArray
  let replaced := (regex.allMatches characters).filterMap fun found =>
    (replacementOf context regex characters replacement guard found).map (found.whole, ·)
  if replaced.isEmpty then none
  else
    let old := replaced.map fun entry => String.ofList (entry.1.characters characters)
    let new := replaced.map fun entry => String.ofList entry.2
    return ⟨splice characters 0 replaced, none, some (String.intercalate ", " old),
      some (String.intercalate ", " new),
      "Replaced " ++ String.ofList (Number.digitsOf replaced.length) ++ " match(es) of /" ++
        pattern ++ "/"⟩

end Edit

/-- The edit that an action makes, if it changes anything. -/
def Action.edit (context : Context) (text : List Char) : Action → Option Edit.Edited
  | .updateVersion key pattern source strategy =>
      Edit.updateVersion context text key pattern source strategy
  | .replaceValue key value => Edit.replaceValue context text key value
  | .setIfAbsent key value => Edit.setIfAbsent context text key value
  | .appendItem key value => Edit.appendItem context text key value
  | .replaceText pattern replacement guard =>
      Edit.replaceText context text pattern replacement guard
  | .unknown => none

/-- Apply an action of a rule: the new text and the record of the change. -/
def Action.apply (action : Action) (rule : String) (context : Context) (text : List Char) :
    Option (List Char × Change) :=
  (action.edit context text).map fun edited =>
    (edited.text,
      { rule := rule
        action := action.kind
        key := edited.key
        oldValue := edited.oldValue
        newValue := edited.newValue
        description := edited.description })

end ReleaseRules
