/-!
Contract: records of what actions have changed.

Owns:
- the record and the line that shows it;
- the summary of the changes of several files.

Does not own: how changes come about.
-/

namespace ReleaseRules

/-- Record of a change. Changes of raw text have no key, and a value that was absent has no
old value. -/
structure Change where
  rule : String
  action : String
  key : Option String
  oldValue : Option String
  newValue : Option String
  description : String
deriving DecidableEq, Repr, Inhabited

namespace Change

/-- The line that shows a change. -/
def display (change : Change) : String :=
  let subject :=
    match change.key with
    | some key => key ++ ": "
    | none => ""
  let event :=
    match change.oldValue, change.newValue with
    | some old, some new => old ++ " -> " ++ new
    | none, some new => "(unset) -> " ++ new
    | _, none => change.description
  "[" ++ change.rule ++ "] " ++ subject ++ event

/-- The part of the summary about one file. -/
def summarizeFile (path : String) (changes : List Change) : String :=
  if changes.isEmpty then ""
  else
    "- \x60" ++ path ++ "\x60\n" ++
      String.join (changes.map fun change => "  - " ++ change.description ++ "\n")

/-- The summary of the changes of several files; files without changes are left out. -/
def summarize (files : List (String × List Change)) : String :=
  String.join (files.map fun file => summarizeFile file.1 file.2)

end Change

end ReleaseRules
