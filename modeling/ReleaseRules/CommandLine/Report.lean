import ReleaseRules.Json.Writer
import ReleaseRules.Rules.Engine

/-!
Contract: reports of runs over files.

Owns:
- the report of one file;
- the two ways of showing reports: as JSON and as lines with a summary.

Does not own: running rules.
-/

namespace ReleaseRules

/-- Report of a run over one file. The file is shown as seen from the project. -/
structure FileReport where
  file : List Char
  shownPath : List Char
  result : Transformation
deriving DecidableEq, Repr

/-- A change as a tree; a change without a key has no entry for it. -/
def Change.tree (change : Change) : Tree :=
  let optional (value : Option String) : Tree := (value.map .text).getD .null
  .map ([("rule", .text change.rule), ("action", .text change.action)] ++
    (change.key.map fun key => ("key", Tree.text key)).toList ++
    [("old_value", optional change.oldValue), ("new_value", optional change.newValue),
      ("description", .text change.description)])

namespace FileReport

/-- A report as a tree. -/
def tree (report : FileReport) : Tree :=
  .map [("path", .text (String.ofList report.shownPath)),
    ("changed", .bool report.result.changed),
    ("content", .text (String.ofList report.result.text)),
    ("applied_rules", .list (report.result.appliedRules.map .text)),
    ("changes", .list (report.result.changes.map Change.tree))]

/-- Reports as JSON in lines. -/
def json (reports : List FileReport) : String :=
  String.ofList (Json.write (some [' ', ' ']) 0 (.list (reports.map tree))) ++ "\n"

/-- The lines about a file; there are none about a file that has not changed. -/
def lines (applied : Bool) (report : FileReport) : String :=
  if report.result.changed then
    (if applied then "Applied " else "[dry-run] ") ++ String.ofList report.shownPath ++ "\n" ++
      String.join (report.result.changes.map fun change => "  " ++ change.display ++ "\n")
  else ""

/-- The summary of the changes that reports tell of. -/
def summary (reports : List FileReport) : String :=
  Change.summarize (reports.map fun report =>
    (String.ofList report.shownPath, report.result.changes))

/-- Reports as lines with a summary behind them. -/
def overview (applied : Bool) (reports : List FileReport) : String :=
  String.join (reports.map (lines applied)) ++
    (if (summary reports).isEmpty then "No changes\n"
    else "\nSummary:\n" ++ summary reports ++ "\n")

end FileReport

end ReleaseRules
