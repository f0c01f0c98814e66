import ReleaseRules.CommandLine.Response
import ReleaseRules.Proofs.Rules.ChangedFlag

/-!
Contract: which files the overview of a request names.

Owns:
- the reports of which lines are shown, and the reports that the summary names;
- the overview by these reports, and how they lie among each other.

Does not own: the lines about single changes.

Lines are shown by the flag of a run and the summary is made from its records. A file whose changes
lead back to its own text is named by the summary only.
-/

namespace ReleaseRules

namespace FileReport

/-- The reports of which lines are shown: those of files that have changed. -/
def listed (reports : List FileReport) : List FileReport :=
  reports.filter fun report => report.result.changed

/-- The reports that the summary names: those with records. -/
def summarized (reports : List FileReport) : List FileReport :=
  reports.filter fun report => !report.result.changes.isEmpty

/-- The lines about a file that has changed: its path and its changes. -/
def changedLines (applied : Bool) (report : FileReport) : String :=
  (if applied then "Applied " else "[dry-run] ") ++ String.ofList report.shownPath ++ "\n" ++
    String.join (report.result.changes.map fun change => "  " ++ change.display ++ "\n")

/-- The part of the summary about a file with records: its path and their descriptions. -/
def summaryLines (report : FileReport) : String :=
  "- \x60" ++ String.ofList report.shownPath ++ "\x60\n" ++
    String.join (report.result.changes.map fun change => "  - " ++ change.description ++ "\n")

/-- What shows nothing of some items shows as much of the others alone. -/
theorem join_map_filter {Item : Type} (shown : Item → String) (test : Item → Bool)
    (silent : ∀ item, test item = false → shown item = "") (items : List Item) :
    String.join (items.map shown) = String.join ((items.filter test).map shown) := by
  induction items with
  | nil => rfl
  | cons item rest inductionHypothesis =>
      rw [List.map_cons, String.join_cons, inductionHypothesis, List.filter_cons]
      cases passed : test item with
      | true => simp
      | false => simp [silent item passed]

theorem join_lines (applied : Bool) (reports : List FileReport) :
    String.join (reports.map (lines applied)) =
      String.join ((listed reports).map (changedLines applied)) := by
  rw [join_map_filter (lines applied) (fun report => report.result.changed) ?silent reports]
  case silent =>
    intro report unchanged
    simp [lines, unchanged]
  congr 1
  apply List.map_congr_left
  intro report member
  have changed : report.result.changed = true := (List.mem_filter.mp member).2
  simp [lines, changed, changedLines]

theorem summary_eq (reports : List FileReport) :
    summary reports = String.join ((summarized reports).map summaryLines) := by
  rw [summary, Change.summarize, List.map_map,
    join_map_filter _ (fun report => !report.result.changes.isEmpty) ?silent reports]
  case silent =>
    intro report unrecorded
    have unchanged : report.result.changes = [] := by simpa using unrecorded
    simp [Change.summarizeFile, unchanged]
  congr 1
  apply List.map_congr_left
  intro report member
  have recorded : report.result.changes ≠ [] := by simpa using (List.mem_filter.mp member).2
  simp [Change.summarizeFile, recorded, summaryLines]

theorem summarized_eq_nil_iff (reports : List FileReport) :
    summarized reports = [] ↔ ∀ report ∈ reports, report.result.changes = [] := by
  simp [summarized, List.filter_eq_nil_iff]

/-- The summary is empty exactly if it names no report. -/
theorem summary_eq_empty_iff (reports : List FileReport) :
    summary reports = "" ↔ summarized reports = [] := by
  rw [summary_eq]
  cases summarized reports with
  | nil => simp
  | cons report rest => simp [summaryLines, String.append_eq_empty_iff]

/-- The overview shows the lines of the reports of changed files, and then the summary of the
reports with records. -/
theorem overview_eq (applied : Bool) (reports : List FileReport) :
    overview applied reports =
      String.join ((listed reports).map (changedLines applied)) ++
        if summarized reports = [] then "No changes\n"
        else "\nSummary:\n" ++ String.join ((summarized reports).map summaryLines) ++ "\n" := by
  have empty : (summary reports).isEmpty = true ↔ summarized reports = [] := by
    rw [String.isEmpty_iff, summary_eq_empty_iff]
  rw [overview, join_lines, ← summary_eq]
  simp only [empty]

end FileReport

namespace CommandLine.RunRequest

open FileReport (listed summarized changedLines summaryLines overview summary)

variable (request : RunRequest) (rules : List Rule) (date : String) (project : List Char)

/-- Every report of a request is the outcome of a run over a text that was read from the file. -/
theorem run_of_mem_reports {world : World} {files : List (List Char)} {report : FileReport}
    (member : report ∈ request.reports rules date project world files) :
    ∃ seen text context, seen.read? report.file = some text ∧
      report.result = Engine.process seen rules report.shownPath text context := by
  induction files generalizing world with
  | nil => cases member
  | cons file rest inductionHypothesis =>
      rw [reports] at member
      cases read : world.read? file with
      | none =>
          rw [read] at member
          exact inductionHypothesis member
      | some text =>
          simp only [read, List.mem_cons] at member
          rcases member with rfl | later
          · cases applies : request.applies with
            | true =>
                refine ⟨world, text, request.context date file, read, ?_⟩
                simp [report, applies]
            | false =>
                refine ⟨world, text, { request.context date file with dryRun := true }, read, ?_⟩
                simp [report, applies, Engine.preview]
          · exact inductionHypothesis later

/-- The files of which lines are shown are those that the summary names and whose text has
changed. -/
theorem listed_reports (world : World) (files : List (List Char)) :
    listed (request.reports rules date project world files) =
      (summarized (request.reports rules date project world files)).filter fun report =>
        report.result.changed := by
  rw [listed, summarized, List.filter_filter]
  apply List.filter_congr
  intro report member
  obtain ⟨seen, text, context, -, outcome⟩ :=
    run_of_mem_reports request rules date project member
  cases changed : report.result.changed with
  | false => rfl
  | true =>
      rw [outcome] at changed
      have recorded := ((Engine.process_changed_iff seen context rules _ text).mp changed).1
      simp [outcome, recorded]

end CommandLine.RunRequest

open FileReport (listed summarized changedLines summaryLines overview summary)
open CommandLine (RunRequest)

/-- **The flag of a run and its records.** A run counts as one that has changed its text exactly if
it has records and does not lead back to the text at its start; over an object, exact actions do not
lead back if their records are about places apart. So the overview of a request shows lines of those
files in the summary whose text differs from the one that was read, and the summary is empty exactly
if there is no record. -/
theorem reports_agree_unless_led_back :
    (∀ world context rules path text,
      let result := Engine.process world rules path text context
      (result.changed = true ↔ result.changes ≠ [] ∧ result.text ≠ text) ∧
      ∀ entries, HoldsObject text entries →
        (∀ rule ∈ rules, ∀ action ∈ rule.actions,
          action.isRaw = false ∧ action.isExact = true) →
        Engine.staysReadable world context (Engine.matchingRules rules path) text = true →
        result.changes.Pairwise Change.Apart →
        (result.changed = true ↔ result.changes ≠ [])) ∧
    ∀ (request : RunRequest) rules date project world files applied,
      let reports := request.reports rules date project world files
      (∀ report ∈ reports, ∃ seen text context, seen.read? report.file = some text ∧
        report.result = Engine.process seen rules report.shownPath text context) ∧
      overview applied reports =
        String.join ((listed reports).map (changedLines applied)) ++
          (if summarized reports = [] then "No changes\n"
          else "\nSummary:\n" ++ String.join ((summarized reports).map summaryLines) ++ "\n") ∧
      listed reports = ((summarized reports).filter fun report => report.result.changed) ∧
      (summary reports = "" ↔ ∀ report ∈ reports, report.result.changes = []) := by
  refine ⟨?runs, ?requests⟩
  case runs =>
    intro world context rules path text result
    have flag := Engine.process_changed_iff world context rules path text
    refine ⟨flag, ?_⟩
    intro entries holds exact readable apart
    refine ⟨fun changed => (flag.mp changed).1, ?_⟩
    intro recorded
    exact Engine.process_changed_of_apart world context rules path text holds exact readable
      recorded apart
  case requests =>
    intro request rules date project world files applied reports
    refine ⟨?_, FileReport.overview_eq applied reports,
      RunRequest.listed_reports request rules date project world files, ?_⟩
    · intro report member
      exact RunRequest.run_of_mem_reports request rules date project member
    · rw [FileReport.summary_eq_empty_iff, FileReport.summarized_eq_nil_iff]

/-- A rule that writes numbers at a key of every file, one after the other. -/
private def countingRule (key : String) (values : List Int) : Rule :=
  Rule.new key ["*"] (values.map fun value => .replaceValue key (.number (.integer value)))

private def countedText : List Char := "\x7b\"a\":1,\"b\":1\x7d".toList

private def reportContext : Context := ⟨"v1", "2026-01-15", [], false, none⟩

private def countingWorld : World :=
  ⟨[], [(["f"], .text countedText)], [], []⟩

private def countingRequest : RunRequest := ⟨"v1", [], false, false, [['f']]⟩

private def reportsOf (rules : List Rule) : List FileReport :=
  countingRequest.reports rules "2026-01-15" [] countingWorld [['f']]

/-- Two rules for two keys change their object, and the file is named twice in the overview. -/
theorem reports_agree_on_two_keys :
    let rules := [countingRule "a" [2], countingRule "b" [2]]
    (Engine.process countingWorld rules ['f'] countedText reportContext).changed = true ∧
      (listed (reportsOf rules)).map FileReport.file = [['f']] ∧
      (summarized (reportsOf rules)).map FileReport.file = [['f']] ∧
      summary (reportsOf rules) ≠ "" := by
  intro rules
  obtain ⟨runs, requests⟩ := reports_agree_unless_led_back
  obtain ⟨-, agrees⟩ := runs countingWorld reportContext rules ['f'] countedText
  obtain ⟨-, -, among, unnamed⟩ :=
    requests countingRequest rules "2026-01-15" [] countingWorld [['f']] true
  have holds : HoldsObject countedText
      [("a", .number (.integer 1)), ("b", .number (.integer 1))] :=
    ⟨ok_of_toOption (by decide +kernel), by decide +kernel⟩
  have named : (summarized (reportsOf rules)).map FileReport.file = [['f']] := by decide +kernel
  refine ⟨?_, ?_, named, ?_⟩
  · exact (agrees _ holds (by decide +kernel) (by decide +kernel) (by decide +kernel)).mpr
      (by decide +kernel)
  · have shown : listed (reportsOf rules) =
        (summarized (reportsOf rules)).filter fun report => report.result.changed := among
    rw [shown]
    decide +kernel
  · intro empty
    have unrecorded := (FileReport.summarized_eq_nil_iff _).mpr (unnamed.mp empty)
    rw [show summarized (reportsOf rules) = [] from unrecorded] at named
    cases named

/-- A change that a later one undoes leaves two records of a run that counts as one without a
change, and the overview shows no line of the file that its summary names. -/
theorem undone_change_is_recorded :
    ¬ (∀ rules path text,
      (Engine.process countingWorld rules path text reportContext).changed = true ↔
        (Engine.process countingWorld rules path text reportContext).changes ≠ []) ∧
    let reports := reportsOf [countingRule "a" [2, 1]]
    listed reports = [] ∧ (summarized reports).map FileReport.file = [['f']] := by
  refine ⟨?_, by decide +kernel, by decide +kernel⟩
  intro agrees
  have changed := (agrees [countingRule "a" [2, 1]] ['f'] countedText).mpr (by decide +kernel)
  revert changed
  decide +kernel

end ReleaseRules
