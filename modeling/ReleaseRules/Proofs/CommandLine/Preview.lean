import ReleaseRules.CommandLine.Response
import ReleaseRules.Proofs.CommandLine.Reports
import ReleaseRules.Proofs.Files.Rewrites
import ReleaseRules.Proofs.Rules.Surroundings

/-!
Contract: a request that writes what it changes, and the same request that only shows it.

Owns:
- the reports of both requests, which are the same;
- the files after the request that writes.

Does not own: what rules do to a text.

A file is read behind the writes of the files before it, and the rules are read before all of them.
So a write could only be seen by a file that is read twice, or by a condition that asks whether a
path leads somewhere; and the write of a file that has been read makes no path lead anywhere else.
-/

namespace ReleaseRules.CommandLine

open World (Rewritten)

namespace RunRequest

/-- The request that writes what it changes. -/
def applying (request : RunRequest) : RunRequest := { request with applies := true }

variable {request : RunRequest} {rules : List Rule} {date : String} {project : List Char}
  {world other : World} {files : List (List Char)}

/-! ## Reports -/

theorem writes_of_previews (previews : request.applies = false) (report : FileReport) :
    request.writes report = false := by
  rw [writes, previews, Bool.false_and]

theorem writes_applying (report : FileReport) :
    request.applying.writes report = report.result.changed :=
  Bool.true_and _

/-- The files of reports are among the files of the request, in their order. -/
theorem files_of_reports :
    ((request.reports rules date project world files).map FileReport.file).Sublist files := by
  induction files generalizing world with
  | nil => exact .slnil
  | cons file rest inductionHypothesis =>
      rw [reports]
      cases world.read? file with
      | none => exact .cons file inductionHypothesis
      | some text => exact .cons_cons file inductionHypothesis

/-- A request that writes nothing reads all files from one world. -/
theorem read?_of_mem_reports (previews : request.applies = false) {report : FileReport}
    (member : report ∈ request.reports rules date project world files) :
    ∃ text, world.read? report.file = some text := by
  induction files with
  | nil => cases member
  | cons file rest inductionHypothesis =>
      rw [reports] at member
      cases read : world.read? file with
      | none =>
          rw [read] at member
          exact inductionHypothesis member
      | some text =>
          simp only [read, writes_of_previews previews, Bool.false_eq_true, if_false] at member
          rcases List.mem_cons.mp member with rfl | later
          · exact ⟨text, read⟩
          · exact inductionHypothesis later

/-- The report of a file is the same in worlds in which the same paths lead somewhere. -/
theorem report_applying (previews : request.applies = false)
    (sameExisting : ∀ path, other.contains path = world.contains path) (file text : List Char) :
    request.applying.report other rules date project file text =
      request.report world rules date project file text := by
  have runs := Engine.preview_eq_process sameExisting rules
    ((Path.stripPrefix? project file).getD file) text (request.context date file)
  simp only [report, applying, previews, Bool.false_eq_true, if_false]
  rw [runs]
  rfl

/-- **Reports.** The request that writes what it changes has the reports of the one that does not,
also when other files have been written before. -/
theorem reports_applying (previews : request.applies = false)
    {places : List (List String)} (rewritten : Rewritten places world other)
    (houses : other.HousesFiles) (distinct : (files.filterMap world.fileAt?).Nodup)
    (fresh : ∀ names ∈ files.filterMap world.fileAt?, names ∉ places) :
    request.applying.reports rules date project other files =
      request.reports rules date project world files := by
  induction files generalizing other places with
  | nil => rfl
  | cons file rest inductionHypothesis =>
      have sameText : other.read? file = world.read? file := by
        rw [World.read?, World.read?, rewritten.find_eq]
        intro place inPlaces found
        exact fresh place (List.mem_filterMap.mpr ⟨file, List.mem_cons_self, found⟩) inPlaces
      have distinctLater : (rest.filterMap world.fileAt?).Nodup :=
        distinct.sublist ((List.sublist_cons_self file rest).filterMap _)
      have freshLater : ∀ names ∈ rest.filterMap world.fileAt?, names ∉ places := by
        intro names member
        exact fresh names (((List.sublist_cons_self file rest).filterMap _).subset member)
      rw [reports, reports, sameText]
      cases read : world.read? file with
      | none => exact inductionHypothesis rewritten houses distinctLater freshLater
      | some text =>
          simp only [report_applying previews rewritten.contains_eq, writes_applying,
            writes_of_previews previews, Bool.false_eq_true, if_false]
          congr 1
          split
          · obtain ⟨place, found, -⟩ := World.exists_fileAt?_of_read? read
            have foundNow : other.fileAt? file = some place := by
              rw [rewritten.fileAt?_eq, found]
            obtain ⟨written, -⟩ := World.rewritten_write houses foundNow
              (request.report world rules date project file text).result.text
            apply inductionHypothesis (rewritten.trans written) (houses.write _ _) distinctLater
            intro names member inPlaces
            rcases List.mem_append.mp inPlaces with before | here
            · exact freshLater names member before
            · obtain rfl := List.mem_singleton.mp here
              rw [List.filterMap_cons_some found] at distinct
              exact (List.nodup_cons.mp distinct).1 member
          · exact inductionHypothesis rewritten houses distinctLater freshLater

/-! ## Writes -/

/-- What the request that writes gives to files, by the reports of the one that does not. -/
def changedTexts (reports : List FileReport) : List (List Char × List Char) :=
  (FileReport.listed reports).map fun report => (report.file, report.result.text)

theorem mem_changedTexts {reports : List FileReport} {report : FileReport}
    (member : report ∈ reports) (changed : report.result.changed = true) :
    (report.file, report.result.text) ∈ changedTexts reports := by
  apply List.mem_map.mpr
  exact ⟨report, List.mem_filter.mpr ⟨member, changed⟩, rfl⟩

theorem exists_of_mem_changedTexts {reports : List FileReport} {file : List Char × List Char}
    (member : file ∈ changedTexts reports) :
    ∃ report ∈ reports, report.result.changed = true ∧ report.file = file.1 := by
  obtain ⟨report, inChanged, rfl⟩ := List.mem_map.mp member
  obtain ⟨inReports, changed⟩ := List.mem_filter.mp inChanged
  exact ⟨report, inReports, changed, rfl⟩

theorem map_eq_filterMap_map_some {Item Value : Type} {value? : Item → Option Value}
    {items : List Item} (given : ∀ item ∈ items, (value? item).isSome = true) :
    items.map value? = (items.filterMap value?).map some := by
  induction items with
  | nil => rfl
  | cons item rest inductionHypothesis =>
      obtain ⟨value, isValue⟩ := Option.isSome_iff_exists.mp (given item List.mem_cons_self)
      rw [List.map_cons, List.filterMap_cons_some isValue, List.map_cons, isValue,
        inductionHypothesis fun later member => given later (List.mem_cons_of_mem item member)]

/-- Files that are reported as changed get their new texts, and nothing else becomes different. -/
theorem rewritten_changedTexts (rules : List Rule) (date : String) (project : List Char)
    (previews : request.applies = false)
    (houses : world.HousesFiles) (distinct : (files.filterMap world.fileAt?).Nodup) :
    let written := changedTexts (request.reports rules date project world files)
    let after := written.foldl (fun world file => world.write file.1 file.2) world
    Rewritten (written.filterMap fun file => world.fileAt? file.1) world after ∧
      ∀ file ∈ written, after.read? file.1 = some file.2 := by
  intro written after
  have among : (written.map Prod.fst).Sublist files := by
    have inReports : (written.map Prod.fst).Sublist
        ((request.reports rules date project world files).map FileReport.file) := by
      show ((changedTexts _).map Prod.fst).Sublist _
      rw [changedTexts, List.map_map]
      exact List.filter_sublist.map FileReport.file
    exact inReports.trans files_of_reports
  have found : ∀ file ∈ written, (world.fileAt? file.1).isSome = true := by
    intro file member
    obtain ⟨report, inReports, -, sameFile⟩ := exists_of_mem_changedTexts member
    obtain ⟨text, read⟩ := read?_of_mem_reports previews inReports
    obtain ⟨place, isPlace, -⟩ := World.exists_fileAt?_of_read? read
    rw [← sameFile, isPlace]
    rfl
  have sorted : (written.filterMap fun file => world.fileAt? file.1).Nodup := by
    have shape : (written.filterMap fun file => world.fileAt? file.1) =
        (written.map Prod.fst).filterMap world.fileAt? := by
      rw [List.filterMap_map]
      rfl
    rw [shape]
    exact distinct.sublist (among.filterMap _)
  exact World.rewritten_foldl_write houses written (map_eq_filterMap_map_some found) sorted

/-- What is read afterwards: the new texts of the files that are reported as changed, and in all
other files what they have held before. -/
theorem reads_after_changedTexts (rules : List Rule) (date : String) (project : List Char)
    (previews : request.applies = false) (houses : world.HousesFiles)
    (distinct : (files.filterMap world.fileAt?).Nodup) :
    let reports := request.reports rules date project world files
    let after := (changedTexts reports).foldl (fun world file => world.write file.1 file.2) world
    (∀ report ∈ reports, report.result.changed = true →
      after.read? report.file = some report.result.text) ∧
    (∀ path, (∀ report ∈ reports, report.result.changed = true →
        world.fileAt? path ≠ world.fileAt? report.file) →
      after.find path = world.find path) ∧
    ∀ names, (∀ report ∈ reports, report.result.changed = true →
        world.fileAt? report.file ≠ some names) →
      after.files.lookup names = world.files.lookup names := by
  intro reports after
  obtain ⟨rewritten, readAfter⟩ :=
    rewritten_changedTexts rules date project previews houses distinct
  have atChanged {names : List String}
      (inPlaces : names ∈ (changedTexts reports).filterMap fun file => world.fileAt? file.1) :
      ∃ report ∈ reports, report.result.changed = true ∧
        world.fileAt? report.file = some names := by
    obtain ⟨file, member, atPlace⟩ := List.mem_filterMap.mp inPlaces
    obtain ⟨report, inReports, changed, sameFile⟩ := exists_of_mem_changedTexts member
    exact ⟨report, inReports, changed, sameFile ▸ atPlace⟩
  refine ⟨?_, ?_, ?_⟩
  · intro report member changed
    exact readAfter _ (mem_changedTexts member changed)
  · intro path elsewhere
    apply rewritten.find_eq
    intro names inPlaces atPath
    obtain ⟨report, inReports, changed, atPlace⟩ := atChanged inPlaces
    exact elsewhere report inReports changed (atPath.trans atPlace.symm)
  · intro names elsewhere
    apply rewritten.lookup_eq
    intro inPlaces
    obtain ⟨report, inReports, changed, atPlace⟩ := atChanged inPlaces
    exact elsewhere report inReports changed atPlace

/-- The response of the request that shows what it changes, which writes nothing. -/
theorem response_of_previews (previews : request.applies = false) :
    request.response world rules date project =
      let reports := request.reports rules date project world (inputs world request.paths)
      ⟨0, if request.asJson then FileReport.json reports else FileReport.overview false reports, "",
        []⟩ := by
  have nothing (reports : List FileReport) : reports.filter request.writes = [] := by
    apply List.filter_eq_nil_iff.mpr
    intro report _
    rw [writes_of_previews previews]
    exact Bool.false_ne_true
  rw [response, nothing, previews]
  rfl

/-- The response of the request that writes, by the reports of the one that does not. -/
theorem response_applying (previews : request.applies = false) (houses : world.HousesFiles)
    (distinct : ((inputs world request.paths).filterMap world.fileAt?).Nodup) :
    request.applying.response world rules date project =
      let reports := request.reports rules date project world (inputs world request.paths)
      ⟨0, if request.asJson then FileReport.json reports else FileReport.overview true reports, "",
        changedTexts reports⟩ := by
  have same : request.applying.reports rules date project world (inputs world request.paths) =
      request.reports rules date project world (inputs world request.paths) := by
    apply reports_applying previews (.refl world) houses distinct
    intro names _ inNone
    cases inNone
  have written : request.applying.writes = fun report => report.result.changed :=
    funext writes_applying
  rw [response, written]
  show Response.mk _ _ _ _ = _
  rw [show request.applying.paths = request.paths from rfl, same]
  rfl

end RunRequest

/-! ## Responses -/

/-- The reports of a command line; there are none unless it runs rules. -/
def Invocation.reports (invocation : Invocation) (world : World) (date : String) :
    List FileReport :=
  match Settings.load world invocation.settingsFile, invocation.command with
  | .ok settings, .run request =>
      request.reports (invocation.rules world settings) date invocation.project world
        (inputs world request.paths)
  | _, _ => []

namespace Invocation

variable {request : RunRequest} {world : World}

theorem reports_of_error (invocation : Invocation) {reason : Settings.LoadError}
    (loaded : Settings.load world invocation.settingsFile = .error reason) (date : String) :
    invocation.reports world date = [] := by
  rw [reports, loaded]

theorem reports_of_ok (invocation : Invocation) (runs : invocation.command = .run request)
    {settings : Settings}
    (loaded : Settings.load world invocation.settingsFile = .ok settings) (date : String) :
    invocation.reports world date =
      request.reports (invocation.rules world settings) date invocation.project world
        (inputs world request.paths) := by
  rw [reports, loaded, runs]

theorem response_of_error (invocation : Invocation) (runs : invocation.command = .run request)
    {reason : Settings.LoadError}
    (loaded : Settings.load world invocation.settingsFile = .error reason) (date : String) :
    invocation.response world date = .fail 1 ("Error: " ++ reason.message ++ "\n") := by
  rw [response, loaded, runs]

theorem response_of_ok (invocation : Invocation) (runs : invocation.command = .run request)
    {settings : Settings}
    (loaded : Settings.load world invocation.settingsFile = .ok settings) (date : String) :
    invocation.response world date =
      request.response world (invocation.rules world settings) date invocation.project := by
  rw [response, loaded, runs]

end Invocation

/-- **Preview.** A command line that shows what it changes leaves the world as it is. With the
request to write, it has the same exit code and shows the same reports in JSON, as long as no file
is named twice. Then every file that is reported as changed holds the text of its report, and all
other files hold what they have held before. -/
theorem respond_preview_tells_application (world : World) (date : String)
    (words applyingWords : List (List Char)) (invocation : Invocation) (request : RunRequest)
    (houses : world.HousesFiles)
    (read : Invocation.ofWords words = .ok invocation)
    (runs : invocation.command = .run request) (previews : request.applies = false)
    (readApplying : Invocation.ofWords applyingWords =
      .ok { invocation with command := .run { request with applies := true } })
    (distinct : ((inputs world request.paths).filterMap world.fileAt?).Nodup) :
    let shown := respond world date words
    let applied := respond world date applyingWords
    let reports := invocation.reports world date
    let after := applied.after world
    shown.after world = world ∧
    applied.exitCode = shown.exitCode ∧ applied.complaint = shown.complaint ∧
    (request.asJson = true → applied.output = shown.output ∧
      ∀ settings, Settings.load world invocation.settingsFile = .ok settings →
        shown.output = FileReport.json reports) ∧
    (∀ report ∈ reports, report.result.changed = true →
      after.read? report.file = some report.result.text) ∧
    (∀ path, (∀ report ∈ reports, report.result.changed = true →
        world.fileAt? path ≠ world.fileAt? report.file) →
      after.find path = world.find path) ∧
    ∀ names, (∀ report ∈ reports, report.result.changed = true →
        world.fileAt? report.file ≠ some names) →
      after.files.lookup names = world.files.lookup names := by
  intro shown applied reports after
  have shownIs : shown = invocation.response world date := by
    show respond world date words = _
    rw [respond, read]
  let applyingInvocation : Invocation := { invocation with command := .run request.applying }
  have appliedIs : applied = applyingInvocation.response world date := by
    show respond world date applyingWords = _
    rw [respond, readApplying]
    rfl
  show shown.after world = world ∧ _
  cases loaded : Settings.load world invocation.settingsFile with
  | error reason =>
      have noReports : reports = [] := invocation.reports_of_error loaded date
      -- Neither of the two goes on without settings.
      rw [Invocation.response_of_error invocation runs loaded] at shownIs
      rw [Invocation.response_of_error applyingInvocation rfl loaded] at appliedIs
      have unchanged : after = world := by
        show applied.after world = world
        rw [appliedIs]
        rfl
      rw [shownIs, appliedIs, unchanged, noReports]
      refine ⟨rfl, rfl, rfl, ?_, ?_, fun _ _ => rfl, fun _ _ => rfl⟩
      · intro _
        exact ⟨rfl, fun _ given => by cases given⟩
      · intro report member
        cases member
  | ok settings =>
      have reportsAre : reports =
          request.reports (invocation.rules world settings) date invocation.project world
            (inputs world request.paths) :=
        invocation.reports_of_ok runs loaded date
      rw [Invocation.response_of_ok invocation runs loaded,
        RunRequest.response_of_previews previews, ← reportsAre] at shownIs
      have appliedResponds : applied =
          ⟨0, if request.asJson then FileReport.json reports
            else FileReport.overview true reports, "", RunRequest.changedTexts reports⟩ := by
        rw [appliedIs, Invocation.response_of_ok applyingInvocation rfl loaded, reportsAre]
        exact RunRequest.response_applying previews houses distinct
      have reads := RunRequest.reads_after_changedTexts (invocation.rules world settings) date
        invocation.project previews houses distinct
      rw [← reportsAre] at reads
      have afterFolds : after = (RunRequest.changedTexts reports).foldl
          (fun world file => world.write file.1 file.2) world := by
        show applied.after world = _
        rw [appliedResponds]
        rfl
      rw [afterFolds, shownIs, appliedResponds]
      refine ⟨rfl, rfl, rfl, ?_, reads⟩
      intro asJson
      simp only [asJson, if_true]
      exact ⟨trivial, fun _ _ => trivial⟩

/-- The text of a rule file with a version of its own, and with a rule that sets the version in
every file. -/
private def pinningText (version : String) : List Char :=
  ("\x7b\"rules\":[\x7b\"name\":\"pin\",\"target_files\":[\"*.json\"]," ++
    "\"actions\":[\x7b\"type\":\"replace_value\",\"key\":\"version\"," ++
    "\"value\":\"\x7btag_without_v\x7d\"\x7d]\x7d],\"version\":\"" ++ version ++ "\"\x7d").toList

/-- A working directory with this rule file and another file. -/
private def pinningWorld : World :=
  ((World.empty ["work"] [("SYNCKEEP_RULES", "rules.json")]).write "rules.json".toList
    (pinningText "1")).write "app.json".toList "\x7b\"version\":\"1\"\x7d".toList

/-- The rule file is written before the other file is read, and goes on to rule it. -/
theorem respond_preview_tells_application_of_rule_file :
    let paths := ["rules.json".toList, "app.json".toList]
    let words := ["run", "--json", "--tag", "v2"].map String.toList
    let shown := respond pinningWorld "2024-01-01" (words ++ paths)
    let applied := respond pinningWorld "2024-01-01" (words ++ ["--apply".toList] ++ paths)
    shown.after pinningWorld = pinningWorld ∧ applied.output = shown.output ∧
      (applied.after pinningWorld).read? "rules.json".toList = some (pinningText "2") ∧
      (applied.after pinningWorld).read? "app.json".toList =
        some "\x7b\"version\":\"2\"\x7d".toList := by
  intro paths words shown applied
  let request : RunRequest := ⟨"v2", [], false, true, paths⟩
  obtain ⟨unchanged, -, -, sameOutput, newTexts, -⟩ :=
    respond_preview_tells_application pinningWorld "2024-01-01" (words ++ paths)
      (words ++ ["--apply".toList] ++ paths) ⟨none, ['.'], false, .run request⟩ request
      (by decide +kernel) (by decide +kernel) rfl rfl (by decide +kernel) (by decide +kernel)
  let report (path text : List Char) : FileReport :=
    ⟨path, path, true, text, ["pin"],
      [⟨"pin", "replace_value", some "version", some "1", some "2", "Set version to 2"⟩]⟩
  have reports : Invocation.reports ⟨none, ['.'], false, .run request⟩ pinningWorld "2024-01-01" =
      [report "rules.json".toList (pinningText "2"),
        report "app.json".toList "\x7b\"version\":\"2\"\x7d".toList] := by
    decide +kernel
  rw [reports] at newTexts
  refine ⟨unchanged, (sameOutput rfl).1, ?_, ?_⟩
  · have written := newTexts (report "rules.json".toList (pinningText "2")) List.mem_cons_self rfl
    simpa only [report] using written
  · have written := newTexts _ (List.mem_cons_of_mem _ List.mem_cons_self) rfl
    simpa only [report] using written

end ReleaseRules.CommandLine
