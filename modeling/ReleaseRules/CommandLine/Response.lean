import ReleaseRules.CommandLine.Help
import ReleaseRules.CommandLine.Report
import ReleaseRules.Rules.Loader

/-!
Contract: carrying out command lines.

Owns:
- what is printed and written, and the exit code;
- the order in which files are read and written: every file is read after the changes of the
  files before it have been written, and the rules are read before all files.

Does not own: the files themselves.
-/

namespace ReleaseRules.CommandLine

/-- What comes of a command line: the exit code, the text for the user, a complaint if
something went wrong, and the texts that files get. -/
structure Response where
  exitCode : Nat
  output : String
  complaint : String
  written : List (List Char × List Char)
deriving DecidableEq, Repr

/-- A response that writes no file. -/
def Response.print (output : String) : Response := ⟨0, output, "", []⟩

/-- A response that only complains. -/
def Response.fail (exitCode : Nat) (complaint : String) : Response :=
  ⟨exitCode, "", complaint, []⟩

/-- The world after a response. -/
def Response.after (response : Response) (world : World) : World :=
  response.written.foldl (fun world file => world.write file.1 file.2) world

/-- The response to a command line without a command to carry out. -/
def Stop.response : Stop → Response
  | .help topic => .print (helpText topic)
  | .version => .print versionText
  | .usage reason => .fail 2 ("error: " ++ reason.message ++ "\n")

namespace Invocation

/-- The path of the settings: the given one, or that of the settings file of the project. -/
def settingsFile (invocation : Invocation) : List Char :=
  invocation.settingsPath.getD (Path.join invocation.project Settings.fileName)

/-- The sources of rules. -/
def sources (invocation : Invocation) (world : World) (settings : Settings) : RuleSources :=
  { RuleSources.discover world invocation.project with
    settings := some invocation.settingsFile
    environmentName := some settings.rulesVariable }

/-- The rules of the sources. -/
def rules (invocation : Invocation) (world : World) (settings : Settings) : List Rule :=
  ((RuleLoader.new (invocation.sources world settings)).load world).1

end Invocation

/-- The lines about a rule, with its number. -/
def ruleLines (number : Nat) (rule : Rule) : String :=
  "  [" ++ toString number ++ "] " ++ rule.name ++ " (" ++
    String.intercalate ", " rule.targetFiles ++ ")\n" ++
    String.join (rule.description.toList.map fun text => "      " ++ text ++ "\n")

/-- The list of rules. -/
def listText (rules : List Rule) : String :=
  "Rules:\n" ++
    String.join (rules.zipIdx.map fun entry => ruleLines (entry.2 + 1) entry.1)

/-- The line about a source that is a file. -/
def sourceLine (world : World) (label : String) (path : List Char) : String :=
  "  " ++ label ++ " rules: " ++ String.ofList path ++
    (if world.contains path then " (found)\n" else " (missing)\n")

/-- The line about the source that a variable names. -/
def variableLine (world : World) (name : String) : String :=
  "  $" ++ name ++ ": " ++
    ((RuleSources.namedValue? world name).map String.ofList).getD "not set" ++ "\n"

/-- The lines about sources. -/
def sourcesText (world : World) (sources : RuleSources) : String :=
  String.join
    (sources.global.toList.map (sourceLine world "global") ++
      sources.project.toList.map (sourceLine world "project") ++
      sources.settings.toList.map (sourceLine world "config") ++
      sources.environmentName.toList.map (variableLine world))

/-- The text about valid settings. -/
def checkText (world : World) (settings : Settings) (sources : RuleSources)
    (rules : List Rule) : String :=
  "✓ Config is valid\n" ++ sourcesText world sources ++
    "  " ++ toString settings.rules.length ++ " embedded rules\n" ++
    "  " ++ toString settings.preserve.length ++ " preserve entries\n" ++
    "  " ++ toString rules.length ++ " enabled rules from all sources\n"

/-- The files that paths stand for: those in a directory in the place of the directory. -/
def inputs (world : World) (paths : List (List Char)) : List (List Char) :=
  paths.flatMap fun path => if world.isDirectory path then world.filesIn path else [path]

namespace RunRequest

/-- The context for a file. -/
def context (request : RunRequest) (date : String) (file : List Char) : Context :=
  { tag := request.tag
    date := date
    extras := request.extras
    dryRun := false
    baseDirectory := some ((Path.parent? file).getD []) }

/-- Run rules over a file with the given text. -/
def report (request : RunRequest) (world : World) (rules : List Rule) (date : String)
    (project file text : List Char) : FileReport :=
  let shownPath := (Path.stripPrefix? project file).getD file
  let run := if request.applies then Engine.process else Engine.preview
  ⟨file, shownPath, run world rules shownPath text (request.context date file)⟩

/-- Whether the file of a report is written. -/
def writes (request : RunRequest) (report : FileReport) : Bool :=
  request.applies && report.result.changed

/-- Run rules over files, one after the other; files that cannot be read are left out. -/
def reports (request : RunRequest) (rules : List Rule) (date : String)
    (project : List Char) : World → List (List Char) → List FileReport
  | _, [] => []
  | world, file :: rest =>
      match world.read? file with
      | none => reports request rules date project world rest
      | some text =>
          let report := request.report world rules date project file text
          let next := if request.writes report then world.write file report.result.text else world
          report :: reports request rules date project next rest

/-- The response to a request to run rules. -/
def response (request : RunRequest) (world : World) (rules : List Rule) (date : String)
    (project : List Char) : Response :=
  let reports := request.reports rules date project world (inputs world request.paths)
  { exitCode := 0
    output :=
      if request.asJson then FileReport.json reports
      else FileReport.overview request.applies reports
    complaint := ""
    written := (reports.filter request.writes).map fun report =>
      (report.file, report.result.text) }

end RunRequest

/-- Carry out a command. No command goes on without valid settings. -/
def Invocation.response (invocation : Invocation) (world : World) (date : String) : Response :=
  match Settings.load world invocation.settingsFile with
  | .error reason =>
      match invocation.command with
      | .check => .fail 1 ("✗ Config error: " ++ reason.message ++ "\n")
      | _ => .fail 1 ("Error: " ++ reason.message ++ "\n")
  | .ok settings =>
      let rules := invocation.rules world settings
      match invocation.command with
      | .list => .print (listText rules)
      | .check => .print (checkText world settings (invocation.sources world settings) rules)
      | .run request => request.response world rules date invocation.project

/-- Carry out a command line. -/
def respond (world : World) (date : String) (words : List (List Char)) : Response :=
  match Invocation.ofWords words with
  | .ok invocation => invocation.response world date
  | .error stop => stop.response

end ReleaseRules.CommandLine
