import ReleaseRules.CommandLine.Words
import ReleaseRules.Template.Placeholder

/-!
Contract: what a command line asks for.

Owns:
- the commands and their options;
- reading a command line, which ends at the first fault or at a request for help or for the
  version.

Does not own: carrying out commands.
-/

namespace ReleaseRules.CommandLine

/-- What to run rules over, and how. `extras` are further variables, `applies` tells whether
changed files are written. -/
structure RunRequest where
  tag : String
  extras : Template.Variables
  applies : Bool
  asJson : Bool
  paths : List (List Char)
deriving DecidableEq, Repr

/-- A command. -/
inductive Command where
  | list
  | check
  | run (request : RunRequest)
deriving DecidableEq, Repr

/-- A command with what goes for all commands. -/
structure Invocation where
  settingsPath : Option (List Char)
  project : List Char
  verbose : Bool
  command : Command
deriving DecidableEq, Repr

/-- What help is about. -/
inductive Topic where
  | program
  | list
  | check
  | run
  | help
deriving DecidableEq, Repr

/-- Reasons for which no command is carried out. -/
inductive Stop where
  | help (topic : Topic)
  | version
  | usage (reason : UsageError)
deriving DecidableEq, Repr

/-- The option for help. -/
def helpForm : OptionForm := ⟨.help, "help", some 'h', none⟩

/-- Options and commands at the start of a command line. -/
def startGrammar : Grammar :=
  { forms :=
      [⟨.settings, "config", some 'c', some "FILE"⟩,
        ⟨.project, "project", some 'p', some "DIR"⟩,
        ⟨.verbosity, "verbose", some 'v', none⟩, helpForm,
        ⟨.version, "version", some 'V', none⟩]
    commands := ["list", "check", "run", "help"] }

/-- The option for the tag. -/
def tagForm : OptionForm := ⟨.tag, "tag", some 't', some "TAG"⟩

/-- Options behind the command that runs rules. -/
def runGrammar : Grammar :=
  { forms :=
      [tagForm, ⟨.extra, "var", none, some "NAME=VALUE"⟩, ⟨.apply, "apply", none, none⟩,
        ⟨.json, "json", none, none⟩, helpForm]
    commands := [] }

/-- Options behind a command without options of its own. -/
def plainGrammar : Grammar := ⟨[helpForm], []⟩

/-- How paths are called in messages. -/
def pathsName : String := "<PATHS>..."

/-- The value of an option that may be given once. -/
def giveOnce {α : Type} (form : OptionForm) (old : Option α) (value : α) :
    Except Stop (Option α) :=
  match old with
  | some _ => .error (.usage (.repeatedOption form))
  | none => .ok (some value)

/-- Set an option without a value that may be given once. -/
def turnOn (form : OptionForm) (old : Bool) : Except Stop Bool :=
  if old then .error (.usage (.repeatedOption form)) else .ok true

/-- A path, which is never empty. -/
def nonEmptyPath (name : String) (text : List Char) : Except Stop (List Char) :=
  if text.isEmpty then .error (.usage (.emptyValue name)) else .ok text

/-- What the start of a command line gives: options, and the command with the words behind
it. -/
structure Start where
  settingsPath : Option (List Char)
  project : Option (List Char)
  verbose : Bool
  command : Option (List Char × List (List Char))
deriving Repr

/-- The start of an empty command line. -/
def Start.empty : Start := ⟨none, none, false, none⟩

/-- Take one item at the start of a command line. -/
def Start.take (start : Start) : Item → Except Stop Start
  | .refused reason => .error (.usage reason)
  | .word text => .error (.usage (.unknownCommand text))
  | .command name rest => .ok { start with command := some (name, rest) }
  | .option form =>
      match form.subject with
      | .help => .error (.help .program)
      | .version => .error .version
      | _ => do return { start with verbose := ← turnOn form start.verbose }
  | .value form text => do
      let path ← nonEmptyPath form.display text
      match form.subject with
      | .settings =>
          return { start with settingsPath := ← giveOnce form start.settingsPath path }
      | _ => return { start with project := ← giveOnce form start.project path }

/-- What the words behind the command that runs rules give. -/
structure Draft where
  tag : Option String
  extras : Template.Variables
  applies : Bool
  asJson : Bool
  paths : List (List Char)
deriving Repr

/-- A draft of no words. -/
def Draft.empty : Draft := ⟨none, [], false, false, []⟩

/-- A variable and its value, with an equals sign between them. The name has no white space
around it and is never empty. -/
def extra? (text : List Char) : Option (String × String) :=
  let name := Unicode.trim (text.takeWhile (· != '='))
  match text.dropWhile (· != '=') with
  | _ :: value =>
      if name.isEmpty then none else some (String.ofList name, String.ofList value)
  | [] => none

/-- Take one item behind the command that runs rules. -/
def Draft.take (draft : Draft) : Item → Except Stop Draft
  | .refused reason => .error (.usage reason)
  | .command name _ => .error (.usage (.unexpectedWord name))
  | .word text => do
      return { draft with paths := draft.paths ++ [← nonEmptyPath pathsName text] }
  | .option form =>
      match form.subject with
      | .help => .error (.help .run)
      | .apply => do return { draft with applies := ← turnOn form draft.applies }
      | _ => do return { draft with asJson := ← turnOn form draft.asJson }
  | .value form text =>
      match form.subject with
      | .tag => do return { draft with tag := ← giveOnce form draft.tag (String.ofList text) }
      | _ =>
          match extra? text with
          | some (name, value) =>
              .ok { draft with extras := Tree.insert name value draft.extras }
          | none => .error (.usage (.malformedExtra form text))

/-- What a draft asks for; a tag and at least one path are required. -/
def Draft.finish (draft : Draft) : Except Stop RunRequest :=
  let missing :=
    (if draft.tag.isNone then [tagForm.display] else []) ++
      (if draft.paths.isEmpty then [pathsName] else [])
  match draft.tag with
  | some tag =>
      if missing.isEmpty then
        .ok ⟨tag, draft.extras, draft.applies, draft.asJson, draft.paths⟩
      else .error (.usage (.missing missing))
  | none => .error (.usage (.missing missing))

/-- Read the words behind the command that runs rules. -/
def readRun (words : List (List Char)) : Except Stop RunRequest := do
  (← (readWords runGrammar none words).foldlM Draft.take Draft.empty).finish

/-- Read the words behind a command without options of its own. -/
def readPlain (topic : Topic) (command : Command) (words : List (List Char)) :
    Except Stop Command :=
  match readWords plainGrammar none words with
  | [] => .ok command
  | .option _ :: _ => .error (.help topic)
  | .refused reason :: _ => .error (.usage reason)
  | .value form text :: _ => .error (.usage (.unwantedValue form text))
  | .word text :: _ => .error (.usage (.unexpectedWord text))
  | .command name _ :: _ => .error (.usage (.unexpectedWord name))

/-- The topic that words behind the command for help name. -/
def topicOf (words : List (List Char)) : Except Stop Topic :=
  match words with
  | [] => .ok .program
  | name :: rest =>
      match (String.ofList name : String), rest with
      | "list", [] => .ok .list
      | "check", [] => .ok .check
      | "run", [] => .ok .run
      | "help", [] => .ok .help
      | _, [] => .error (.usage (.unknownCommand name))
      | _, next :: _ => .error (.usage (.unknownCommand next))

/-- Read a command with the words behind it. -/
def readCommand (name : List Char) (words : List (List Char)) : Except Stop Command :=
  match (String.ofList name : String) with
  | "list" => readPlain .list .list words
  | "check" => readPlain .check .check words
  | "run" => (readRun words).map .run
  | "help" => do .error (.help (← topicOf words))
  | _ => .error (.usage (.unknownCommand name))

/-- Read a command line. The project is the working directory unless another one is given. -/
def Invocation.ofWords (words : List (List Char)) : Except Stop Invocation := do
  let start ← (readWords startGrammar none words).foldlM Start.take Start.empty
  match start.command with
  | none => .error (.usage .missingCommand)
  | some (name, rest) =>
      return {
        settingsPath := start.settingsPath
        project := start.project.getD ['.']
        verbose := start.verbose
        command := ← readCommand name rest }

end ReleaseRules.CommandLine
