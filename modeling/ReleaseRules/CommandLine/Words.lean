/-!
Contract: the words of a command line.

Owns:
- options, their letters and their values;
- telling options, values, commands and other words apart.

Does not own: what the options mean.
-/

namespace ReleaseRules.CommandLine

/-- What an option is about. -/
inductive Subject where
  | settings
  | project
  | verbosity
  | help
  | version
  | tag
  | extra
  | apply
  | json
deriving DecidableEq, Repr

/-- Form of an option: its long name, its letter if it has one, and how its value is called if
it takes one. -/
structure OptionForm where
  subject : Subject
  long : String
  letter : Option Char
  valueName : Option String
deriving DecidableEq, Repr

/-- An option as it is shown in messages. -/
def OptionForm.display (form : OptionForm) : String :=
  match form.valueName with
  | some value => "--" ++ form.long ++ " <" ++ value ++ ">"
  | none => "--" ++ form.long

/-- Reasons for which a command line is refused. -/
inductive UsageError where
  | unknownOption (word : List Char)
  | missingValue (form : OptionForm)
  | unwantedValue (form : OptionForm) (value : List Char)
  | emptyValue (name : String)
  | repeatedOption (form : OptionForm)
  | malformedExtra (form : OptionForm) (text : List Char)
  | unexpectedWord (word : List Char)
  | unknownCommand (word : List Char)
  | missingCommand
  | missing (names : List String)
deriving DecidableEq, Repr

/-- Message of a command line that is refused. -/
def UsageError.message : UsageError → String
  | .unknownOption word => "unexpected argument '" ++ String.ofList word ++ "' found"
  | .missingValue form =>
      "a value is required for '" ++ form.display ++ "' but none was supplied"
  | .unwantedValue form value =>
      "unexpected value '" ++ String.ofList value ++ "' for '" ++ form.display ++
        "' found; no more were expected"
  | .emptyValue name => "a value is required for '" ++ name ++ "' but none was supplied"
  | .repeatedOption form =>
      "the argument '" ++ form.display ++ "' cannot be used multiple times"
  | .malformedExtra form text =>
      "invalid value '" ++ String.ofList text ++ "' for '" ++ form.display ++
        "': expected NAME=VALUE, got '" ++ String.ofList text ++ "'"
  | .unexpectedWord word => "unexpected argument '" ++ String.ofList word ++ "' found"
  | .unknownCommand word => "unrecognized subcommand '" ++ String.ofList word ++ "'"
  | .missingCommand => "'synckeep' requires a subcommand but one was not provided"
  | .missing names =>
      "the following required arguments were not provided:" ++
        String.join (names.map fun name => "\n  " ++ name)

/-- Item of a command line. A command takes all words behind it. -/
inductive Item where
  | option (form : OptionForm)
  | value (form : OptionForm) (text : List Char)
  | word (text : List Char)
  | command (name : List Char) (rest : List (List Char))
  | refused (reason : UsageError)
deriving DecidableEq, Repr

/-- Options and commands that are known at one place of a command line. -/
structure Grammar where
  forms : List OptionForm
  commands : List String
deriving Repr

/-- Shape of a word. A single dash is a plain word. -/
inductive Shape where
  | plain
  | endOfOptions
  | long (text : List Char)
  | letters (text : List Char)
deriving DecidableEq, Repr

/-- The shape of a word. -/
def shapeOf : List Char → Shape
  | ['-'] => .plain
  | ['-', '-'] => .endOfOptions
  | '-' :: '-' :: text => .long text
  | '-' :: text => .letters text
  | _ => .plain

/-- Read the text behind two dashes: its items, and the option that waits for its value. -/
def readLong (forms : List OptionForm) (text : List Char) : List Item × Option OptionForm :=
  let name := text.takeWhile (· != '=')
  match forms.find? fun form => form.long.toList = name with
  | none => ([.refused (.unknownOption ('-' :: '-' :: name))], none)
  | some form =>
      match form.valueName, text.dropWhile (· != '=') with
      | some _, [] => ([], some form)
      | some _, _ :: value => ([.value form value], none)
      | none, [] => ([.option form], none)
      | none, _ :: value => ([.refused (.unwantedValue form value)], none)

/-- Read the letters behind a dash: their items, and the option that waits for its value. What
follows the letter of an option with a value is the value. -/
def readLetters (forms : List OptionForm) : List Char → List Item × Option OptionForm
  | [] => ([], none)
  | letter :: rest =>
      match forms.find? fun form => form.letter = some letter with
      | none => ([.refused (.unknownOption ['-', letter])], none)
      | some form =>
          match form.valueName, rest with
          | some _, [] => ([], some form)
          | some _, '=' :: value => ([.value form value], none)
          | some _, value => ([.value form value], none)
          | none, _ =>
              let (items, waiting) := readLetters forms rest
              (.option form :: items, waiting)

/-- Read words, while an option may be waiting for its value. Only a plain word is the value of
an option that waits, and behind two dashes there are no options and commands any more. -/
def readWords (grammar : Grammar) : Option OptionForm → List (List Char) → List Item
  | none, [] => []
  | some form, [] => [.refused (.missingValue form)]
  | some form, word :: rest =>
      match shapeOf word with
      | .plain => .value form word :: readWords grammar none rest
      | _ => [.refused (.missingValue form)]
  | none, word :: rest =>
      match shapeOf word with
      | .plain =>
          if grammar.commands.contains (String.ofList word) then [.command word rest]
          else .word word :: readWords grammar none rest
      | .endOfOptions => rest.map .word
      | .long text =>
          let (items, waiting) := readLong grammar.forms text
          items ++ readWords grammar waiting rest
      | .letters text =>
          let (items, waiting) := readLetters grammar.forms text
          items ++ readWords grammar waiting rest

end ReleaseRules.CommandLine
