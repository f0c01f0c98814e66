import ReleaseRules.CommandLine.Survey
import Std.Time.Format

/-!
Contract: the program.

Owns:
- finding out what a command looks at;
- printing and writing what comes of the command.

Does not own: any decision about them.
-/

namespace ReleaseRules.CommandLine

/-- The place of a path in the file system. -/
def placeOf (path : List Char) :=
  (IO.FS.DirEntry.mk "." (String.ofList path)).path

/-- What the file at a path holds. -/
def contentOf (path : List Char) : IO FileContent := do
  try
    return .text (← IO.FS.readFile (placeOf path)).toList
  catch _ =>
    return .notText

/-- The world with the directories on the way to a path, and with what is at the path. The text
of a file is only read on request. -/
def lookAt (readsText : Bool) (world : World) (path : List Char) : IO World := do
  let mut known := world
  for part in Survey.leadingParts path do
    if ← (placeOf part).isDir then
      known := known.addDirectory (known.namesOf part)
  if known.isDirectory path || (known.read? path).isSome then
    return known
  if !(← (placeOf path).pathExists) then
    return known
  let content ← if readsText then contentOf path else pure .notText
  return known.put (known.namesOf path) content

/-- The world with the files in a directory. -/
def lookInside (world : World) (path : List Char) : IO World := do
  let mut known := world
  if ← (placeOf path).isDir then
    for entry in ← (placeOf path).readDir do
      known ← lookAt true known (Path.join path entry.fileName.toList)
  return known

/-- The world with what a survey asks for. -/
def carryOut (survey : Survey) (world : World) : IO World := do
  let mut known := world
  for name in survey.variableNames do
    match ← IO.getEnv name with
    | some value => known := known.setVariable name value
    | none => pure ()
  for path in survey.existing do
    known ← lookAt false known path
  for path in survey.texts do
    known ← lookAt true known path
  for path in survey.directories do
    known ← lookInside known path
  return known

/-- The world as far as a command looks at it. -/
def worldFor (invocation : Invocation) : IO World := do
  let here := (World.empty [] []).namesOf (← IO.currentDir).toString.toList
  let mut known := World.empty here []
  for _ in List.range Survey.rounds do
    known ← carryOut (Survey.ofInvocation known invocation) known
  return known

/-- Write and print what has come of a command, and give the exit code. -/
def finish (response : Response) : IO UInt32 := do
  for file in response.written do
    try
      IO.FS.writeFile (placeOf file.1) (String.ofList file.2)
    catch reason =>
      IO.eprintln ("Error: Failed to write " ++ String.ofList file.1 ++ ": " ++ toString reason)
      return 1
  IO.print response.output
  IO.eprint response.complaint
  return response.exitCode.toUInt32

/-- Run the program. -/
def runProgram (arguments : List String) : IO UInt32 := do
  match Invocation.ofWords (arguments.map String.toList) with
  | .error stop => finish stop.response
  | .ok invocation =>
      let world ← worldFor invocation
      let today ← Std.Time.PlainDate.now
      finish (invocation.response world (toString today))

end ReleaseRules.CommandLine

/-- The entry of the program. -/
def main (arguments : List String) : IO UInt32 :=
  ReleaseRules.CommandLine.runProgram arguments
