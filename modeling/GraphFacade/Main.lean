import GraphFacade.CommandLine.Session

/-!
# The program

Looks up the files that the words of the command line name, runs the session and
carries out what it decided: logs and errors go to standard error, the rest to
standard output, files to their places.
-/

namespace GraphFacade

namespace Program

/-- What is found at a path. -/
def lookAt (path : String) : IO (Option FileEntry) := do
  try
    let real <- IO.FS.realPath (Text.plain path)
    if <- real.isDir then
      return some .folder
    else if <- real.pathExists then
      if (<- real.metadata).type == .file then
        try
          return some (.file (.bytes (<- IO.FS.readBinFile real)))
        catch reason =>
          return some (.file (.unreadable (toString reason)))
      else
        return some .device
    else
      return none
  catch _ =>
    return none

/-- Absolute paths that a word may name, whole or behind its equals sign, and those on the way. -/
def namedPaths (folder : String) (home : String -> Option String) (word : String) :
    List String :=
  let named := word :: ((Command.splitValue word).2.map Console.trimmed).toList
  named.flatMap fun name =>
    match PathText.expandHome home name with
    | .ok path => PathText.stops folder path
    | .error _ => []

def readEnvironment : IO (Entries String) := do
  let names := ["LOG_LEVEL", "LOG_JSON", "BASE_URL"].map (Settings.variableLead ++ ·)
  let mut found : Entries String := []
  for name in names ++ names.map Text.smalls do
    if let some value <- IO.getEnv name then
      found := found ++ [(name, Text.kept value)]
  return found

def readHost (words : List String) : IO Host := do
  let folder := (<- IO.currentDir).toString
  let ownHome <- IO.getEnv "HOME"
  let home := fun user => if user.isEmpty then ownHome else none
  let mut entries : List (String × FileEntry) := []
  for path in (words.flatMap (namedPaths folder home)).eraseDups do
    if let some entry <- lookAt path then
      entries := (path, entry) :: entries
  let known := entries
  return { folder, home, environment := <- readEnvironment, look := fun path => known.lookup path }

def complaint : Ending -> Option String
  | .exit _ => none
  | .usage .help =>
      some ("Commands: endpoints DOC [--format table|json]; " ++
        "sdl [DOC] [-n NAME=FILE] [--out PATH]")
  | .usage .missingCommand => some "Missing command"
  | .usage .unknownCommand => some "No such command"
  | .usage .unknownOption => some "No such option"
  | .usage .missingArgument => some "Missing argument DOC"
  | .usage .missingValue => some "Option requires an argument"
  | .usage .unexpectedValue => some "Option does not take a value"
  | .usage .extraArgument => some "Got unexpected extra argument"
  | .usage (.badArgument message) => some ("Invalid value: " ++ message)
  | .fault fault => some (fault.message?.getD (reprStr fault))

/-- The code with which the program leaves. -/
def exitCode : Ending -> UInt32
  | .exit code => code.toUInt32
  | .usage .help => 0
  | .usage _ => 2
  | .fault _ => 1

end Program

end GraphFacade

open GraphFacade in
/-- Run the command line. -/
def main (words : List String) : IO UInt32 := do
  let words := words.map Text.kept
  let host <- Program.readHost words
  let (console, ending) := Console.run host words
  let errors <- IO.getStderr
  for event in Console.visibleLog host console.log do
    errors.putStrLn event.toJson.oneLine
  errors.putStr (Text.plain console.errors)
  for path in console.folders do
    IO.FS.createDir (Text.plain path)
  for (path, text) in console.files do
    IO.FS.writeFile (Text.plain path) (Text.plain text)
  (<- IO.getStdout).putStr (Text.plain console.output)
  if let some words := Program.complaint ending then
    errors.putStrLn ("Error: " ++ words)
  return Program.exitCode ending
