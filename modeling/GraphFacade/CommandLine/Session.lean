import GraphFacade.Building
import GraphFacade.CommandLine.Disk
import GraphFacade.CommandLine.Markup
import GraphFacade.CommandLine.Options
import GraphFacade.CommandLine.Table
import GraphFacade.CommandLine.Terminal
import GraphFacade.Types.Printer

/-!
# Sessions of the command line

A session is what one command does on a host whose files are given: what it
prints, what it logs, which files it writes and how it ends.
-/

namespace GraphFacade

/-- Where a command runs. -/
structure Host where
  /-- The working folder. -/
  folder : String
  /-- The home folders of users by name; the empty name is that of the user who asks. -/
  home : String -> Option String
  environment : Entries String
  /-- What is found at an absolute path without dots. -/
  look : String -> Option FileEntry

/-- How a session ends. -/
inductive Ending
  | exit (code : Nat)
  | usage (fault : UsageFault)
  | fault (fault : Fault)
  deriving Repr

/-- What a session leaves behind. -/
structure Console where
  output : String := ""
  errors : String := ""
  log : Log := #[]
  /-- Paths of made folders. -/
  folders : List String := []
  /-- Paths of written files with their texts. -/
  files : List (String × String) := []
  deriving Inhabited

namespace Console

abbrev Step := EStateM Ending Console

def printLine (line : String) : Step Unit := fun console =>
  .ok () { console with output := console.output ++ line ++ "\n" }

def printText (text : String) : Step Unit :=
  printLine (String.ofList (Terminal.strip text.toList))

def lineWidth : Nat := 5000

/-- The text that shows on a console for a line with tags, which may take several lines. -/
def shown (line : String) : Except Fault String := do
  let lines := Layout.lines lineWidth .fold true (<- Markup.render line)
  if lines.all Styled.isReadable then
    return String.ofList (List.intercalate ['\n'] (lines.map Styled.chars))
  else
    .error .badNumeral

def printMarked (line : String) : Step Unit :=
  match shown line with
  | .ok line => printLine line
  | .error fault => throw (.fault fault)

def printError (line : String) : Step Unit := fun console =>
  match shown line with
  | .ok line => .ok () { console with errors := console.errors ++ line ++ "\n" }
  | .error fault => .error (.fault fault) console

/-- Run logged work; its own faults are printed and end the session with code one. -/
def work {α : Type} (run : Run α) : Step α := fun console =>
  match run.run console.log with
  | .ok a log => .ok a { console with log }
  | .error fault log =>
      let console := { console with log }
      match fault.family, fault.message? with
      | .other, _ | _, none => .error (.fault fault) console
      | _, some message =>
          (do
            printError ("[bold red]error:[/bold red] " ++ message)
            throw (.exit 1) : Step α) console

def orEnd {α : Type} : Except Fault α -> Step α
  | .ok a => pure a
  | .error fault => throw (.fault fault)

def descriptionPath (host : Host) (word : String) : Step (String × FileContent) := do
  let given <- orEnd (PathText.expandHome host.home word)
  let path := PathText.resolve host.folder given
  if PathText.hasNul given then
    throw (.fault .badPath)
  else
    orEnd (Disk.checkLength path)
    match (Disk.mk host.look []).follow [] (PathText.segments path) with
    | .found _ (.file content) => return (path, content)
    | .found _ _ => throw (.usage (.badArgument s!"API description is not a file: {path}"))
    | .overlong => throw (.fault (.blocked .longName))
    | _ => throw (.usage (.badArgument s!"API description does not exist: {path}"))

def trimmed (s : String) : String :=
  String.ofList (Text.trimBlanks s.toList)

/-- A namespace and the path of its description, from a word with an equals sign. -/
def namespacePath (host : Host) (word : String) : Step (String × String × FileContent) :=
  match Command.splitValue word with
  | (name, some description) =>
      if (trimmed name).isEmpty || (trimmed description).isEmpty then
        throw (.usage (.badArgument s!"Namespace must look like NAME=FILE, got: {word}"))
      else do
        let (path, content) <- descriptionPath host (trimmed description)
        return (trimmed name, path, content)
  | (_, none) =>
      throw (.usage (.badArgument s!"Namespace must look like NAME=FILE, got: {word}"))

/-- What is listed of an endpoint. -/
structure Row where
  operation : Json
  method : String
  path : String
  kind : String
  arguments : List String
  deriving Repr, Inhabited

def rowOf (endpoint : Endpoint) : Except Fault Row := do
  let arguments <- endpoint.parameters.mapM fun parameter =>
    match parameter.argument? with
    | some name => Except.ok name
    | none => .error .wrongKind
  return {
    operation := endpoint.operationId
    method := (endpoint.method.map Method.title).getD ""
    path := endpoint.path.getD ""
    kind := if endpoint.mutation then "mutation" else "query"
    arguments }

def Row.toJson (row : Row) : Json :=
  .dict [("operation_id", row.operation), ("method", .text row.method),
    ("path", .text row.path), ("kind", .text row.kind),
    ("arguments", .list (row.arguments.map .text))]

def columns : List (String × Bool) :=
  [("OPERATION", false), ("METHOD", false), ("PATH", true), ("KIND", false), ("ARGS", true)]

def Row.cells (row : Row) : Except Fault (List String) :=
  match row.operation with
  | .text operation =>
      .ok [operation, row.method, row.path, row.kind, String.intercalate ", " row.arguments]
  | _ => .error .notShowable

def tableColumns (rows : List (List String)) : Except Fault (List Table.Column) :=
  columns.zipIdx.mapM fun ((title, wraps), place) => do
    let cells <- rows.mapM fun row => Markup.render (row[place]?.getD "")
    return { title, wraps, cells }

/-- Print endpoints as a table under two lines about the description. -/
def printTable (path : String) (rows : List Row) : Step Unit := do
  let cells <- orEnd (rows.mapM Row.cells)
  printMarked ("[bold]Document:[/bold] " ++ path)
  printMarked s!"[bold]Endpoints:[/bold] {rows.length}"
  let lines <- orEnd (tableColumns cells >>= Table.lines lineWidth)
  lines.forM printLine

def listEndpoints (host : Host) (settings : Building.LazySettings) (description format : String) :
    Step Unit := do
  let (path, content) <- descriptionPath host description
  let endpoints <- work do
    let document <- Json.load path content
    Building.endpoints settings document none
  let sorted <- orEnd endpoints.sorted
  let rows <- orEnd (sorted.mapM fun entry => rowOf entry.2)
  if Text.smalls format == "json" then
    let text <- orEnd (Json.list (rows.map Row.toJson)).dumpedIndented
    printText text
  else
    printTable path rows

/-- Make the folder above a file and write a text to the file. -/
def writeFile (host : Host) (path text : String) : Step Unit := do
  let segments := PathText.inFolder host.folder path
  if segments.dropLast.any PathText.hasNul then
    throw (.fault .badPath)
  else
    orEnd (Disk.checkLength (PathText.above path))
    let disk <- orEnd ((Disk.mk host.look []).makeFolders segments.dropLast)
    modify fun console => { console with folders := disk.made }
    if segments.any PathText.hasNul then
      throw (.fault .badPath)
    else
      orEnd (Disk.checkLength path)
      let target <- orEnd (disk.target segments)
      let write (text : String) : Step Unit := modify fun console =>
        { console with files := console.files ++ [(target, text)] }
      if Text.hasHalf text then do
        write ""
        throw (.fault .loneHalf)
      else
        write text

def writeSchema (host : Host) (out text : String) : Step Unit := do
  let out := PathText.tidy (<- orEnd (PathText.expandHome host.home out))
  writeFile host out (text ++ "\n")
  printMarked ("[bold green]Wrote[/bold green] SDL to: " ++ out)

def facadeFor (host : Host) (settings : Building.LazySettings) (description : Option String)
    (namespaces : List String) : Step Facade := do
  if namespaces.isEmpty then
    let (path, content) <- descriptionPath host (description.getD "")
    work do
      let document <- Json.load path content
      Building.facade settings document
  else
    let files <- namespaces.mapM (namespacePath host)
    work (Building.joinedFacade settings
      (files.map fun (realm, path, content) => (realm, Json.load path content)))

def printSchema (host : Host) (settings : Building.LazySettings) (description : Option String)
    (namespaces : List String) (out : Option String) : Step Unit := do
  let described := !(description.getD "").isEmpty
  if described && !namespaces.isEmpty then
    throw (.usage (.badArgument "Pass either DOC or --namespace entries, not both"))
  else if !described && namespaces.isEmpty then
    throw (.usage (.badArgument "Pass a DOC or at least one --namespace NAME=FILE"))
  else
    let facade <- facadeFor host settings description namespaces
    let text <- orEnd facade.print
    match out.filter fun out => !out.isEmpty with
    | some out => writeSchema host out text
    | none => printText text

def runCommand (host : Host) (settings : Building.LazySettings) : Command -> Step Unit
  | .endpoints description format => listEndpoints host settings description format
  | .schema description namespaces out => printSchema host settings description namespaces out

/-- Everything that some words do: the command is found, settings are read, then its own words. -/
def runWords (host : Host) (words : List String) : Step Unit :=
  match Command.split words with
  | .error fault => throw (.usage fault)
  | .ok (command, rest) => do
      let settings <- orEnd (Settings.ofEnvironment host.environment)
      match Command.parse command rest with
      | .error fault => throw (.usage fault)
      | .ok command => runCommand host (.ok settings) command

def visibleLog (host : Host) (log : Log) : List Event :=
  match Settings.ofEnvironment host.environment with
  | .ok settings => log.toList.filter fun event => settings.logLevel.rank <= event.level.rank
  | .error _ => []

def run (host : Host) (words : List String) : Console × Ending :=
  match (runWords host words).run {} with
  | .ok _ console => (console, .exit 0)
  | .error ending console => (console, ending)

end Console

end GraphFacade
