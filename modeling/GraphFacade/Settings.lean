import GraphFacade.Event
import GraphFacade.Fault
import GraphFacade.Text.Digit
import GraphFacade.Text.LetterCase

/-!
# Settings

What the environment says about a run: the least serious level that is logged,
whether logs are always written as JSON, and a base for all requests in place of
the one that a document gives.
-/

namespace GraphFacade

/-- Settings of a run. -/
structure Settings where
  logLevel : Level := .info
  logJson : Bool := false
  baseUrl : Option String := none
  deriving DecidableEq, Repr, Inhabited

namespace Settings

def variableLead : String := "RESTGRAPH_"

/-- A character as a capital; the dotless small letter `ı` has the capital `I` too. -/
def capital (c : Char) : Char :=
  if c == '\u0131' then 'I' else c.toUpper

def capitals (s : String) : String :=
  String.ofList (s.toList.map capital)

/-- The value of a variable; of several names that differ in case only, the last one counts. -/
def valueOf? (environment : Entries String) (name : String) : Option String :=
  let wanted := Text.smalls (variableLead ++ name)
  ((environment.filter fun entry => Text.smalls entry.1 == wanted).getLast?).map Prod.snd

def level? (s : String) : Option Level :=
  let name := String.ofList (Text.trimBlanks (capitals s).toList)
  Level.all.find? fun level => level.title == name

def yesWords : List String := ["true", "1", "yes", "on", "t", "y"]

def noWords : List String := ["false", "0", "no", "off", "f", "n"]

def flag? (s : String) : Option Bool :=
  let word := Text.smalls s
  if yesWords.contains word then some true
  else if noWords.contains word then some false
  else none

/-- A setting: its default without a variable, a fault if the variable cannot be read. -/
def setting {α : Type} (default : α) (read : String -> Option α) (value : Option String) :
    Except Fault α :=
  match value with
  | none => .ok default
  | some text =>
      match read text with
      | some a => .ok a
      | none => .error .invalidRecord

def ofEnvironment (environment : Entries String) : Except Fault Settings := do
  let logLevel <- setting .info level? (valueOf? environment "LOG_LEVEL")
  let logJson <- setting false flag? (valueOf? environment "LOG_JSON")
  return { logLevel, logJson, baseUrl := valueOf? environment "BASE_URL" }

end Settings

end GraphFacade
