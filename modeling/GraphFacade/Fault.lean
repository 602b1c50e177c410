import GraphFacade.Json.Display

/-!
# Faults

Everything that can go wrong, as causes, and the wording of those causes that
have one.
-/

namespace GraphFacade

/-- How a backend failed: the label of its failure and its own words. -/
structure BackendFailure where
  label : String
  words : String
  deriving DecidableEq, Repr

def BackendFailure.display (failure : BackendFailure) : String :=
  s!"{failure.label}({Text.quoted failure.words})"

/-- What stands in the way of writing a file. -/
inductive Obstacle
  /-- A file where the folder should be. -/
  | fileAsFolder
  /-- A file above the folder. -/
  | fileAboveFolder
  /-- A folder where the file should be. -/
  | folderAsFile
  /-- A name longer than names can be. -/
  | longName
  deriving DecidableEq, Repr

/-- A cause of failure. -/
inductive Fault
  /-- A reference whose pointer does not start with a slash. -/
  | unsupportedPointer (pointer : String)
  /-- A pointer that leads nowhere. -/
  | danglingPointer (pointer : String)
  /-- A reference into another document. -/
  | remoteReference (reference : String)
  /-- A reference met again while its target, not an object of its own, is being resolved. -/
  | circularReference (reference : String)
  /-- A parameter without a usable name or place. -/
  | invalidParameter (shown : String)
  /-- Two operations of one id. -/
  | duplicateOperation (id method path : String)
  /-- A description that cannot be read. -/
  | unreadable (path reason : String)
  /-- A description that is not JSON. -/
  | notJson (path detail : String)
  /-- A description whose value is not an object. -/
  | notObject (path : String)
  /-- No endpoint gives a query field. -/
  | noQueries (realm : Option String)
  /-- Two operations whose ids give the same field name. -/
  | fieldClash (operation field : String)
  /-- Two parameters of one endpoint with the same argument name. -/
  | argumentClash (operation : Json) (argument : String)
  /-- Nothing to join. -/
  | noNamespaces
  /-- Two namespaces with the same name. -/
  | namespaceClash (name : String)
  /-- A type of a namespace that belongs to someone else already. -/
  | typeClash (realm typeName owner : String)
  /-- A type with a name that the type system keeps for itself. -/
  | reservedType (name : String)
  /-- Two types of one name in a schema. -/
  | repeatedType (name : String)
  /-- A value of the wrong kind. -/
  | wrongKind
  /-- The entries of a value that has none. -/
  | noEntries
  /-- An entry that is not there. -/
  | missingEntry
  /-- A place beyond the end of a list. -/
  | outOfRange
  /-- A text that is no numeral, or a numeral that is too long. -/
  | badNumeral
  /-- A record with a field outside its domain. -/
  | invalidRecord
  /-- A value that is no member of an enumeration. -/
  | notMember
  /-- Bytes that are not UTF-8. -/
  | notUtf8
  /-- A text with half a code point where bytes are asked for. -/
  | loneHalf
  /-- A walk that comes back to where it was without ever ending. -/
  | endless
  /-- More folders are missing than can be made at once. -/
  | tooManyFolders
  /-- A console text that closes a tag it never opened. -/
  | badMarkup
  /-- A value that no table can show. -/
  | notShowable
  /-- A place that no file can be at, or can be written to. -/
  | blocked (obstacle : Obstacle)
  /-- A path with a character that no path has. -/
  | badPath
  /-- The home folder of a user who has none. -/
  | homeless
  /-- A failure of the backend. -/
  | backend (failure : BackendFailure)
  deriving DecidableEq, Repr

namespace Fault

/-- The families of faults that a caller tells apart. -/
inductive Family
  | loading
  | construction
  | other
  deriving DecidableEq, Repr

def family : Fault -> Family
  | unsupportedPointer _ | danglingPointer _ | remoteReference _ | circularReference _
  | invalidParameter _ | duplicateOperation _ _ _ | unreadable _ _ | notJson _ _
  | notObject _ => .loading
  | noQueries _ | fieldClash _ _ | argumentClash _ _ | noNamespaces | namespaceClash _
  | typeClash _ _ _ => .construction
  | _ => .other

/-- The wording of a fault, if it has one of its own. -/
def message? : Fault -> Option String
  | unsupportedPointer pointer => some s!"Unsupported JSON pointer '#{pointer}'"
  | danglingPointer pointer => some s!"Unresolvable reference '#{pointer}'"
  | remoteReference reference =>
      some s!"Only local references are supported, got '{reference}'"
  | circularReference reference => some s!"Reference '{reference}' only refers to itself"
  | invalidParameter shown => some s!"Invalid parameter definition: {shown}"
  | duplicateOperation id method path =>
      some s!"Duplicate operationId '{id}' ({method} {path})"
  | unreadable path reason => some s!"Cannot read API description {path}: {reason}"
  | notJson path detail => some s!"API description {path} is not valid JSON: {detail}"
  | notObject path => some s!"API description {path} must be a JSON object"
  | noQueries none => some "Did not find any query (GET) endpoints"
  | noQueries (some realm) =>
      some s!"Did not find any query (GET) endpoints in namespace '{realm}'"
  | fieldClash operation field =>
      some s!"Operations '{operation}' and another operation both map to field '{field}'"
  | argumentClash operation argument =>
      some s!"Endpoint '{operation.display}' declares argument '{argument}' more than once"
  | noNamespaces => some "No namespaces to join"
  | namespaceClash name => some s!"Namespaces collide on field name '{name}'"
  | typeClash realm typeName owner =>
      some s!"Namespace '{realm}' type '{typeName}' collides with {owner}"
  | reservedType name => some s!"Redefinition of reserved type '{name}'"
  | repeatedType name =>
      some ("Schema must contain uniquely named types but contains multiple types named " ++
        s!"'{name}'.")
  | endless => some "maximum recursion depth exceeded in comparison"
  | tooManyFolders => some "maximum recursion depth exceeded while calling a Python object"
  | homeless => some "Could not determine home directory."
  | backend failure => some failure.words
  | _ => none

end Fault

end GraphFacade
