import GraphFacade.Document.Graph
import GraphFacade.Document.Pointer
import GraphFacade.Endpoint.Request
import GraphFacade.Types.Facade

/-!
# Answers

How the answer of a backend becomes the value of a field: a field of texts takes
anything else as its JSON text, or displayed where it has none, and every other
field takes the answer as it is.
Fields below it read the entries of the answer.
-/

namespace GraphFacade

namespace Answer

def holdsText (type : TypeRef) : Bool :=
  type.nullable == .scalar .string

/--
The text of an answer in a field of texts: its JSON, else what it shows as.  An
answer with too long an integer has neither.
-/
def textOf (raw : Json) : Except Fault String :=
  match raw.dumped with
  | .error .wrongKind | .error .badNumeral => raw.shown
  | told => told

/-- Fit an answer to the type of its field. -/
def fit (type : TypeRef) (raw : Json) : Except Fault Json :=
  if holdsText type then
    match raw with
    | .null => .ok .null
    | .text s => .ok (.text s)
    | raw => (textOf raw).map fun text => .text text
  else
    .ok raw

/-- Fit an answer that may contain itself; such a one has no JSON text and is displayed. -/
def fitDocument (type : TypeRef) (raw : Document) : Except Fault Document :=
  if holdsText type then
    match raw.graph.tree? raw.root with
    | some tree => (fit type tree).map Document.ofJson
    | none => (raw.graph.shown raw.root).map fun text => .ofJson (.text text)
  else
    .ok raw

def serialize? (members : Entries Json) (value : Json) : Option Json :=
  (members.find? fun member => member.2.same value).map fun member => .text member.1

def parse? (members : Entries Json) : Json -> Option Json
  | .text name => members.lookup name
  | _ => none

/-- The fields of the object that a type names, inside lists or not; no other type has any. -/
def fieldsOf (facade : Facade) (type : TypeRef) : Except Fault (Entries Field) :=
  match type.unwrapped with
  | .named id =>
      match facade.type? id with
      | some (.object _ _ fields) => .ok fields
      | _ => .error .noEntries
  | _ => .error .noEntries

def wholeNumber? : Json -> Option Int
  | .int i => some i
  | .bool b => some (if b then 1 else 0)
  | _ => none

def numberPart? (value : Json) (name : String) : Option Json :=
  match wholeNumber? value, value with
  | some i, _ =>
      match name with
      | "real" | "numerator" => some (.int i)
      | "imag" => some (.int 0)
      | "denominator" => some (.int 1)
      | _ => none
  | none, .float x =>
      match name with
      | "real" => some (.float x)
      | "imag" => some (.float (.finite false 0 0))
      | _ => none
  | none, _ => none

/--
The value of a field below an answer: the property it reads, null when it is
missing.  A number has the properties that its parts are, other atoms and lists
have none.
-/
def property (value : Json) : Source -> Json
  | .property name =>
      match value with
      | .dict entries => (entries.lookup name).getD .null
      | value => (numberPart? value name).getD .null
  | _ => .null

/-- The item at a place of a list or a text; negative places count from the end. -/
def item (value : Json) (place : Int) : Except Fault Json :=
  let at? (items : List Json) : Except Fault Json :=
    match (Pointer.place? items.length place).bind fun n => items[n]? with
    | some item => .ok item
    | none => .error .outOfRange
  match value with
  | .list items => at? items
  | .text s => at? (s.toList.map fun c => .text (String.singleton c))
  | .dict _ => .error .missingEntry
  | .atom _ => .error .wrongKind

/--
One step into an answer: a place in a list or a text, which leaves the type as
it is, or a field of the object that the type names.
-/
def step (facade : Facade) (type : TypeRef) (value : Json) (step : Json) :
    Except Fault (TypeRef × Json) :=
  match wholeNumber? step with
  | some place => (item value place).map fun value => (type, value)
  | none => do
      let fields <- fieldsOf facade type
      match step with
      | .text name =>
          match fields.lookup name with
          | some field => return (field.type, property value field.source)
          | none => .error .missingEntry
      | .atom _ => .error .missingEntry
      | _ => .error .wrongKind

def walk (facade : Facade) : TypeRef -> Json -> List Json -> Except Fault (TypeRef × Json)
  | type, value, [] => .ok (type, value)
  | type, value, next :: rest =>
      match step facade type value next with
      | .ok (type, value) => walk facade type value rest
      | .error fault => .error fault

/-- How a value of a type goes out, and what comes back of it, for types that have members. -/
inductive Exchange
  | plain
  | exchanged (serialized parsedBack : Except Fault Json)

/-- The exchange of a value of a type: the JSON scalar keeps it, an enumeration names it. -/
def exchange (facade : Facade) (type : TypeRef) (value : Json) : Exchange :=
  match type.nullable with
  | .json => .exchanged (.ok value) (.ok value)
  | .named id =>
      match facade.type? id with
      | some (.enum _ _ members) =>
          match serialize? members value with
          | some name =>
              match parse? members name with
              | some back => .exchanged (.ok name) (.ok back)
              | none => .exchanged (.ok name) (.error .notMember)
          | none => .exchanged (.error .notMember) (.error .notMember)
      | _ => .plain
  | _ => .plain

end Answer

/-- A backend: it answers a request made in some context, or fails. -/
abbrev Backend := Json -> Request -> Except BackendFailure Json

/-- The backend of a program that has none. -/
def Backend.none : Backend := fun _ request =>
  .error ⟨"RuntimeError",
    s!"No backend configured for {request.method.title} {request.path}"⟩

/-- The calls made so far, and the log. -/
structure Session where
  calls : List (Json × Request) := []
  log : Log := #[]
  deriving Inhabited

namespace Session

abbrev Step := EStateM Fault Session

/-- Call a backend, and report if it fails. -/
def call (backend : Backend) (endpoint : Endpoint) (context : Json) (request : Request) :
    Step Json := fun s =>
  let s := { s with calls := s.calls ++ [(context, request)] }
  match backend context request with
  | .ok raw => .ok raw s
  | .error failure =>
      let event := Event.backendCallFailed endpoint.operationId request.method.name request.path
        failure.display
      .error (.backend failure) { s with log := s.log.push event }

/-- The value of an endpoint's field: one call of the backend, its answer fitted to the type. -/
def resolve (backend : Backend) (endpoint : Endpoint) (type : TypeRef)
    (arguments : Entries Json) (context : Json) : Step Json := do
  let request <- MonadExcept.ofExcept (endpoint.request arguments)
  let raw <- call backend endpoint context request
  MonadExcept.ofExcept (Answer.fit type raw)

def placeholder : Json := .text "namespace"

def resolveField (backend : Backend) (field : Field) (arguments : Entries Json)
    (context : Json) : Step Json :=
  match field.source with
  | .endpoint endpoint => resolve backend endpoint field.type arguments context
  | .placeholder => return placeholder
  | .property _ => return .null

end Session

end GraphFacade
