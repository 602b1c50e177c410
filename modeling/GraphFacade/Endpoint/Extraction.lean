import GraphFacade.Document.Graph
import GraphFacade.Document.Pointer
import GraphFacade.Endpoint.Basic
import GraphFacade.Run
import GraphFacade.Schema.Reading

/-!
# Endpoints of a document

The operations of an API description, whose references are resolved already, as
endpoints under their ids.  Both common layouts are understood: types of
parameters may stand inline or under a schema, bodies may be parameters or
request bodies, and responses may hold a schema or contents by media type.
-/

namespace GraphFacade

namespace Extraction

/-- A value unless it counts as false; then the other one. -/
def orElse (g : Graph) (value other : Value) : Value :=
  if g.truthy value then value else other

/-- The first part of a value that has parts in an order. -/
def first (g : Graph) (value : Value) : Except Fault Value :=
  match g.cell? value, value with
  | some (.list (item :: _)), _ => .ok item
  | some (.list []), _ => .error .outOfRange
  | some (.dict _), _ => .error .missingEntry
  | none, .atom (.text s) =>
      match Text.first? s with
      | some start => .ok (.atom (.text start))
      | none => .error .outOfRange
  | none, _ => .error .wrongKind

def hostUrl (g : Graph) (root : Value) : Except Fault Json := do
  let host := g.getD root "host"
  let basePath := orElse g (g.getD root "basePath") (.atom (.text ""))
  if g.truthy host then
    let schemes := g.getD root "schemes"
    let scheme <- if g.truthy schemes then first g schemes else .ok (.atom (.text "http"))
    let scheme <- g.shown scheme
    let host <- g.shown host
    let basePath <- g.shown basePath
    return .text s!"{scheme}://{host}{basePath}"
  else
    return g.tree basePath

/-- The base of a document that lists servers: that of the first one. -/
def serverUrl (g : Graph) (root : Value) : Except Fault Json := do
  let servers := g.getD root "servers"
  if g.truthy servers then
    let server <- first g servers
    if g.isDict server then
      return g.tree (orElse g (g.getD server "url") (.atom (.text "")))
    else
      return .text ""
  else
    return .text ""

def baseUrl (d : Document) : Except Fault Json :=
  match d.graph.cell? d.root, d.root with
  | some (.dict entries), _ =>
      if Entries.has "swagger" entries then hostUrl d.graph d.root else serverUrl d.graph d.root
  | some (.list _), _ | none, .atom (.text _) => .error .noEntries
  | none, _ => .error .wrongKind

/-- The entries of a section; one that counts as false has none. -/
def sectionEntries (g : Graph) (value : Value) : Except Fault (List (String × Value)) :=
  match g.entries? value with
  | some entries => .ok entries
  | none => if g.truthy value then .error .noEntries else .ok []

/-- Keep letters, digits and underscores; every run of other characters becomes one underscore. -/
def collapse : Bool -> List Char -> List Char
  | _, [] => []
  | inRun, c :: rest =>
      if Name.isNameChar c then c :: collapse false rest
      else if inRun then collapse true rest
      else '_' :: collapse true rest

def trim (mark : Char) (cs : List Char) : List Char :=
  ((cs.dropWhile (· == mark)).reverse.dropWhile (· == mark)).reverse

/-- A segment of a path as part of an id: a placeholder `x` in braces becomes `by_x`. -/
def segmentPart (segment : List Char) : List Char :=
  if segment.head? == some '\x7b' && segment.getLast? == some '\x7d' then
    "by_".toList ++ (segment.drop 1).dropLast
  else
    segment

def joinParts : List (List Char) -> List Char
  | [] => []
  | [part] => part
  | part :: rest => part ++ '_' :: joinParts rest

/-- The id of an operation that has none: its method and the segments of its path. -/
def fallbackId (method : Method) (path : String) : String :=
  let segments := (Text.splitAt '/' (trim '/' path.toList)).filter fun s => !s.isEmpty
  let base := if segments.isEmpty then "root".toList else joinParts (segments.map segmentPart)
  method.name ++ "_" ++ String.ofList (trim '_' (collapse false base))

/-- The id of an operation. -/
def operationId (g : Graph) (operation : Value) (method : Method) (path : String) :
    Except Fault Atom :=
  let given := g.getD operation "operationId"
  if g.truthy given then
    match given with
    | .atom id => .ok id
    | .cell _ => .error .wrongKind
  else
    .ok (.text (fallbackId method path))

/-- The values listed under a key; only a list has any, and an atom besides texts is no listing. -/
def listed (g : Graph) (value : Value) : Except Fault (List Value) :=
  match g.cell? value, value with
  | some (.list items), _ => .ok items
  | some (.dict _), _ | none, .atom (.text _) => .ok []
  | none, _ => if g.truthy value then .error .wrongKind else .ok []

def parameterKey (g : Graph) (parameter : Value) : Except Fault (String × String) := do
  let name <- g.shown (g.getD parameter "name")
  let place <- g.shown (g.getD parameter "in")
  return (name, place)

/--
Parameters of a path and of one of its operations.  A later declaration takes
the place of an earlier one with the same name and place.
-/
def mergeParameters (g : Graph) (ofPath ofOperation : List Value) : Except Fault (List Value) := do
  let keyed <- ((ofPath ++ ofOperation).filter g.isDict).mapM fun parameter => do
    let key <- parameterKey g parameter
    return (key, parameter)
  return (Entries.ofList keyed).map Prod.snd

def metaKeys : List String :=
  ["name", "in", "required", "description", "allowEmptyValue", "collectionFormat"]

/-- The schema of a parameter: the one it names, else what is left of it without its own keys. -/
def parameterSchema (g : Graph) (parameter : Value) : Except Fault Schema :=
  let named := g.getD parameter "schema"
  if g.isDict named then
    Schema.ofValue g named
  else
    let left := ((g.entries? parameter).getD []).filter fun entry =>
      !metaKeys.contains entry.1
    let (g, value) := g.push (.dict left)
    Schema.ofValue g value

def descriptionOf (g : Graph) (value : Value) : Json :=
  g.tree (orElse g value (.atom (.text "")))

def location? : Value -> Option Location
  | .atom (.text s) => Location.ofName? s
  | _ => none

/-- A parameter of an operation. -/
def parameter (g : Graph) (declared : Value) : Except Fault Parameter :=
  let name := g.getD declared "name"
  match location? (g.getD declared "in"), g.truthy name with
  | some location, true => do
      let schema <- parameterSchema g declared
      return {
        name := g.tree name
        location, schema
        required := g.truthy (g.getD declared "required") || location == .path
        description := descriptionOf g (g.getD declared "description") }
  | _, _ => do
      let shown <- g.shownInside declared
      throw (.invalidParameter shown)

def present? (value : Value) : Option Value :=
  if value == .atom .null then none else some value

/-- The schema of contents by media type: JSON if it is there, else the first one. -/
def contentSchema? (g : Graph) (content : Value) : Option Value := do
  let contents <- g.entries? content
  let (_, firstMedia) <- contents.head?
  let media := (present? (g.getD content "application/json")).getD firstMedia
  if g.isDict media then present? (g.getD media "schema") else none

/-- The parameter that stands for a request body. -/
def bodyParameter? (g : Graph) (operation : Value) : Except Fault (Option Parameter) :=
  let body := g.getD operation "requestBody"
  if g.isDict body then
    match contentSchema? g (g.getD body "content") with
    | none => .ok none
    | some value => do
        let schema <- Schema.ofValue g value
        return some {
          name := .text "body"
          location := .body
          schema
          required := g.truthy (g.getD body "required")
          description := descriptionOf g (g.getD body "description") }
  else
    .ok none

/-- The codes whose responses are looked at: those of success in order, else the default. -/
def responseCodes (codes : List String) : List String :=
  let successes := (codes.filter fun code => code.startsWith "2").mergeSort fun a b => !Text.before b a
  if successes.isEmpty then codes.filter (· == "default") else successes

/-- Whether a code is all digits and still no numeral, for its digits or for its length. -/
def isBrokenNumeral (code : String) : Bool :=
  let cs := code.toList
  !cs.isEmpty && cs.all Text.isDigitLike && (Text.natural? cs).isNone

/-- The schema found in the responses of some codes, in their order. -/
def findSchema (g : Graph) (responses : Value) : List String -> Except Fault (Option Value)
  | [] => .ok none
  | code :: rest =>
      let response := g.getD responses code
      if response == .atom .null && isBrokenNumeral code then
        .error .badNumeral
      else
        match g.entries? response with
        | none => findSchema g responses rest
        | some entries =>
            match entries.lookup "schema" with
            | some schema => .ok (present? schema)
            | none =>
                match contentSchema? g (g.getD response "content") with
                | some schema => .ok (some schema)
                | none => findSchema g responses rest

/-- Whether a text contains the character or the word that make it look like a response. -/
def looksLikeResponse (cs : List Char) : Bool :=
  cs.contains '2' || (List.range cs.length).any fun i =>
    "default".toList.isPrefixOf (cs.drop i)

/-- The schema of what an operation answers. -/
def responseSchema? (g : Graph) (operation : Value) : Except Fault (Option Value) :=
  let responses := g.getD operation "responses"
  match g.cell? responses, responses with
  | some (.dict entries), _ => findSchema g responses (responseCodes (entries.map Prod.fst))
  | some (.list items), _ =>
      (items.mapM g.shown).bind fun codes =>
        if (responseCodes codes).isEmpty then .ok none else .error .noEntries
  | none, .atom (.text s) =>
      if looksLikeResponse s.toList then .error .noEntries else .ok none
  | none, _ => if g.truthy responses then .error .wrongKind else .ok none

/-- The parameters of an operation, its body last. -/
def parameters (g : Graph) (item operation : Value) : Except Fault (List Parameter) := do
  let ofPath <- listed g (g.getD item "parameters")
  let ofOperation <- listed g (g.getD operation "parameters")
  let merged <- mergeParameters g ofPath ofOperation
  let declared <- merged.mapM (parameter g)
  let body <- bodyParameter? g operation
  return declared ++ body.toList

/-- The endpoint of an operation with a given id. -/
def endpoint (g : Graph) (base : Json) (path : String) (item : Value) (method : Method)
    (operation : Value) (id : Atom) : Except Fault Endpoint := do
  let parameters <- parameters g item operation
  let response <- responseSchema? g operation
  let response <- response.mapM (Schema.ofValue g)
  return {
    operationId := .atom id
    method := some method
    path := some path
    mutation := method != .get
    description :=
      descriptionOf g (orElse g (g.getD operation "description") (g.getD operation "summary"))
    response, parameters
    baseUrl := base }

/-- Add the endpoint of a method of a path, if there is an operation. -/
def addOperation (g : Graph) (base : Json) (path : String) (item : Value)
    (endpoints : EndpointSet) (method : Method) : Run EndpointSet := do
  let operation := g.getD item method.name
  if g.isDict operation then
    let id <- MonadExcept.ofExcept (operationId g operation method path)
    if endpoints.has id then
      let shown <- MonadExcept.ofExcept id.shown
      throw (.duplicateOperation shown method.title path)
    else
      let found <- MonadExcept.ofExcept (endpoint g base path item method operation id)
      Run.report (.endpointExtracted (.atom id) method.title path found.parameters.length)
      return endpoints ++ [(id, found)]
  else
    return endpoints

def addPath (g : Graph) (base : Json) (endpoints : EndpointSet) (path : String × Value) :
    Run EndpointSet :=
  if g.isDict path.2 then
    Method.all.foldlM (addOperation g base path.1 path.2) endpoints
  else
    return endpoints

end Extraction

/-- The endpoints of a resolved document; without a base given, the document's own is used. -/
def Document.endpoints (d : Document) (base : Option Json) : Run EndpointSet := do
  let base <-
    match base with
    | some base => pure base
    | none => MonadExcept.ofExcept (Extraction.baseUrl d)
  if d.graph.isDict d.root then
    let paths <-
      MonadExcept.ofExcept (Extraction.sectionEntries d.graph (d.graph.getD d.root "paths"))
    paths.foldlM (Extraction.addPath d.graph base) []
  else
    throw .noEntries

end GraphFacade
