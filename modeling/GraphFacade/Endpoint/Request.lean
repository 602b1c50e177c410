import GraphFacade.Endpoint.Basic
import GraphFacade.Text.Percent
import GraphFacade.Text.Split

/-!
# Requests

The one backend call that an endpoint makes for given arguments.  Each
parameter with a value that is not null puts it where its location says: into
the path template, the query, the headers, the cookie header, the form or the
body.  A form, if there is one, takes the place of the body.
-/

namespace GraphFacade

/-- How the body of a request is written. -/
inductive BodyType
  | json
  | form
  deriving DecidableEq, Repr, Inhabited

/-- A value of a form and the argument that it was given as. -/
structure FormValue where
  argument : String
  value : Json
  deriving Repr, Inhabited

/-- What a request brings along. -/
inductive Body
  | json (value : Json)
  /-- Values under their names, which are compared as numbers and texts are. -/
  | form (entries : List (Atom × FormValue))
  deriving Repr, Inhabited

namespace Body

def type : Body -> BodyType
  | json _ => .json
  | form _ => .form

/-- A body as one value; that of a form has the displayed texts of its names as keys. -/
def value : Body -> Json
  | json value => value
  | form entries =>
      .dict (Entries.ofList (entries.map fun (name, given) => (name.display, given.value)))

end Body

/-- What a backend is asked to do. -/
structure Request where
  method : Method
  baseUrl : String
  path : String
  query : Entries Json
  headers : Entries String
  body : Body
  deriving Repr, Inhabited

namespace Request

def url (request : Request) : String :=
  let base := (request.baseUrl.toList.reverse.dropWhile (· == '/')).reverse
  String.ofList base ++ request.path

/-- A value as the text of a header; truth values are written in small letters. -/
def headerText : Json -> String
  | .bool b => if b then "true" else "false"
  | value => value.display

def shownHeader (value : Json) : Except Fault String :=
  Text.limited value.longest (headerText value)

theorem shownHeader_eq_ok {value : Json} {text : String} :
    shownHeader value = .ok text ↔ value.longest ≤ Text.digitLimit ∧ headerText value = text :=
  Text.limited_eq_ok

def cookieHeader : String := "Cookie"

/-- A request in the making. -/
structure Draft where
  /-- The path template with the values filled in so far. -/
  path : Option String
  query : Entries Json := []
  headers : Entries String := []
  form : List (Atom × FormValue) := []
  body : Json := .null
  /-- Whether a value was put under a name that is no text. -/
  misnamed : Bool := false
  deriving Repr, Inhabited

def Draft.fillPath (draft : Draft) (name value : Json) : Except Fault Draft :=
  match draft.path, name with
  | none, _ => .error .noEntries
  | some path, .text name => do
      let placeholder := '\x7b' :: (name.toList ++ ['\x7d'])
      let shown <- value.shown
      let filled := Text.replaceAll placeholder (Text.percentEncode shown.toList) path.toList
      if Text.hasHalf shown then
        .error .loneHalf
      else
        .ok { draft with path := some (String.ofList filled) }
  | some _, _ => .error .wrongKind

/-- Put a text under the name of a header; a name that is no text counts at the end only. -/
def Draft.addHeader (draft : Draft) (name : Json) (text : String) : Except Fault Draft :=
  match name with
  | .text name => .ok { draft with headers := Entries.put name text draft.headers }
  | .atom _ => .ok { draft with misnamed := true }
  | _ => .error .wrongKind

def Draft.addCookie (draft : Draft) (cookie : String) : Draft :=
  let cookies :=
    match draft.headers.lookup cookieHeader with
    | some cookies => cookies ++ "; " ++ cookie
    | none => cookie
  { draft with headers := Entries.put cookieHeader cookies draft.headers }

/-- Put the value that a parameter was given as an argument where it belongs. -/
def Draft.place (draft : Draft) (parameter : Parameter) (argument : String) (value : Json) :
    Except Fault Draft :=
  match parameter.location, parameter.name with
  | .path, name => draft.fillPath name value
  | .query, .text name => .ok { draft with query := Entries.put name value draft.query }
  | .query, .atom _ => .ok { draft with misnamed := true }
  | .query, _ => .error .wrongKind
  | .header, name => do
      let text <- shownHeader value
      draft.addHeader name text
  | .cookie, name => do
      let named <- name.shown
      let text <- shownHeader value
      return draft.addCookie (named ++ "=" ++ text)
  | .formData, .atom name =>
      .ok { draft with form := Atom.put name ⟨argument, value⟩ draft.form }
  | .formData, _ => .error .wrongKind
  | .body, _ => .ok { draft with body := value }

/-- Take a parameter's argument into account; a missing or null one has no effect. -/
def Draft.step (arguments : Entries Json) (draft : Draft) (parameter : Parameter) :
    Except Fault Draft :=
  match parameter.argument? with
  | none => .error .wrongKind
  | some name =>
      match arguments.lookup name with
      | none | some .null => .ok draft
      | some value => draft.place parameter name value

/-- All parameters in order. -/
def Draft.fill (arguments : Entries Json) : List Parameter -> Draft -> Except Fault Draft
  | [], draft => .ok draft
  | parameter :: rest, draft =>
      match draft.step arguments parameter with
      | .ok draft => Draft.fill arguments rest draft
      | .error fault => .error fault

def Draft.hasHalf (draft : Draft) : Bool :=
  Text.hasHalf (draft.path.getD "") || draft.query.any (fun entry => Text.hasHalf entry.1) ||
    draft.headers.any fun entry => Text.hasHalf entry.1 || Text.hasHalf entry.2

/-- The request of a finished draft, unless a part of it is outside its domain. -/
def Draft.finish (draft : Draft) (method : Option Method) (baseUrl : Json) :
    Except Fault Request :=
  match method, baseUrl, draft.path with
  | some method, .text baseUrl, some path =>
      if draft.misnamed || draft.hasHalf || Text.hasHalf baseUrl then
        .error .invalidRecord
      else
        .ok {
          method, baseUrl, path
          query := draft.query
          headers := draft.headers
          body := if draft.form.isEmpty then .json draft.body else .form draft.form }
  | _, _, _ => .error .invalidRecord

end Request

/-- The request of an endpoint for the values of its arguments. -/
def Endpoint.request (endpoint : Endpoint) (arguments : Entries Json) : Except Fault Request :=
  match Request.Draft.fill arguments endpoint.parameters { path := endpoint.path } with
  | .ok draft => draft.finish endpoint.method endpoint.baseUrl
  | .error fault => .error fault

end GraphFacade
