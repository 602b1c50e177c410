import GraphFacade.Fault
import GraphFacade.Name
import GraphFacade.Ranking
import GraphFacade.Schema.Node

/-!
# Endpoints

One operation of a backend: how it is called, what it takes and what it
answers.  Endpoints carry the schemas of their parameters and of their response
whole, so an endpoint means the same wherever it stands.
-/

namespace GraphFacade

/-- Methods of a call. -/
inductive Method
  | get
  | put
  | post
  | delete
  | options
  | head
  | patch
  deriving DecidableEq, Repr, Inhabited

namespace Method

def all : List Method :=
  [get, put, post, delete, options, head, patch]

/-- The name of a method in a document and in a request. -/
def name : Method -> String
  | get => "get"
  | put => "put"
  | post => "post"
  | delete => "delete"
  | options => "options"
  | head => "head"
  | patch => "patch"

/-- The name of a method in capital letters. -/
def title : Method -> String
  | get => "GET"
  | put => "PUT"
  | post => "POST"
  | delete => "DELETE"
  | options => "OPTIONS"
  | head => "HEAD"
  | patch => "PATCH"

def ofName? (s : String) : Option Method :=
  all.find? fun method => method.name == s

end Method

/-- Where a parameter's value goes in a request. -/
inductive Location
  | path
  | query
  | header
  | body
  | formData
  | cookie
  deriving DecidableEq, Repr, Inhabited

namespace Location

def all : List Location :=
  [path, query, header, body, formData, cookie]

/-- The name of a location in a document. -/
def name : Location -> String
  | path => "path"
  | query => "query"
  | header => "header"
  | body => "body"
  | formData => "formData"
  | cookie => "cookie"

def ofName? (s : String) : Option Location :=
  all.find? fun location => location.name == s

end Location

/-- A parameter of an endpoint.  Names are not checked when a document is read. -/
structure Parameter where
  name : Json
  location : Location
  schema : Schema
  required : Bool
  description : Json
  deriving Repr, Inhabited

/-- One callable operation of a backend. -/
structure Endpoint where
  operationId : Json
  /-- `none` for a method that no request can have. -/
  method : Option Method
  /-- A template with placeholders for path parameters; `none` for what is no text. -/
  path : Option String
  mutation : Bool
  description : Json
  response : Option Schema
  parameters : List Parameter
  baseUrl : Json
  deriving Repr, Inhabited

/-- Endpoints under their keys, which are compared as numbers and texts are. -/
abbrev EndpointSet := List (Atom × Endpoint)

namespace EndpointSet

/-- Put an endpoint under a key, in place of one that has an equal key. -/
def put (key : Atom) (endpoint : Endpoint) (endpoints : EndpointSet) : EndpointSet :=
  Atom.put key endpoint endpoints

def has (key : Atom) (endpoints : EndpointSet) : Bool :=
  endpoints.any fun entry => entry.1.same key

def comparable (endpoints : EndpointSet) : Bool :=
  endpoints.length <= 1 || (endpoints.all fun entry => entry.1.key.isText) ||
    endpoints.all fun entry => entry.1.key.isNumber

/-- Whether an endpoint's key is less than another's. -/
def before (a b : Atom × Endpoint) : Bool :=
  a.1.key.less b.1.key

/--
Endpoints in the order of their keys.  Keys with not-a-number among them have no
order of their own, and come as insertion by halving leaves them.
-/
def sorted (endpoints : EndpointSet) : Except Fault EndpointSet :=
  if endpoints.comparable then
    if endpoints.any fun entry => entry.1.key == .nan then
      .ok (Ranking.sort before endpoints)
    else
      .ok (endpoints.mergeSort fun a b => !before b a)
  else
    .error .wrongKind

end EndpointSet

namespace Parameter

def argument? (parameter : Parameter) : Option String :=
  Name.ofJson? parameter.name

def isBody (parameter : Parameter) : Bool :=
  parameter.location == .body

end Parameter

end GraphFacade
