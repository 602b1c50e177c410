import GraphFacade.Json.Basic

/-!
# Log events

What the program reports about its work, each event with its level, its name
and its details.
-/

namespace GraphFacade

/-- Levels of log events, from the least to the most serious. -/
inductive Level
  | debug
  | info
  | warning
  | error
  | critical
  deriving DecidableEq, Repr, Inhabited

namespace Level

def rank : Level -> Nat
  | debug => 10
  | info => 20
  | warning => 30
  | error => 40
  | critical => 50

/-- The name of a level in capital letters. -/
def title : Level -> String
  | debug => "DEBUG"
  | info => "INFO"
  | warning => "WARNING"
  | error => "ERROR"
  | critical => "CRITICAL"

/-- The name of a level in a log line. -/
def label : Level -> String
  | debug => "debug"
  | info => "info"
  | warning => "warning"
  | error => "error"
  | critical => "critical"

def all : List Level :=
  [debug, info, warning, error, critical]

end Level

/-- A log event. -/
inductive Event
  /-- A document was read. -/
  | documentLoaded (path : String) (paths : Nat)
  /-- An operation of a document became an endpoint. -/
  | endpointExtracted (operation : Json) (method path : String) (parameters : Nat)
  /-- A schema that no type expresses became the JSON scalar. -/
  | shapeDegraded (path reason : String)
  /-- A schema was built from one set of endpoints. -/
  | schemaAssembled (queryFields mutationFields namedTypes : Nat)
  /-- A namespace was added to a joined schema. -/
  | namespaceJoined (realm : String) (queryFields mutationFields namedTypes : Nat)
  /-- The backend failed. -/
  | backendCallFailed (operation : Json) (method path error : String)
  deriving DecidableEq, Repr

abbrev Log := Array Event

namespace Event

def level : Event -> Level
  | documentLoaded .. | schemaAssembled .. | namespaceJoined .. => .info
  | endpointExtracted .. | shapeDegraded .. => .debug
  | backendCallFailed .. => .warning

/-- The name of an event in a log line. -/
def name : Event -> String
  | documentLoaded .. => "document_loaded"
  | endpointExtracted .. => "endpoint_extracted"
  | shapeDegraded .. => "schema_shape_degraded"
  | schemaAssembled .. => "schema_assembled"
  | namespaceJoined .. => "namespace_joined"
  | backendCallFailed .. => "backend_call_failed"

private def count (n : Nat) : Json :=
  .int n

/-- The details of an event, in the order in which they are written. -/
def details : Event -> Entries Json
  | documentLoaded path paths => [("path", .text path), ("paths", count paths)]
  | endpointExtracted operation method path parameters =>
      [("operation_id", operation), ("method", .text method), ("path", .text path),
        ("parameters", count parameters)]
  | shapeDegraded path reason => [("path", .text path), ("reason", .text reason)]
  | schemaAssembled queryFields mutationFields namedTypes =>
      [("query_fields", count queryFields), ("mutation_fields", count mutationFields),
        ("named_types", count namedTypes)]
  | namespaceJoined realm queryFields mutationFields namedTypes =>
      [("namespace", .text realm), ("query_fields", count queryFields),
        ("mutation_fields", count mutationFields), ("named_types", count namedTypes)]
  | backendCallFailed operation method path error =>
      [("operation_id", operation), ("method", .text method), ("path", .text path),
        ("error", .text error)]

def toJson (event : Event) : Json :=
  .dict (event.details ++ [("event", .text event.name), ("level", .text event.level.label)])

end Event

end GraphFacade
