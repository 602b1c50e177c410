import GraphFacade.Run
import GraphFacade.Types.Facade
import GraphFacade.Types.Mapping

/-!
# Assembling facades

Endpoints become fields: of the query root if they only read, of the mutation
root otherwise, in the order of their keys.  A facade is made of one set of
endpoints, or of several sets under namespaces that share nothing but scalars.
-/

namespace GraphFacade

/-- The fields made of a set of endpoints. -/
structure RootFields where
  query : Entries Field
  mutation : Entries Field
  deriving Repr, Inhabited

namespace Assembly

open Workshop

/-- The type of an endpoint's answers, never null; no response is an object without properties. -/
def responseType (key : Atom) (endpoint : Endpoint) : Step TypeRef := do
  let shown <- MonadExcept.ofExcept endpoint.operationId.shown
  let hint := shown ++ "_response"
  match endpoint.response with
  | some schema => Mapping.mapSchema schema ⟨key, 0⟩ false hint true
  | none => do
      let type <- Mapping.degrade hint "empty-object"
      return .nonNull type

def fieldOf (key : Atom) (endpoint : Endpoint) : Step Field := do
  let type <- responseType key endpoint
  let arguments <- Mapping.mapParameters endpoint.operationId key 1 [] endpoint.parameters
  return ⟨type, describe endpoint.description, arguments, .endpoint endpoint⟩

/-- The fields of endpoints in order, after those that are there already. -/
def fieldsOf (fields : Entries Field) : EndpointSet -> Step (Entries Field)
  | [] => return fields
  | (key, endpoint) :: rest =>
      match Name.ofJson? (.atom key) with
      | none => throw .wrongKind
      | some name =>
          if Entries.has name fields then
            throw (.fieldClash key.display name)
          else do
            let field <- fieldOf key endpoint
            fieldsOf (fields ++ [(name, field)]) rest

/-- The fields of the endpoints that change something, or of those that do not. -/
def partition (endpoints : EndpointSet) (mutation : Bool) : Step (Entries Field) := do
  let sorted <- MonadExcept.ofExcept endpoints.sorted
  fieldsOf [] (sorted.filter fun entry => entry.2.mutation == mutation)

/-- All fields of a set of endpoints, of which at least one must be a query. -/
def assemble (endpoints : EndpointSet) : Step RootFields := do
  let query <- partition endpoints false
  if query.isEmpty then do
    let r <- current
    throw (.noQueries (r.realm.filter fun realm => !realm.isEmpty))
  else do
    let mutation <- partition endpoints true
    return ⟨query, mutation⟩

def withRegistry {α : Type} (realm : Option String) (step : Step α) : Run (α × Registry) :=
  fun log =>
    match step.run ⟨{ realm }, log⟩ with
    | .ok a w => .ok (a, w.registry) w.log
    | .error fault w => .error fault w.log

/-- The facade of one set of endpoints. -/
def single (endpoints : EndpointSet) : Run Facade := do
  let (fields, registry) <- withRegistry none (assemble endpoints)
  let facade <- MonadExcept.ofExcept (Facade.make [registry] fields.query fields.mutation)
  Run.report (.schemaAssembled fields.query.length fields.mutation.length registry.size)
  return facade

/-- Type names that no namespace may use, with their owners. -/
def firstOwners : List (String × String) :=
  [(Facade.queryName, "the query root"), (Facade.mutationName, "the mutation root"),
    (jsonScalarName, "the JSON scalar")] ++
    BuiltinScalar.all.map fun kind => (kind.name, "a built-in scalar")

def claimNames (realm : String) (owners : List (String × String)) :
    List String -> Except Fault (List (String × String))
  | [] => .ok owners
  | name :: rest =>
      match owners.lookup name with
      | some owner => .error (.typeClash realm name owner)
      | none => claimNames realm (owners ++ [(name, s!"namespace '{realm}'")]) rest

/-- The fields and type owners of the namespaces joined so far. -/
structure Joined where
  realms : List Registry := []
  query : Entries Field := []
  mutation : Entries Field := []
  owners : List (String × String) := firstOwners
  deriving Repr, Inhabited

/-- An object that holds the fields of a namespace, unless its name is reserved. -/
def wrap (registry : Registry) (name : String) (fields : Entries Field) :
    Except Fault (Registry × Field) :=
  if reservedTypeNames.contains name then
    .error (.reservedType name)
  else
    let (registry, type) := registry.addType (.object name .null fields)
    .ok (registry, ⟨type, .null, [], .placeholder⟩)

/-- Names of the types that a namespace brings along: its wrappers, then its registered types. -/
def claimedNames (name : String) (fields : RootFields) (registry : Registry) : List String :=
  [name] ++ (if fields.mutation.isEmpty then [] else [name ++ "_mutation"]) ++
    registry.typeNames.mergeSort fun a b => !(b < a)

def attach (joined : Joined) (owners : List (String × String)) (name : String)
    (fields : RootFields) (registry : Registry) : Except Fault Joined := do
  let (registry, queryField) <- wrap registry name fields.query
  let query := joined.query ++ [(name, queryField)]
  if fields.mutation.isEmpty then
    return { realms := joined.realms ++ [registry], query, mutation := joined.mutation, owners }
  else do
    let (registry, mutationField) <- wrap registry (name ++ "_mutation") fields.mutation
    return {
      realms := joined.realms ++ [registry], query, owners
      mutation := joined.mutation ++ [(name, mutationField)] }

def joinOne (joined : Joined) (realm : String) (endpoints : EndpointSet) : Run Joined := do
  let name := Name.ofText realm
  if Entries.has name joined.query then
    throw (.namespaceClash name)
  else do
    let (fields, registry) <- withRegistry (some realm) (assemble endpoints)
    let claimed := claimedNames name fields registry
    let owners <- MonadExcept.ofExcept (claimNames realm joined.owners claimed)
    let joined <- MonadExcept.ofExcept (attach joined owners name fields registry)
    Run.report
      (.namespaceJoined realm fields.query.length fields.mutation.length registry.size)
    return joined

def joinAll (joined : Joined) : List (String × EndpointSet) -> Run Joined
  | [] => return joined
  | (realm, endpoints) :: rest => do
      let joined <- joinOne joined realm endpoints
      joinAll joined rest

/-- The facade of several sets of endpoints, in the order of their namespaces. -/
def join (namespaces : List (String × EndpointSet)) : Run Facade := do
  if namespaces.isEmpty then
    throw .noNamespaces
  else do
    let joined <- joinAll {} (namespaces.mergeSort fun a b => !Text.before b.1 a.1)
    MonadExcept.ofExcept (Facade.make joined.realms joined.query joined.mutation)

end Assembly

end GraphFacade
