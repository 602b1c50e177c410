import GraphFacade.Types.Registry

/-!
# Mapping schema nodes to types

Scalars map to built-in scalars, lists to lists, enumerations of texts and
objects with properties to named types of the registry.  What no type expresses
becomes the JSON scalar, with a report.  An object's type is registered before
its properties are mapped, so a property that leads back to the object refers to
that very type.
-/

namespace GraphFacade

def ScalarKind.builtin : ScalarKind -> BuiltinScalar
  | string => .string
  | integer => .int
  | number => .float
  | boolean => .boolean

namespace Mapping

open Workshop

def degrade (path reason : String) : Step TypeRef := do
  report (.shapeDegraded path reason)
  return .json

/-- The title of a node as a text; no type can be named after anything else. -/
def textTitle (origin : Origin) (label : Label) (hint : String) : Step String := do
  match <- titleOf origin label hint with
  | .text title => return title
  | _ => throw .wrongKind

/-- The type of an enumeration: a named one of texts, else the scalar that holds its numbers. -/
def mapEnum (origin : Origin) (label : Label) (literals : List Json) (hint : String) :
    Step TypeRef := do
  if literals.all Json.isText then do
    let title <- textTitle origin label hint
    let r <- current
    let key := r.key title .enum
    match r.get? key with
    | some type => return type
    | none =>
        makeType key
          (.enum (r.typeName title .enum) (describe label.description) (Name.members literals))
  else if literals.all Json.isWhole then
    return .scalar .int
  else if literals.all Json.isNumber then
    return .scalar .float
  else
    degrade hint "mixed-enum"

/-- The type of a node; `mapObject` gives the types of objects by label, shape number and hint. -/
def mapNode (origin : Origin) (mapObject : Label -> Nat -> String -> Step TypeRef) :
    Node -> String -> Step TypeRef
  | .scalar _ kind, _ => return .scalar kind.builtin
  | .enum label _ literals, hint => mapEnum origin label literals hint
  | .list _ items, hint => do
      let item <- mapNode origin mapObject items (hint ++ "_items")
      return .list item
  | .openList _, _ => return .list .json
  | .object label shape, hint => mapObject label shape hint
  | .any _ reason, hint => degrade hint reason

/-- Add a field to an object or input type, in place of one of the same name. -/
def addField (isInput : Bool) (name property : String) (type : TypeRef) (description : Json) :
    NamedType -> NamedType
  | .object typeName about fields =>
      if isInput then
        .object typeName about fields
      else
        .object typeName about
          (Entries.put name ⟨type, description, [], .property property⟩ fields)
  | .input typeName about fields =>
      if isInput then
        .input typeName about (Entries.put name ⟨type, description, property⟩ fields)
      else
        .input typeName about fields
  | other => other

def requireIf (required : Bool) (type : TypeRef) : TypeRef :=
  if required then .nonNull type else type

/-- Map the properties of an object one after another and add their fields to its type. -/
def mapProperties (isInput : Bool) (map : Node -> String -> Step TypeRef) (required : List String)
    (title : String) (owner : TypeRef) : List (String × Node) -> Step Unit
  | [] => return ()
  | (property, node) :: rest => do
      let name := Name.ofText property
      let type <- map node (title ++ "_" ++ name)
      let type := requireIf (required.contains property) type
      change fun r =>
        r.updateType owner (addField isInput name property type (describe node.label.description))
      mapProperties isInput map required title owner rest

/-- The type of an object; `fuel` bounds the objects that are being mapped at once. -/
def mapObject (schema : Schema) (origin : Origin) (isInput : Bool) :
    Nat -> Label -> Nat -> String -> Step TypeRef
  | 0, _, _, _ => throw .endless
  | fuel + 1, label, index, hint => do
      let shape := schema.shape index
      if shape.properties.isEmpty then
        degrade hint "empty-object"
      else do
        let title <- textTitle origin label hint
        let role := if isInput then Role.input else Role.output
        let r <- current
        let key := r.key title role
        match r.get? key with
        | some type => return type
        | none => do
            let name := r.typeName title role
            let about := describe label.description
            let owner <-
              makeType key (if isInput then .input name about [] else .object name about [])
            mapProperties isInput (mapNode origin (mapObject schema origin isInput fuel))
              shape.required title owner shape.properties
            return owner

/--
The type of a schema's root.  Objects being mapped at once are all different,
so one more than the schema has is enough.
-/
def mapSchema (schema : Schema) (origin : Origin) (isInput : Bool) (hint : String)
    (required : Bool) : Step TypeRef := do
  let type <-
    mapNode origin (mapObject schema origin isInput (schema.shapes.size + 1)) schema.root hint
  return requireIf required type

/-- The arguments of a list of parameters of an operation, from the given part number on. -/
def mapParameters (operationId : Json) (key : Atom) :
    Nat -> Entries Argument -> List Parameter -> Step (Entries Argument)
  | _, arguments, [] => return arguments
  | part, arguments, parameter :: rest =>
      match parameter.argument? with
      | none => throw .wrongKind
      | some name =>
          if Entries.has name arguments then
            throw (.argumentClash operationId name)
          else do
            let shown <- MonadExcept.ofExcept operationId.shown
            let type <- mapSchema parameter.schema ⟨key, part⟩ true
              (shown ++ "_" ++ name) parameter.required
            mapParameters operationId key (part + 1)
              (arguments ++ [(name, ⟨type, describe parameter.description⟩)]) rest

end Mapping

end GraphFacade
