import GraphFacade.Endpoint.Basic

/-!
# Types

The types of the query language that endpoints are offered in: built-in
scalars, the JSON scalar, and named objects, inputs and enumerations.  Named
types live in the realm that made them and are referred to by realm and number,
so a type may lead back to itself.
-/

namespace GraphFacade

/-- Scalars that are part of the query language. -/
inductive BuiltinScalar
  | string
  | int
  | float
  | boolean
  | id
  deriving DecidableEq, Repr, Inhabited

namespace BuiltinScalar

def all : List BuiltinScalar :=
  [string, int, float, boolean, id]

def name : BuiltinScalar -> String
  | string => "String"
  | int => "Int"
  | float => "Float"
  | boolean => "Boolean"
  | id => "ID"

end BuiltinScalar

/-- Where a named type lives: the realm that made it and its number there. -/
structure TypeId where
  realm : Option String
  index : Nat
  deriving DecidableEq, Repr, Inhabited

/-- A reference to a type. -/
inductive TypeRef
  | scalar (kind : BuiltinScalar)
  /-- The scalar that holds any JSON value. -/
  | json
  | named (id : TypeId)
  | list (item : TypeRef)
  | nonNull (inner : TypeRef)
  deriving DecidableEq, Repr, Inhabited

namespace TypeRef

def unwrapped : TypeRef -> TypeRef
  | list item => item.unwrapped
  | nonNull inner => inner.unwrapped
  | ref => ref

/-- A reference without an outer non-null wrapper. -/
def nullable : TypeRef -> TypeRef
  | nonNull inner => inner
  | ref => ref

end TypeRef

/-- An argument of a field. -/
structure Argument where
  type : TypeRef
  /-- Null when there is none. -/
  description : Json
  deriving Repr, Inhabited

/-- How a field gets its value. -/
inductive Source
  /-- From the entry of this name in the enclosing object. -/
  | property (name : String)
  /-- From a call of an endpoint. -/
  | endpoint (endpoint : Endpoint)
  /-- A placeholder that only leads on to the fields of a namespace. -/
  | placeholder
  deriving Repr, Inhabited

/-- A field of an object. -/
structure Field where
  type : TypeRef
  description : Json
  arguments : Entries Argument
  source : Source
  deriving Repr, Inhabited

/-- A field of an input object, and the property it is sent as. -/
structure InputField where
  type : TypeRef
  description : Json
  property : String
  deriving Repr, Inhabited

/-- A type with a name. -/
inductive NamedType
  | object (name : String) (description : Json) (fields : Entries Field)
  | input (name : String) (description : Json) (fields : Entries InputField)
  | enum (name : String) (description : Json) (members : Entries Json)
  deriving Repr, Inhabited

namespace NamedType

def name : NamedType -> String
  | object name _ _ | input name _ _ | enum name _ _ => name

def description : NamedType -> Json
  | object _ description _ | input _ description _ | enum _ description _ => description

/-- The types that a type leads to: each field's type before the types of its arguments. -/
def references : NamedType -> List TypeRef
  | object _ _ fields =>
      fields.flatMap fun field =>
        field.2.type :: field.2.arguments.map fun argument => argument.2.type
  | input _ _ fields => fields.map fun field => field.2.type
  | enum .. => []

end NamedType

def jsonScalarName : String := "JSON"

/-- Names of the types by which a schema describes itself. -/
def introspectionNames : List String :=
  ["__Schema", "__Directive", "__DirectiveLocation", "__Type", "__Field", "__InputValue",
    "__EnumValue", "__TypeKind"]

def reservedTypeNames : List String :=
  BuiltinScalar.all.map BuiltinScalar.name ++ introspectionNames

/-- A description, or null for one that counts as false. -/
def describe (description : Json) : Json :=
  if description.truthy then description else .null

end GraphFacade
