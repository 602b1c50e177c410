import GraphFacade.Json.Basic

/-!
# Schema nodes

What a JSON schema says about a value: a scalar of some kind, one of listed
literals, a list, an object with properties, or anything.  Properties are kept
in a table of shapes, so that the schema of a recursive object is a finite
value in which the object's number stands for it.
-/

namespace GraphFacade

/-- Kinds of scalars. -/
inductive ScalarKind
  | string
  | integer
  | number
  | boolean
  deriving DecidableEq, Repr, Inhabited

namespace ScalarKind

def tag : ScalarKind -> String
  | string => "string"
  | integer => "integer"
  | number => "number"
  | boolean => "boolean"

def ofTag? (s : String) : Option ScalarKind :=
  [string, integer, number, boolean].find? fun kind => kind.tag == s

end ScalarKind

/-- What every node has: a number of its own, perhaps a title, and a description. -/
structure Label where
  /-- Tells the nodes of one schema apart. -/
  id : Nat
  title : Option Json
  description : Json
  deriving DecidableEq, Repr, Inhabited

/-- A schema node. -/
inductive Node
  | scalar (label : Label) (kind : ScalarKind)
  /-- One of some literals, which are texts and numbers. -/
  | enum (label : Label) (kind : Option ScalarKind) (literals : List Json)
  | list (label : Label) (items : Node)
  /-- A list whose items are not described. -/
  | openList (label : Label)
  /-- An object; its properties are in the table of shapes. -/
  | object (label : Label) (shape : Nat)
  /-- A value of which nothing is known, for the given reason. -/
  | any (label : Label) (reason : String)
  deriving DecidableEq, Repr, Inhabited

/-- Required property names, and properties in order. -/
structure Shape where
  required : List String
  properties : List (String × Node)
  deriving DecidableEq, Repr, Inhabited

/-- A node together with the shapes of the objects that it leads to. -/
structure Schema where
  root : Node
  shapes : Array Shape
  deriving DecidableEq, Repr, Inhabited

namespace Node

def label : Node -> Label
  | scalar label _ | enum label _ _ | list label _ | openList label | object label _
  | any label _ => label

def form : Node -> String
  | scalar .. => "scalar"
  | enum .. => "enum"
  | list .. | openList _ => "array"
  | object .. => "object"
  | any .. => "any"

end Node

def Json.isText : Json -> Bool
  | .text _ => true
  | _ => false

def Json.isWhole : Json -> Bool
  | .int _ => true
  | _ => false

def Json.isNumber : Json -> Bool
  | .int _ | .float _ => true
  | _ => false

namespace Schema

def shape (schema : Schema) (index : Nat) : Shape :=
  schema.shapes[index]?.getD ⟨[], []⟩

end Schema

end GraphFacade
