import GraphFacade.Text.Block
import GraphFacade.Types.Facade

/-!
# Printing facades

A facade in the schema definition language: its members in the order in which
they are met, with an empty line between two of them.  A schema block comes
first when a type that is no root bears the name of a root.
-/

namespace GraphFacade

namespace Facade

def joinLines (parts : List String) : String :=
  String.intercalate "\n" parts

/--
A description above what it describes.  Inside a block it is indented, and an
empty line comes before it unless it stands first.
-/
def descriptionText (description : Json) (indent : String) (first : Bool) : String :=
  match description with
  | .null => ""
  | description =>
      let written := Text.description description.display.toList
      let indented := Text.replaceAll ['\n'] ('\n' :: indent.toList) written
      let lead := if !indent.isEmpty && !first then "\n" ++ indent else indent
      lead ++ String.ofList indented ++ "\n"

def bracedText (parts : List String) : String :=
  if parts.isEmpty then "" else " \x7b\n" ++ joinLines parts ++ "\n\x7d"

def typedText (facade : Facade) (name : String) (type : TypeRef) : String :=
  name ++ ": " ++ facade.refText type

def argumentsText (facade : Facade) (arguments : Entries Argument) (indent : String) : String :=
  if arguments.isEmpty then
    ""
  else if arguments.all fun argument => argument.2.description.isNull then
    "(" ++ String.intercalate ", "
      (arguments.map fun argument => facade.typedText argument.1 argument.2.type) ++ ")"
  else
    "(\n" ++
      joinLines (arguments.zipIdx.map fun (argument, i) =>
        descriptionText argument.2.description ("  " ++ indent) (i == 0) ++ "  " ++ indent ++
          facade.typedText argument.1 argument.2.type) ++
      "\n" ++ indent ++ ")"

def objectText (facade : Facade) (name : String) (description : Json) (fields : Entries Field) :
    String :=
  descriptionText description "" true ++ "type " ++ name ++
    bracedText (fields.zipIdx.map fun (field, i) =>
      descriptionText field.2.description "  " (i == 0) ++ "  " ++ field.1 ++
        facade.argumentsText field.2.arguments "  " ++ ": " ++ facade.refText field.2.type)

def inputText (facade : Facade) (name : String) (description : Json)
    (fields : Entries InputField) : String :=
  descriptionText description "" true ++ "input " ++ name ++
    bracedText (fields.zipIdx.map fun (field, i) =>
      descriptionText field.2.description "  " (i == 0) ++ "  " ++
        facade.typedText field.1 field.2.type)

def enumText (name : String) (description : Json) (members : Entries Json) : String :=
  descriptionText description "" true ++ "enum " ++ name ++
    bracedText (members.map fun member => "  " ++ member.1)

def jsonScalarDescription : Json :=
  .text "Arbitrary JSON value without a declared shape."

def memberText (facade : Facade) : Member -> String
  | .query => facade.objectText queryName .null facade.query
  | .mutation => facade.objectText mutationName .null facade.mutation
  | .json => descriptionText jsonScalarDescription "" true ++ "scalar " ++ jsonScalarName
  | .named id =>
      match facade.type? id with
      | some (.object name description fields) => facade.objectText name description fields
      | some (.input name description fields) => facade.inputText name description fields
      | some (.enum name description members) => enumText name description members
      | none => ""

def rootNames : List String := [queryName, mutationName, "Subscription"]

def needsSchemaBlock (facade : Facade) : Bool :=
  facade.members.any fun member =>
    member != .query && member != .mutation && rootNames.contains (facade.memberName member)

def schemaBlock (facade : Facade) : List String :=
  if facade.needsSchemaBlock then
    ["schema" ++ bracedText (("  query: " ++ queryName) ::
      (if facade.mutation.isEmpty then [] else ["  mutation: " ++ mutationName]))]
  else
    []

def fieldDescriptions (fields : Entries Field) : List Json :=
  fields.flatMap fun field =>
    field.2.description :: field.2.arguments.map fun argument => argument.2.description

def memberDescriptions (facade : Facade) : Member -> List Json
  | .query => fieldDescriptions facade.query
  | .mutation => fieldDescriptions facade.mutation
  | .json => []
  | .named id =>
      match facade.type? id with
      | some (.object _ description fields) => description :: fieldDescriptions fields
      | some (.input _ description fields) =>
          description :: fields.map fun field => field.2.description
      | some (.enum _ description _) => [description]
      | none => []

def print (facade : Facade) : Except Fault String := do
  let _ <- (facade.members.flatMap facade.memberDescriptions).mapM Json.shown
  return String.intercalate "\n\n" (facade.schemaBlock ++ facade.members.map facade.memberText)

end Facade

end GraphFacade
