import GraphFacade.Document.Graph
import GraphFacade.Fault
import GraphFacade.Schema.Node

/-!
# Reading schema nodes

The nodes of a value of a document graph.  A dictionary met again gives the
node it gave before; an object is remembered before its properties are read,
so recursive documents give recursive schemas.  A list is remembered only after
its items, hence a list whose items lead back to it through lists alone has no
finite schema.
-/

namespace GraphFacade

namespace Schema

namespace Reading

/-- What is known while a schema is being read. -/
structure State where
  shapes : Array Shape := #[]
  /-- The number of the next node. -/
  next : Nat := 0
  /-- Cells with their nodes, the latest first. -/
  seen : List (Nat × Node) := []
  deriving Repr, Inhabited

abbrev Step := EStateM Fault State

def freshId : Step Nat := fun s =>
  .ok s.next { s with next := s.next + 1 }

def record (cell : Nat) (node : Node) : Step Unit := fun s =>
  .ok () { s with seen := (cell, node) :: s.seen }

def reserve (shape : Shape) : Step Nat := fun s =>
  .ok s.shapes.size { s with shapes := s.shapes.push shape }

def complete (index : Nat) (shape : Shape) : Step Unit := fun s =>
  .ok () { s with shapes := s.shapes.setIfInBounds index shape }

def entry (entries : List (String × Value)) (key : String) : Value :=
  (entries.lookup key).getD (.atom .null)

/--
The tag of a schema: the single tag other than `null` of a list of tags, the
form that the keywords suggest when no tag is given, else the tag as it is.
-/
def tag (g : Graph) (entries : List (String × Value)) : Value :=
  let given := entry entries "type"
  match g.items? given with
  | some tags =>
      match tags.filter fun tag => tag != .atom (.text "null") with
      | [tag] => tag
      | _ => .atom .null
  | none =>
      if given == .atom .null && Entries.has "properties" entries then
        .atom (.text "object")
      else if given == .atom .null && Entries.has "items" entries then
        .atom (.text "array")
      else
        given

def kind? : Value -> Option ScalarKind
  | .atom (.text s) => ScalarKind.ofTag? s
  | _ => none

def text? : Value -> Option String
  | .atom (.text s) => some s
  | _ => none

def literal? : Value -> Option Json
  | .atom (.text s) => some (.text s)
  | .atom (.int i) => some (.int i)
  | .atom (.float x) => some (.float x)
  | _ => none

/-- The literals of an enumeration: a list with something besides null, texts and numbers only. -/
def literals? (g : Graph) (entries : List (String × Value)) : Option (List Json) := do
  let listed <- g.items? (entry entries "enum")
  let literals <- (listed.filter fun value => value != .atom .null).mapM literal?
  if literals.isEmpty then none else some literals

def required (g : Graph) (entries : List (String × Value)) : List String :=
  (((g.items? (entry entries "required")).getD []).filterMap text?).eraseDups

/-- The properties of an object schema; a value that counts as false has none. -/
def properties (g : Graph) (entries : List (String × Value)) :
    Except Fault (List (String × Value)) :=
  let value := entry entries "properties"
  match g.entries? value with
  | some properties => .ok properties
  | none => if g.truthy value then .error .noEntries else .ok []

def given? (g : Graph) (value : Value) : Option Json :=
  if g.truthy value then some (g.tree value) else none

/-- The title of a schema, if it counts as true; one that contains itself is no text either. -/
def title? (g : Graph) (value : Value) : Option Json :=
  if g.truthy value then some ((g.tree? value).getD (.list [])) else none

def label (g : Graph) (entries : List (String × Value)) : Step Label := do
  let id <- freshId
  return ⟨id, title? g (entry entries "title"),
    (given? g (entry entries "description")).getD (.text "")⟩

def remember (cell : Nat) (node : Node) : Step Node := do
  record cell node
  return node

/-- The node of a dictionary that has none yet; `read` gives the nodes below it. -/
def nodeOf (g : Graph) (read : Value -> Step Node) (cell : Nat)
    (entries : List (String × Value)) : Step Node := do
  let label <- label g entries
  let tag := tag g entries
  match literals? g entries with
  | some literals => remember cell (.enum label (kind? tag) literals)
  | none =>
      if tag == .atom (.text "object") then do
        let required := required g entries
        let index <- reserve ⟨required, []⟩
        let node <- remember cell (.object label index)
        match properties g entries with
        | .error fault => throw fault
        | .ok properties => do
            let nodes <- properties.mapM fun property => do
              let node <- read property.2
              return (property.1, node)
            complete index ⟨required, nodes⟩
            return node
      else if tag == .atom (.text "array") then
        let items := entry entries "items"
        if g.isDict items then do
          let node <- read items
          remember cell (.list label node)
        else
          remember cell (.openList label)
      else
        match kind? tag with
        | some kind => remember cell (.scalar label kind)
        | none => do
            let shown <- MonadExcept.ofExcept (g.shownInside tag)
            remember cell (.any label ("type=" ++ shown))

/-- The node of a value; `fuel` bounds the depth of the walk. -/
def read (g : Graph) : Nat -> Value -> Step Node
  | 0, _ => throw .endless
  | fuel + 1, value =>
      match value, g.entries? value with
      | .cell id, some entries => do
          let s <- get
          match s.seen.lookup id with
          | some node => return node
          | none => nodeOf g (read g fuel) id entries
      | _, _ => do
          let id <- freshId
          return .any ⟨id, none, .text ""⟩ "not-a-mapping"

/--
Enough fuel for a graph: on the way down, objects are all different, and
between two of them a finite chain of lists has no cell twice.
-/
def fuelFor (g : Graph) : Nat :=
  (g.size + 1) * (g.size + 1) + 1

end Reading

/-- The schema that a value of a document graph describes. -/
def ofValue (g : Graph) (value : Value) : Except Fault Schema :=
  match (Reading.read g (Reading.fuelFor g) value).run {} with
  | .ok root s => .ok ⟨root, s.shapes⟩
  | .error fault _ => .error fault

end Schema

end GraphFacade
