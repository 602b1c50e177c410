import GraphFacade.Json.Shown

/-!
# Document graphs

JSON values that may share parts and contain themselves.  Lists and
dictionaries are cells of a table; a value is an atom or the number of a cell,
so two values are one and the same exactly when their numbers agree.
-/

namespace GraphFacade

/-- A value of a document graph. -/
inductive Value
  | atom (value : Atom)
  | cell (id : Nat)
  deriving DecidableEq, Repr, Inhabited

/-- A list or a dictionary of a document graph. -/
inductive Cell
  | list (items : List Value)
  | dict (entries : List (String × Value))
  deriving DecidableEq, Repr, Inhabited

/-- The cells of a document graph by number. -/
structure Graph where
  cells : Array Cell := #[]
  deriving Repr, Inhabited

namespace Graph

def size (g : Graph) : Nat :=
  g.cells.size

def cell? (g : Graph) : Value -> Option Cell
  | .atom _ => none
  | .cell id => g.cells[id]?

def push (g : Graph) (cell : Cell) : Graph × Value :=
  (⟨g.cells.push cell⟩, .cell g.cells.size)

theorem cell?_push_of_lt (g : Graph) (cell : Cell) {id : Nat} (h : id < g.size) :
    (g.push cell).1.cell? (.cell id) = g.cell? (.cell id) := by
  have different : id ≠ g.cells.size := Nat.ne_of_lt h
  simp [push, cell?, Array.getElem?_push, different]

/-- Replace the cell a value refers to. -/
def fill (g : Graph) (value : Value) (cell : Cell) : Graph :=
  match value with
  | .atom _ => g
  | .cell id => ⟨g.cells.setIfInBounds id cell⟩

def entries? (g : Graph) (value : Value) : Option (List (String × Value)) :=
  match g.cell? value with
  | some (.dict entries) => some entries
  | _ => none

def items? (g : Graph) (value : Value) : Option (List Value) :=
  match g.cell? value with
  | some (.list items) => some items
  | _ => none

def isDict (g : Graph) (value : Value) : Bool :=
  (g.entries? value).isSome

def get? (g : Graph) (value : Value) (key : String) : Option Value :=
  (g.entries? value).bind fun entries => entries.lookup key

def getD (g : Graph) (value : Value) (key : String) : Value :=
  (g.get? value key).getD (.atom .null)

def truthy (g : Graph) : Value -> Bool
  | .atom a => a.truthy
  | .cell id =>
      match g.cells[id]? with
      | some (.list items) => !items.isEmpty
      | some (.dict entries) => !entries.isEmpty
      | none => false

mutual

/-- Add the cells of a tree; no two of them are shared. -/
def ofJson (g : Graph) : Json -> Graph × Value
  | .atom a => (g, .atom a)
  | .list items =>
      let (g, values) := g.ofItems items
      g.push (.list values)
  | .dict entries =>
      let (g, values) := g.ofEntries entries
      g.push (.dict values)

def ofItems (g : Graph) : List Json -> Graph × List Value
  | [] => (g, [])
  | item :: rest =>
      let (g, value) := g.ofJson item
      let (g, values) := g.ofItems rest
      (g, value :: values)

def ofEntries (g : Graph) : List (String × Json) -> Graph × List (String × Value)
  | [] => (g, [])
  | (key, item) :: rest =>
      let (g, value) := g.ofJson item
      let (g, values) := g.ofEntries rest
      (g, (key, value) :: values)

end

/--
The displayed text of a value inside another.  `outer` are the cells around it:
a cell met inside itself shows as an ellipsis, so one more step than there are
cells suffices.
-/
def displayWithin (g : Graph) (outer : List Nat) : Nat -> Value -> String
  | _, .atom a => a.displayInside
  | 0, .cell _ => "..."
  | fuel + 1, .cell id =>
      match g.cells[id]? with
      | some (.list items) =>
          if outer.contains id then
            "[...]"
          else
            displayItems (items.map (displayWithin g (id :: outer) fuel))
      | some (.dict entries) =>
          if outer.contains id then
            "\x7b...\x7d"
          else
            displayEntries (entries.map fun entry =>
              (entry.1, displayWithin g (id :: outer) fuel entry.2))
      | none => "..."

def displayInside (g : Graph) (value : Value) : String :=
  g.displayWithin [] (g.size + 1) value

/-- A value as it shows on its own. -/
def display (g : Graph) : Value -> String
  | .atom a => a.display
  | value => g.displayInside value

/-- The most digits of an integer that shows in a value inside another. -/
def longestWithin (g : Graph) (outer : List Nat) : Nat -> Value -> Nat
  | _, .atom a => a.longest
  | 0, .cell _ => 0
  | fuel + 1, .cell id =>
      if outer.contains id then
        0
      else
        match g.cells[id]? with
        | some (.list items) =>
            (items.map (longestWithin g (id :: outer) fuel)).foldr max 0
        | some (.dict entries) =>
            (entries.map fun entry => longestWithin g (id :: outer) fuel entry.2).foldr max 0
        | none => 0

def longest (g : Graph) (value : Value) : Nat :=
  g.longestWithin [] (g.size + 1) value

def shownInside (g : Graph) (value : Value) : Except Fault String :=
  Text.limited (g.longest value) (g.displayInside value)

def shown (g : Graph) (value : Value) : Except Fault String :=
  Text.limited (g.longest value) (g.display value)

/--
The tree of a value, with every cell written out at each place it is used;
`none` when a cell is met inside itself.
-/
def treeWithin? (g : Graph) (outer : List Nat) : Nat -> Value -> Option Json
  | _, .atom a => some (.atom a)
  | 0, .cell _ => none
  | fuel + 1, .cell id =>
      if outer.contains id then
        none
      else
        match g.cells[id]? with
        | some (.list items) =>
            (items.mapM (treeWithin? g (id :: outer) fuel)).map .list
        | some (.dict entries) =>
            (entries.mapM fun entry =>
              (treeWithin? g (id :: outer) fuel entry.2).map fun tree => (entry.1, tree)).map .dict
        | none => none

/-- The tree of a value, if it is finite. -/
def tree? (g : Graph) (value : Value) : Option Json :=
  g.treeWithin? [] (g.size + 1) value

/-- The tree of a value; one that contains itself becomes its displayed text. -/
def tree (g : Graph) (value : Value) : Json :=
  (g.tree? value).getD (.text (g.display value))

end Graph

/-- A document graph with the value it stands for. -/
structure Document where
  graph : Graph
  root : Value
  deriving Repr, Inhabited

namespace Document

def ofJson (j : Json) : Document :=
  let (graph, root) := Graph.ofJson {} j
  ⟨graph, root⟩

end Document

end GraphFacade
