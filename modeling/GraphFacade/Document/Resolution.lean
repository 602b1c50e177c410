import GraphFacade.Document.Graph
import GraphFacade.Document.Pointer

/-!
# Resolving references

A dictionary whose `$ref` is a text stands for the value its pointer names.
Resolving a document gives a graph in which every use of one reference is one
and the same value; a reference met again while its target object is being
filled is that object, which makes recursive schemas cyclic.
-/

namespace GraphFacade

namespace Resolution

/-- What is known while a document is being resolved. -/
structure State where
  /-- The cells made so far. -/
  graph : Graph := {}
  /-- References with their values, the latest first. -/
  resolved : List (String × Value) := []
  /-- References whose target is being visited and is no object of its own. -/
  pending : List String := []
  deriving Repr, Inhabited

abbrev Step := EStateM Fault State

def reference? (entries : List (String × Json)) : Option String :=
  match entries.lookup "$ref" with
  | some (.text reference) => some reference
  | _ => none

def ownEntries? : Json -> Option (List (String × Json))
  | .dict entries => if (reference? entries).isNone then some entries else none
  | _ => none

/-- Make a cell. -/
def make (cell : Cell) : Step Value := fun s =>
  let (graph, value) := s.graph.push cell
  .ok value { s with graph }

def fill (value : Value) (cell : Cell) : Step Unit := fun s =>
  .ok () { s with graph := s.graph.fill value cell }

def record (reference : String) (value : Value) : Step Unit := fun s =>
  .ok () { s with resolved := (reference, value) :: s.resolved }

def enter (reference : String) : Step Unit := fun s =>
  .ok () { s with pending := reference :: s.pending }

def leave (reference : String) : Step Unit := fun s =>
  .ok () { s with pending := s.pending.erase reference }

def visitEntries (visit : Json -> Step Value) (entries : List (String × Json)) :
    Step (List (String × Value)) :=
  entries.mapM fun entry => do
    let value <- visit entry.2
    return (entry.1, value)

/-- The value a pointer into the document names. -/
def target (document : Json) (pointer : List Char) : Step Json :=
  match Pointer.get document pointer with
  | .ok value => pure value
  | .error fault => throw fault

/--
The value of a reference.  An object target is remembered before its entries
are visited; any other target is only remembered afterwards, so meeting the
reference on the way is a fault.
-/
def resolve (document : Json) (visit : Json -> Step Value) (reference : String) : Step Value := do
  match reference.toList with
  | '#' :: pointer =>
      let s <- get
      match s.resolved.lookup reference with
      | some value => return value
      | none =>
          if s.pending.contains reference then
            throw (.circularReference reference)
          else
            let found <- target document pointer
            match ownEntries? found with
            | some entries => do
                let value <- make (.dict [])
                record reference value
                let filled <- visitEntries visit entries
                fill value (.dict filled)
                return value
            | none => do
                enter reference
                let value <- visit found
                leave reference
                record reference value
                return value
  | _ => throw (.remoteReference reference)

/-- A value with its references resolved; `fuel` bounds the depth of visits. -/
def visit (document : Json) : Nat -> Json -> Step Value
  | 0, _ => throw .endless
  | _ + 1, .atom a => pure (.atom a)
  | fuel + 1, .list items => do
      let values <- items.mapM (visit document fuel)
      make (.list values)
  | fuel + 1, .dict entries =>
      match reference? entries with
      | some reference => resolve document (visit document fuel) reference
      | none => do
          let values <- visitEntries (visit document fuel) entries
          make (.dict values)

/--
Enough fuel for a document: nested visits between two references are no more
than its values, and so are references that are being resolved at once.
-/
def fuelFor (document : Json) : Nat :=
  (document.size + 1) * (document.size + 1)

end Resolution

/-- The graph of a document with all its references resolved. -/
def Document.resolve (document : Json) : Except Fault Document :=
  match (Resolution.visit document (Resolution.fuelFor document) document).run {} with
  | .ok root s => .ok ⟨s.graph, root⟩
  | .error fault _ => .error fault

end GraphFacade
