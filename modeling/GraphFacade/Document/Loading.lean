import GraphFacade.Document.Graph
import GraphFacade.Json.Reader
import GraphFacade.Run

/-!
# Loading documents

A description file holds one JSON object in UTF-8.  Line ends of every kind
count as one character.
-/

namespace GraphFacade

/-- What is found at a path. -/
inductive FileContent
  | bytes (bytes : ByteArray)
  /-- Nothing that can be read, for the given reason. -/
  | unreadable (reason : String)
  deriving Inhabited

namespace Loading

def unifyLines : List Char -> List Char
  | [] => []
  | c :: rest =>
      if c == '\r' then
        if rest.head? == some '\n' then unifyLines rest else '\n' :: unifyLines rest
      else
        c :: unifyLines rest

/-- Number of paths of a document, if its paths have a size; what counts as false has none. -/
def pathCount (document : Entries Json) : Except Fault Nat :=
  match (document.lookup "paths").getD .null with
  | .list items => .ok items.length
  | .dict entries => .ok entries.length
  | .text s => .ok (Text.size s)
  | .atom a => if a.truthy then .error .wrongKind else .ok 0

def parse (path : String) (text : List Char) : Except Fault (Entries Json) :=
  match Json.read text with
  | .error stop =>
      if stop.cause == .longInteger then
        .error .badNumeral
      else
        .error (.notJson path (stop.message text))
  | .ok (.dict entries) => .ok entries
  | .ok _ => .error (.notObject path)

/-- The document in a file. -/
def document (path : String) (content : FileContent) : Except Fault (Entries Json) :=
  match content with
  | .unreadable reason => .error (.unreadable path reason)
  | .bytes bytes =>
      match String.fromUTF8? bytes with
      | none => .error .notUtf8
      | some text => parse path (unifyLines text.toList)

end Loading

def Json.load (path : String) (content : FileContent) : Run Json := do
  let entries <- MonadExcept.ofExcept (Loading.document path content)
  let paths <- MonadExcept.ofExcept (Loading.pathCount entries)
  Run.report (.documentLoaded path paths)
  return .dict entries

end GraphFacade
