import GraphFacade.Fault

/-!
# Titles of named schemas

A document keeps its named schemas in one of two sections.  Every schema there
that is an object without a title is given its key as title, so that all uses
of it carry one title once references are resolved.
-/

namespace GraphFacade

namespace Title

/-- Give an object schema a title, unless it has one. -/
def assign (name : String) : Json -> Json
  | .dict entries =>
      if ((entries.lookup "title").map Json.truthy).getD false then
        .dict entries
      else
        .dict (Entries.put "title" (.text name) entries)
  | schema => schema

def assignSection (schemas : Json) : Except Fault Json :=
  match schemas with
  | .dict entries => .ok (.dict (entries.map fun entry => (entry.1, assign entry.1 entry.2)))
  | other => if other.truthy then .error .noEntries else .ok other

def update (key : String) (f : Json -> Except Fault Json) (entries : Entries Json) :
    Except Fault (Entries Json) :=
  match entries.lookup key with
  | none => .ok entries
  | some value => do
      let value <- f value
      return Entries.put key value entries

def assignComponents (components : Json) : Except Fault Json :=
  match components with
  | .dict entries => do
      let entries <- update "schemas" assignSection entries
      return .dict entries
  | other => if other.truthy then .error .noEntries else .ok other

/--
Give titles to the named schemas of a document: those under `definitions` if the
document has that key, else those under `schemas` of its `components`.
-/
def assignAll (document : Json) : Except Fault Json :=
  match document with
  | .dict entries => do
      let entries <-
        if Entries.has "definitions" entries then
          update "definitions" assignSection entries
        else
          update "components" assignComponents entries
      return .dict entries
  | .list _ | .text _ => .error .noEntries
  | .atom _ => .error .wrongKind

end Title

end GraphFacade
