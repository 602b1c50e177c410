import GraphFacade.Fault

/-!
# Paths as texts

Paths with slashes between their segments.  Repeated slashes and single dots
say nothing; an absolute path loses its double dots as well.
-/

namespace GraphFacade

namespace PathText

def isAbsolute (path : String) : Bool :=
  path.startsWith "/"

def segments (path : String) : List String :=
  (path.splitOn "/").filter fun segment => !segment.isEmpty && segment != "."

/-- A path without repeated slashes and single dots; the empty one is a dot. -/
def tidy (path : String) : String :=
  let body := String.intercalate "/" (segments path)
  if isAbsolute path then
    (if path.startsWith "//" && !path.startsWith "///" then "//" else "/") ++ body
  else if body.isEmpty then
    "."
  else
    body

def above (path : String) : String :=
  let body := String.intercalate "/" (segments path).dropLast
  if isAbsolute path then "/" ++ body else body

def hasNul (text : String) : Bool :=
  text.toList.contains '\x00'

/--
A path with its home folder in full.  A tilde at the start of a relative path's
first segment stands for the home of the user whose name follows, without a name
for that of the user who asks.
-/
def expandHome (home : String -> Option String) (path : String) : Except Fault String :=
  match isAbsolute path, segments path with
  | false, first :: rest =>
      match first.toList with
      | '~' :: user =>
          if hasNul first then
            .error .badPath
          else
            match home (String.ofList user) with
            | some folder => .ok (String.intercalate "/" (folder :: rest))
            | none => .error .homeless
      | _ => .ok path
  | _, _ => .ok path

def settle (done : List String) : List String -> List String
  | [] => done.reverse
  | segment :: rest =>
      if segment == ".." then settle (done.drop 1) rest else settle (segment :: done) rest

def inFolder (folder path : String) : List String :=
  if isAbsolute path then segments path else segments folder ++ segments path

def absolute (segments : List String) : String :=
  "/" ++ String.intercalate "/" segments

def resolve (folder path : String) : String :=
  absolute (settle [] (inFolder folder path))

def stops (folder path : String) : List String :=
  let parts := inFolder folder path
  (List.range (parts.length + 1)).map fun n => absolute (settle [] (parts.take n))

end PathText

end GraphFacade
