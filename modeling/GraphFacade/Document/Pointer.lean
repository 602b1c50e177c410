import GraphFacade.Fault
import GraphFacade.Text.Digit
import GraphFacade.Text.Split

/-!
# Pointers

A pointer names a place in a JSON value by the keys and indices that lead to
it.  Each token follows a slash; inside a token `~1` stands for a slash and `~0`
for a tilde.
-/

namespace GraphFacade

namespace Pointer

/-- Replace every occurrence of two characters in a row, from the left, by one character. -/
def replacePair (first second new : Char) : List Char -> List Char
  | [] => []
  | [c] => [c]
  | c :: d :: rest =>
      if c == first && d == second then
        new :: replacePair first second new rest
      else
        c :: replacePair first second new (d :: rest)

def decodeToken (token : List Char) : List Char :=
  replacePair '~' '0' '~' (replacePair '~' '1' '/' token)

def encodeToken (text : List Char) : List Char :=
  text.flatMap fun c =>
    if c == '~' then ['~', '0'] else if c == '/' then ['~', '1'] else [c]

/-- The place that an index means in a list of some length; negative ones count from its end. -/
def place? (length : Nat) (index : Int) : Option Nat :=
  let place := if index < 0 then index + length else index
  if 0 <= place && place < length then some place.toNat else none

/-- One step into a value: an index of a list or a key of a dictionary. -/
def step? (value : Json) (token : List Char) : Option Json :=
  match value with
  | .list items => do
      let index <- Text.integer? token
      let place <- place? items.length index
      items[place]?
  | .dict entries => entries.lookup (String.ofList token)
  | .atom _ => none

def follow? : Json -> List (List Char) -> Option Json
  | value, [] => some value
  | value, token :: rest =>
      match step? value token with
      | some next => follow? next rest
      | none => none

/-- The value a pointer names; the empty pointer names the whole value. -/
def get (value : Json) (pointer : List Char) : Except Fault Json :=
  match pointer with
  | [] => .ok value
  | c :: rest =>
      if c != '/' then
        .error (.unsupportedPointer (String.ofList pointer))
      else
        match follow? value ((Text.splitAt '/' rest).map decodeToken) with
        | some target => .ok target
        | none => .error (.danglingPointer (String.ofList pointer))

end Pointer

end GraphFacade
