/-!
# Commands for a terminal

A text may hold commands for a terminal: an escape and a bracket, parameters, and
a letter.  They are left out when a text is printed.
-/

namespace GraphFacade

namespace Terminal

def isParameter (c : Char) : Bool :=
  c == ';' || c == '?' || c.isDigit

/-- Number of characters of the command at the start, if there is one. -/
def commandLength? (cs : List Char) : Option Nat :=
  match cs with
  | '\x1b' :: '[' :: rest =>
      let parameters := rest.takeWhile isParameter
      match rest.drop parameters.length with
      | letter :: _ => if letter.isAlpha then some (parameters.length + 3) else none
      | [] => none
  | _ => none

/-- A text without commands.  The number counts characters still to be skipped. -/
def stripFrom : Nat -> List Char -> List Char
  | _, [] => []
  | skip + 1, _ :: rest => stripFrom skip rest
  | 0, c :: rest =>
      match commandLength? (c :: rest) with
      | some length => stripFrom (length - 1) rest
      | none => c :: stripFrom 0 rest

def strip (cs : List Char) : List Char :=
  stripFrom 0 cs

end Terminal

end GraphFacade
