import GraphFacade.Json.Writer
import GraphFacade.Text.Printable

/-!
# Displayed values

The text of a value in messages, paths and headers: texts as they are at the
top and quoted inside lists and dictionaries, `None`, `True` and `False` for the
three named atoms.
-/

namespace GraphFacade

namespace Text

def hexWidth (width code : Nat) : List Char :=
  let digits := Nat.toDigits 16 code
  List.replicate (width - digits.length) '0' ++ digits

def displayCode (quote : Char) (code : Nat) : List Char :=
  let c := Char.ofNat code
  if c == quote || c == '\\' then ['\\', c]
  else if c == '\n' then ['\\', 'n']
  else if c == '\r' then ['\\', 'r']
  else if c == '\t' then ['\\', 't']
  else if isPrintable c then [c]
  else if code < 0x100 then '\\' :: 'x' :: hexWidth 2 code
  else if code < 0x10000 then '\\' :: 'u' :: hexWidth 4 code
  else '\\' :: 'U' :: hexWidth 8 code

/-- A text in single quotes, or in double ones when it holds single ones only. -/
def quoted (s : String) : String :=
  let cs := s.toList
  let quote := if cs.contains '\'' && !cs.contains '"' then '"' else '\''
  String.ofList (quote :: ((codes cs).flatMap (displayCode quote) ++ [quote]))

end Text

namespace Binary64

def display : Binary64 -> String
  | nan => "nan"
  | infinite negative => if negative then "-inf" else "inf"
  | finite negative mantissa scale =>
      String.ofList ((if negative then ['-'] else []) ++ magnitudeText mantissa scale)

end Binary64

namespace Atom

def displayInside : Atom -> String
  | null => "None"
  | bool b => if b then "True" else "False"
  | int i => String.ofList (Json.writeInt i)
  | float x => x.display
  | text s => Text.quoted s

/-- An atom as it shows on its own. -/
def display : Atom -> String
  | text s => s
  | a => a.displayInside

end Atom

def displayItems (items : List String) : String :=
  "[" ++ String.intercalate ", " items ++ "]"

def displayEntries (entries : List (String × String)) : String :=
  let shown := entries.map fun entry => Text.quoted entry.1 ++ ": " ++ entry.2
  "\x7b" ++ String.intercalate ", " shown ++ "\x7d"

namespace Json

mutual

def displayInside : Json -> String
  | atom a => a.displayInside
  | list items => displayItems (displayEach items)
  | dict entries => displayEntries (displayValues entries)

def displayEach : List Json -> List String
  | [] => []
  | item :: rest => item.displayInside :: displayEach rest

def displayValues : List (String × Json) -> List (String × String)
  | [] => []
  | (key, value) :: rest => (key, value.displayInside) :: displayValues rest

end

/-- A value as it shows on its own. -/
def display : Json -> String
  | atom a => a.display
  | j => j.displayInside

end Json

end GraphFacade
