import GraphFacade.Json.Basic
import GraphFacade.Number.Shortest
import GraphFacade.Text.CodePoint

/-!
# Writing JSON text

Two layouts: one line, with a blank after each comma and colon, and an indented
one with an item a line.  Both use ASCII characters only.
-/

namespace GraphFacade

namespace Json

def hexUnit (unit : Nat) : List Char :=
  let digits := Nat.toDigits 16 unit
  List.replicate (4 - digits.length) '0' ++ digits

def codeEscape (unit : Nat) : List Char :=
  '\\' :: 'u' :: hexUnit unit

def escapeCode (code : Nat) : List Char :=
  let c := Char.ofNat code
  if c == '"' then ['\\', '"']
  else if c == '\\' then ['\\', '\\']
  else if c == '\n' then ['\\', 'n']
  else if c == '\r' then ['\\', 'r']
  else if c == '\t' then ['\\', 't']
  else if c == '\x0c' then ['\\', 'f']
  else if c == '\x08' then ['\\', 'b']
  else if 0x20 <= code && code < 0x7f then [c]
  else if code < 0x10000 then codeEscape code
  else
    let halves := code - 0x10000
    codeEscape (0xD800 + halves / 0x400) ++ codeEscape (0xDC00 + halves % 0x400)

def writeText (s : String) : List Char :=
  '"' :: ((Text.codes s.toList).flatMap escapeCode ++ ['"'])

def writeInt (i : Int) : List Char :=
  if i < 0 then '-' :: Nat.toDigits 10 i.natAbs else Nat.toDigits 10 i.natAbs

def writeFloat (x : Binary64) : List Char :=
  match x with
  | .nan => "NaN".toList
  | .infinite negative => (if negative then "-Infinity" else "Infinity").toList
  | .finite negative mantissa scale =>
      (if negative then ['-'] else []) ++ Binary64.magnitudeText mantissa scale

def writeAtom : Atom -> List Char
  | .null => "null".toList
  | .bool b => (if b then "true" else "false").toList
  | .int i => writeInt i
  | .float x => writeFloat x
  | .text s => writeText s

mutual

def write : Json -> List Char
  | atom a => writeAtom a
  | list items => '[' :: writeItems items
  | dict entries => '\x7b' :: writeEntries entries

def writeItems : List Json -> List Char
  | [] => [']']
  | [item] => item.write ++ [']']
  | item :: rest => item.write ++ ',' :: ' ' :: writeItems rest

def writeEntries : List (String × Json) -> List Char
  | [] => ['\x7d']
  | [(key, value)] => writeText key ++ ':' :: ' ' :: (value.write ++ ['\x7d'])
  | (key, value) :: rest =>
      writeText key ++ ':' :: ' ' :: (value.write ++ ',' :: ' ' :: writeEntries rest)

end

def oneLine (j : Json) : String :=
  String.ofList j.write

def breakLine (level : Nat) : List Char :=
  '\n' :: List.replicate (2 * level) ' '

mutual

def writeIndented (level : Nat) : Json -> List Char
  | atom a => writeAtom a
  | list [] => ['[', ']']
  | list items => '[' :: writeIndentedItems (level + 1) items ++ breakLine level ++ [']']
  | dict [] => ['\x7b', '\x7d']
  | dict entries =>
      '\x7b' :: writeIndentedEntries (level + 1) entries ++ breakLine level ++ ['\x7d']

def writeIndentedItems (level : Nat) : List Json -> List Char
  | [] => []
  | [item] => breakLine level ++ item.writeIndented level
  | item :: rest =>
      breakLine level ++ item.writeIndented level ++ ',' :: writeIndentedItems level rest

def writeIndentedEntries (level : Nat) : List (String × Json) -> List Char
  | [] => []
  | [(key, value)] =>
      breakLine level ++ writeText key ++ ':' :: ' ' :: value.writeIndented level
  | (key, value) :: rest =>
      breakLine level ++ writeText key ++ ':' :: ' ' ::
        (value.writeIndented level ++ ',' :: writeIndentedEntries level rest)

end

def indented (j : Json) : String :=
  String.ofList (j.writeIndented 0)

end Json

end GraphFacade
