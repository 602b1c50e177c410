import GraphFacade.CommandLine.Literal
import GraphFacade.CommandLine.Style
import GraphFacade.Text.Pictograph
import GraphFacade.Text.Split
import GraphFacade.Text.Styled
import GraphFacade.Text.WordChar

/-!
# Console markup

Texts for the console may hold tags in square brackets.  A console without
colours shows the text without its tags; a closing tag needs an open one.  A
backslash keeps a bracket from starting a tag.
-/

namespace GraphFacade

namespace Markup

/-- A stretch of a text between tags, or the inside of a tag. -/
inductive Piece
  | text (cs : List Char)
  | tag (inside : List Char)
  deriving DecidableEq, Repr

def startsTag (c : Char) : Bool :=
  ('a' <= c && c <= 'z') || c == '#' || c == '/' || c == '@'

/-- The inside of a tag and what follows it, for the characters behind an opening bracket. -/
def tag? (cs : List Char) : Option (List Char × List Char) :=
  match cs with
  | c :: _ =>
      if startsTag c then
        let inside := cs.takeWhile fun c => c != '[' && c != ']'
        match cs.dropWhile fun c => c != '[' && c != ']' with
        | ']' :: rest => some (inside, rest)
        | _ => none
      else
        none
  | [] => none

def textPiece (cs : List Char) : List Piece :=
  if cs.isEmpty then [] else [.text cs]

def backslashes (count : Nat) : List Char :=
  List.replicate count '\\'

/--
The pieces of a text, behind a stretch of text in reverse and some backslashes.
Before a tag half of the backslashes are kept, and an odd one makes the tag text.
The first number bounds the characters.
-/
def piecesFrom : Nat -> List Char -> Nat -> List Char -> List Piece
  | 0, before, slashes, cs => textPiece (before.reverse ++ backslashes slashes ++ cs)
  | _ + 1, before, slashes, [] => textPiece (before.reverse ++ backslashes slashes)
  | fuel + 1, before, slashes, c :: rest =>
      if c == '\\' then
        piecesFrom fuel before (slashes + 1) rest
      else if c == '[' then
        match tag? rest with
        | some (inside, after) =>
            let tagged :=
              if slashes % 2 == 1 then Piece.text ('[' :: (inside ++ [']'])) else .tag inside
            textPiece before.reverse ++ textPiece (backslashes (slashes / 2)) ++
              tagged :: piecesFrom fuel [] 0 after
        | none => piecesFrom fuel (c :: (backslashes slashes ++ before)) 0 rest
      else
        piecesFrom fuel (c :: (backslashes slashes ++ before)) 0 rest

def pieces (cs : List Char) : List Piece :=
  piecesFrom (cs.length + 1) [] 0 cs

/-- An open tag. -/
structure OpenTag where
  /-- The normal form of its name. -/
  name : String
  /-- What stands behind its equals sign, if it has one. -/
  parameters : Option (List Char)
  /-- Where in the shown text it was opened. -/
  start : Nat
  deriving DecidableEq, Repr

def OpenTag.style (tag : OpenTag) : List Char :=
  match tag.parameters with
  | some parameters => tag.name.toList ++ ' ' :: parameters
  | none => tag.name.toList

def OpenTag.isEvent (tag : OpenTag) : Bool :=
  tag.name.startsWith "@"

def OpenTag.span (tag : OpenTag) (stop : Nat) : Span :=
  { start := tag.start, stop, readable := Style.isReadable tag.style }

def isHandlerChar (c : Char) : Bool :=
  Text.isWordChar c || c == '.'

/-- Whether the parameters of an event can be read: a handler's name, then arguments. -/
def readable (parameters : List Char) : Bool :=
  let cs := Text.trimBlanks parameters
  match cs.dropWhile isHandlerChar with
  | [] => true
  | arguments =>
      let called := arguments.head? == some '(' && arguments.getLast? == some ')' &&
        !arguments.contains '\n'
      Literal.isLiteral (if called then arguments else cs)

/-- What was shown of a text up to a tag or a piece of text. -/
structure Progress where
  /-- The shown characters in reverse. -/
  shown : List Char := []
  length : Nat := 0
  /-- The open tags, the most recent one first. -/
  opened : List OpenTag := []
  /-- The stretches of closed tags, the most recent one first. -/
  spans : List Span := []

/-- Close an open tag; the parameters of an event are read only then, and it is no style. -/
def Progress.close (progress : Progress) (tag : OpenTag) : Except Fault Progress :=
  let closed := { progress with opened := progress.opened.erase tag }
  if tag.isEvent then
    if readable (tag.parameters.getD []) then
      .ok { closed with spans := ⟨tag.start, progress.length, true⟩ :: closed.spans }
    else
      .error .badMarkup
  else
    .ok { closed with spans := tag.span progress.length :: closed.spans }

def Progress.closeNamed (progress : Progress) (name : List Char) : Except Fault Progress :=
  let name := Text.trimBlanks name
  if name.isEmpty then
    match progress.opened with
    | [] => .error .badMarkup
    | tag :: _ => progress.close tag
  else
    match Style.normalName name with
    | .error fault => .error fault
    | .ok name =>
        match progress.opened.find? fun tag => tag.name == name with
        | some tag => progress.close tag
        | none => .error .badMarkup

def Progress.tag (progress : Progress) (inside : List Char) : Except Fault Progress :=
  let (name, parameters) := Text.splitFirst '=' inside
  match name with
  | '/' :: closed => progress.closeNamed closed
  | name =>
      match Style.normalName name with
      | .error fault => .error fault
      | .ok name =>
          .ok { progress with opened := ⟨name, parameters, progress.length⟩ :: progress.opened }

/-- Controls that a console leaves out. -/
def isDropped (c : Char) : Bool :=
  c.toNat == 7 || c.toNat == 8 || c.toNat == 11 || c.toNat == 12 || c.toNat == 13

def shownText (cs : List Char) : List Char :=
  (Text.draw (Text.replaceAll ['\\', '['] ['['] cs)).filter fun c => !isDropped c

def Progress.text (progress : Progress) (cs : List Char) : Progress :=
  let shown := shownText cs
  { progress with
    shown := shown.reverse ++ progress.shown
    length := progress.length + shown.length }

def Progress.piece (progress : Progress) : Piece -> Except Fault Progress
  | .text cs => .ok (progress.text cs)
  | .tag inside => progress.tag inside

/-- The text at the end; tags that are still open reach up to it. -/
def Progress.result (progress : Progress) : Styled :=
  ⟨progress.shown.reverse,
    progress.opened.reverse.map (OpenTag.span · progress.length) ++ progress.spans.reverse⟩

def render (s : String) : Except Fault Styled :=
  ((pieces s.toList).foldlM Progress.piece {}).map Progress.result

end Markup

end GraphFacade
