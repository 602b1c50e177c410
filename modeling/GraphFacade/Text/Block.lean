import GraphFacade.Text.Percent
import GraphFacade.Text.Split

/-!
# Description blocks

A description is written between triple quotes when its lines survive that, and
otherwise as a quoted text with escapes.
-/

namespace GraphFacade

namespace Text

def isIndent (c : Char) : Bool :=
  c == ' ' || c == '\t'

/-- What is known of a text while it is checked for being printable as a block. -/
structure BlockScan where
  /-- Nothing but blanks so far on this line. -/
  emptyLine : Bool := true
  /-- The line starts with a blank. -/
  indented : Bool := false
  /-- Every line with something on it starts with a blank. -/
  commonIndent : Bool := true
  /-- A line ended after something was on it. -/
  afterLine : Bool := false

/-- Take one character into account; `none` when no block can hold the text. -/
def BlockScan.step (scan : BlockScan) (c : Char) : Option BlockScan :=
  if c == '\n' then
    if scan.emptyLine && !scan.afterLine then
      none
    else
      some { scan with afterLine := true, emptyLine := true, indented := false }
  else if isIndent c then
    some { scan with indented := scan.indented || scan.emptyLine }
  else if c.toNat <= 0x0f then
    none
  else
    some { scan with commonIndent := scan.commonIndent && scan.indented, emptyLine := false }

/-- Whether a text reads the same from a block: no outer empty lines, no common indentation. -/
def fitsBlock (cs : List Char) : Bool :=
  cs.isEmpty ||
    match cs.foldlM BlockScan.step {} with
    | none => false
    | some scan => !scan.emptyLine && !(scan.commonIndent && scan.afterLine)

/-- Characters that end a line of a description; separators of other scripts are text. -/
def isLineBreak (c : Char) : Bool :=
  c == '\n' || c == '\r'

/-- The lines of a text behind the part of a line that was read already, in reverse. -/
def linesFrom : List Char -> List Char -> List (List Char)
  | line, [] => if line.isEmpty then [] else [line.reverse]
  | line, c :: rest =>
      if c == '\r' && rest.head? == some '\n' then
        linesFrom line rest
      else if isLineBreak c then
        line.reverse :: linesFrom [] rest
      else
        linesFrom (c :: line) rest

/-- The lines of a text; a line break at the end starts no further line. -/
def lines (cs : List Char) : List (List Char) :=
  linesFrom [] cs

def tripleQuote : List Char := ['"', '"', '"']

def escapedTripleQuote : List Char := '\\' :: tripleQuote

def lineLimit : Nat := 70

def endsWith (ending cs : List Char) : Bool :=
  ending.reverse.isPrefixOf cs.reverse

/-- A text as a block, on one line or with its marks on lines of their own. -/
def block (cs : List Char) : List Char :=
  let escaped := replaceAll tripleQuote escapedTripleQuote cs
  let rows := lines escaped
  let oneLine := rows.length <= 1
  let leadingBreak :=
    !oneLine && (rows.drop 1).all fun row => (row.head?.map isIndent).getD true
  let endsTripled := endsWith escapedTripleQuote escaped
  let trailingBreak := (endsWith ['"'] cs && !endsTripled) || endsWith ['\\'] cs
  let apart := !oneLine || lineLimit < cs.length || trailingBreak || leadingBreak || endsTripled
  let startsIndented := oneLine && (cs.head?.map isIndent).getD false
  tripleQuote ++
    (if (apart && !startsIndented) || leadingBreak then ['\n'] else []) ++ escaped ++
    (if apart || trailingBreak then ['\n'] else []) ++ tripleQuote

def hexFour (code : Nat) : List Char :=
  [hexDigit (code / 0x1000 % 16), hexDigit (code / 0x100 % 16), hexDigit (code / 0x10 % 16),
    hexDigit (code % 16)]

def quotedChar (c : Char) : List Char :=
  if c == '"' then ['\\', '"']
  else if c == '\\' then ['\\', '\\']
  else if c == '\x08' then ['\\', 'b']
  else if c == '\t' then ['\\', 't']
  else if c == '\n' then ['\\', 'n']
  else if c == '\x0c' then ['\\', 'f']
  else if c == '\r' then ['\\', 'r']
  else if c.toNat < 0x20 || (0x7f <= c.toNat && c.toNat < 0xa0) then
    '\\' :: 'u' :: hexFour c.toNat
  else [c]

def quotedText (cs : List Char) : List Char :=
  '"' :: (cs.flatMap quotedChar ++ ['"'])

def description (cs : List Char) : List Char :=
  if fitsBlock cs then block cs else quotedText cs

end Text

end GraphFacade
