import GraphFacade.Text.Digit
import GraphFacade.Text.Split
import GraphFacade.Text.Styled

/-!
# Layout of lines

Lines that fit a number of cells.  Tabs become blanks up to the next stop, words
move to the next line when they do not fit, and what is too long for any line is
folded or cut.
-/

namespace GraphFacade

namespace Layout

def tabStop : Nat := 8

def blanks (count : Nat) : List Char :=
  List.replicate count ' '

/-- The pieces of a line between its tabs, the first one at a position, with blanks for tabs. -/
def expandFrom (position : Nat) : List (List Char) -> List Char
  | [] => []
  | [last] => last
  | piece :: rest =>
      let spaced := piece ++ [' ']
      let reached := position + Text.width spaced
      let missing := (tabStop - reached % tabStop) % tabStop
      spaced ++ blanks missing ++ expandFrom (reached + missing) rest

def expand (line : List Char) : List Char :=
  expandFrom 0 (Text.splitAt '\t' line)

def expandSpan (line : List Char) (span : Span) : Span :=
  { span with
    start := (expand (line.take span.start)).length
    stop := (expand (line.take span.stop)).length }

/-- A line with blanks for its tabs; if it has some it loses its empty stretches. -/
def expandTabs (line : Styled) : Styled :=
  if line.chars.contains '\t' then
    ⟨expand line.chars,
      (line.spans.filter fun span => span.start < span.stop).map (expandSpan line.chars)⟩
  else
    line

/--
The words of a line, each with the blanks behind it and the first one with those
before it, behind a part of a word in reverse.  The flag tells whether that part
has more than blanks.
-/
def wordsFrom : List Char -> Bool -> List Char -> List (List Char)
  | word, _, [] => [word.reverse]
  | word, begun, c :: rest =>
      if Text.isBlank c then
        wordsFrom (c :: word) begun rest
      else if begun && (word.head?.map Text.isBlank).getD false then
        word.reverse :: wordsFrom [c] true rest
      else
        wordsFrom (c :: word) true rest

def words (line : List Char) : List (List Char) :=
  wordsFrom [] false line

def blanksAtEnd (line : List Char) : Nat :=
  (line.reverse.takeWhile Text.isBlank).length

def bare (line : List Char) : List Char :=
  line.take (line.length - blanksAtEnd line)

/-- What happens to a text that is wider than a line. -/
inductive Overflow
  /-- It goes on in the next line. -/
  | fold
  /-- It is cut, and an ellipsis shows where. -/
  | ellipsis
  deriving DecidableEq, Repr

def push (line : List Char) (lines : List (List Char)) : List (List Char) :=
  if line.isEmpty then lines else line :: lines

def fillFrom (width : Nat) (overflow : Overflow) :
    Nat -> List Char -> List (List Char) -> List (List Char)
  | _, line, [] => [line]
  | used, line, word :: rest =>
      let own := Text.width (bare word)
      if used + own <= width then
        fillFrom width overflow (used + Text.width word) (line ++ word) rest
      else if width < own && overflow == .fold then
        let pieces := Text.fold width word
        let last := pieces.getLast?.getD []
        push line (pieces.dropLast ++ fillFrom width overflow (Text.width last) last rest)
      else
        push line (fillFrom width overflow (Text.width word) word rest)

/-- A line of at most some characters as far as that is done by leaving out blanks at its end. -/
def dropEnd (limit : Nat) (line : List Char) : List Char :=
  line.take (line.length - min (blanksAtEnd line) (line.length - limit))

def crop (width : Nat) (overflow : Overflow) (line : List Char) : List Char :=
  if Text.width line <= width then
    line
  else
    match overflow with
    | .fold => Text.fit width line
    | .ellipsis => Text.fit (width - 1) line ++ ['…']

def settle (width : Nat) (overflow : Overflow) (line : Styled) : Styled :=
  let line := line.withEnd (dropEnd width line.chars)
  line.withEnd (crop width overflow line.chars)

/-- The lines of a text in a width; words stay together in one line unless they may wrap. -/
def lines (width : Nat) (overflow : Overflow) (wraps : Bool) (text : Styled) : List Styled :=
  (text.divide 1 (Text.splitAt '\n' text.chars)).flatMap fun line =>
    let line := expandTabs line
    let rows :=
      if wraps then line.divide 0 (fillFrom width overflow 0 [] (words line.chars)) else [line]
    rows.map (settle width overflow)

def pad (width : Nat) (line : Styled) : Styled :=
  line.withEnd (line.chars ++ blanks (width - Text.width line.chars))

def endsLine (c : Char) : Bool :=
  (0x0a <= c.toNat && c.toNat <= 0x0d) || (0x1c <= c.toNat && c.toNat <= 0x1e) ||
    c.toNat == 0x85 || c.toNat == 0x2028 || c.toNat == 0x2029

def widest (cs : List Char) : Nat :=
  ((Text.splitBy endsLine cs).map Text.width).foldl max 0

end Layout

end GraphFacade
