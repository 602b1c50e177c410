import GraphFacade.Text.Cluster

/-!
# Styled texts

A text with styles on stretches of it.  Without colours a style shows nothing, but
a stretch starts and ends a segment of its own, and a style that cannot be read is
noticed once a part of its stretch is drawn.
-/

namespace GraphFacade

/-- A stretch of a text under a style. -/
structure Span where
  start : Nat
  stop : Nat
  /-- Whether the style can be read. -/
  readable : Bool
  deriving DecidableEq, Repr

def Span.within (first last : Nat) (span : Span) : Option Span :=
  let start := max span.start first
  let stop := min span.stop last
  if start < stop then some { span with start := start - first, stop := stop - first } else none

def Span.before (last : Nat) (span : Span) : Option Span :=
  if span.start < last then some { span with stop := min span.stop last } else none

/-- A text with styles on stretches of it. -/
structure Styled where
  chars : List Char
  spans : List Span := []
  deriving Repr, Inhabited

namespace Styled

def isReadable (text : Styled) : Bool :=
  text.spans.all Span.readable

def piecesFrom (gap : Nat) (spans : List Span) : Nat -> List (List Char) -> List Styled
  | _, [] => []
  | first, piece :: rest =>
      let last := first + piece.length
      ⟨piece, spans.filterMap (Span.within first last)⟩ :: piecesFrom gap spans (last + gap) rest

/-- A text divided into pieces; a single piece keeps the empty stretches. -/
def divide (gap : Nat) (text : Styled) : List (List Char) -> List Styled
  | [_] => [text]
  | pieces => piecesFrom gap text.spans 0 pieces

/-- A text with other characters at its end; a shorter one loses the stretches behind it. -/
def withEnd (text : Styled) (chars : List Char) : Styled :=
  if chars.length < text.chars.length then
    ⟨chars, text.spans.filterMap (Span.before chars.length)⟩
  else
    { text with chars }

def isEdge (spans : List Span) (place : Nat) : Bool :=
  spans.any fun span => span.start == place || span.stop == place

/-- Segments of a text from a place on, behind the start of one in reverse. -/
def segmentsFrom (spans : List Span) : Nat -> List Char -> List Char -> List (List Char)
  | _, segment, [] => if segment.isEmpty then [] else [segment.reverse]
  | place, segment, c :: rest =>
      if isEdge spans place && !segment.isEmpty then
        segment.reverse :: segmentsFrom spans (place + 1) [c] rest
      else
        segmentsFrom spans (place + 1) (c :: segment) rest

def segments (text : Styled) : List (List Char) :=
  if text.spans.isEmpty then [text.chars] else segmentsFrom text.spans 0 [] text.chars

end Styled

namespace Text

/-- Segments cut to some cells, which the last one of them fills. -/
def cutSegments : Nat -> List (List Char) -> List (List Char)
  | _, [] => []
  | cells, segment :: rest =>
      let own := width segment
      if own < cells then segment :: cutSegments (cells - own) rest else [fit cells segment]

/-- Segments, each measured alone, that are cut or filled to some cells. -/
def fitSegments (cells : Nat) (segments : List (List Char)) : List (List Char) :=
  let own := (segments.map width).foldl (· + ·) 0
  if own <= cells then
    segments ++ [List.replicate (cells - own) ' ']
  else
    cutSegments cells segments

end Text

end GraphFacade
