import GraphFacade.Number.Binary64

/-!
# Widths of columns

How columns that ask for more cells than a table has give some of them up: first
the widest of those whose texts may wrap, until they are as narrow as the next
ones, and then all of them evenly.
-/

namespace GraphFacade

namespace ColumnWidths

def total (widths : List Nat) : Nat :=
  widths.foldl (· + ·) 0

/--
Take cells away from the widths that have a share, which is the most they can
lose.  The number of those that are still to lose cells divides what is left.
-/
def reduceFrom : Nat -> Nat -> List (Nat × Nat) -> List Nat
  | _, _, [] => []
  | excess, sharers, (width, share) :: rest =>
      if share == 0 then
        width :: reduceFrom excess sharers rest
      else
        let lost := min share (Binary64.roundQuotient excess sharers)
        (width - lost) :: reduceFrom (excess - lost) (sharers - 1) rest

def reduce (excess : Nat) (widths : List (Nat × Nat)) : List Nat :=
  reduceFrom excess (widths.countP fun width => width.2 != 0) widths

/--
Narrow the widest wrapping columns to the next ones until all columns fit in a
room or all wrapping ones are alike.  Every round takes cells away, so the first
number, which bounds the rounds, need not exceed the cells that are too many.
-/
def collapse (room : Nat) (wraps : List Bool) : Nat -> List Nat -> List Nat
  | 0, widths => widths
  | fuel + 1, widths =>
      let wrapping := (widths.zip wraps).filterMap fun (width, wraps) =>
        if wraps then some width else none
      let widest := wrapping.foldl max 0
      let next := (wrapping.filter (· != widest)).foldl max 0
      let excess := total widths - room
      if excess == 0 || widest == next then
        widths
      else
        collapse room wraps fuel (reduce excess ((widths.zip wraps).map fun (width, wraps) =>
          (width, if wraps && width == widest then min excess (widest - next) else 0)))

def shrink (room : Nat) (wraps : List Bool) (widths : List Nat) : List Nat :=
  let widths := collapse room wraps (total widths - room) widths
  if total widths <= room then
    widths
  else
    reduce (total widths - room) (widths.map fun width => (width, width))

end ColumnWidths

end GraphFacade
