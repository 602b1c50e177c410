/-!
# Ranges of characters

Classes of characters as lists of inclusive ranges of code points.
-/

namespace GraphFacade

namespace Text

abbrev Ranges := List (Nat × Nat)

def inRanges (ranges : Ranges) (c : Char) : Bool :=
  ranges.any fun range => range.1 <= c.toNat && c.toNat <= range.2

end Text

end GraphFacade
