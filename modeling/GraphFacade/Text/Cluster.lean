import GraphFacade.Text.Width

/-!
# Clusters of characters

A text is cut only between clusters: a character with cells and what belongs to
it, which are the marks on it, a selector behind it and, behind a joiner, the
next character.
-/

namespace GraphFacade

namespace Text

/-- Characters that are not cut apart, with their cells. -/
structure Cluster where
  chars : List Char
  width : Nat
  deriving DecidableEq, Repr

/--
The clusters of a text behind the start of one, which is given in reverse with its
cells and the last character that has cells, unless a selector was there since.
-/
def clustersFrom (start : List Char) (cells : Nat) : Option Char -> List Char -> List Cluster
  | _, [] => [⟨start.reverse, cells⟩]
  | last, c :: rest =>
      if c == joiner then
        match rest with
        | [] => [⟨(c :: start).reverse, cells⟩]
        | next :: rest => clustersFrom (next :: c :: start) cells last rest
      else if c == pictureSelector then
        clustersFrom (c :: start) (cells + selectorWidth last) none rest
      else
        let own := charWidth c
        if own == 0 then
          clustersFrom (c :: start) cells last rest
        else
          ⟨start.reverse, cells⟩ :: clustersFrom [c] own (some c) rest

/-- The clusters of a text; a joiner or a mark at its start belongs to nothing. -/
def clusters : List Char -> List Cluster
  | [] => []
  | c :: rest =>
      let own := charWidth c
      clustersFrom [c] own (if own == 0 then none else some c) rest

/-- The clusters that fill some cells, with a blank in place of one that would reach beyond. -/
def fill : Nat -> List Cluster -> List Char
  | _, [] => []
  | cells, cluster :: rest =>
      if cells == 0 then
        []
      else if cluster.width <= cells then
        cluster.chars ++ fill (cells - cluster.width) rest
      else
        [' ']

/-- A text cut or filled with blanks to some cells. -/
def fit (cells : Nat) (cs : List Char) : List Char :=
  let own := width cs
  if cells == 0 then
    []
  else if own <= cells then
    cs ++ List.replicate (cells - own) ' '
  else
    fill cells (clusters cs)

/-- Pieces of at most some cells, behind a piece in reverse with its own. -/
def foldFrom (cells : Nat) : List Char -> Nat -> List Cluster -> List (List Char)
  | piece, used, [] => if used == 0 then [] else [piece.reverse]
  | piece, used, cluster :: rest =>
      if cells < used + cluster.width then
        piece.reverse :: foldFrom cells cluster.chars.reverse cluster.width rest
      else
        foldFrom cells (cluster.chars.reverse ++ piece) (used + cluster.width) rest

def fold (cells : Nat) (cs : List Char) : List (List Char) :=
  foldFrom cells [] 0 (clusters cs)

end Text

end GraphFacade
