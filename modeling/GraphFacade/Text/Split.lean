/-!
# Splitting and replacing

Texts as characters: cut at marks, and with one text put in place of another.
-/

namespace GraphFacade

namespace Text

def splitBy (isMark : Char -> Bool) : List Char -> List (List Char)
  | [] => [[]]
  | c :: rest =>
      if isMark c then
        [] :: splitBy isMark rest
      else
        match splitBy isMark rest with
        | [] => [[c]]
        | piece :: pieces => (c :: piece) :: pieces

def splitAt (mark : Char) (cs : List Char) : List (List Char) :=
  splitBy (· == mark) cs

def splitFirst (mark : Char) (cs : List Char) : List Char × Option (List Char) :=
  (cs.takeWhile (· != mark), (cs.dropWhile (· != mark)).tail?)

/--
A text with every occurrence of `old` replaced by `new`, from the left and
without overlap.  The number counts characters of the last occurrence that are
still to be skipped.
-/
def replaceFrom (old new : List Char) : Nat -> List Char -> List Char
  | _, [] => []
  | skip + 1, _ :: rest => replaceFrom old new skip rest
  | 0, c :: rest =>
      if old.isPrefixOf (c :: rest) then
        new ++ replaceFrom old new (old.length - 1) rest
      else
        c :: replaceFrom old new 0 rest

def replaceAll (old new cs : List Char) : List Char :=
  replaceFrom old new 0 cs

end Text

end GraphFacade
