import GraphFacade.Json.Shown

/-!
# Names

Names of types, fields, arguments and enumeration members: a letter or an
underscore, then letters, digits and underscores.  Any text is made into a name
by replacing the characters a name cannot hold.
-/

namespace GraphFacade

namespace Name

def isNameChar (c : Char) : Bool :=
  c == '_' || c.isAlpha || c.isDigit

def replaceForeign (cs : List Char) : List Char :=
  (Text.codes cs).map fun code =>
    if isNameChar (Char.ofNat code) then Char.ofNat code else '_'

def fixStart : List Char -> List Char
  | [] => ['_']
  | c :: rest => if c.isDigit then '_' :: c :: rest else c :: rest

def ofText (s : String) : String :=
  String.ofList (fixStart (replaceForeign s.toList))

/-- The name made of a value: false values count as the empty text, other values must be texts. -/
def ofJson? : Json -> Option String
  | .text s => some (ofText s)
  | j => if j.truthy then none else some (ofText "")

/-- The `n`-th candidate for a name: the base itself, then `base_2`, `base_3` and so on. -/
def candidate (base : String) (n : Nat) : String :=
  if n <= 1 then base else base ++ "_" ++ String.ofList (Nat.toDigits 10 n)

/-- The first candidate from the `n`-th on that is not taken, within `fuel` more tries. -/
def freshFrom (taken : List String) (base : String) : Nat -> Nat -> String
  | 0, n => candidate base n
  | fuel + 1, n =>
      if taken.contains (candidate base n) then
        freshFrom taken base fuel (n + 1)
      else
        candidate base n

/-- The first candidate that is not taken; one more candidate than taken names suffices. -/
def fresh (taken : List String) (base : String) : String :=
  freshFrom taken base taken.length 1

def reservedMembers : List String :=
  ["true", "false", "null"]

def memberBase (literal : Json) : String :=
  let base := ofText literal.display
  if reservedMembers.contains base then base ++ "_" else base

/-- Literals without those equal to an earlier one. -/
def distinct : List Json -> List Json -> List Json
  | _, [] => []
  | seen, literal :: rest =>
      if seen.any literal.same then
        distinct seen rest
      else
        literal :: distinct (seen ++ [literal]) rest

/-- Members of an enumeration: a name of its own for each distinct literal, in order. -/
def members (literals : List Json) : Entries Json :=
  (distinct [] literals).foldl
    (fun acc literal => acc ++ [(fresh (acc.map Prod.fst) (memberBase literal), literal)]) []

/-- The members, if each distinct literal has a text that its name can be made of. -/
def shownMembers (literals : List Json) : Except Fault (Entries Json) := do
  let _ <- (distinct [] literals).mapM Json.shown
  return members literals

end Name

end GraphFacade
