import GraphFacade.Fault
import GraphFacade.Text.Digit

/-!
# Values that have a text

An integer is written only within the limit on its digits, and a value only if
all its integers are.  Beyond that there is neither a displayed text nor JSON.
-/

namespace GraphFacade

namespace Text

/-- A text, if its longest integer keeps to the limit. -/
def limited (longest : Nat) (text : String) : Except Fault String :=
  if longest <= digitLimit then .ok text else .error .badNumeral

theorem limited_eq_ok {longest : Nat} {text s : String} :
    limited longest text = .ok s ↔ longest ≤ digitLimit ∧ text = s := by
  unfold limited
  split
  · rename_i short
    simp [short]
  · rename_i long
    simp [long]

theorem limited_eq_error {longest : Nat} {text : String} {fault : Fault} :
    limited longest text = .error fault ↔ digitLimit < longest ∧ fault = .badNumeral := by
  unfold limited
  split
  · rename_i short
    simp [Nat.not_lt.mpr short]
  · rename_i long
    simp [Nat.lt_of_not_le long, eq_comm]

end Text

namespace Atom

/-- How many digits an atom has, if it is an integer. -/
def longest : Atom -> Nat
  | int i => (Nat.toDigits 10 i.natAbs).length
  | _ => 0

def shown (a : Atom) : Except Fault String :=
  Text.limited a.longest a.display

end Atom

namespace Json

mutual

/-- The most digits that an integer in a value has. -/
def longest : Json -> Nat
  | .atom a => a.longest
  | .list items => longestOfItems items
  | .dict entries => longestOfEntries entries

def longestOfItems : List Json -> Nat
  | [] => 0
  | item :: rest => max item.longest (longestOfItems rest)

def longestOfEntries : List (String × Json) -> Nat
  | [] => 0
  | (_, value) :: rest => max value.longest (longestOfEntries rest)

end

def shown (j : Json) : Except Fault String :=
  Text.limited j.longest j.display

theorem shown_eq_ok {j : Json} {s : String} :
    j.shown = .ok s ↔ j.longest ≤ Text.digitLimit ∧ j.display = s :=
  Text.limited_eq_ok

theorem shown_eq_error {j : Json} {fault : Fault} :
    j.shown = .error fault ↔ Text.digitLimit < j.longest ∧ fault = .badNumeral :=
  Text.limited_eq_error

def dumped (j : Json) : Except Fault String :=
  Text.limited j.longest j.oneLine

theorem dumped_eq_ok {j : Json} {s : String} :
    j.dumped = .ok s ↔ j.longest ≤ Text.digitLimit ∧ j.oneLine = s :=
  Text.limited_eq_ok

theorem dumped_eq_error {j : Json} {fault : Fault} :
    j.dumped = .error fault ↔ Text.digitLimit < j.longest ∧ fault = .badNumeral :=
  Text.limited_eq_error

def dumpedIndented (j : Json) : Except Fault String :=
  Text.limited j.longest j.indented

end Json

end GraphFacade
