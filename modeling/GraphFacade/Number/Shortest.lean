import GraphFacade.Number.Binary64

/-!
# The shortest decimal of a double

The digits chosen for a finite double are the fewest that read back as the same
double; of two such numbers with equally many digits the nearer one, and of two
equally near ones the one with an even last digit.  Every finite double is a
whole number of units `10 ^ -1074`, so the search is exact.
-/

namespace GraphFacade

namespace Binary64

/-- A decimal number `digits * 10 ^ exponent`. -/
structure Decimal where
  digits : Nat
  exponent : Int
  deriving DecidableEq, Repr, Inhabited

namespace Decimal

def width (n : Nat) : Nat :=
  (Nat.toDigits 10 n).length

/-- Move trailing zeros of the digits into the exponent; `fuel` bounds their number. -/
def strip : Nat -> Decimal -> Decimal
  | 0, d => d
  | fuel + 1, d =>
      if d.digits != 0 && d.digits % 10 == 0 then
        strip fuel ⟨d.digits / 10, d.exponent + 1⟩
      else
        d

end Decimal

def exactDecimal (mantissa scale : Nat) : Decimal :=
  ⟨units mantissa scale * Nat.pow 5 unitExponent, -(unitExponent : Int)⟩

def readsBack (mantissa scale : Nat) (d : Decimal) : Bool :=
  ofDecimal false d.digits d.exponent == .finite false mantissa scale

/--
The better of the two neighbours of `exact` on the grid that drops its last
`dropped` digits, among those that read back.
-/
def neighbour? (mantissa scale : Nat) (exact : Decimal) (dropped : Nat) : Option Decimal :=
  let grid := Nat.pow 10 dropped
  let below : Decimal := ⟨exact.digits / grid, exact.exponent + dropped⟩
  let above : Decimal := ⟨exact.digits / grid + 1, exact.exponent + dropped⟩
  let rest := exact.digits % grid
  match readsBack mantissa scale below, readsBack mantissa scale above with
  | true, false => some below
  | false, true => some above
  | false, false => none
  | true, true =>
      if 2 * rest < grid || (2 * rest == grid && below.digits % 2 == 0) then
        some below
      else
        some above

def shortestFrom (mantissa scale : Nat) (exact : Decimal) (width : Nat) : Nat -> Nat -> Decimal
  | 0, _ => exact
  | fuel + 1, kept =>
      match neighbour? mantissa scale exact (width - kept) with
      | some d => d
      | none => shortestFrom mantissa scale exact width fuel (kept + 1)

/-- The shortest decimal that reads back as the given finite double. -/
def shortest (mantissa scale : Nat) : Decimal :=
  let exact := exactDecimal mantissa scale
  let width := Decimal.width exact.digits
  Decimal.strip width (shortestFrom mantissa scale exact width 17 1)

/-- Where a number's text changes from plain notation to exponents. -/
structure Layout where
  /-- Plain notation is used while the point stands after more than this many digits. -/
  leastPoint : Int
  /-- Plain notation is used while the point stands after at most this many digits. -/
  greatestPoint : Int
  /-- The exponent is filled with zeros to this many digits. -/
  exponentWidth : Nat

/-- Plain notation from `0.0001` up to sixteen digits before the point. -/
def layout : Layout where
  leastPoint := -4
  greatestPoint := 16
  exponentWidth := 2

/-- Digits with a point after the first `point` of them, zeros filled in as needed. -/
def plainText (digits : List Char) (point : Int) : List Char :=
  if point <= 0 then
    ['0', '.'] ++ List.replicate (-point).toNat '0' ++ digits
  else if (digits.length : Int) <= point then
    digits ++ List.replicate (point.toNat - digits.length) '0' ++ ['.', '0']
  else
    digits.take point.toNat ++ ['.'] ++ digits.drop point.toNat

def exponentText (digits : List Char) (exponent : Int) : List Char :=
  let fraction := digits.drop 1
  let size := Nat.toDigits 10 exponent.natAbs
  digits.take 1 ++ (if fraction.isEmpty then [] else '.' :: fraction) ++ ['e'] ++
    [if exponent < 0 then '-' else '+'] ++
    List.replicate (layout.exponentWidth - size.length) '0' ++ size

def magnitudeText (mantissa scale : Nat) : List Char :=
  if mantissa == 0 then
    ['0', '.', '0']
  else
    let d := shortest mantissa scale
    let digits := Nat.toDigits 10 d.digits
    let point := (digits.length : Int) + d.exponent
    if layout.leastPoint < point && point <= layout.greatestPoint then
      plainText digits point
    else
      exponentText digits (point - 1)

end Binary64

end GraphFacade
