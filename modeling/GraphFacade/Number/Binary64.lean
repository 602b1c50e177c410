/-!
# Binary floating point numbers, exactly

A double precision number as its sign, mantissa and scale.  A finite number is
`mantissa * 2 ^ scale` units, where the unit is the smallest positive double
`2 ^ -1074`; all arithmetic on it is arithmetic of natural numbers.
-/

namespace GraphFacade

/-- A double precision number. -/
inductive Binary64
  | finite (negative : Bool) (mantissa scale : Nat)
  | infinite (negative : Bool)
  | nan
  deriving DecidableEq, Repr, Inhabited

namespace Binary64

/-- The exponent of the unit: a finite number counts units of `2 ^ -unitExponent`. -/
def unitExponent : Nat := 1074

def unitsInOne : Nat := Nat.pow 2 unitExponent

def mantissaBits : Nat := 53

def maxScale : Nat := 2045

def units (mantissa scale : Nat) : Nat :=
  mantissa * Nat.pow 2 scale

/-- A quotient rounded to the nearest natural number, ties to the even one. -/
def roundQuotient (num den : Nat) : Nat :=
  let quotient := num / den
  let rest := num % den
  if den < 2 * rest || (2 * rest == den && quotient % 2 == 1) then quotient + 1 else quotient

/--
The double nearest to `num / den` units, ties to the even mantissa.  Sizes
beyond the largest finite number become infinite.
-/
def ofUnits (negative : Bool) (num den : Nat) : Binary64 :=
  let scale := Nat.log2 (num / den) + 1 - mantissaBits
  let mantissa := roundQuotient num (den * Nat.pow 2 scale)
  let carried := mantissa == Nat.pow 2 mantissaBits
  let mantissa := if carried then Nat.pow 2 (mantissaBits - 1) else mantissa
  let scale := if carried then scale + 1 else scale
  if maxScale < scale then .infinite negative else .finite negative mantissa scale

/--
The double nearest to `digits * 10 ^ exponent`.  The first two tests answer for
exponents far outside the range of doubles without forming the power.
-/
def ofDecimal (negative : Bool) (digits : Nat) (exponent : Int) : Binary64 :=
  if digits == 0 then
    .finite negative 0 0
  else if 400 < exponent then
    .infinite negative
  else if ((Nat.log2 digits / 3 + 1 : Nat) : Int) + exponent < -330 then
    .finite negative 0 0
  else if 0 <= exponent then
    ofUnits negative (digits * Nat.pow 10 exponent.toNat * unitsInOne) 1
  else
    ofUnits negative (digits * unitsInOne) (Nat.pow 10 (-exponent).toNat)

def isNonzero : Binary64 -> Bool
  | finite _ mantissa _ => mantissa != 0
  | _ => true

end Binary64

end GraphFacade
